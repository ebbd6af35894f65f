import TensorGraph.CText.Scalar
import TensorGraph.Compile.GraphOp
import TensorGraph.Rewrite.Rules.Arrange
import TensorGraph.Rewrite.Rules.Blas
import TensorGraph.Rewrite.Rules.Linalg
import TensorGraph.Rewrite.Rules.LoopMemory
import TensorGraph.Rewrite.Rules.Softmax

/-! # Fusion, and all rules -/

namespace TensorGraph.Inplace

def scalarFor (s : ScalarOp) (pattern : List (Nat × Nat)) (results : Nat) : M ScalarOp := do
  match s.kind with
  | .composite _ => pure s
  | .cast d => return { kind := .cast d, rule := some (.specific [d]) }
  | .inRange .. => badType
  | k =>
    let entries := (List.range results).map fun i => match pattern.lookup i with
      | some j => TransferEntry.input (j : Nat)
      | none => TransferEntry.common
    return { kind := k, rule := some (.transfer entries) }

def byUpdate (g : GraphId) (n : NodeId) (out : VarId) (candidates : List Nat) : M (List Nat) := do
  let x <- graph g
  let updated := x.outputs.zipIdx.filterMap fun (o, i) =>
    if o == out then (x.updates.lookup i).bind fun j => x.inputs[j]? else none
  if updated.isEmpty && !(x.updates.any fun (i, _) => x.outputs[i]? == some out) then return candidates
  let ins <- insOf n
  let observer <- memoryOf? g
  let mut first : List Nat := []
  let mut second : List Nat := []
  let mut rest : List Nat := []
  for i in candidates do
    let v := ins.getD i default
    if updated.contains v then first := first ++ [i]
    else
      let overwrote := match observer, (<- ownerOf v) with
        | some (_, s), some m => updated.any fun u => Memory.destroyerOf s u == some m
        | _, _ => false
      if overwrote then second := second ++ [i] else rest := rest ++ [i]
  return first ++ second ++ rest

structure State where
  node : NodeId
  candidates : List Nat
  pattern : List (Nat × Nat)
  (mark unchecked replaces checks refused : Nat)
  ranks : List (Nat × Nat)

def tryInputs (g : GraphId) (every result : Nat) : List Nat -> State -> M State
  | [], s => pure s
  | i :: rest, s => do
    let ins <- insOf s.node
    let outs <- outsOf s.node
    let out := outs.getD result default
    if !(<- Rules.sameType (ins.getD i default) out) then tryInputs g every result rest s
    else
      let pattern := s.pattern ++ [(result, i)]
      let .elemwise sc _ _ <- opOf s.node | pure s
      let mut next := s
      let mut done := false
      try
        let new <- Rules.reapply (.elemwise (<- scalarFor sc pattern outs.length) pattern none) ins
        for (r, w) in outs.zip new do
          next := { next with replaces := next.replaces + 1 }
          replaceVar g r w "inplace_elemwise_optimizer"
        let k <- ndimOf out
        next := { next with
          unchecked := next.unchecked + 1
          ranks := if (next.ranks.lookup k).isSome then next.ranks.map fun (a, b) => if a == k then (a, b + 1) else (a, b)
            else next.ranks ++ [(k, 1)] }
        if next.unchecked >= every then
          next := { next with checks := next.checks + 1 }
          validateGraph g
          next := { next with mark := <- checkpoint g, unchecked := 0 }
        next := { next with
          candidates := next.candidates.erase i
          node := (<- ownerOf (new.headD default)).getD default
          pattern }
        done := true
      catch e =>
        if e.isA .value || e.isA .inconsistency then
          next := { next with refused := next.refused + 1 }
          revert g next.mark
        else throw e
      if done then return next else tryInputs g every result rest next

def run (p : PassId) (g : GraphId) : M PassReport := do
  let x <- graph g
  let before := x.nodes.toList.length
  let limit <- settingInt "tensor__insert_inplace_optimizer_validate_nb"
  let every := if limit == -1 then if before > 500 then 10 else 1 else limit.toNat
  let guarded <- x.features.mapM fun f => do
    let .supervisor l <- feature f | return []
    return l
  let guarded := guarded.flatten ++ x.outputs
  let mut mark <- checkpoint g
  let mut unchecked := 0
  let mut replaces := 0
  let mut checks := 0
  let mut refused := 0
  let mut ranks := []
  for n in <- orderBetween x.inputs x.outputs do
    let .elemwise _ base _ <- opOf n | pure ()
    let outs <- outsOf n
    if every == 1 || (<- ndimOf (outs.headD default)) != 0 then
      let ins <- insOf n
      let mut candidates := []
      for (v, i) in ins.zipIdx do
        if !(base.any fun (_, j) => j == i) && !(<- isConstant v) then
          let destroyed <- if let some (f, s) := <- memoryOf? g then Memory.anyDestroyed g f s [v]
            else noAttr
          if !destroyed && !guarded.contains v then candidates := candidates ++ [i]
      let mut s := { node := n, candidates, pattern := base, mark, unchecked, replaces, checks, refused, ranks }
      for k in List.range outs.length do
        if !(base.any fun (o, _) => o == k) then
          let order <- byUpdate g s.node ((<- outsOf s.node).getD k default) s.candidates
          s <- tryInputs g every k order s
      mark := s.mark
      unchecked := s.unchecked
      replaces := s.replaces
      checks := s.checks
      refused := s.refused
      ranks := s.ranks
  if unchecked > 0 then
    try validateGraph g
    catch _ => revert g mark
  let counts <- newDict (ranks.map fun (a, b) => (a, b))
  newDict [("opt", p), ("node_before", before), ("nb_call_replace", replaces),
    ("nb_call_validate", checks), ("nb_inconsistent", refused), ("ndim", counts)]

end TensorGraph.Inplace

namespace TensorGraph.Fuse

open Tensor Rules

def operandLimit : M Nat := do return if (<- settingText "cxx") == "" then 31 else 1024
def readerCount (g : GraphId) (v : VarId) : M Nat := do return ((<- clientsOf g v).map (·.1)).eraseDups.length

def once (g : GraphId) (n : NodeId) : M (Option NodeId) := do
  let (.elemwise s .., [out]) := (<- opOf n, <- outsOf n) | pure none
  let ins <- insOf n
  let limit <- operandLimit
  let mut count := ins.length
  let mut table := []
  let mut args := []
  let mut fused := false
  for i in ins do
    let mut extra := []
    let mut steps := none
    match <- made? i with
    | some (.elemwise t .., below) =>
      let owner := (<- ownerOf i).getD default
      if (<- readerCount g i) == 1 && (<- sameBcast ((<- outsOf owner).headD default) out) then
        let mut xs := []
        for v in below do
          match table.lookup v with
          | some x => xs := xs ++ [x]
          | none =>
            match extra.lookup v with
            | some x => xs := xs ++ [x]
            | none =>
              let x <- newVar (.scalar (<- dtypeOf v))
              xs := xs ++ [x]
              extra := extra ++ [(v, x)]
        let made <- reapply (.scalar t) xs
        let ds <- xs.mapM scalarType
        if <- CText.hasCode t ds (<- made.mapM scalarType) then steps := some made
    | _ => pure ()
    let more := count + extra.length - 1 - (extra.filter fun (v, _) => ins.contains v).length
    match steps with
    | some made =>
      if more <= limit then
        fused := true
        count := more
        table := table ++ extra
        args := args ++ made
      else steps := none
    | none => pure ()
    if steps.isNone then
      let x <- if (table.filter fun (v, _) => v == i).length == (ins.filter (· == i)).length then
          pure ((table.lookup i).getD default)
        else do
          let x <- newVar (.scalar (<- dtypeOf i))
          table := table ++ [(i, x)]
          pure x
      args := args ++ [x]
  if !fused then return none
  if count != table.length then fail .generic "Something has gone wrong with the elemwise"
  let new <- reapply (.scalar s) args
  if !(<- CText.hasCode s (<- args.mapM scalarType) (<- new.mapM scalarType)) then return none
  let r <- apply1 (bareOp (<- makeComposite (table.map (·.2)) new)) (table.map (·.1))
  let m := (<- ownerOf r).getD default
  if (<- outsOf m).length != 1 || (<- dtypeOf r) != (<- dtypeOf out) then unmet
  if (<- insOf m).length > limit then return none
  return some m
where
  scalarType (v : VarId) : M DType := do
    let .scalar d <- typeOf v | pure .float64
    pure d

def again (g : GraphId) : Nat -> NodeId -> M NodeId
  | 0, _ => outOfFuel
  | fuel + 1, n => do
    let some m <- once g n | pure n
    again g fuel m

variable (g : GraphId) (n : NodeId)

def elementwise : Offer := do
  let .elemwise .. <- opOf n | deny
  if (<- outsOf n).length > 1 then return .none
  let some m <- once g n | deny
  return .all (<- outsOf (<- again g 10000 m))

def sumsAndProducts (g : GraphId) : Nat -> NodeId -> M (Option VarId)
  | 0, _ => outOfFuel
  | fuel + 1, n => do
    let o <- opOf n
    let some k := kindOf? o | pure none
    if k != .add && k != .mul then return none
    let mut args := []
    let mut fused := false
    for i in <- insOf n do
      match <- madeByKind? i k with
      | some below =>
        if (<- clientsOf g i).length == 1 then
          args := args ++ below
          fused := true
        else args := args ++ [i]
      | none => args := args ++ [i]
    if !fused then return none
    let r <- apply1 o args
    let some m <- ownerOf r | return some r
    let some v <- sumsAndProducts g fuel m | return some r
    return some v

def addMul : Offer := do
  match kindOf? (<- opOf n) with
  | some .add | some .mul =>
    let some v <- sumsAndProducts g 10000 n | skip
    return .one v
  | _ => deny

def loop (rule : PassId) (g : GraphId) : Nat -> Nat -> Nat -> Nat -> M (Nat × Nat × Nat)
  | 0, _, _, _ => outOfFuel
  | fuel + 1, iters, replaced, refused => do
    let mut changed := false
    let mut replaced := replaced
    let mut refused := refused
    for n in (<- graphToposort g).reverse do
      if (<- graph g).nodes.contains n then
        let .outputs new <- runRule rule g n | pure ()
        let outs <- outsOf n
        check (new.length == outs.length)
        if !new.isEmpty then
          try
            let _ <- replaceAllValidate g ((outs.zip new).filterMap fun (a, b) => b.map fun b => (a, b)) "FusionOptimizer"
            changed := true
            replaced := replaced + 1
          catch e => if e.kind == .inconsistency then refused := refused + 1 else throw e
    if changed then loop rule g fuel (iters + 1) replaced refused
    else pure (iters + 1, replaced, refused)

def run (p rule : PassId) (g : GraphId) : M PassReport := do
  let (iters, replaced, refused) <- loop rule g 10000 0 0 0
  let t <- timeOn g
  return .tuple [p, iters, replaced, refused, t, t, <- newDict (<- observerTimes g), .float 0]

def rules : List LocalRule := [ anyRule "local_add_mul_fusion" addMul, anyRule "local_elemwise_fusion" elementwise ]

end TensorGraph.Fuse

/-! ## All rules -/

namespace TensorGraph.Rules

def drawInplace (n : NodeId) : Offer := do
  let .mrgUniform d b false <- opOf n | deny
  proposeAll (applyAll (.mrgUniform d b true) (valuesOf (<- insOf n)))

def streamRules : List LocalRule := [rule "mrg_random_make_inplace" ["mrg_uniform"] drawInplace]

def randomRules : List LocalRule :=
  [ rule "random_make_inplace" ["RandomVariable"] fun _ _ => deny,
    rule "local_dimshuffle_rv_lift" ["DimShuffle"] fun _ _ => deny,
    rule "local_subtensor_rv_lift" ["Subtensor", "AdvancedSubtensor1", "AdvancedSubtensor"] fun _ _ => deny ]

end TensorGraph.Rules

namespace TensorGraph

open Rules in
def rulePaths : List (String × List LocalRule) :=
  [ ("tensor.opt", shuffleRules ++ fillRules ++ partRules ++ arrangeRules
      ++ elementwiseRules ++ algebraRules ++ reduceRules ++ logRules ++ foldRules),
    ("tensor.opt_uncanonicalize", uncanonicalRules), ("tensor.blas", blasRules),
    ("tensor.blas_c", blasLibraryRules), ("tensor.blas_scipy", blasRoutineRules),
    ("scan.opt", loopInputRules), ("sparse.opt", sparseRules),
    ("tensor.nnet.opt", convRules), ("tensor.nnet.bn", batchNormRules),
    ("tensor.nnet.conv3d2d", diagonalRules), ("tensor.nnet.sigm", sigmoidRules),
    ("tensor.nnet.nnet", softmaxRules), ("sandbox.linalg.ops", linalgRules),
    ("ifelse", choiceRules), ("typed_list", listRules), ("sandbox.rng_mrg", streamRules),
    ("tensor.random.opt", randomRules),
    ("compile.builders", [rule "inline_ofg_expansion" ["OpFromGraph"] expandInline]),
    ("tensor.opt", Fuse.rules), ("", unnamedArrangeRules) ]
where
  expandInline : Rule := fun _ n => do
    let .fromGraph id <- opOf n | deny
    let x <- graphOp id
    if !x.inline then return .no
    return .outputs ((<- substitute x.outputs (x.inputs.zip (<- insOf n))).map some)

def allRules : List LocalRule := rulePaths.flatMap (·.2)

def allGlobals : List GlobalRule :=
  [ { name := "AddDestroyHandler", cls := "AddDestroyHandler", require := attachMemoryObserver, run := fun _ _ => pure .null },
    { name := "CheckStackTraceOptimization", cls := "CheckStackTraceOptimization",
      require := fun g => do attachFeature g (<- newFeature .traceCheck), run := fun _ _ => pure .null },
    { name := "ShapeOptimizer", cls := "ShapeOptimizer",
      require := fun g => do attachFeature g (<- newFeature (.shapes {})), run := fun _ _ => pure .null },
    { name := "HintsOptimizer", cls := "HintsOptimizer", run := fun _ _ => pure .null },
    { name := "UnShapeOptimizer", cls := "UnShapeOptimizer",
      run := fun _ g => do
        for f in (<- graph g).features do
          let .shapes _ <- feature f | pure ()
          removeFeature g f
        return .null },
    { name := "InplaceElemwiseOptimizer", cls := "InplaceElemwiseOptimizer", require := attachMemoryObserver, run := Inplace.run },
    { name := "GemmOptimizer", cls := "GemmOptimizer",
      require := fun g => do attachFeature g (<- newFeature (.replaceValidate [] [] false)),
      run := Rules.insertUpdates } ]
    ++ [Rules.mergeChoices] ++ Rules.softmaxPasses ++ Rules.loopHoistPasses ++ Rules.loopMemoryPasses ++ Rules.loopMergePasses

def ruleBook : RuleBook :=
  { rules := allRules.foldl (fun m r => if m.contains r.name then m else m.insert r.name r) ∅
    globals := allGlobals.foldl (fun m r => if m.contains r.name then m else m.insert r.name r) ∅
    canonize := Canonizer.transform
    fuse := Fuse.run }

end TensorGraph
