import TensorGraph.Gradient.Grad
import TensorGraph.Loop.Build

/-! # Gradients of loops -/

namespace TensorGraph

open Tensor

variable (x : VarId) (l : LoopLayout) (id : Nat)

def sliceVar (a b c : Value) : M VarId := do asVar (<- getItem 40 x (.slice a b c))
def reversed : M VarId := sliceVar x .null .null (.int (-1))

/-- Whether something flows back through a gradient, and what is to be said if that is not known. -/
inductive FlowKind
  | connected
  | disconnected
  | throughShared
  | unknown (why : String)

/-- The gradients of one step with respect to the inner inputs that can have one. -/
structure StepGradients where
  (inputs incoming values outgoing : Vars)
  off : List Bool

/-- The place of the group that holds item `i`, counted from `k`; past the groups, `after` says. -/
def groupOf (after : Nat -> Nat) (k : Nat) : List (List Int) -> Nat -> Nat
  | [], i => k + after i
  | taps :: rest, i => if taps.length > i then k else groupOf after (k + 1) rest (i - taps.length)

def LoopLayout.operandOf (i : Nat) : Nat :=
  if i < l.nSeqs then 1 + i
  else groupOf (fun i => if i < l.nSitSot then i else i + l.nNitSot) (1 + l.nSeqs) (l.mitMotTaps ++ l.mitSotTaps) (i - l.nSeqs)

def LoopLayout.resultOf : Nat -> Nat := groupOf (·) 0 l.mitMotOutTaps

def stepGradients (l : Loop) (node : NodeId) (connected : Links) (gs : Vars) : M StepGradients := do
  let y := l.layout
  let places := y.places l.inputs.length
  let states := y.innerMitMot l.inputs ++ y.innerMitSot l.inputs ++ y.innerSitSot l.inputs
  let inputs := y.innerSeqs l.inputs ++ states ++ y.innerOthers l.inputs
  let outputs := y.innerMitMotOuts l.outputs ++ y.innerMitSotOuts l.outputs ++ y.innerSitSotOuts l.outputs
    ++ y.innerNitSotOuts l.outputs
  let isKept i := y.nStates <= i && i < y.nStates + y.nNitSot
  let mut incoming : Vars := []
  let mut values : Vars := []
  let mut known : VarPairs := []
  for (x, i) in outputs.zipIdx do
    if i >= y.nMitMotOuts then values := values ++ [<- freshLike x]
    let g <- if !isKept i then do
        let above := (<- getArena).graphInputs [x]
        let types <- states.zipIdx.filterMapM fun (s, k) => do
          if !above.contains s then return none
          let some o := (LoopLayout.placeOfInnerIn? places (y.nSeqs + k)).bind (·.outerOut) | badKey
          let g := gs.getD o default
          if <- Gradient.isDisconnected g then return none else return some (<- dtypeOf g)
        let d <- if types.isEmpty then floatX else commonType types
        pure (some (<- freshLike x "" (some d)))
      else do
        let g := gs.getD i default
        if <- Gradient.isDisconnected g then pure none
        else pure (some (<- freshLike (<- asVar (<- getItem 40 g 0))))
    let some g := g | pure ()
    incoming := incoming ++ [g]
    known := alistSet x (<- if let some old := known.lookup x then do asVar (<- operate .add old g)
      else pure g) known
  for (_, g) in known do
    if (<- dtypeOf g).isInteger then
      failType ("Gradients may never be integers but g_y has type " ++ (<- typeOf g).text)
  let results := known.map fun (x, _) => y.resultOf (l.outputs.findIdx (· == x))
  let reaches i := results.any (LoopLayout.entry connected i)
  let count := (<- insOf node).length
  let wrt := ((<- getArena).graphInputs (known.map (·.1))).filter fun x =>
    inputs.contains x && (let i := y.operandOf (l.inputs.findIdx (· == x)); i < count && reaches i)
  let copies <- known.mapM fun (x, g) => do return (<- Gradient.methodVar x "copy" [], g)
  let found <- Gradient.run { cost := none, wrt, constants := wrt, disconnected := "ignore", known := copies,
                              returned := "None", nulls := "return" }
  let table := wrt.zip found
  let pairs := (outputs.drop y.nMitMotOuts).zip values
  let outgoing <- inputs.mapM fun x => do
    let some g := (table.lookup x).join | zerosLike x
    pairs.foldlM (fun g (v, w) => forcedReplace g v w) g
  return { inputs, incoming, values, outgoing, off := inputs.map fun x => (table.lookup x).join.isNone }

def floatZerosOf (d : Option DType := none) : M VarId := do
  let d <- if let some d := d then pure d else floatX
  zeros d (<- dimsOf x)

def loopPullback (o : Op) (inputs outs gs : Vars) : M Vars := do
  let l <- loopAt id
  let y := l.layout
  let places := y.places l.inputs.length
  let some node <- ownerOf (outs.headD default) | noAttr
  let outAt i := outs.getD i default
  let gradAt i := gs.getD i default
  let isOff i := Gradient.isDisconnected (gradAt i)
  let length0 v := do shapeAt v 0
  let gradSteps <- if y.nNitSot > 0 then length0 ((y.outerNitSotOuts outs).headD default)
    else if y.nSitSot > 0 then do operate .sub (<- length0 ((y.outerSitSotOuts outs).headD default)) 1
    else if y.nMitSot > 0 then do
      operate .add (<- length0 ((y.outerMitSotOuts outs).headD default)) (.number .int64 (.int (y.minTaps.getD y.nMitMot 0)))
    else pure (inputs.headD default)
  let nSteps <- if y.asWhile then length0 (outAt 0) else pure .null
  let gradSteps <- if l.truncate.isKey (.int (-1)) then pure gradSteps else do minimum gradSteps l.truncate
  let connected <- loopConnections id node
  let step <- stepGradients l node connected gs
  -- the gradients that the previous steps receive
  let mut back := step.outgoing
  let mut earlier := []
  let statesRead := y.tapCount y.taps.length
  for (x, pos) in (step.outgoing.drop y.nSeqs).zipIdx do
    let written := ((LoopLayout.placeOfInnerIn? places (y.nSeqs + pos)).bind (·.innerOuts.head?)).filter fun _ => pos < statesRead
    let g := (written.map fun w => step.incoming.getD w default).getD x
    earlier := earlier ++ [<- freshLike g]
    let (some d, some _) := ((<- typeOf x).dtype?, written) | pure ()
    if d != (<- dtypeOf g) then back := back.set (pos + y.nSeqs) (<- cast x (<- dtypeOf g))
  for (e, k) in earlier.zipIdx do
    let i := k + y.nSeqs
    let g := back.getD i default
    if <- Gradient.isNull g then pure ()
    else if <- Gradient.isNull e then back := back.set i e
    else back := back.set i (<- asVar (<- operate .add g e))
  let backAt i := back.getD i default
  -- sequences
  let untilStop x := do
    if y.asWhile then sliceVar x (<- operate .sub nSteps 1) .null (.int (-1)) else reversed x
  let mut seqs <- (y.outerSeqs inputs).mapM untilStop
  for k in List.range (y.nMitMot + y.nMitSot) do
    let taps := y.taps.getD k []
    let low := LoopLayout.leastTap taps
    let high := if k < y.nMitMot then LoopLayout.greatestTap (y.outTaps.getD k []) else 0
    for t in taps do
      let stop := if high - t != 0 then .int (-(high - t)) else .null
      seqs := seqs ++ [<- reversed (<- sliceVar (outAt k) (t - low) stop .null)]
  for x in y.outerSitSotOuts outs do seqs := seqs ++ [<- reversed (<- sliceVar x .null (.int (-1)) .null)]
  for g in y.outerNitSotOuts gs do if !(<- Gradient.isDisconnected g) then seqs := seqs ++ [<- untilStop g]
  for (taps, x) in y.mitSotTaps.zip (y.outerMitSotOuts outs) do
    seqs := seqs ++ [<- sliceVar (<- reversed x) .null (LoopLayout.leastTap taps) .null]
  for x in y.outerSitSotOuts outs do seqs := seqs ++ [<- sliceVar (<- reversed x) .null (.int (-1)) .null]
  for x in y.outerNitSotOuts outs do seqs := seqs ++ [<- reversed x]
  let outerSeqs <- seqs.mapM fun s => sliceVar s .null gradSteps .null
  let innerSeqs := l.inputs.take (y.sitSotStart + y.nSitSot) ++ y.innerNitSotOuts step.incoming ++ step.values
  -- states
  let shared := y.innerShared l.inputs
  let usesShared v := do
    return shared.any ((<- getArena).graphInputs [v]).contains
  let whyNull? (p : Nat) : M (Option String) := do
    let .null why <- typeOf (backAt p) | return none
    return some why
  /- how something flows back through some inner inputs, and what flows through one -/
  let kindOver first count := do
    let ps := (List.range count).map (first + ·)
    let whys <- ps.filterMapM whyNull?
    let through <- ps.anyM fun p => usesShared (backAt p)
    return if let some w := whys.getLast? then FlowKind.unknown w
      else if through then .throughShared else if ps.all (step.off.getD · true) then .disconnected else .connected
  let settled p := do
    if (<- whyNull? p).isSome then floatZerosOf (step.inputs.getD p default) else return backAt p
  let outerState k := do if <- isOff k then zerosLike (outAt k) else reversed (gradAt k)
  let mut outerStates := []
  let mut innerStates := []
  let mut innerOuts := []
  let mut readTaps := []
  let mut writtenTaps := []
  let mut kinds : List FlowKind := []
  let mut outPos := 0
  let mut inPos := y.nSeqs
  for k in List.range y.nMitMot do
    outerStates := outerStates ++ [<- outerState k]
    let outTaps := y.outTaps.getD k []
    let inTaps := y.taps.getD k []
    let mut taps := outTaps.map (-·)
    let mut mine := LoopLayout.cut step.incoming outPos outTaps.length
    outPos := outPos + outTaps.length
    kinds := kinds ++ [<- kindOver inPos inTaps.length]
    for t in inTaps do
      let e := earlier.getD (inPos - y.nSeqs) default
      let x <- settled inPos
      if let some j := taps.idxOf? (-t) then
        let old := mine.getD (mine.length - (taps.length - j)) default
        innerOuts := innerOuts ++ [<- if (<- whyNull? inPos).isSome then pure x else substitute1 x [(e, old)]]
      else
        innerOuts := innerOuts ++ [x]
        mine := mine ++ [e]
        taps := taps ++ [-t]
      inPos := inPos + 1
    innerStates := innerStates ++ mine
    readTaps := readTaps ++ [taps]
    writtenTaps := writtenTaps ++ [inTaps.map (-·)]
  for k in List.range y.nMitSot do
    let r := k + y.nMitMot
    outerStates := outerStates ++ [<- outerState r]
    let inTaps := (y.taps.getD r []).map (-·)
    -- the taps written are filed by the number among the states of this kind
    writtenTaps := writtenTaps ++ [[]]
    writtenTaps := writtenTaps.set k (writtenTaps.getD k [] ++ inTaps)
    innerStates := innerStates ++ step.incoming.getD outPos default :: LoopLayout.cut earlier (inPos - y.nSeqs) inTaps.length
    outPos := outPos + 1
    kinds := kinds ++ [<- kindOver inPos inTaps.length]
    for p in List.range inTaps.length do innerOuts := innerOuts ++ [<- settled (inPos + p)]
    inPos := inPos + inTaps.length
    readTaps := readTaps ++ [0 :: inTaps]
  for k in List.range y.nSitSot do
    let r := k + y.nMitMot + y.nMitSot
    readTaps := readTaps ++ [[0, 1]]
    writtenTaps := writtenTaps ++ [[1]]
    let outer <- if !(<- isOff r) then reversed (gradAt r)
      else if (<- whyNull? inPos).isSome then floatZerosOf (outAt r)
      else do floatZerosOf (outAt r) (some (<- dtypeOf (backAt inPos)))
    outerStates := outerStates ++ [outer]
    innerOuts := innerOuts ++ [<- settled inPos]
    kinds := kinds ++ [<- kindOver inPos 1]
    innerStates := innerStates ++ [step.incoming.getD outPos default, earlier.getD (inPos - y.nSeqs) default]
    outPos := outPos + 1
    inPos := inPos + 1
  -- what stays the same collects its gradient, the gradients of sequences are kept
  let rest := (List.range back.length).drop inPos
  let collected <- rest.mapM settled
  kinds := kinds ++ (<- rest.mapM (kindOver · 1))
  let kept <- (List.range y.nSeqs).mapM settled
  for p in List.range y.nSeqs do
    if let some w <- whyNull? p then
      let off := step.off.getD p true
      kinds := kinds ++ [FlowKind.unknown w,
        if <- usesShared (backAt p) then .throughShared else if off then .disconnected else .connected]
    else kinds := kinds ++ [<- kindOver p 1]
  let mut collectedInner := []
  let mut collectedOuter := []
  for (e, k) in (earlier.drop (inPos - y.nSeqs)).zipIdx do
    let isNull <- Gradient.isNull e
    let d <- if isNull then floatX else dtypeOf e
    let rows <- operate .add gradSteps 1
    collectedOuter := collectedOuter ++ [<- zeros d (rows :: (<- dimsOf ((y.outerOthers inputs).getD k default)))]
    collectedInner := collectedInner ++ [<- if isNull then floatZerosOf (step.inputs.getD (inPos + k) default) else pure e]
  -- the loop
  let layout := {
    nSeqs := outerSeqs.length, taps := readTaps ++ collectedOuter.map fun _ => [-1], nMitMot := outerStates.length,
    nMitMotOuts := innerOuts.length, outTaps := writtenTaps, nSitSot := collectedOuter.length, nNitSot := y.nSeqs }
  let total <- if y.asWhile then asVar nSteps else pure (inputs.headD default)
  let operands := (<- asVar gradSteps) :: outerSeqs ++ outerStates ++ collectedOuter ++ .replicate y.nSeqs total
    ++ y.outerShared inputs ++ y.outerOthers inputs
  let results <- applyLoop {
    inputs := innerSeqs ++ innerStates ++ collectedInner ++ shared ++ y.innerOthers l.inputs,
    outputs := innerOuts ++ collected ++ kept, layout, truncate := l.truncate, name := "grad_of_" ++ l.name, mode := l.mode,
    profile := l.profile, allowGc := l.allowGc, strict := .null } operands
  -- the gradients in the order of the operands
  let name <- opText o
  let undefined k (why : String) := gradMissing name k (inputs.getD k default) why
  let settle kind (k : Nat) (ok : M VarId) :=
    match kind with
    | .connected => ok
    | .disconnected => disconnectedVar
    | .throughShared => undefined k "Depends on a shared variable"
    | .unknown why => newVar (.null why)
  let padded x (steps : Value) := do
    if !y.asWhile then return <- reversed x
    let missing <- operate .sub (inputs.headD default) steps
    let z <- zeros (<- dtypeOf x) (missing :: (<- dimsOf x).drop 1)
    asVar (<- join 0 [(<- reversed x), z])
  let mut grads := [<- disconnectedVar]
  let collectedFrom := y.nStates
  let keptFrom := collectedFrom + collectedOuter.length
  for ((x, t), p) in ((LoopLayout.cut results keptFrom y.nSeqs).zip (LoopLayout.cut kinds keptFrom y.nSeqs)).zipIdx do
    grads := grads ++ [<- settle t (p + 1) (padded x nSteps)]
  for ((x, t), p) in ((results.take y.nStates).zip (kinds.take y.nStates)).zipIdx do
    grads := grads ++ [<- settle t (p + 1 + y.nSeqs) (padded x gradSteps)]
  let first := grads.length
  for k in List.range y.nShared do
    let row := connected.getD (k + first) []
    let live <- (gs.zip row).anyM fun (g, c) => do return c && !(<- Gradient.isDisconnected g)
    grads := grads ++ [<- if live then undefined k "Shared Variable with update" else disconnectedVar]
  grads := grads ++ (<- disconnectedList y.nNitSot)
  for ((x, t), p) in ((LoopLayout.cut results collectedFrom collectedOuter.length).zip
      (LoopLayout.cut kinds collectedFrom collectedOuter.length)).zipIdx do
    grads := grads ++ [<- settle t (p + collectedFrom + 1) do asVar (<- getItem 40 x (.int (-1)))]
  -- nothing flows to an operand that matters for no result with a gradient
  mapIdxM (fun i g => do
    let live <- gs.zipIdx.anyM fun (d, k) => do return LoopLayout.entry connected i k && !(<- Gradient.isDisconnected d)
    if live then return g else disconnectedVar) grads

def loopPushforward (inputs : Vars) (points : List (Option VarId)) : M (List (Option VarId)) := do
  let l <- loopAt id
  let y := l.layout
  let firsts := y.nSeqs + y.nStates
  let moving := l.inputs.take firsts ++ l.inputs.drop (firsts + y.nShared)
  let directions <- moving.mapM fun x => freshLike x "_evalpoint"
  let plain := if y.asWhile then l.outputs.dropLast else l.outputs
  let along <- Gradient.along (plain.take (plain.length - y.nShared)) moving (valuesOf directions) "raise" "zero"
  let alongVars <- along.mapM fun | .var x => pure x | _ => noAttr
  let twice f a b := f a ++ f b
  let directionOf x (p : Option VarId) := if let some v := p then pure v
    else Gradient.methodVar x "zeros_like" []
  let clean (f : {α : Type} -> List α -> List α) := do
    return f inputs ++ (<- ((f inputs).zip (f points)).mapM fun (x, p) => directionOf x p)
  let seqs <- clean y.outerSeqs
  let several <- clean y.outerMitMot
  let tappedDirections <- (y.outerMitSot points).mapM fun | some v => pure v | _ => noAttr
  let tapped := y.outerMitSot inputs ++ tappedDirections
  let last <- clean y.outerSitSot
  let others <- clean y.outerOthers
  let lastTaps := LoopLayout.cut y.taps (y.nMitMot + y.nMitSot) y.nSitSot
  let layout := {
    nSeqs := y.nSeqs * 2, nMitSot := y.nMitSot * 2, nSitSot := y.nSitSot * 2, nMitMot := y.nMitMot * 2,
    nNitSot := y.nNitSot * 2, nShared := y.nShared, asWhile := y.asWhile, outTaps := y.outTaps ++ y.outTaps,
    nMitMotOuts := y.writtenTaps * 2,
    taps := y.mitMotTaps ++ y.mitMotTaps ++ y.mitSotTaps ++ y.mitSotTaps ++ lastTaps ++ lastTaps }
  let innerIns := twice y.innerSeqs l.inputs directions ++ twice y.innerMitMot l.inputs directions
    ++ twice y.innerMitSot l.inputs directions ++ twice y.innerSitSot l.inputs directions ++ y.innerShared l.inputs
    ++ y.innerOthers l.inputs ++ directions.drop (y.sitSotStart + y.nSitSot)
  let innerOuts := twice y.innerMitMotOuts l.outputs alongVars ++ twice y.innerMitSotOuts l.outputs alongVars
    ++ twice y.innerSitSotOuts l.outputs alongVars ++ twice y.innerNitSotOuts l.outputs alongVars
    ++ y.innerSharedOuts l.outputs ++ (y.condition? l.outputs).toList
  let lengths := y.outerNitSot inputs
  let operands := inputs.take 1 ++ seqs ++ several ++ tapped ++ last ++ y.outerShared inputs ++ lengths ++ lengths ++ others
  let outs <- applyLoop {
    inputs := innerIns, outputs := innerOuts, layout, truncate := l.truncate, name := "rop_of_" ++ l.name, mode := l.mode,
    profile := l.profile, allowGc := l.allowGc, strict := .null } operands
  let second start n := (LoopLayout.cut outs (start + n) n).map some
  return second 0 y.nMitMot ++ second (2 * y.nMitMot) y.nMitSot ++ second (2 * (y.nMitMot + y.nMitSot)) y.nSitSot
    ++ second (2 * y.nStates) y.nNitSot ++ .replicate y.nShared none

/-! ## Loops of common kinds -/

def lastValues (r : LoopRequest) : M Value := do
  let (outs, updates) <- buildLoop r
  let some xs <- members? outs | return .tuple [<- partOf outs (.int (-1)), updates]
  return .tuple [<- newList (<- xs.mapM fun x => partOf x (.int (-1))), updates]

def between (xs : List α) (a b : Int) : List α :=
  let clamp i := (max 0 (min (xs.length : Int) (placeOf xs.length i))).toNat
  (xs.take (clamp b)).drop (clamp a)

def listed (v : Value) : M Values := do
  match v with
  | .null => pure []
  | .list c => cellItems c
  | v => pure [v]

def checkpointLoop (fn : Values -> M Value) (sequences states others : Value) (name : String) (steps every : Value)
    (padding : Bool) : M Value := do
  let seqs <- listed sequences
  let states <- if let .list c := states then cellItems c else pure [states]
  let others <- listed others
  for s in states do
    let some ps <- mapping? s | pure ()
    if (lookupKey "taps" ps).isSome then fail .runtime "scan_checkpoints doesn't work with taps."
  let lengthOf s (i : Int) := do partOf (<- shape s) i
  let steps <- if !steps.isNull then pure steps else
    match seqs with
    | s :: _ => lengthOf s 0
    | [] => badIndex
  let outer <- cast (<- ceil (<- operate .trueDiv steps every)) .int64
  let runs <- operate .mul every (<- alloc (.array (.ofElem .int64 (.int 1))) [outer])
  let rest <- operate .mod steps every
  let lastRun <- switch (<- eq rest 0) every rest
  let runs <- setSubtensor (<- partOf runs (.int (-1))) lastRun
  let seqs <- if !padding then pure seqs else
    seqs.mapM fun s => do
      let v <- asVar s
      let n <- operate .mod (<- lengthOf s 0) every
      let z <- zeros (<- dtypeOf v) [n, <- partOf (<- shape s) (.slice 1 .null .null)]
      return (<- applyTo (.join 0) [0, s, z])
  let cut <- seqs.mapM fun s => do
    let v <- asVar s
    let first <- operate .trueDiv (<- lengthOf s 0) every
    let tail <- ((List.range (<- ndimOf v)).drop 1).mapM fun (i : Nat) => lengthOf s i
    callMethod s "reshape" [<- newList (first :: every :: tail), .int ((<- ndimOf v) + 1)]
  let outerSeqs := cut ++ [.var runs]
  let mapped := states.filter Value.isNull
  let step args := do
    let n := outerSeqs.length
    let mine := args.take n
    let stop := -(others.length : Int)
    let previous := between args n stop
    let fixed := between args stop args.length
    let (outs, updates) <- buildLoop {
      fn, sequences := <- newList mine.dropLast, states := <- newList (previous ++ mapped.map fun _ => .null),
      others := <- newList fixed, name := some s!"{name}_inner", steps := mine.getLastD .null }
    let outs <- if let .list c := outs then cellItems c else pure [outs]
    return .tuple [<- newList (<- outs.mapM fun o => partOf o (.int (-1))), updates]
  let (outs, updates) <- buildLoop {
    fn := step, sequences := <- newList outerSeqs, states := <- newList states, others := <- newList others,
    name := some s!"{name}_outer", steps := outer, allowGc := true }
  return .tuple [outs, updates]

def rowDerivatives (expr : VarId) (wrt constants : Vars) (disconnected : String) : M Value := do
  let count <- arange (<- shapeAt expr 0) .null 1 none
  let step args := do
    let i :: .var y :: xs := args | badIndex
    let rows <- xs.mapM fun x => do
      let .var x := x | noAttr
      let e <- asVar (<- getItem 40 y i)
      return .var (<- Gradient.ofCost e x constants disconnected)
    newList rows
  let (outs, updates) <- buildLoop { fn := step, sequences := count, others := <- listOf (expr :: wrt) }
  if let .dict c := updates then check (<- cellPairs c).isEmpty
  pure outs

end TensorGraph
