import TensorGraph.Loop.Op
import TensorGraph.Rewrite.Rules.Index

/-! # Moving work out of loops -/

namespace TensorGraph.Rules

variable (g : GraphId) (n : NodeId)

/-! ## Rules on the operands and results of loops -/

def loopClass : Track := .cls "Scan"
def sameComputation (x y : VarId) : M Bool := do return (<- getArena).equalComputations [x] [y] [] []

def isUniform (v : VarId) : M Bool := do
  let some (.array a) <- constant? v | pure false
  return (<- typeOf v).isTensor && a.shape.length > 0 && a.uniqueValue?.isSome

def dropLoopInputs : Offer := do
  let some (_, l) <- loopOf? n | deny
  let y := l.layout
  let ins <- insOf n
  let used := (<- getArena).graphInputs l.outputs
  let mut givens := []
  let mut inner := []
  let mut outer := ins.take 1
  for (x, v) in (y.innerSeqs l.inputs).zip (y.outerSeqs ins) do
    if <- isUniform v then givens := alistSet x (.var (<- itemOf (<- cloneVar v) [0])) givens
    else if used.contains x then
      if let some w <- outer.findM? fun w => sameComputation w v then
        givens := alistSet x (.var (l.inputs.getD (ins.idxOf w - 1) default)) givens
      else
        inner := inner ++ [x]
        outer := outer ++ [v]
  let nSeqs := inner.length
  inner := inner ++ (l.inputs.take (l.inputs.length - (y.innerOthers l.inputs).length)).drop y.nSeqs
  outer := outer ++ (ins.take (ins.length - (y.outerOthers ins).length)).drop (1 + y.nSeqs)
  let mut seen := []
  for (x, v) in (y.innerOthers l.inputs).zip (y.outerOthers ins) do
    if <- isConstant v then givens := alistSet x (.var (<- cloneVar v)) givens
    else if used.contains x then
      if let some (z, _) <- seen.findM? fun (_, w) => sameComputation w v then
        givens := alistSet x (Value.var z) givens
      else seen := seen ++ [(x, v)]
  inner := inner ++ seen.map (·.1)
  outer := outer ++ seen.map (·.2)
  if inner.length == l.inputs.length then return .no
  let outs <- substituteValues (valuesOf l.outputs) givens
  let new := { l with inputs := inner, outputs := outs.filterMap Value.var?, layout := { y with nSeqs } }
  let news <- applyLoop new outer
  return .pairs ((<- outsOf n).zip news) [n]

def mergeRepeats [BEq α] (pairs : List (α × β)) : List (α × β) × List (β × β) :=
  pairs.foldl (fun (kept, same) (o, i) => if let some p := kept.find? (·.1 == o) then (kept, same ++ [(i, p.2)])
    else (kept ++ [(o, i)], same)) ([], [])

def repeatedInputs (outer inner : Vars) : VarPairs :=
  (mergeRepeats (outer.zip (outer.zip inner))).2.map fun ((o, i), _) => (i, o)

def repeatedStates (outer : Vars) (taps : List (List Int)) (inner : List Vars) : VarPairs :=
  (mergeRepeats ((outer.zip taps).zip inner)).2.flatMap fun (later, first) => later.zip first

def mergeResults [BEq α] (same : β -> β -> Bool) (rows : List (α × β × VarId)) : Vars :=
  (rows.foldl (fun (seen, outs) row =>
    if let some s := seen.find? fun s => same row.2.1 s.2.1 && row.1 == s.1 then (seen, outs ++ [s.2.2])
    else (seen ++ [row], outs ++ [row.2.2])) (([] : List (α × β × VarId)), [])).2

def mergeLoopEnds : Offer := do
  let some (_, l) <- loopOf? n | deny
  let olds <- outsOf n
  let a <- LoopParts.ofLoop l (<- insOf n) olds
  let seqs := mergeRepeats (a.outerSeqs.zip a.innerSeqs)
  let others := mergeRepeats (a.outerOthers.zip a.innerOthers)
  let merged := seqs.2 ++ others.2
  let (na, gone) <- if merged.isEmpty then pure (a, []) else do
    let b : LoopParts := { a with
      outerSeqs := seqs.1.map (·.1)
      innerSeqs := seqs.1.map (·.2)
      outerOthers := others.1.map (·.1)
      innerOthers := others.1.map (·.2) }
    let new := b.toLoop (<- substitute b.innerOutputs merged)
    let news <- applyLoop new b.outerInputs
    pure (<- LoopParts.ofLoop new b.outerInputs news, [n])
  let same := repeatedInputs na.outerShared na.innerShared ++ repeatedInputs na.outerSitSot na.innerSitSot
    ++ repeatedStates na.outerMitMot na.mitMotTaps na.innerMitMot
    ++ repeatedStates na.outerMitSot na.mitSotTaps na.innerMitSot
  let arena <- getArena
  let equal xs ys := arena.equalComputations xs ys (same.map (·.1)) (same.map (·.2))
  let one x y := equal [x] [y]
  let rows ins inner outer := ins.zip (inner.zip outer)
  let nb := { na with
    outerNitSotOuts := mergeResults one (rows na.outerNitSot na.innerNitSotOuts na.outerNitSotOuts)
    outerSitSotOuts := mergeResults one (rows na.outerSitSot na.innerSitSotOuts na.outerSitSotOuts)
    outerMitSotOuts := mergeResults one (rows na.outerMitSot na.innerMitSotOuts na.outerMitSotOuts)
    outerMitMotOuts := mergeResults equal
      ((na.outerMitMot.zip na.outTaps).zip (na.innerMitMotOuts.zip na.outerMitMotOuts)) }
  if gone.isEmpty then return .all nb.outerOutputs
  return .pairs (olds.zip nb.outerOutputs) gone

def loopInputRules : List LocalRule :=
  [ rule "remove_constants_and_unused_inputs_scan" [loopClass] dropLoopInputs,
    rule "scan_merge_inouts" [loopClass] mergeLoopEnds ]

/-! ## Moving work out of loops -/

open Tensor

variable (p : LoopParts) (e : LoopEnds) (h : Hoisted)

def loopNodes : M (List (NodeId × Loop)) := do
  (<- graphToposort g).filterMapM fun n => do
    let some (_, l) <- loopOf? n | return none
    return some (n, l)

/-- What a step computes that can be computed outside: the inner variable, the variable that will stand for it
inside, and the outer variable. -/
structure Hoisted where
  nodes : Nodes := []
  moved : List (VarId × VarId × VarId) := []

namespace Hoisted

variable (h : Hoisted) (a : Arena) (v : VarId)

def outer? : Option VarId := (h.moved.lookup v).map (·.2)

def add (inner outer : VarId) : M Hoisted := do
  return { h with moved := h.moved ++ [(inner, <- freshLike inner "_replace", outer)] }

def move (n : NodeId) (news : Vars) : M Hoisted :=
  ((a.outputs n).zip news).foldlM (fun h (y, z) => h.add y z) { h with nodes := n :: h.nodes }

def hasOwner : Bool := (a.owner v).any h.nodes.contains

end Hoisted

/-- The inner inputs that stand for sequences and for other operands, with their outer variables. -/
structure LoopEnds where
  (others seqs : VarPairs)

def LoopEnds.of (y : LoopLayout) (inner outer : Vars) : LoopEnds :=
  ⟨(y.innerOthers inner).zip (y.outerOthers outer), (y.innerSeqs inner).zip (y.outerSeqs outer)⟩

def hoistFixed (n : NodeId) : M Hoisted := do
  let a <- getArena
  let ins := a.inputs n
  let o <- opOf n
  if h.nodes.contains n || o matches .view | .deepCopy then return h
  if !(ins.all fun x => (e.others.lookup x).isSome || h.hasOwner a x || a.isConstant x) then return h
  let outside <- ins.mapM fun x => do
    let y <- if let some y := e.others.lookup x <|> h.outer? x then pure y else cloneVar x
    filterVariable (<- typeOf x) y
  h.move a n (<- applyAll o (valuesOf outside))

def hoistSequence (n : NodeId) : M Hoisted := do
  let a <- getArena
  let ins := a.inputs n
  let isSeq x := (e.seqs.lookup x).isSome
  if h.nodes.contains n then return h
  match <- opOf n with
  | .elemwise s m f =>
    if !(ins.all fun x => (e.others.lookup x).isSome || h.hasOwner a x || a.isConstant x || isSeq x) then return h
    if !(ins.any fun x => (e.others.lookup x).isNone && (isSeq x || (h.outer? x).isSome)) then return h
    let outside <- ins.mapM fun x =>
      if let some y := e.others.lookup x <|> e.seqs.lookup x <|> h.outer? x then pure y else cloneVar x
    h.move a n (<- applyAll (.elemwise s m f) (valuesOf outside))
  | .dimShuffle _ order _ =>
    let x := ins.headD default
    let some y := e.seqs.lookup x <|> (h.outer? x).filter fun _ => h.hasOwner a x | pure h
    let places := order.map fun
      | .dim i => .dim (i + 1)
      | .new => .new
    h.move a n [<- dimshuffle y (.dim 0 :: places)]
  | _ => pure h

def hoistBy (move : Hoisted -> NodeId -> M Hoisted) (ins outs : Vars) :
    M (Hoisted × Vars × List (VarId × VarId × VarId)) := do
  let order <- orderBetween ins outs
  let h <- order.foldlM move {}
  let a <- getArena
  let stay := order.filter fun n => !h.nodes.contains n
  let read := stay.flatMap a.inputs
  let wanted <- h.moved.filterM fun (v, within, _) => do
    return read.contains v && !(a.owner v).any stay.contains && (<- typeOf within) == (<- typeOf v)
  pure (h, read, wanted)

def newEnds (outs : Vars) (wanted : List (VarId × VarId × VarId)) : M (Vars × VarPairs) := do
  let (fixed, ends) <- wanted.partitionM fun (_, _, outer) => isConstant outer
  let givens <- wanted.mapM fun (v, within, outer) => do
    return (v, <- if fixed.contains (v, within, outer) then cloneVar outer else pure within)
  return (<- substitute outs givens, ends.map (·.2))

def replaceNode (news : Vars) (reason : String) : M Unit := do
  replaceAllValidateRemove g ((<- outsOf n).zip news) [.node n] reason

variable (vs : Vars) (v : VarId) (l : Loop)

def lastPosition? : Option Nat := (vs.zipIdx.reverse.find? (·.1 == v)).map (·.2)

def outputPlacements (outs olds : Vars) (h : Hoisted) (value : VarId -> VarId -> M VarId) :
    M VarPairs := do
  let mut pairs := []
  for (v, _, outer) in h.moved do
    let some k := lastPosition? outs v | pure ()
    let some x := olds[k]? | badIndex
    pairs := alistSet x (<- value v outer) pairs
  pure pairs

def fixedReason : String := "scanOp_pushout_nonseqs_ops"

def hoistFixedParts : M Unit := do
  let (ins, outs) <- reconstruct l.inputs l.outputs
  let outerIns <- insOf n
  let (h, read, wanted) <- hoistBy (hoistFixed (.of l.layout ins outerIns)) ins outs
  if !wanted.isEmpty then
    let (outputs, ends) <- newEnds outs wanted
    let news <- applyLoop { l with inputs := ins ++ ends.map (·.1), outputs } (outerIns ++ ends.map (·.2))
    replaceNode g n news fixedReason
  else if read.isEmpty then
    let olds <- outsOf n
    let pairs <- outputPlacements outs olds h fun _ outer => do
      alloc outer (outerIns.headD default :: valuesOf (<- shapeList outer))
    if pairs.isEmpty then return
    if pairs.length == olds.length then replaceAllValidateRemove g pairs [.node n] fixedReason
    else let _ <- replaceAllValidate g pairs fixedReason

def sequenceReason : String := "scanOp_pushout_seqs_ops"

def hoistSequenceParts : M Unit := do
  let (ins, outs) <- reconstruct l.inputs l.outputs
  let y := l.layout
  let outerIns <- insOf n
  let (h, read, wanted) <- hoistBy (hoistSequence (.of y ins outerIns)) ins outs
  if !wanted.isEmpty then
    let (outputs, ends) <- newEnds outs wanted
    let new := { l with
      inputs := ends.map (·.1) ++ ins
      outputs
      layout := { y with nSeqs := y.nSeqs + ends.length } }
    replaceNode g n (<- applyLoop new (outerIns.take 1 ++ ends.map (·.2) ++ outerIns.drop 1)) sequenceReason
  else if read.isEmpty && !y.asWhile && y.nMitMot == 0 then
    let olds <- outsOf n
    let pairs <- outputPlacements outs olds h fun v outer => do
      let after x (k : Int) := do
        setSubtensor (<- itemOf x [.slice k .null .null]) outer
      match (y.innerMitSotOuts outs).idxOf? v, (y.innerSitSotOuts outs).idxOf? v with
      | some k, _ =>
        let lengths := y.mitSotTaps.map List.length
        if lengths.any (· != lengths.headD 0) then badType
        after ((y.outerMitSot outerIns).getD k default) (LoopLayout.leastTap y.mitSotTaps.flatten).natAbs
      | none, some k => after ((y.outerSitSot outerIns).getD k default) 1
      | none, none => if (y.innerNitSotOuts outs).contains v then pure outer else itemOf outer [.int (-1)]
    if !pairs.isEmpty && pairs.length == olds.length then replaceAllValidateRemove g pairs [.node n] sequenceReason

/-! ## Sums of products -/

def onlyLastRead : M Bool := do
  let [(.node c, _)] <- clientsOf g v | pure false
  let .subtensor [.pos _] <- opOf c | pure false
  extractedIs ((<- insOf c).getD 1 default) (-1) false

def outerNdim : M Nat := do
  let n <- ndimOf v
  if p.innerOthers.contains v || (<- isConstant v) then return n else return n + 1

def outputReason : String := "scanOp_pushout_output"

def keepInner : M NodeId := do
  let q := { p with
    innerNitSotOuts := p.innerNitSotOuts ++ vs
    outerNitSot := p.outerNitSot ++ vs.map fun _ => p.steps }
  let news <- applyLoop (q.toLoop q.innerOutputs) q.outerInputs
  let at_ := p.outerOutputs.length - p.outerSharedOuts.length
  replaceNode g n (news.take at_ ++ news.drop (at_ + vs.length)) outputReason
  return (<- ownerOf (news.headD default)).getD default

def outerValues : M (Vars × NodeId × LoopParts) := do
  let found <- vs.mapM fun v => do
    if let some y := (p.innerSeqs.zip p.outerSeqs).lookup v <|> (p.innerOthers.zip p.outerOthers).lookup v then
      return some y
    if <- isConstant v then return some (<- cloneVar v)
    return (p.innerNitSotOuts.zip p.outerNitSotOuts).lookup v
  let missing := (vs.zip found).filterMap fun (v, y) => if y.isNone then some v else none
  if missing.isEmpty then return (found.filterMap id, n, p)
  let m <- keepInner g n p missing
  let some (_, l) <- loopOf? m | noAttr
  let q <- LoopParts.ofLoop l (<- insOf m) (<- outsOf m)
  let new := q.outerNitSotOuts.drop (q.outerNitSotOuts.length - missing.length)
  let (all, _) := found.foldl (fun (acc, left) y => if let some y := y then (acc ++ [y], left)
    else (acc ++ left.take 1, left.drop 1)) (([] : Vars), new)
  pure (all, m, q)

def summedProduct? (readers : VarId -> Nat) (n : NodeId) :
    M (Option (Nat × Vars)) := do
  if kindOf? (<- opOf n) != some .add then return none
  let some k := p.innerSitSotOuts.idxOf? (<- outOf n) | pure none
  if !(<- onlyLastRead g (p.outerSitSotOuts.getD k default)) then return none
  let ins <- insOf n
  let some i := ins.idxOf? (p.innerSitSot.getD k default) | pure none
  let some x := ins[if i == 0 then 1 else if i == 1 then 0 else ins.length + 1 - i]? | badIndex
  let some (.dot, [a, b]) <- made? x | pure none
  let fits v := do return (<- ndimOf v) == 2 && (<- outerNdim p v) == 3
  return if readers x == 1 && (<- fits a) && (<- fits b) then some (k, [a, b]) else none

def hoistSum : M (Option NodeId) := do
  let some (_, l) <- loopOf? n | pure none
  let p <- LoopParts.ofLoop l (<- insOf n) (<- outsOf n)
  let a <- getArena
  let order := (a.toposortWith p.innerInputs p.innerOutputs []).getD []
  let readers v := (order.map fun m => (a.inputs m).count v).foldl (· + ·) 0
  let some (k, factors) <- order.findSomeM? (summedProduct? g p readers) | pure none
  let (outer, m, q) <- outerValues g n p factors
  let x <- flattenTo (<- shuffleDims (outer.getD 0 default) [1, 0, 2]) 2
  let y := outer.getD 1 default
  let s <- shape y
  let rows <- operate .mul (<- atPos s 0) (<- atPos s 1)
  let product <- apply1 .dot [x, <- reshapeTo y (.tuple [rows, <- atPos s 2]) none]
  let total <- add product (<- itemOf (q.outerSitSot.getD k default) [0])
  let (.node c, _) :: _ <- clientsOf g (q.outerSitSotOuts.getD k default) | noAttr
  replaceVar g (<- outOf c) total outputReason
  return some m

def hoistSums (g : GraphId) : Nat -> NodeId -> M Unit
  | 0, _ => outOfFuel
  | fuel + 1, n => do
    let some m <- hoistSum g n | return
    hoistSums g fuel m

def attachHistory : M Unit := do attachFeature g (<- newFeature (.replaceValidate [] [] false))

def loopPass (name : String) (act : GraphId -> NodeId -> Loop -> M Unit) : GlobalRule :=
  { name, cls := name, require := attachHistory
    run := fun _ g => do
      for (n, l) in <- loopNodes g do act g n l
      return .null }

def loopHoistPasses : List GlobalRule :=
  [ loopPass "PushOutNonSeqScan" hoistFixedParts,
    loopPass "PushOutSeqScan" hoistSequenceParts,
    loopPass "PushOutDot1" (fun _ _ _ => pure ()),
    loopPass "PushOutScanOutput" fun g n l => if l.layout.asWhile then pure () else hoistSums g 10000 n ]

end TensorGraph.Rules
