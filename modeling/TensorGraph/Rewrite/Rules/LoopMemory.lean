import TensorGraph.Loop.Build
import TensorGraph.Rewrite.Rules.LoopHoist

/-! # Loops that keep less -/

namespace TensorGraph.Rules

open Tensor

/-- A place along the first dimension, counted from the front: a stretch or one position. -/
inductive RowPlace
  | rows (s : CanonicalSlice)
  | row (v : Value)

/-- How a reader takes a part of a result: the rows, the direction in which they are read, and all indices. -/
structure RowReader where
  place : RowPlace
  direction : Value
  indices : Values

/-- How many values of a result are kept. -/
inductive Kept
  | all
  | nothing
  | last (count : VarId)
deriving BEq

def rowPlace (index len : Value) : M (RowPlace × Value) := do
  let .slice a b c := index | return (.row (<- canonicalPosition index len), 1)
  let (s, d) <- canonicalSlice a b c len
  pure (.rows s, d)

def tensorOrNull (v : Value) : M Value := if v.isNull then return v else asTensor v

/-- What is known of the results of a loop before it is changed. -/
structure LoopUse where
  g : GraphId
  loop : Loop
  (ins outs : Vars)
  initial : List Nat

variable (g : GraphId) (u : LoopUse) (v : VarId)

namespace LoopUse

variable (i : Nat)

def layout : LoopLayout := u.loop.layout
def steps : VarId := u.ins.headD default
def counted : Nat := u.layout.nStates + u.layout.nNitSot
def start : Nat := u.initial.getD i 0

def knownLength (otherwise : M Value) : M Value := do
  match <- Shapes.of? u.g with
  | some f => if <- Shapes.knows f v then return (<- Shapes.lengthAt f v 0) else otherwise
  | none => otherwise

def total : M Value := operate .add u.steps (u.start i)

end LoopUse

def readIndices? (c : Client) : M (Option Values) := do
  let .node m := c | pure none
  let .subtensor idx <- opOf m | pure none
  return some (indexValues idx ((<- insOf m).drop 1))

variable (bounds : Option Values) (n : NodeId) (l : Loop) (i : Nat) (steps : Value)

def boundSteps (stop : Option Value) : Option Values :=
  match bounds, stop with
  | none, _ => none
  | some bs, none => some bs
  | some bs, some (.var v) => some (bs ++ [.var v])
  | some _, some _ => none

def sameBound (x y : Value) : M Bool := do
  match x, y with
  | .var a, .var b => return a == b
  | .var _, _ | _, .var _ => pure false
  | a, b => truthOf (<- operate .eq a b)

def readResults : M (List (Option (List RowReader)) × Option Values) := do
  let mut slices := []
  let mut bounds := if u.outs.length == u.counted then some [] else none
  for (v, i) in (u.outs.take u.counted).zipIdx do
    let mut rows := some []
    for (c, _) in <- clientsOf u.g v do
      let indices? <- readIndices? c
      if indices?.isNone then
        bounds := none
        rows := none
        break
      let indices := indices?.getD []
      let length <- u.knownLength v (if i >= u.layout.nMitMot then u.total i else do return (<- shapeAt v 0))
      let first := indices.headD .null
      let (place, direction) <- rowPlace first length
      rows := rows.map (· ++ [⟨place, direction, indices⟩])
      if first matches .slice _ .null _ then bounds := none
      let stop <- match place with
        | .rows s => extractConstant s.stop
        | .row p => do operate .add (<- extractConstant p) 1
      let open_ <- if <- Slice.isNum stop lastIndex then pure true else sameBound stop length
      bounds := boundSteps bounds (<- if open_ then pure none else do
        pure (some (<- operate .sub stop (u.start i))))
    slices := slices ++ [rows]
  return (slices ++ .replicate (u.outs.length - u.counted) none, bounds)

def boundedSteps : M Value := do
  let some bs := bounds | pure u.steps
  let least <- match bs with
    | [] => pure u.steps
    | b :: bs => do minimum (<- bs.foldlM (fun a b => do return (<- maximum a b)) b) u.steps
  maximum least 1

def valuesToKeep : M (List Kept) := do
  let y := u.layout
  (u.outs.take u.counted).zipIdx.mapM fun (v, i) => do
    let mut k := if i < y.nMitMot then .all else .nothing
    for (c, _) in <- clientsOf u.g v do
      let some first := (<- readIndices? c).map (·.headD .null) | return .all
      if first matches .slice .null _ _ then return .all
      let length <- if i > y.nMitMot then u.total i else u.knownLength v do return (<- shapeAt v 0)
      let (place, _) <- rowPlace first length
      let start <- match place with
        | .rows s => extractConstant s.start
        | .row p => extractConstant p
      if (<- Slice.isNum start 0) || k == .all then k := .all
      else
        let initial := u.start i
        let reused := (<- settingFlag "scan__allow_output_prealloc") && y.nMitMot <= i && i < y.nStates
        let needed <- operate .add (<- operate .sub steps start) initial
        let count <- maximum needed (.int (if reused then initial + 1 else initial))
        k := .last (<- if let .last c := k then maximum count c else pure count)
    pure k

def writtenRows? : M (Option VarId) := do
  let some (.incSubtensor (.slice .. :: _) _ .., _ :: y :: _) <- made? v | pure none
  return some y

def shortenedState (count : Value) (initial : Nat) : M VarId := do
  let c <- asTensor count
  let k <- asTensor initial
  let some y <- writtenRows? v | itemOf v [.slice .null (<- maximum c k) .null]
  expandEmpty y (<- switch (<- lt c k) (<- add c k)
    (<- sub c k))

def rereadRows (new : VarId) (r : RowReader) (place : RowPlace) : M VarId := do
  let first <- match place with
    | .rows s => do pure (.slice (<- tensorOrNull s.start) (<- tensorOrNull s.stop) (<- tensorOrNull s.step))
    | .row p => tensorOrNull p
  let part <- partOf new (first :: r.indices.drop 1)
  if (<- ndimOf part) > 0 then itemOf part [.slice .null .null r.direction] else pure part

def shiftRow (kept : Kept) (p : Value) : M Value := do
  let count := match kept with
    | .all => 0
    | .nothing => .int (-1)
    | .last c => c
  operate .add (<- operate .sub (<- operate .sub p steps) (u.start i)) count

def memoryReason : String := "scanOp_save_mem"

def readerOutputs : M Vars := do
  (<- clientsOf u.g (u.outs.getD i default)).mapM fun (c, _) => do
    let .node m := c | noAttr
    outOf m

def saveMemory : M Unit := do
  let y := l.layout
  let initial := .replicate y.nMitMot 0
    ++ (y.taps.drop y.nMitMot).map (fun ts => (LoopLayout.leastTap ts).natAbs) ++ .replicate y.nNitSot 0
  let u := { g, loop := l, ins := <- insOf n, outs := <- outsOf n, initial }
  let (slices, bounds) <- readResults u
  let steps <- boundedSteps u bounds
  let kept <- valuesToKeep u steps
  let orphans := kept.zipIdx.filterMap fun (k, i) => if k == .nothing then some i else none
  if !kept.any (· matches .last _) && orphans.isEmpty && bounds.isNone then return
  let a <- getArena
  let feeds := y.resultInputs l.inputs
  let (required, unneeded) := LoopLayout.removable (fun i => feeds.getD i [])
    (fun i => a.graphInputs ((l.outputs[i]?).toList)) l.outputs.length orphans
  -- new operands
  let mut ins := steps :: valuesOf (u.ins.drop 1)
  let mut replaced := []
  let mut rereads : List (Nat × Vars) := []
  let offset := 1 + y.nSeqs
  let operand xs (i : Nat) := ((xs[i]?).bind Value.var?).getD default
  let isSteps xs (i : Nat) := (xs[i]?.bind Value.var?) == some u.steps
  for (k, i) in kept.zipIdx do
    if i >= y.nMitMot then
      let some val := if required.contains i then some 1 else if let .last c := k then some (Value.var c)
        else none | pure ()
      if i < y.nStates then
        ins := ins.set (offset + i) (<- shortenedState (operand ins (offset + i)) val (u.start i))
      else
        let at_ := offset + i + y.nShared
        if isSteps ins at_ then ins := ins.set at_ val
      replaced := replaced ++ [i]
      rereads := rereads ++ [(i, <- readerOutputs u i)]
  if bounds.isSome then
    for (k, i) in kept.zipIdx do
      if i >= y.nMitMot && k == .all then
        if i < y.nStates then
          let some w <- writtenRows? (operand ins (offset + i)) | pure ()
          ins := ins.set (offset + i) (<- expandEmpty w steps)
        else
          let at_ := offset + i + y.nShared
          if isSteps ins at_ then ins := ins.set at_ steps
  let c := y.compress unneeded (l.inputs.map .var) (l.outputs.map .var) ins
  if <- Slice.isNum (<- extractConstant (c.outerIns.headD .null)) 0 then return
  let new := { l with
    inputs := c.innerIns.filterMap Value.var?
    outputs := c.innerOuts.filterMap Value.var?
    layout := c.layout, strict := false, destroys := []
    extras := [("_scan_savemem_visited", true)] }
  let news <- applyAll (<- newLoop new) c.outerIns
  let newOf k := news.getD k default
  -- replacements
  let mut pairs := []
  for (sl, i) in slices.zipIdx do
    let some rows := sl | pure ()
    if bounds.isSome && kept.getD i .nothing == .all then
      for (r, old) in rows.zip (<- readerOutputs u i) do
        let some (was, _) := c.moved.find? (·.2 == i) | badKey
        pairs := pairs ++ [(old, <- rereadRows (newOf was) r r.place)]
        replaced := replaced ++ [i]
  for (i, olds) in rereads do
    for (old, r) in olds.zip ((slices.getD i none).getD []) do
      let shift := shiftRow u i steps (kept.getD i .nothing)
      let place <- match r.place with
        | .row p => do pure (RowPlace.row (<- shift p))
        | .rows s => do
          let start <- shift s.start
          let isOpen <- if s.stop.isNull then pure true else Slice.isNum s.stop lastIndex
          pure (RowPlace.rows ⟨start, <- if isOpen then pure .null else shift s.stop, s.step⟩)
      let some now := c.moved.lookup i | badKey
      pairs := pairs ++ [(old, <- rereadRows (newOf now) r place)]
  for (v, i) in u.outs.zipIdx do
    if !replaced.contains i && !unneeded.contains i then
      let some now := c.moved.lookup i | badKey
      pairs := pairs ++ [(v, newOf now)]
  let a <- getArena
  if pairs.any fun (_, new) => (a.owner new).any fun m => a.needs m n then return
  replaceAllValidateRemove g pairs (((pairs.filterMap fun (old, _) => a.owner old) ++ [n]).map .node) memoryReason

/-! ## Writing over the initial values -/

def makesMemory (o : Op) : Bool := o matches .alloc | .allocEmpty _

def overwriteStates (states : List Nat) : M NodeId := do
  let some (_, l) <- loopOf? n | pure n
  let y := l.layout
  let ins <- insOf n
  let destroys := states.foldl (fun d i => alistSet i [i + 1 + y.nSeqs] d) l.destroys
  let own <- (y.outerStates ins).mapM fun v => do
    let some (o, is) <- made? v | pure v
    if makesMemory o && (<- clientsOf g v).length > 1 then apply1 o is else pure v
  let mut distinct := []
  for v in own do distinct := distinct ++ [<- if distinct.contains v then apply1 .deepCopy [v] else pure v]
  let rest := y.outerShared ins ++ y.outerNitSot ins ++ y.outerOthers ins
  let news <- applyLoop { l with destroys } (ins.take (1 + y.nSeqs) ++ distinct ++ rest)
  try
    replaceNode g n news "scanOp_make_inplace"
    return (<- ownerOf (news.headD default)).getD n
  catch e => if e.isA .inconsistency then return n else throw e

def isOverwritten : M Bool := do
  (<- clientsOf g v).anyM fun (c, _) => do
    let .node m := c | noAttr
    let is <- insOf m
    return ((<- destroysOf (<- opOf m)).flatMap (·.2)).any fun i => is[i]? == some v

def overwriteLoops : M Unit := do
  for (n, l) in (<- loopNodes g).reverse do
    let ins <- insOf n
    let states <- (List.range l.layout.nStates).filterM fun i => do
      let v := ins.getD (1 + l.layout.nSeqs + i) default
      if (<- madeBy? v).any makesMemory then return true else return !(<- isOverwritten g v)
    let m <- overwriteStates g n states
    if m == n then let _ <- states.foldlM (fun m i => overwriteStates g m [i]) m

def loopMemoryPasses : List GlobalRule :=
  [ loopPass "ScanSaveMem" saveMemory,
    { name := "ScanInplaceOptimizer", cls := "ScanInplaceOptimizer"
      require := fun g => do
        attachHistory g
        attachMemoryObserver g
      run := fun _ g => do
        overwriteLoops g
        return .null } ]

open LoopLayout

def sameSteps (x y : VarId) : M Bool := do
  let known v : M (Option Int) := do
    let some c <- valueOf? v | return none
    return knownInt? c
  match <- known x, <- known y with
  | some a, some b => return a == b
  | none, none => return x == y
  | _, _ => pure false

def joins (others : List (NodeId × Loop)) : M Bool := do
  let (m, r) := others.headD default
  if r.layout.asWhile != l.layout.asWhile || !r.truncate.isKey l.truncate || !r.mode.isKey l.mode then return false
  if !(<- sameSteps ((<- insOf n).headD default) ((<- insOf m).headD default)) then return false
  let a <- getArena
  if others.any fun (k, _) => a.needs n k || a.needs k n then return false
  let (some c, some d) := (l.layout.condition? l.outputs, r.layout.condition? r.outputs) | pure true
  return a.equalComputations [c] [d] l.inputs r.inputs

def numberNames (vs : Vars) (k : Nat) : M Unit := do
  for v in vs do
    let some s <- nameOf v | pure ()
    if s != "" then setName v (some (s ++ toString k))

def mergeLoops (nodes : List (NodeId × Loop)) : M VarPairs := do
  let first := (nodes.map (·.2)).headD default
  let applied <- nodes.mapM fun (n, l) => do return (l, <- insOf n, <- outsOf n)
  let rename (inner outer : LoopLayout -> Vars -> Vars) := do
    for ((l, ins, _), k) in applied.zipIdx do
      numberNames (inner l.layout l.inputs) k
      numberNames (outer l.layout ins) k
  rename innerSeqs outerSeqs
  rename innerMitMot outerMitMot
  rename innerMitSot outerMitSot
  rename innerSitSot outerSitSot
  rename innerShared outerShared
  rename (fun _ _ => []) outerNitSot
  rename innerOthers outerOthers
  let copies <- applied.zipIdx.mapM fun ((l, _, _), k) => do
    let outs := if l.layout.asWhile && k > 0 then l.outputs.dropLast else l.outputs
    return (l.layout, <- reconstruct l.inputs outs)
  let innerIns (f : LoopLayout -> Vars -> Vars) := copies.flatMap fun (y, is, _) => f y is
  let innerOuts (f : LoopLayout -> Vars -> Vars) := copies.flatMap fun (y, _, os) => f y os
  let outerIns (f : LoopLayout -> Vars -> Vars) :=
    applied.flatMap fun (l, is, _) => f l.layout is
  let outerOuts (f : LoopLayout -> Vars -> Vars) :=
    applied.flatMap fun (l, _, os) => f l.layout os
  let total f := (nodes.map fun (_, l) => f l.layout).foldl (· + ·) 0
  let taps f := nodes.flatMap fun (_, l) => f l.layout
  let condition := match copies with
    | (y, _, os) :: _ => (y.condition? os).toList
    | [] => []
  let new := {
    inputs := innerIns innerSeqs ++ innerIns innerMitMot ++ innerIns innerMitSot
      ++ innerIns innerSitSot ++ innerIns innerShared ++ innerIns innerOthers
    outputs := innerOuts innerMitMotOuts ++ innerOuts innerMitSotOuts
      ++ innerOuts innerSitSotOuts ++ innerOuts innerNitSotOuts
      ++ innerOuts innerSharedOuts ++ condition
    layout :=
      { nSeqs := total (·.nSeqs)
        taps := taps (·.mitMotTaps) ++ taps (·.mitSotTaps) ++ .replicate (total (·.nSitSot)) [-1]
        nMitMot := total (·.nMitMot)
        nMitMotOuts := total (·.nMitMotOuts)
        outTaps := taps (·.mitMotOutTaps)
        nMitSot := total (·.nMitSot)
        nSitSot := total (·.nSitSot)
        nShared := total (·.nShared)
        nNitSot := total (·.nNitSot)
        asWhile := first.layout.asWhile }
    truncate := first.truncate
    name := "&".intercalate (nodes.map (·.2.name))
    mode := first.mode
    profile := first.profile
    allowGc := first.allowGc }
  let news <- applyLoop new ((((applied.map (·.2.1)).headD []).take 1) ++ outerIns outerSeqs ++ outerIns outerMitMot
    ++ outerIns outerMitSot ++ outerIns outerSitSot ++ outerIns outerShared
    ++ outerIns outerNitSot ++ outerIns outerOthers)
  let olds := outerOuts outerMitMotOuts ++ outerOuts outerMitSotOuts
    ++ outerOuts outerSitSotOuts ++ outerOuts outerNitSotOuts ++ outerOuts outerSharedOuts
  return olds.zip news

def joinGroup (groups : List (List (NodeId × Loop))) (x : NodeId × Loop) : M (List (List (NodeId × Loop))) := do
  let s :: rest := groups | return [[x]]
  if <- joins x.1 x.2 s then return (s ++ [x]) :: rest else return s :: (<- joinGroup rest x)

def mergeAllLoops : M Unit := do
  for s in <- (<- loopNodes g).foldlM joinGroup [] do
    if s.length > 1 then replaceAllValidateRemove g (<- mergeLoops s) (s.map fun (n, _) => .node n) "scanOp_merge"

def loopMergePasses : List GlobalRule :=
  [{ name := "ScanMerge", cls := "ScanMerge", require := attachHistory
     run := fun _ g => do
      mergeAllLoops g
      return .null }]

end TensorGraph.Rules
