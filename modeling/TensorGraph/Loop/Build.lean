import TensorGraph.Compile.Function
import TensorGraph.Loop.Op

/-!
# Building and running loops

A loop calls its inner graph once a step, on slices of its sequences and on earlier entries of its results. Results are kept
in rings, which may be shorter than the loop.
-/

namespace TensorGraph

/-- A circular buffer: its rows, and where the next step writes. -/
structure Ring (α : Type u) where
  rows : Array α
  next : Nat

namespace Ring

variable (t : Ring α) (tap : Int)

def size : Nat := t.rows.size
def start (rows : Array α) (least : Int) : Ring α := ⟨rows, ((-least) % (rows.size : Int)).toNat⟩
def read? : Option α := t.rows[(((t.next : Int) + tap) % (t.size : Int)).toNat]?
def write (x : α) : Ring α := { t with rows := t.rows.setIfInBounds t.next x }

def offset? : Option Nat :=
  let i := (t.next : Int) + tap
  let i := if i < 0 then i + t.size else i
  if 0 <= i && i < t.size then some i.toNat else none

def advance : Ring α := { t with next := (t.next + 1) % t.size }

def settle (blank : α -> α) (least : Int) (total done : Nat) (t : Ring α) : Array α :=
  let known := (done : Int) - least
  if (t.size : Int) < known && t.next < t.size then t.rows.extract t.next t.size ++ t.rows.extract 0 t.next
  else if (t.size : Int) > known then
    let rows := t.rows.mapIdx fun i x => if (i : Int) < known then x else blank x
    if done < total then rows.extract 0 (rows.size - (total - done)) else rows
  else t.rows

end Ring

/-- What a loop does at each step. A result is read from the operands as they stand when it is stored: a view of an
operand changes with it. -/
structure LoopMachine (m : Type -> Type) (α : Type) where
  step : List α -> m (List (List α -> m α))
  stops : α -> m Bool
  fit : (first : Bool) -> (state : Nat) -> α -> α -> m α
  blank : α -> α
  missing : m α

/-- Where a running loop stands. -/
structure LoopState (α : Type) where
  (rings kept : List (Ring α))
  shared : List α
  done : Nat := 0
  stopped : Bool := false

namespace LoopMachine

variable {m : Type -> Type} {α : Type} [Monad m] (x : LoopMachine m α) (l : LoopLayout) (first : Bool)

def tapped (rings : List (Ring α)) : m (List α) := do
  let parts <- (rings.zip l.taps).mapM fun (t, taps) => taps.mapM fun tap => if let some r := t.read? tap then pure r
    else x.missing
  pure parts.flatten

def writeTaps (x : LoopMachine m α) (first : Bool) (state : Nat) : List (Int × α) -> Ring α -> m (Ring α)
  | [], t => pure t
  | (tap, v) :: rest, t => do
    match t.offset? tap with
    | some i =>
      let old <- if let some r := t.rows[i]? then pure r else x.missing
      writeTaps x first state rest { t with rows := t.rows.setIfInBounds i (<- x.fit first state old v) }
    | none =>
      let _ <- x.missing
      pure t

def writeOne (state : Nat) (t : Ring α) (v : α) : m (Ring α) := do
  match t.rows[t.next]? with
  | some old => return t.write (<- x.fit first state old v)
  | none =>
    let _ <- x.missing
    pure t

def store (outs : List (List α -> m α)) (operands : List (Ring α) -> m (List α))
    (rings : List (Ring α)) (ring : Ring α × Nat) : m (List (Ring α)) := do
  let (t, j) := ring
  let now <- operands rings
  let t <- if j < l.nMitMot then
      let vs <- (LoopLayout.cut outs (l.outTapCount j) (l.writes j)).mapM (· now)
      x.writeTaps first j ((l.outTaps.getD j []).zip vs) t
    else if let some o := outs[l.writtenTaps + (j - l.nMitMot)]? then x.writeOne first j t (<- o now)
    else pure t
  return rings.set j t

def advance (seqs : List (Array α)) (others : List α) (s : LoopState α) :
    m (LoopState α) := do
  let slices <- seqs.mapM fun q => if let some r := q[s.done]? then pure r else x.missing
  let operands rings := do return slices ++ (<- x.tapped l rings) ++ s.shared ++ others
  let start <- operands s.rings
  let outs <- x.step start
  let first := s.done == 0
  let rings <- s.rings.zipIdx.foldlM (x.store l first outs operands) s.rings
  let now <- operands rings
  let kept <- (s.kept.zip (l.innerNitSotOuts outs)).zipIdx.mapM fun ((t, o), j) => do
    let v <- o now
    let t := if first then { t with rows := t.rows.map fun _ => x.blank v } else t
    x.writeOne first (l.nStates + j) t v
  let stopped <- if let some c := l.condition? outs then x.stops (<- c start) else pure false
  return { rings := rings.map Ring.advance, kept := kept.map Ring.advance,
           shared := <- (l.innerSharedOuts outs).mapM (· now), done := s.done + 1, stopped }

def run (x : LoopMachine m α) (l : LoopLayout) (seqs : List (Array α)) (others : List α) :
    Nat -> LoopState α -> m (LoopState α)
  | 0, s => pure s
  | n + 1, s => do
    let s <- x.advance l seqs others s
    if s.stopped then pure s else run x l seqs others n s

def results (total : Nat) (s : LoopState α) : List (Array α) × List α :=
  let several := (s.rings.take l.nMitMot).map Ring.rows
  let rest := ((s.rings.drop l.nMitMot ++ s.kept).zip (l.minTaps.drop l.nMitMot)).map fun (t, least) =>
    t.settle x.blank least total s.done
  (several ++ rest, s.shared)

end LoopMachine

variable (l : Loop) (id : Nat)

def checkInnerTypes : M Unit := do
  let places := l.layout.places l.inputs.length
  for k in List.range l.layout.nStates do
    match LoopLayout.placeOfOuterOut? places k with
    | none => pure ()
    | some p =>
      for i in p.innerIns do
        for o in p.innerOuts do
          let (some x, some y) := (l.inputs[i]?, l.outputs[o]?) | badIndex
          if (<- typeOf x) != (<- typeOf y) then
            failType ("Inconsistency in the inner graph of scan '" ++ l.name ++ "' : an input and an output are associated "
              ++ "with the same recurrent state and should have the same type but have type '" ++ (<- typeOf x).text
              ++ "' and '" ++ (<- typeOf y).text ++ "' respectively.")

def LoopLayout.updated (l : LoopLayout) : List (Nat × Nat) :=
  ((l.mitMotTaps.zip l.outTaps).zipIdx).flatMap fun ((reads, writes), j) =>
    reads.zipIdx.filterMap fun (tap, k) =>
      (writes.idxOf? tap).map fun w => (l.nSeqs + l.tapCount j + k, l.outTapCount j + w)

def compileLoop : M FuncId := do
  let y := l.layout
  let rows := y.nMitMotOuts + y.nMitSot + y.nSitSot + y.nNitSot
  let reuse <- settingFlag "scan__allow_output_prealloc"
  let updated := if reuse then y.updated else []
  let inputs <- mapIdxM (fun i v => do
    match updated.lookup i with
    | some o =>
      let shape := (<- bcastOf v).map fun b => if b then 1 else 0
      let start := .array (.zeros (<- dtypeOf v) shape)
      newInput { subject := v, update := (l.outputs.getD o default), implicit := .null } start .null
    | none => newInput { subject := v, implicit := .null } .null (!reuse)) l.inputs
  let outs <- mapIdxM (fun i v => if i < rows then newOutput (.var v) reuse else pure (.var v)) l.outputs
  let taken := updated.map (·.2)
  let outs := outs.zipIdx.filterMap fun (o, i) => if taken.contains i then none else some o
  let mode <- if !reuse then pure l.innerMode else
    match l.innerMode with
    | .record m =>
      let first := y.nMitMotOuts - taken.length
      let last := first + y.nMitSot + y.nSitSot + y.nNitSot
      let p <- newPass { body := .addFeature (<- newFeature (.noOutputFromInplace first (some last))) }
      extendMode m "extra_optimizations" [.tuple [p, .float 49.9]]
    | m => pure m
  functionOf { inputs, outputs := <- newList outs, mode, name := some l.name, onUnused := "ignore",
               profile := false }

def prepareLoop : M FuncId := do
  let l <- loopAt id
  checkInnerTypes l
  match l.compiled with
  | some f => pure f
  | none =>
    let f <- compileLoop l
    modifyLoop id fun l => { l with compiled := some f }
    pure f

def innerResults (updated : List Nat) (total : Nat) (outs : List α) : List α :=
  let plain := outs.take (total - updated.length)
  let late := outs.drop (total - updated.length)
  let step acc i :=
    match updated.idxOf? i with
    | some k => if let some x := late[k]? then (acc.1 ++ [x], acc.2) else acc
    | none => match acc.2 with
      | x :: rest => (acc.1 ++ [x], rest)
      | [] => acc
  ((List.range total).foldl step ([], plain)).1

/-! ## Rows -/

def NdArray.rows (a : NdArray) : Array NdArray :=
  match a.shape with
  | [] => #[]
  | n :: tail =>
    let size := shapeSize tail
    (Array.range n).map fun i => ⟨a.dtype, tail, a.data.extract (i * size) ((i + 1) * size), 0⟩

def NdArray.ofRows (d : DType) (tail : List Nat) (rows : Array NdArray) : NdArray :=
  ⟨d, rows.size :: tail, rows.foldl (fun data r => data ++ r.data) #[], 0⟩

def blankRow (v : Value) : Value :=
  match v with
  | .array a => .array (.zeros a.dtype a.shape)
  | v => v

def fitRow (first named : Bool) (old new : Value) : M Value := do
  let a <- arrayOf old
  match (NdArray.cast a.dtype (<- arrayOf new)).forAssignment a.shape with
  | .ok data => return .array { a with data }
  | .error k =>
    if first || !named then raise k
    else failValue ("An output of the scan has changed shape. This may be caused by a pushout optimization. Try adding "
      ++ "'optimizer_excluding=scanOp_pushout_output' to your Theano flags.")

/-- What a view of an operand shows. -/
def presentView (a : Arena) (values : ValueMap) (operands : List (VarId × Value)) : Nat -> VarId -> M (Option Value)
  | 0, _ => outOfFuel
  | fuel + 1, v => do
    let some n := a.owner v | return operands.lookup v
    let some [i] := (a.op n).viewMap.lookup (a.var v).index | pure none
    let some x <- presentView a values operands fuel ((a.inputs n).getD i default) | pure none
    let xs := (<- (a.inputs n).mapM values.read).set i x
    if xs.any Value.isNull then return none
    return (<- performNode n xs)[(a.var v).index]?

def loopMachine (f : CompiledFunction) (updated : List Nat) (single : List Bool) : LoopMachine M Value where
  step xs := do
    let g <- graph f.graph
    let run <- evaluate f.graph f.order f.linker (g.inputs.zip xs) updated.length none
    let a <- getArena
    let outs <- g.outputs.mapM fun o => do
      let x <- run.values.read o
      return fun now => do return (<- presentView a run.values (g.inputs.zip now) g.nodes.size o).getD x
    return innerResults updated l.outputs.length outs
  stops v := do return (<- arrayOf v).data.any Elem.truthy
  fit first state old new := do
    fitRow first (state >= l.layout.nMitMot && state < l.layout.nStates && !single.getD state false) old new
  blank := blankRow
  missing := badIndex

def loopPerform (n : NodeId) (args : Values) : M Values := do
  let f <- compiled (<- prepareLoop id)
  let l <- loopAt id
  let y := l.layout
  let steps := (<- arrayOf (args.headD .null)).item.toInt
  if steps < 0 then fail .index s!"Scan was asked to run for negative number of step {steps}"
  if steps == 0 then cannot "We didn't implemented yet the case where scan do 0 iteration"
  let ins <- insOf n
  let seqs <- (y.outerSeqs args).mapM arrayOf
  for (q, v) in seqs.zip (y.outerSeqs ins) do
    if ((q.shape.headD 0 : Nat) : Int) < steps then
      failWith .value ["'Sequence is shorter then the required number of steps : (n_steps, seq, seq.shape):'",
        s!"array({steps})", <- varText v, tupleText (q.shape.map toString)]
  let starts <- (y.outerStates args).mapM arrayOf
  let keeps <- (y.outerNitSot args).mapM fun a => do return (<- arrayOf a).item.toInt.toNat
  let values a := a.rows.map .array
  let rings := (starts.zip y.taps).map fun (a, taps) => Ring.start (values a) (LoopLayout.leastTap taps)
  let kept := keeps.map fun k => Ring.start (.replicate k .null) 0
  let single := starts.map fun a => a.shape.length == 1 || a.shape.head? == some 1
  let updated := if f.inputs.any (·.update.isSome) then y.updated.map (·.2) else []
  let machine := loopMachine l f updated single
  let s <- machine.run y (seqs.map values) (y.outerOthers args) steps.toNat
    { rings, kept, shared := y.outerShared args }
  let (rows, shared) := machine.results y steps.toNat s
  let outs <- outsOf n
  let tails := starts.map (fun a => a.shape.drop 1) ++ s.kept.map fun t => match t.rows.getD 0 .null with
    | .array a => a.shape
    | _ => []
  let arrays <- ((rows.zip tails).zip outs).mapM fun ((rs, tail), o) => do
    return .array (.ofRows (<- dtypeOf o) tail (<- rs.mapM arrayOf))
  return arrays ++ shared

/-! ## Building loops -/

open Tensor

/-! ## What the caller's function returns -/

/-- What a step returns: when to stop, the outputs, and the updates of shared variables. -/
structure StepResult where
  condition : Option VarId := none
  outputs : Vars := []
  updates : Pairs := []

/-- A result of a loop: the values it starts from and the taps that a step sees; none if it feeds nothing. -/
structure StateSpec where
  initial : Value := .null
  taps : Option (List Int) := none
  keyed : Bool := false

variable (s : StateSpec) (v : Value) (x : Value)

def until? : M (Option VarId) := do
  let .record r := v | pure none
  if (<- record r).cls == "until" then return (<- field r "condition").var? else pure none

def newUntil (condition : Value) : M Value := do
  let c <- asTensor condition
  check ((<- ndimOf c) == 0)
  newRecord "until" [("condition", c)]

def isStepValue : Nat -> Value -> M Bool
  | 0, _ => outOfFuel
  | fuel + 1, v => do
    if let some xs <- members? v then return <- xs.allM (isStepValue fuel)
    if let some ps <- mapping? v then
      return <- ps.allM fun (a, b) => do if <- isStepValue fuel a then isStepValue fuel b else pure false
    return v.var?.isSome || (<- until? v).isSome

def stepOutputs? : M (Option Vars) := do
  if let .var x := v then return some [x]
  return (<- members? v).bind (·.mapM Value.var?)

def stepUpdates? : M (Option Pairs) := do
  if let some ps <- mapping? v then return some ps
  let some xs <- members? v | pure none
  let ps <- xs.mapM fun x => do
    let some [a, b] <- members? x | return none
    return some (a, b)
  return ps.mapM (·)

def sortStepResult : M StepResult := do
  if !(<- isStepValue 50 v) then
    failValue ("The return value of your scan lambda expression may only be made of lists, tuples, or dictionaries containing "
      ++ "Theano variables (or `theano.scan.utils.until` objects for conditions). In particular if you need to use constant "
      ++ "values, you can use `tensor.constant` to turn them into Theano variables.")
  if let some outputs <- stepOutputs? v then return { outputs }
  if let some ups <- stepUpdates? v then return { updates := lastValues ups }
  match <- members? v with
  | some [a, b] =>
    let condition <- until? b
    if let some outputs <- stepOutputs? a then
      if let some ups <- stepUpdates? b then return { outputs, updates := lastValues ups }
      if condition.isSome then return { condition, outputs }
    else if let some ups <- stepUpdates? a then
      if (<- stepOutputs? b).isSome then
        failValue ("The return value of the lambda function has been restricted. you have to always return first the outputs "
          ++ "(if any), afterwards the updates (if any) and at the end the conclusion")
      if condition.isSome then return { condition, updates := lastValues ups }
  | some [a, b, c] =>
    if let (some outputs, some ups, some stop) := (<- stepOutputs? a, <- stepUpdates? b, <- until? c) then
      return { condition := some stop, outputs, updates := lastValues ups }
  | _ => pure ()
  failValue s!"Scan cannot parse the return value of your lambda expression, which is: {<- textOf v}"
where
  lastValues (ps : Pairs) : Pairs :=
    ps.foldl (fun acc (k, v) =>
      if acc.any (·.1.isKey k) then acc.map fun p => if p.1.isKey k then (p.1, v) else p else acc ++ [(k, v)]) []

/-! ## Numbers of steps -/

def givesNoNumber : M Bool := do
  let wild e := e.isNaN || e.isInf
  let odd v := if let .array a := v then a.size == 1 && wild a.item else v.elem?.any (wild ·.2)
  if x.isNull || odd x then return true
  if let .var v := x then if let some (.str _) <- constant? v then return true
  return (<- attempt (constantValue x)).any odd

def expandEmpty (x : VarId) (size : Value) : M VarId := do
  let lengths <- dimsOf x
  let first := lengths.headD .null
  let empty <- applyTo (.allocEmpty (<- dtypeOf x)) ((<- operate .add size first) :: lengths.drop 1)
  let r <- setSubtensor (<- getItem 40 empty (.slice .null first .null)) x
  setTag r "nan_guard_mode_check" false
  pure r

/-! ## The caller's description -/

/-- A sequence and the places around the current one that a step sees. -/
structure SequenceSpec where
  input : Value
  taps : List Int

/-- What the caller asks of a loop. -/
structure LoopRequest where
  fn : Values -> M Value
  sequences : Value := .null
  states : Value := .null
  others : Value := .null
  steps : Value := .null
  truncate : Value := .int (-1)
  backwards : Bool := false
  mode : Value := .null
  name : Option String := none
  profile : Value := false
  allowGc : Value := .null
  strict : Bool := false
  returnList : Value := false

def wrapped : M Values := do if v.isNull then return [] else return (<- members? v).getD [v]

def tapsOf : M (List Int) := do (<- wrapped v).mapM intArg

def readSequence : M SequenceSpec := do
  let some ps <- mapping? v | return { input := v, taps := [0] }
  let taps := (lookupKey "taps" ps).getD .null
  let taps <- if taps.isNull then pure [0] else tapsOf taps
  let some input := lookupKey "input" ps | badKey
  return { input, taps }

def readState : M StateSpec := do
  if v.isNull then return {}
  let some ps <- mapping? v | return { initial := v, taps := some [-1], keyed := true }
  if !((lookupKey "return_steps" ps).getD .null).isNull then
    fail (.named "DeprecationWarning") ("Using `return_steps` has been deprecated. Simply select the entries you need using a "
      ++ "subtensor. Scan will optimize memory consumption, so do not worry about that.")
  let initial := (lookupKey "initial" ps).getD .null
  let taps := (lookupKey "taps" ps).getD .null
  match initial.isNull, taps.isNull with
  | true, false =>
    failValue s!"If you are using slices of an output you need to provide a initial state for it: {<- textOf v}"
  | false, true => return { initial, taps := some [-1], keyed := true }
  | true, true => return { keyed := (lookupKey "taps" ps).isSome }
  | false, false =>
    if (<- members? taps).isNone then badType
    let ts <- tapsOf taps
    if ts.eraseDups.length < ts.length then
      failWith .value ["'All the taps must be different in  `outputs_info`'", <- reprOf v]
    if ts.any (· >= 0) then failWith .value ["'All the tap values must be smaller than 0.'", <- reprOf v]
    return { initial, taps := some ts, keyed := true }

def givenName : M (Option String) := do
  let .var x := v | pure none
  nameOf x

def tapName (name : String) (tap : Int) : String :=
  name ++ "[t" ++ (if tap > 0 then s!"+{tap}" else if tap == 0 then "" else toString tap) ++ "]"

def partOf (v i : Value) : M Value := callValue (.api "[]") [v, i] []
def asVar : M VarId := if let .var x := v then pure x else asTensor v

def sliceAt (start : Int) (name : Option String) (tap : Int) : M VarId := do
  let first <- asVar (<- partOf (<- asTensor x) start)
  let slice <- freshOf first
  passTestValue first slice
  if let some n := name then setName slice (some (tapName n tap))
  pure slice

def sequenceSlices (q : SequenceSpec) (backwards : Bool) : M (List (Value × VarId × Value)) := do
  let low := min (LoopLayout.leastTap q.taps) 0
  let high := max (LoopLayout.greatestTap q.taps) 0
  let name <- givenName q.input
  q.taps.mapM fun k => do
    let start := k - low
    let actual <- partOf q.input start
    let slice <- sliceAt q.input start name k
    let (stop, label) := if k == high then (.null, "") else (.int (k - high), toString (k - high))
    let seq <- partOf q.input (.slice start stop .null)
    let seq <- if backwards then partOf seq (.slice .null .null (.int (-1))) else pure seq
    if let (some n, .var s) := (name, seq) then setName s (some s!"{n}[{start}:{label}]")
    pure (seq, slice, actual)

/-- A state that a step sees: its values with room for those of the steps, the variables that stand for its
taps, the values of the taps at the first step, and its place among the results. -/
structure BuiltState where
  operand : VarId
  inner : Vars
  first : Values
  target : Nat ⊕ VarId
  taps : List Int

def lastValueState (place : Nat) (steps : VarId) : M BuiltState := do
  let actual <- asVar s.initial
  let arg <- freshLike actual
  let arg <- if <- isConstant arg then freshOf arg else pure arg
  passTestValue actual arg
  if let some n <- givenName s.initial then setName arg (some s!"{n}[t-1]")
  let operand <- expandEmpty (<- unbroadcast (<- padLeft actual 1) [0]) steps
  return { operand, inner := [arg], first := [actual], target := .inl place, taps := [-1] }

def tappedState (taps : List Int) (place : Nat) (steps : VarId) : M BuiltState := do
  let reach := -(LoopLayout.leastTap taps)
  let operand <- expandEmpty (<- asVar (<- partOf s.initial (.slice .null reach .null))) steps
  let name <- givenName s.initial
  let slices <- taps.mapM fun k => do
    let actual <- partOf s.initial (.int (k + reach))
    return (<- sliceAt s.initial (k + reach) name k, actual)
  return { operand, inner := slices.map (·.1), first := slices.map (·.2), target := .inl place, taps }

/-! ## Assembly -/

def isFree (v : VarId) : M Bool := do return !(<- isShared v) && !(<- isConstant v)

def presented (outs : Values) (asList : Value) : M Value := do
  if let [x] := outs then if !(asList matches .bool true) then return x
  newList outs

def probeStep (inputs outputs : Vars) (updates : Pairs) : M CompiledFunction := do
  let mode <- newMode "Mode" "py" .null
  let f <- try functionOf { inputs := valuesOf inputs, outputs := <- listOf outputs, updates := <- newDict updates, mode,
                            onUnused := "ignore", profile := false }
    catch e =>
      if e.kind == .missingInput then
        throw { e with message := e.message ++ "\nPlease pass this variable to the scan's inner function. Do not forget to also "
          ++ "pass it to the `non_sequences` attribute of scan." }
      else throw e
  compiled f

def buildLoop (r : LoopRequest) : M (Value × Value) := do
  let seqs <- wrapped r.sequences
  let stateValues <- wrapped r.states
  let mut others <- (<- wrapped r.others).mapM asVar
  let fixed <- match r.steps with
    | .int i => pure (some i)
    | .bool b => pure (some (if b then 1 else 0))
    | .float f =>
      if let some i := truncFloat f then pure (some i)
      else raise (if f.isNaN then .value else .overflow)
    | s => constantInt? s
  let given : Option DType <- match r.steps with
    | .var v => do pure (<- typeOf v).dtype?
    | .array a => pure (some a.dtype)
    | .number d _ => pure (some d)
    | _ => pure none
  if let some d := given then if !d.isInteger then failValue s!" n_steps must be an int. dtype provided is {d.name}"
  let seqs <- seqs.mapM readSequence
  let states <- stateValues.mapM readState
  -- sequences
  let sliced <- seqs.flatMapM fun q => sequenceSlices q r.backwards
  let open_ <- givesNoNumber r.steps
  let lengths <- sliced.mapM fun (s, _, _) => do shapeAt (<- asVar s) 0
  if lengths.isEmpty && open_ then
    failValue ("No information about the number of steps provided. Either provide a value for n_steps argument of scan or "
      ++ "provide an input sequence")
  let steps <- if open_ then (lengths.drop 1).foldlM (fun acc n => minimum acc (.var n)) (lengths.headD default)
    else asTensor r.steps
  let seqOperands <- sliced.mapM fun (s, _, _) => partOf s (.slice .null steps .null)
  let innerSeqs := sliced.map (·.2.1)
  -- states
  let mut tapped : List BuiltState := []
  let mut last : List BuiltState := []
  for (s, i) in states.zipIdx do
    match s.taps with
    | some [-1] => last := last ++ [<- lastValueState s i steps]
    | some (t :: ts) => tapped := tapped ++ [<- tappedState s (t :: ts) i steps]
    | _ => pure ()
  let single := fixed == some 1 || fixed == some (-1)
  let ordered := ((List.range states.length).filterMap fun i => (tapped ++ last).find? (·.target == .inl i)).flatMap
    fun b => if single then b.first else b.inner.map .var
  let args := (sliced.map fun (_, v, actual) => if single then actual else v) ++ ordered ++ others.map .var
  let argVars := args.filterMap Value.var?
  let mut probeArgs <- argVars.filterM isFree
  let step <- sortStepResult (<- r.fn args)
  if single then
    let outs <- step.outputs.mapM fun v => do
      if (<- typeOf v).isTensor then return Value.var (<- unbroadcast (<- padLeft v 1) [0]) else return v
    return (<- presented outs r.returnList, <- newDict step.updates)
  -- variables that the step takes from outside
  let outputs := step.outputs ++ step.condition.toList
  let stand <- others.mapM freshOf
  let shown <- substitute outputs (lastByKey (others.zip stand))
  let a <- getArena
  let loose := (a.graphInputs shown).filter fun v => !a.isShared v && !a.isConstant v
  let extra := loose.filter fun v => !(argVars ++ stand).contains v
  others := others ++ extra
  probeArgs := probeArgs ++ extra
  let f <- probeStep probeArgs outputs step.updates
  let count := step.outputs.length
  if count != states.length && !states.isEmpty then
    failValue ("Please provide None as outputs_info for any output that does not feed back into scan (i.e. it behaves like a "
      ++ "map) ")
  let states := if states.isEmpty then .replicate count {} else states
  let pick test := ((states.zip step.outputs).filter fun (s, _) => test s).map (·.2)
  let tappedOuts := pick fun s => s.keyed && s.taps != some [-1]
  let mut lastOuts := pick fun s => s.keyed && s.taps == some [-1]
  -- shared variables
  let mut givens : VarPairs := []
  let mut sharedOperands : Vars := []
  let mut sharedInner : Vars := []
  let mut sharedOuts : Vars := []
  for i in f.inputs do
    let (true, some u) := (<- isShared i.var, i.update) | pure ()
    let w <- freshLike i.var
    if let some n <- nameOf i.var then setName w (some s!"{n}_copy")
    if (<- typeOf w).isTensor then
      let operand <- expandEmpty (<- unbroadcast (<- padLeft i.var 1) [0]) steps
      lastOuts := lastOuts ++ [<- asTensor u]
      last := last ++ [{ operand, inner := [w], first := [], target := .inr i.var, taps := [-1] }]
    else
      sharedInner := sharedInner ++ [w]
      sharedOperands := sharedOperands ++ [i.var]
      sharedOuts := sharedOuts ++ [u]
    givens := givens ++ [(i.var, w)]
  let mapped := (states.zip step.outputs).zipIdx.filter fun ((s, _), _) => !s.keyed
  let mappedOuts := mapped.map (·.1.2)
  let otherOperands <- others.filterM isFree
  let otherInner <- otherOperands.mapM fun v => freshLike v "_copy"
  givens := givens ++ otherOperands.zip otherInner
  let given <- if r.strict && !r.others.isNull then iterate r.others else pure []
  let named := given.filterMap Value.var?
  let constantShared <- (f.inputs.filter (·.update.isNone)).filterM fun i => do
    if !(<- isShared i.var) then return false
    return !r.strict || named.contains i.var
  let constantOperands := constantShared.map (·.var)
  let constantInner <- constantOperands.mapM fun v => freshLike v "_copy"
  givens := givens ++ constantOperands.zip constantInner
  -- the loop
  let innerInputs := innerSeqs ++ tapped.flatMap (·.inner) ++ last.flatMap (·.inner) ++ sharedInner ++ constantInner ++ otherInner
  let innerOuts := tappedOuts ++ lastOuts ++ mappedOuts ++ sharedOuts ++ step.condition.toList
  let newOuts <- substitute innerOuts (lastByKey givens)
  let allowGc <- if r.allowGc.isNull then setting "scan__allow_gc" else pure r.allowGc
  let layout := {
    nSeqs := innerSeqs.length, taps := tapped.map (·.taps) ++ last.map fun _ => [-1],
    nMitSot := tapped.length, nSitSot := last.length, nShared := sharedInner.length, nNitSot := mappedOuts.length,
    asWhile := step.condition.isSome }
  let loop <- newLoop { inputs := innerInputs, outputs := newOuts, layout, truncate := r.truncate,
                        name := r.name.getD "scan_fn", mode := r.mode, profile := r.profile, allowGc, strict := r.strict }
  let operands := .var steps :: seqOperands ++ valuesOf ((tapped ++ last).map (·.operand) ++ sharedOperands
    ++ mappedOuts.map (fun _ => steps) ++ constantOperands ++ otherOperands)
  let operands <- operands.mapM fun v => do
    try return .var (<- asTensor v)
    catch e => if e.isA .type then return v else throw e
  let outs <- applyAll loop operands
  -- results in the caller's order
  let cutFrom v (k : Int) := getItem 40 v (.slice k .null .null)
  let tappedRows <- (tapped.zip (layout.outerMitSotOuts outs)).mapM fun (b, o) => do
    return (b.target, <- cutFrom o (-(LoopLayout.leastTap b.taps)))
  let lastRows <- (last.zip (layout.outerSitSotOuts outs)).mapM fun (b, o) => do return (b.target, <- cutFrom o 1)
  let mappedRows := (mapped.zip (layout.outerNitSotOuts outs)).map fun ((_, i), o) => (Sum.inl i, .var o)
  let mut updates := (sharedOperands.zip (layout.outerSharedOuts outs)).map fun (s, o) => (.var s, .var o)
  let rows : List ((Nat ⊕ VarId) × Value) := tappedRows ++ lastRows ++ mappedRows
  for (t, v) in rows do if let .inr s := t then updates := updates ++ [(.var s, <- partOf v (.int (-1)))]
  let results := (List.range states.length).filterMap fun i => rows.lookup (.inl i)
  let shown <- if results.isEmpty then pure .null else presented results r.returnList
  pure (shown, <- newDict updates)

end TensorGraph
