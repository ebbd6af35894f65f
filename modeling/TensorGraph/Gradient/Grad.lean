import TensorGraph.Gradient.Flow
import TensorGraph.Tensor.ConstantValue

/-! # Gradients of expressions -/

namespace TensorGraph.Gradient

open Tensor

/-- What is asked. -/
structure Request where
  cost : Option VarId
  wrt : Vars
  constants : Vars := []
  disconnected : String := "raise"
  addNames : Bool := true
  known : VarPairs := []
  returned : String := "zero"
  nulls : String := "raise"

variable (r : Request) (v : VarId) (name : String)

def ndim? : M (Option Nat) := do
  match <- typeOf v with
  | .tensor _ b _ => return some b.length
  | .scalar _ => return some 0
  | .sparse .. => return some 2
  | _ => pure none

def isNull : M Bool := do
  let .null _ <- typeOf v | pure false
  pure true

def isDisconnected : M Bool := do return (<- typeOf v) == .disconnected
def dtype? : M (Option DType) := do return (<- typeOf v).dtype?

def methodVar (args : Values) (kw : Kw := []) : M VarId := do
  let .var r <- callMethod v name args kw | noAttr
  pure r

def astype (v : VarId) (d : DType) : M VarId := methodVar v "astype" [d.name]

def floatZeros : M VarId := do
  let r <- methodVar v "zeros_like" []
  if (<- dtypeOf r).isFloat then return r
  astype r (<- floatX)

def floatOnes : M VarId := do
  let some d <- dtype? v | noAttr
  let d <- if d.isFloat then pure d else floatX
  methodVar v "ones_like" [] [("dtype", d.name)]

def testValues (vs : Vars) : M (Option Values) := do
  let level <- settingText "compute_test_value"
  if level == "off" then return none
  let mut out := []
  for (v, i) in vs.zipIdx do
    let found <- try
        pure (some (<- testValue v))
      catch e => if e.isA .testValue then pure none else throw e
    match found with
    | some x => out := out ++ [x]
    | none =>
      if level == "raise" then
        let called := if let some s := (<- varInfo v).name then s!" ('{s}')" else ""
        fail .testValue s!"Argument {i}{called} has no test value"
      return none
  return some out

def testShapes (a b : VarId) : M (Option (String × String)) := do
  let shapeText v := do
    match v with
    | .array x => return x.shape
    | .number .. => return []
    | _ => noAttr
  let some [x, y] <- testValues [a, b] | pure none
  let s <- shapeText x
  let t <- shapeText y
  let shown l := tupleText (l.map toString)
  return if s == t then none else some (shown s, shown t)

/-- Whether a gradient is known to be zero. -/
inductive Zero
  | yes | no | maybe

def Zero.text : Zero -> String
  | yes => "yes" | no => "no" | maybe => "maybe"

def isZero : M Zero := do
  if <- isNull v then return .no
  if <- isDisconnected v then return .yes
  let some _ <- valueOf? v | pure .maybe
  return if <- isConstantNumber v 0 then .yes else .no

def onDisconnected (choice : String) : M Unit := do
  if choice == "ignore" || choice == "warn" then pure ()
  else if choice == "raise" then fail (.named "DisconnectedInputError") ""
  else failValue "Invalid value for keyword 'disconnected_inputs', valid values are 'ignore', 'warn' and 'raise'."

def dataflow (a : Arena) : Flow.Dataflow VarId NodeId :=
  { maker := fun v =>
      let i := a.vars.getD v.idx default
      i.owner.map fun n => (n, i.index)
    inputs := fun n => (a.nodes.getD n.idx default).inputs.toList
    outputs := fun n => (a.nodes.getD n.idx default).outputs.toList
    pattern := connectionsOf }

def protectedInputs (n : NodeId) : M Vars := do
  let ins <- insOf n
  let overwritten := (<- opOf n).destroyMap.filterMap fun (_, l) => (l.head?).bind fun i => ins[i]?
  ins.mapM fun v => do if overwritten.contains v && (<- typeOf v).isTensor then methodVar v "copy" [] else pure v

def gradsInKind (outs gs : Vars) : M Vars := do
  let out <- (outs.zip gs).mapM fun (o, g) => do
    match <- dtype? o, <- dtype? g with
    | some d, some e => if !d.isDiscrete && d != e then astype g d else return g
    | none, some _ => badType
    | _, none => return g
  for g in out do
    let some d <- dtype? g | pure ()
    check (!d.isDiscrete)
  for (o, g) in outs.zip out do
    let measured <- match <- typeOf o with
      | .tensor .. | .sparse .. => pure true
      | _ => pure false
    if measured && !(<- isDisconnected g) then
      let some (s, t) <- testShapes o g | pure ()
      failValue s!"Got a gradient of shape {s} on an output of shape {t}"
  pure out

def checkTerm (input term : VarId) (i : Nat) (onlyNull onlyDiscrete : Bool) : M Unit := do
  let measured <- match <- typeOf term with
    | .tensor .. | .sparse .. => pure true
    | _ => pure false
  if measured then
    let some (s, t) <- testShapes input term | pure ()
    failValue s!"{name}.grad returned object of shape {t} as gradient term on input {i} of shape {s}"
  if (<- isNull term) || (<- isDisconnected term) then return
  match <- dtype? term with
  | none => noAttr
  | some d =>
    if !d.isFloat then
      failType s!"{name}.grad illegally  returned an integer-valued variable. (Input index {i}, dtype {d.name})"
  check (!onlyNull)
  if onlyDiscrete then
    let .no <- isZero term | pure ()
    failValue (name ++ ".grad returned " ++ (<- varText term) ++ s!" of type {<- classTextOf term}"
      ++ " for input " ++ toString i ++ ". Since this input is only connected to integer-valued outputs, it should "
      ++ s!"evaluate to zeros, but it evaluates to{<- textOf (<- constantValue term)}.")

/-- What is known of the outputs of a node and of their gradients. -/
structure OutputInfo where
  /-- which gradients there are -/
  here : List Bool
  /-- which gradients are undefined -/
  null : List Bool
  /-- which outputs are discrete -/
  discrete : List Bool

def outputInfo (outs gs : Vars) : M OutputInfo := do
  let here <- gs.mapM fun g => do return !(<- isDisconnected g)
  let null <- gs.mapM isNull
  return ⟨here, null, (<- outs.mapM fun v => do return (<- dtype? v).any (·.isDiscrete))⟩

namespace OutputInfo

variable (x : OutputInfo) (row : List Bool)

/-- Whether an input with a row of the pattern is connected with an output of a kind that has a gradient. -/
def along (kind : Nat -> Bool) : Bool := row.zipIdx.any fun (b, j) => b && x.here.getD j false && kind j

def connected : Bool := x.along row fun _ => true
def onlyNull : Bool := !x.along row fun j => !x.null.getD j false
def onlyDiscrete : Bool := !x.along row fun j => !x.discrete.getD j false

end OutputInfo

variable (n : NodeId) (g : VarId)

/-- The terms that an operator gives, and the inputs that it was given for it. -/
def pulledTerms (pattern : Links) (gs : Vars) (x : OutputInfo) : M (Vars × Vars) := do
  let ins <- insOf n
  let connected := pattern.map x.connected
  if !connected.contains true then return (ins, <- ins.mapM fun _ => newVar .disconnected)
  if !(pattern.map x.onlyNull).contains false then
    return (ins, <- connected.mapM fun b => newVar (if b then .null "(no explanation given)" else .disconnected))
  let o <- opOf n
  let outs <- outsOf n
  let ins <- protectedInputs n
  let gs <- gradsInKind outs gs
  let terms <- M.ask fun k => k.pullback o ins outs gs
  if terms.length != ins.length then failValue s!"{<- opText o} returned the wrong number of gradient terms."
  pure (ins, terms)

/-- A term that is connected with an undefined gradient is undefined. -/
def markNull (gs : Vars) (x : OutputInfo) (term : VarId) (row : List Bool) : M VarId :=
  gs.zipIdx.foldlM (fun t (g, j) => do
    if x.null.getD j false && row.getD j false && !(<- isDisconnected t) then return g else return t) term

def checkConnected (given expected : Bool) (i : Nat) (t : VarId) : M Unit := do
  let there := !(<- isDisconnected t)
  if there && !expected then
    failType (name ++ ".grad returned " ++ (<- varText t) ++ s!" of type {<- typeText t}" ++ " for input "
      ++ toString i ++ ". Expected DisconnectedType instance based on  the output of the op's connection_pattern method.")
  if expected && !there && given then
    failType s!"{name}.grad returned DisconnectedType for input {i}. Its connection_pattern method does not allow this."

def nodeTerms (gs : Vars) : M Vars := do
  let name <- opText (<- opOf n)
  let outs <- outsOf n
  let given <- connections? n
  let pattern <- connectionsOf n
  let x <- outputInfo outs gs
  let (ins, terms) <- pulledTerms n pattern gs x
  let terms <- (terms.zip pattern).mapM fun (t, row) => markNull gs x t row
  for (t, i) in terms.zipIdx do
    let row := pattern.getD i []
    checkTerm name (ins.getD i default) t i (x.onlyNull row) (x.onlyDiscrete row)
  for (t, i) in terms.zipIdx do checkConnected name given.isSome (x.connected (pattern.getD i [])) i t
  pure terms

def gather (costName : Option String) (v : VarId) (terms : List (NodeId × VarId)) : M VarId := do
  let mut nulls := []
  let mut sum := none
  for (n, t) in terms do
    if <- isNull t then nulls := nulls ++ [t]
    else if !(<- isDisconnected t) then
      match <- ndim? v, <- ndim? t with
      | some k, some j =>
        if j != k then
          failValue s!"{<- opText (<- opOf n)}.grad returned a term with {j} dimensions, but {k} are required."
      | some _, none => noAttr
      | none, _ => pure ()
      sum <- match sum with
        | none => pure (some t)
        | some s => match <- operate .add s t with
          | .var r => pure (some r)
          | _ => badType
  let g <- match nulls, sum with
    | z :: _, _ => pure z
    | [], some s => pure s
    | [], none => newVar .disconnected
  match costName, (<- varInfo v).name with
  | some c, some x => setName g (some s!"(d{c}/d{x})")
  | _, _ => pure ()
  pure g

/-- The gradient of the cost by itself. -/
def costGrad (c : VarId) : M VarId := do
  let g <- if let some g := r.known.lookup c then pure g else floatOnes c
  let g <- match <- dtype? g, <- dtype? c with
    | some _, some d => if d.isContinuous then astype g d else pure g
    | some _, none => noAttr
    | none, _ => pure g
  if let some d <- dtype? g then check d.isContinuous
  pure g

def startGrads : M VarPairs := do
  let mut start <- match r.cost with
    | none => pure []
    | some c => do pure [(c, <- costGrad r c)]
  for (v, g) in r.known do
    if !((<- isNull g) || (<- isDisconnected g)) then
      let some d <- dtype? g | noAttr
      if !d.isFloat then
        failType
          s!"Gradients must always be NullType, DisconnectedType, or continuous, but grad was given a known_grad of type {<- typeText g}"
    start := (start.filter fun (w, _) => w != v) ++ [(v, g)]
  pure start

def checkCost : M Unit := do
  let some c := r.cost | return
  if let .null why <- typeOf c then failValue s!"Can't differentiate a NaN cost.cost is NaN because {why}"
  match <- ndim? c with
  | some 0 => pure ()
  | some _ => failType "cost must be a scalar."
  | none => noAttr

/-- Variables from which nothing flows to the cost start with a disconnected gradient. -/
def startDisconnected (used : VarId -> Bool) (start : VarPairs) : M VarPairs :=
  r.wrt.foldlM (fun start v => do
    if used v || some v == r.cost || (start.lookup v).isSome then return start
    onDisconnected r.disconnected
    return start ++ [(v, <- newVar .disconnected)]) start

def costName : M (Option String) := do
  let some c := r.cost | pure none
  if r.addNames then return (<- varInfo c).name else pure none

def checkFloat : M Unit := do
  let some d <- dtype? g | return
  check d.isFloat

def backprop (a : Arena) (uses : VarMap (List (NodeId × List Nat))) (cost : Option String) :
    Flow.Backprop VarId NodeId VarId :=
  { uses := fun v => uses[v]?
    outputs := (dataflow a).outputs
    terms := nodeTerms
    gather := gather cost
    absent := fun _ => newVar .disconnected }

/-- What is returned for a variable with a gradient. -/
def answer : M (Option VarId) := do
  match <- typeOf g with
  | .null why =>
    if r.nulls == "raise" then fail (.named "NullTypeGradError") s!"theano.tensor.grad encountered a NaN. {why}"
    check (r.nulls == "return")
    return some g
  | .disconnected =>
    onDisconnected r.disconnected
    if r.returned == "zero" then return some (<- floatZeros v)
    if r.returned == "None" then return none
    check (r.returned == "Disconnected")
    return some g
  | _ => return some g

def run : M (List (Option VarId)) := do
  checkCost r
  let a <- getArena
  let fuel := a.weight + 2
  let uses <- (dataflow a).uses fuel (r.cost.toList ++ r.known.map (·.1)) r.wrt r.constants.contains
  let start <- startDisconnected r uses.contains (<- startGrads r)
  let cost <- costName r
  for (_, g) in start do checkFloat g
  let (gs, _) <- (backprop a uses cost).gradients fuel r.wrt { grads := .ofList start }
  (r.wrt.zip gs).mapM fun (v, g) => answer r v g

def ofCost (cost wrt : VarId) (constants : Vars := []) (disconnected : String := "raise") : M VarId := do
  let [some g] <- run { cost := some cost, wrt := [wrt], constants, disconnected } | badValue
  pure g

/-! ## Derivatives along a direction -/

abbrev Pushed := List (NodeId × List (Option VarId))

def directionFor (x : VarId) (y : Value) : M VarId := do
  let y <- asVariable y
  let t <- typeOf x
  let y <- try filterVariable t y
    catch e =>
      if !e.isA .type then throw e
      filterVariable t (<- cast y (<- dtypeOf x))
  check ((<- typeOf y) == t)
  pure y

def push (wrt : Vars) (points : Values) : Nat -> NodeId -> Pushed -> M Pushed
  | 0, _, _ => outOfFuel
  | fuel + 1, n, s => do
    let ins <- insOf n
    let mut s := s
    let mut locals := []
    for x in ins do
      match wrt.findIdx? (· == x) with
      | some k => locals := locals ++ [some (points.getD k .null)]
      | none =>
        match <- ownerOf x with
        | none =>
          locals := locals ++ [(<- attempt (methodVar x "zeros_like" [])).map .var]
        | some m =>
          if (s.lookup m).isNone then s <- push wrt points fuel m s
          locals := locals ++ [(((s.lookup m).getD []).getD (<- varInfo x).index none).map .var]
    let directions <- (ins.zip locals).mapM fun (x, y) => if let some y := y then do return some (<- directionFor x y)
      else return none
    let o <- opOf n
    return (n, <- M.ask fun k => k.pushforward o ins directions) :: s

def along (f wrt : Vars) (points : Values) (disconnected returned : String) : M Values := do
  check (wrt.length == points.length)
  for ((x, y), i) in (wrt.zip points).zipIdx do
    let y <- asVariable y
    let (some a, some b) := (<- ndim? x, <- ndim? y) | pure ()
    if a != b then failValue s!"Element {i} of wrt/eval_point have mismatched dimensionality: {a} versus {b}"
  let fuel := (<- getArena).weight + 2
  let mut s := []
  for v in f do
    let some n <- ownerOf v | pure ()
    s <- push wrt points fuel n s
  f.mapM fun v => do
    match wrt.findIdx? (· == v) with
    | some k => return points.getD k .null
    | none =>
      let i <- varInfo v
      match (i.owner.bind fun n => ((s.lookup n).getD []).getD i.index none) with
      | some r => pure r
      | none =>
        onDisconnected disconnected
        let kind := returned.toLower
        if kind == "zero" then return <- zerosLike v
        if kind == "none" then return .null
        if kind == "disconnected" then return <- newVar .disconnected
        failValue ("Invalid value for keyword 'return_disconnected', valid values are 'zero', 'None' and "
          ++ "'Disconnected'.")

end TensorGraph.Gradient
