import TensorGraph.Loop.Op

/-! # Operators made of expressions -/

namespace TensorGraph

/-- How derivatives, one for each of some variables, are put together of what programs give. -/
structure Derivation where
  subjects : Vars
  byDefault : Vars -> M Value
  args : List Vars
  keepsDisconnected : Bool
  (what title wanted : String)

variable (d : Derivation) (g v : VarId) (id : Nat)

def graphOp : M GraphOp := do return (<- get).graphOps.getD id default

def modifyGraphOp (f : GraphOp -> GraphOp) : M Unit :=
  modify fun s => { s with graphOps := s.graphOps.modify id f }

def newGraphOp (ins outs : Vars) (x : GraphOp) : M Nat := do
  let shared <- ((<- getArena).graphInputs outs).filterM fun (v : VarId) => do return (<- sharedBox? v).isSome
  let stands <- shared.mapM freshOf
  let (inputs, results, _) <- rebuild { keepInputs := false } (valuesOf outs) (ins ++ stands)
    ((shared.zip stands).map fun (a, b) => (a, b)) []
  let made := { x with given := (ins, outs), inputs, outputs := results.filterMap Value.var?, shared }
  modifyGet fun s => (s.graphOps.size, { s with graphOps := s.graphOps.push made })

def graphOpNode (args : Values) : M NodeId := do
  let x <- graphOp id
  let own := x.inputs.length - x.shared.length
  if args.length != own then failValue s!"Expected {own} inputs, got {args.length}"
  let vs <- (args.zip x.inputs).mapM fun (a, v) => do
    let t <- typeOf v
    if let .var w := a then filterVariable t w else newConstant t (<- t.filter a)
  newNode (.fromGraph id) (vs ++ x.shared) (<- x.outputs.mapM typeOf)

def graphOpFunction : M Value := do
  let x <- graphOp id
  if !x.compiled.isNull then return x.compiled
  let f <- callValue (.api "function") [<- listOf x.inputs, <- listOf x.outputs] x.settings
  modifyGraphOp id fun x => { x with compiled := f }
  pure f

def graphOpShapes (n : NodeId) (shapes : Shapes) : M Shapes := do
  let x <- graphOp id
  let some found := (<- shapesBetween x.outputs x.inputs shapes).mapM fun s => s | badType
  let mut rest <- substitute found.flatten (x.inputs.zip (<- insOf n))
  let mut res := []
  for s in found do
    res := res ++ [some ((rest.take s.length).map .var)]
    rest := rest.drop s.length
  pure res

abbrev DerivativeOp := Nat × List (Option VarId)

namespace Derivation

def kept : M (VarId × Option VarId) := do
  let zeros := do if (<- typeOf v).isTensor then Tensor.zerosLike v else asTensor (.float 0)
  match <- typeOf g with
  | .null _ => pure (<- zeros, some g)
  | .disconnected => pure (<- zeros, if d.keepsDisconnected then some g else none)
  | _ => pure (g, none)

def given : M (VarId × Option VarId) := do
  match <- typeOf g with
  | .null _ | .disconnected => d.kept (<- freshOf g) v
  | t => failValue s!"Overriding Variable instance can only have type of DisconnectedType or NullType, got {t.text}"

def called (f : Value) : M Value := do
  match f with
  | .op _ => callValue f (valuesOf d.args.flatten) []
  | .lambda .. | .api _ | .method .. => callValue f (<- d.args.mapM listOf) []
  | f => failType s!"{d.wanted}, got {<- textOf f}"

def all (x : Value) : M (List (VarId × Option VarId)) := do
  let n := d.subjects.length
  let defaults vs := do return (<- itemsOf (<- d.byDefault vs)).filterMap Value.var?
  match x with
  | .str "default" => ((<- defaults d.subjects).zip d.subjects).mapM fun (g, v) => d.kept g v
  | .var g => d.subjects.mapM (d.given g)
  | .list c =>
    let items <- cellItems c
    if items.length != n then
      failWith .value [s!"'Need to override {n} {d.what}, got {items.length}'", <- reprOf x]
    let given := d.subjects.zip items
    let left := (given.filter fun (_, i) => i matches .str "default").map (·.1)
    let found := left.zip (<- if left.isEmpty then pure [] else defaults left)
    given.mapM fun (v, i) => do
      match i, found.lookup v with
      | .var g, _ => d.given g v
      | .str "default", some g => d.kept g v
      | f, _ =>
        let .var g <- d.called f | noAttr
        d.kept g v
  | f =>
    let r <- d.called f
    let .list c := r | failType s!"{d.title} overriding function should return a list, got \"{<- classTextOf r}\""
    let gs := (<- cellItems c).filterMap Value.var?
    if gs.length < n then failValue s!"{d.title} overriding function should return list of {n} outputs, got {gs.length}"
    (gs.zip d.subjects).mapM fun (g, v) => d.kept g v

def operator (x : GraphOp) (given : Value) (ins : Vars) (ending : String) : M DerivativeOp := do
  let found <- d.all given
  let name := x.name.map (· ++ ending)
  let id <- newGraphOp ins (found.map (·.1)) { inline := x.inline, name, settings := [("on_unused_input", "ignore")] }
  return (id, found.map (·.2))

end Derivation

def pullOperator : M DerivativeOp := do
  let x <- graphOp id
  if let some r := x.pulled then return r
  let r <- routineWithoutTests "pull" do
    if let .op (.fromGraph k) := x.pull then
      let needed := x.inputs.length + (if x.ofGrads then 1 else 2) * x.outputs.length
      let there := (<- graphOp k).inputs.length
      if needed != there then failValue s!"expect overrider with {needed} inputs, got {there}"
      if !x.ofGrads then
        modifyGraphOp k fun y => { y with settings := alistSet "on_unused_input" "ignore" y.settings }
        return (k, x.inputs.map fun _ => none)
    let gs <- x.outputs.mapM freshOf
    let known <- newRecord "OrderedDict" [("items", <- newDict ((x.outputs.zip gs).map fun (a, b) => (a, b)))]
    let d : Derivation := {
      subjects := x.inputs
      byDefault := fun wrt => do
        callValue (.api "grad") [.null, <- listOf wrt] [("disconnected_inputs", "ignore"),
          ("return_disconnected", "Disconnected"), ("null_gradients", "return"), ("known_grads", known)]
      args := if x.ofGrads then [x.inputs, gs] else [x.inputs, x.outputs, gs]
      keepsDisconnected := true, what := "gradients", title := "Gradient/L_op"
      wanted := "L_op/gradient override should be (single or list of)'default' | OpFromGraph | callable | Variable "
        ++ "with NullType or DisconnectedType" }
    d.operator x x.pull (x.inputs ++ x.outputs ++ gs) (if x.ofGrads then "_grad" else "_lop")
  modifyGraphOp id fun x => { x with pulled := some r, ofGrads := false }
  pure r

def pushOperator : M DerivativeOp := do
  let x <- graphOp id
  if let some r := x.pushed then return r
  let r <- routineWithoutTests "push" do
    if let .op (.fromGraph k) := x.push then return (k, x.outputs.map fun _ => none)
    let points <- x.inputs.mapM freshOf
    let d : Derivation := {
      subjects := x.outputs
      byDefault := fun outs => do
        callValue (.api "Rop") [<- listOf outs, <- listOf x.inputs, <- listOf points] []
      args := [x.inputs, points], keepsDisconnected := false, what := "Rop", title := "Rop"
      wanted := "R_op overrides should be (single or list of)OpFromGraph | 'default' | None | 0 | callable" }
    d.operator x x.push (x.inputs ++ points) "_rop"
  modifyGraphOp id fun x => { x with pushed := some r }
  pure r

def applyDerivative (p : DerivativeOp) (args : Vars) : M Vars := do
  return ((<- applyAll (.fromGraph p.1) (valuesOf args)).zip p.2).map fun (v, s) => s.getD v

def graphOpConnections : M Links := do
  let x <- graphOp id
  if !x.pattern.isNull then return <- (<- iterate x.pattern).mapM fun row => do (<- iterate row).mapM truthOf
  let own <- connectionsBetween x.inputs x.outputs
  let (k, stands) <- pullOperator id
  let y <- graphOp k
  let back <- connectionsBetween (y.inputs.drop x.inputs.length) y.outputs
  (own.zip stands).zipIdx.mapM fun ((row, s), i) => do
    let cut <- if let some g := s then pure ((<- typeOf g) matches .disconnected) else pure false
    return row.zipIdx.map fun (b, o) => (b && !cut) || (back.getD o []).getD i false

end TensorGraph
