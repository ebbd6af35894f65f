import TensorGraph.Graph.Change
import TensorGraph.Tensor.Index

/-!
# The shapes of the variables of a graph

Shapes are built from those of the operands, as expressions, and kept up to date as a graph changes.
-/

namespace TensorGraph

def SparseOp.hasShapes : SparseOp -> Bool
  | .csmProperties | .getItem2Lists | .getItem2d | .usmm | .structuredDotCSC | .structuredDotCSR | .usmmCscDense _
  | .csmGradC | .mulSDCSC | .mulSDCSR | .mulSVCSR | .structuredAddSVCSR | .samplingDotCSR => false
  | _ => true

def LinalgOp.hasShapes : LinalgOp -> Bool
  | .matrixPinv | .qrFull _ | .qrIncomplete _ | .lstsq | .tensorSolve _ | .hint _ => false
  | _ => true

/-- Whether an operator knows the shapes of its results. -/
def opHasShapes (o : Op) : M Bool := do
  match o with
  | .elemwise .. | .dimShuffle .. | .reduce _ | .view | .outputGuard | .considerConstant | .zeroGrad
  | .undefinedGrad | .disconnectedGrad | .gradClip .. | .gradScale .. | .shape | .shapeI _ | .rebroadcast _
  | .specifyShape | .tensorFromScalar | .scalarFromTensor | .maxAndArgmax _ | .argmax _ | .tri _ | .eye _ | .alloc
  | .allocEmpty _ | .split _ | .join _ | .reshape .. | .flatten _ | .tile _ | .arange _ | .permuteRowElements
  | .dot | .extractDiag .. | .allocDiag .. | .makeVector _ | .assert _ | .subtensor _
  | .incSubtensor .. | .advSubtensor1 _ | .advIncSubtensor1 .. | .advSubtensor | .advIncSubtensor .. => pure true
  | .cumOp .. | .repeatOp _ | .fillDiagonal | .fillDiagonalOffset => pure true
  | .blas _ | .scan .. | .ifElse .. | .fromGraph _ | .breakpoint _ => pure true
  | .sparse s => pure s.hasShapes
  | .linalg l => pure l.hasShapes
  | .net (.ctc _) => pure false
  | .net _ => pure true
  | .fromFunction id => return !((<- get).functionOps.getD id default).inferShape.isNull
  | _ => pure false

end TensorGraph

namespace TensorGraph.Shapes

open Tensor

variable (g : GraphId) (f : FeatureId) (v : VarId) (n : NodeId)

def state : M ShapeState := do
  let .shapes s <- feature f | noAttr
  pure s

def modifyState (h : ShapeState -> ShapeState) : M Unit := do setFeature f (.shapes (h (<- state f)))
def of? : M (Option FeatureId) := ability? g "shape_feature"

def shapeOf : M (Option Vars) := do
  let some s := (<- state f).shapes[v]? | badKey
  pure s

def knows : M Bool := do return (<- state f).shapes.contains v

def lengthAt (i : Int) : M VarId := do
  let some l <- shapeOf f v | badType
  let k := placeOf l.length i
  if k < 0 then badIndex
  let some x := l[k.toNat]? | badIndex
  pure x

def askLength (one : VarId) (i : Nat) (v : VarId) : M Value := do
  if ((<- typeOf v).bcast?.getD []).getD i false then return one
  let s <- apply1 (.shapeI i) [v]
  let some c <- valueOf? s | pure s
  pure c

def askShape (one v : VarId) : M (Option Values) := do
  let some n := (<- typeOf v).ndim? | pure none
  return some (<- (List.range n).mapM fun i => askLength one i v)

def askShapes : M Shapes := do
  let one := (<- state f).one
  (<- outsOf n).mapM (askShape one)

def inferred : M Shapes := do
  let g := (<- state f).graph.getD default
  let o <- opOf n
  if !(<- opHasShapes o) then return <- askShapes f n
  let shapes <- (<- insOf n).mapM fun v => do return (<- shapeOf f v).map fun l => l.map .var
  try
    M.ask fun k => k.inferShape g n shapes
  catch e =>
    if e.kind == .shape then askShapes f n
    else if e.kind == .notImplemented then
      cannot ("Code called by infer_shape failed raising a NotImplementedError. Raising NotImplementedError to "
        ++ "indicate that a shape cannot be computed is no longer supported, and one should now use tensor.ShapeError "
        ++ "instead. The original exception message is: " ++ e.message)
    else if (<- settingText "on_shape_error") == "raise" then
      fail (.named "Exception") s!"Failed to infer_shape from Op {<- opText o}."
    else askShapes f n

def unpack (x : Value) : M VarId := do
  let whole i := do
    if i == 1 then return (<- state f).one
    if i < 0 then fail .assertion "There is a negative shape in the graph!"
    elemConstant .int64 (.int i)
  match x with
  | .int i => whole i
  | .bool b => whole (if b then 1 else 0)
  | .float y =>
    let some i := truncFloat y | badValue
    if y == y.floor then whole i else noAttr
  | .number _ e => whole e.toInt
  | .array a => if a.shape.isEmpty then whole a.item.toInt else noAttr
  | .tuple _ | .list _ => raise .notImplemented
  | .var s =>
    let s <- match <- made? s with
      | some (.subtensor idx, src :: rest) =>
        match <- made? src with
        | some (.shape, [v]) =>
          check ((<- ndimOf s) == 0)
          check (idx.length == 1)
          match rest with
          | [i] => if let some i <- constantInt? i then lengthAt f v i else pure s
          | _ => pure s
        | _ => pure s
      | _ => pure s
    let t <- typeOf s
    let some d := t.dtype? | noAttr
    if d.isInteger then
      if (t.ndim?.getD 0) > 0 then failWith .type ["'Shape element must be scalar'", <- varText s]
      pure s
    else failWith .type ["'Unsupported shape element'", <- varText s, "<class '>", <- typeText s]
  | _ => noAttr

def noteUse (l : Vars) : M Unit :=
  modifyState f fun s => { s with usedBy := l.foldl (fun m x => m.insert x ((m.getD x ∅).insert v)) s.usedBy }

def put (l : Option Vars) : M Unit :=
  modifyState f fun s => { s with shapes := s.shapes.insert v l }

def setShape (s : Option Values) : M Unit := do
  match s with
  | none => put f v none
  | some l =>
    let t <- typeOf v
    let some n := t.ndim? | noAttr
    if n != l.length then
      fail .assertion s!"Something inferred a shape with {l.length} dimensions for a variable with {n} dimensions for the variable:"
    let b := t.bcast?.getD (.replicate n false)
    let one := (<- state f).one
    let vars <- (l.zip b).mapM fun (x, b) => if b then pure one else unpack f x
    put f v (some vars)
    noteUse f v vars

def ensureKnown : M Unit := do
  if !(<- knows f v) then setShape f v (<- askShape (<- state f).one v)

def isOne (onlyConstants : Bool := false) : M Bool := do
  let one := (<- state f).one
  let a <- getArena
  if a.isConstant v && a.sameConstants one v then return true
  match <- valueOf? v true onlyConstants with
  | some (.array x) => return x.shape.isEmpty && x.dtype == .int64 && x.item == .int 1
  | some (.number d e) => return d == .int64 && e == .int 1
  | _ => pure false

def update (v other : VarId) : M Unit := do
  if !(<- knows f other) then unmet
  match <- shapeOf f other with
  | none => pure ()
  | some theirs =>
    if !(<- knows f v) then setShape f v (some (valuesOf theirs))
    else
      let mine <- shapeOf f v
      let same <- match <- ownerOf other, <- ownerOf v with
        | some m, some n => do pure ((<- insOf m) == (<- insOf n) && (<- opOf m) == (<- opOf n))
        | _, _ => pure false
      if same then return
      let merged <- theirs.zipIdx.mapM fun (ps, i) => do
        let some mine := mine | return ps
        let r := mine.getD i default
        let asked <- if let some (.shapeI j, [x]) := <- made? ps then pure (j == i && (x == v || x == other))
          else pure false
        if asked then return r
        if <- isConstant r then return r
        if <- isConstant ps then return ps
        if ps == r then return r
        if ((<- getArena).ancestors [ps]).contains r then return r
        return ps
      let bv := (<- typeOf v).bcast?
      let bo := (<- typeOf other).bcast?
      match bv with
      | some bv =>
        for (b, i) in bv.zipIdx do
          if b || (bo.getD []).getD i false then check (<- isOne f (merged.getD i default) true)
      | none => pure ()
      put f v (some merged)
      noteUse f v merged

def setLength (i : Nat) (x : VarId) : M Unit := do
  let some old <- shapeOf f v | badType
  let l := old.set i (<- unpack f x)
  match (<- typeOf v).bcast? with
  | some bs =>
    for (b, j) in bs.zipIdx do if b then check (<- isOne f (l.getD j default))
  | none => pure ()
  put f v (some l)
  noteUse f v l

def onImport : M Unit := do
  let ins <- insOf n
  let outs <- outsOf n
  if <- knows f (outs.headD default) then
    for v in outs ++ ins do check (<- knows f v)
    return
  for v in ins do ensureKnown f v
  let shapes <- inferred f n
  if shapes.length != outs.length then
    fail (.named "Exception") ("The infer_shape method for the Op \"" ++ (<- opText (<- opOf n)) ++ "\" returned a list "
      ++ "with the wrong number of element: len(o_shapes) = " ++ toString shapes.length ++ "  != len(node.outputs) = "
      ++ toString outs.length)
  let widen d := do
    match d with
    | .var x =>
      match (<- typeOf x).dtype? with
      | some .int64 | none => return d
      | some t =>
        check (t.isDiscrete && t != .uint64)
        let some c <- constant? x | cast x .int64
        let some a <- numericArray? c | return d
        arrayConstant (a.cast .int64)
    | d => return d
  for (v, s) in outs.zip shapes do if let some l := s then setShape f v (some (<- l.mapM widen)) else setShape f v none

def learn (f : FeatureId) : Nat -> NodeId -> M Unit
  | 0, _ => outOfFuel
  | fuel + 1, n => do
    if <- (<- outsOf n).anyM (knows f) then return
    for v in <- insOf n do if let some m <- ownerOf v then learn f fuel m
    onImport f n

def onChange (c : Client) (i : Nat) (old new : VarId) : M Unit := do
  if !(<- knows f new) then ensureKnown f new
  update f new old
  for (cl, _) in (<- graph g).clients.getD old [] ++ [(c, i)] do
    match cl with
    | .node m =>
      let .shapeI k <- opOf m | pure ()
      let l <- lengthAt f new k
      let src := (<- insOf m).headD default
      let itself <- match <- ownerOf l with
        | some o =>
          if o == m then pure true
          else match <- opOf o, <- insOf o with
            | .shapeI j, x :: _ => pure (x == src && j == k)
            | _, _ => pure false
        | none => pure false
      if !itself then
        let out := (<- outsOf m).headD default
        if ((<- getArena).ancestors [l]).contains out then
          fail .inconsistency ("This substitution would insert a cycle in the graph:node: "
            ++ (<- match c with
                | .node x => nodeText x
                | .output => pure "output")
            ++ s!", i: {i}, r: {<- varText old}" ++ ", new_r: " ++ (<- varText new))
        modifyState f fun s => { s with scheduled := s.scheduled.insert m new }
    | .output => pure ()
  modifyState f fun s => { s with scheduled := s.scheduled.filter fun _ v => v != old }
  let users := ((<- state f).usedBy.getD old ∅).toList
  for v in users do
    let some (some l) := (<- state f).shapes[v]? | pure ()
    for (x, k) in l.zipIdx do if x == old then setLength f v k new
  modifyState f fun s => { s with usedBy := s.usedBy.insert old ∅ }

def attach : M Unit := do
  if (<- state f).graph.isSome then failValue "This ShapeFeature is already attached to a graph"
  modifyState f fun s => { s with graph := some g }
  if (<- of? g).isSome then failValue "This FunctionGraph already has a ShapeFeature"
  lend g ["shape_feature"] f
  let one <- elemConstant .int64 (.int 1)
  setFeature f (.shapes { graph := some g, one })
  for n in <- graphToposort g do onImport f n

def detach : M Unit := do
  setFeature f (.shapes {})
  withdraw g ["shape_feature"]

def observe (e : Event) : M Unit := do
  match e with
  | .attached _ => attach g f
  | .detached _ => detach g f
  | .imported n _ => onImport f n
  | .changed c i old new _ => onChange g f c i old new
  | _ => pure ()

def getLength (f : FeatureId) : Nat -> VarId -> Nat -> M VarId
  | 0, _, _ => outOfFuel
  | fuel + 1, v, i => do
    let g := (<- state f).graph.getD default
    let stale x := do
      let some (.shapeI _, [y]) <- made? x | return false
      return !(<- graph g).vars.contains y
    if <- stale (<- lengthAt f v i) then
      let some n <- ownerOf v | unmet
      for x in <- insOf n do
        let some k := (<- typeOf x).ndim? | badType
        if k > 0 then let _ <- getLength f fuel x 0
      let shapes <- inferred f n
      let outs <- outsOf n
      check (shapes.length == outs.length)
      for (new, out) in shapes.zip outs do
        let (some _, some old) := ((<- typeOf out).ndim?, <- shapeOf f out) | pure ()
        let flags <- old.mapM stale
        if flags.any id then
          let merged := (old.zip flags).zipIdx.map fun ((x, b), j) =>
            if b then (new.getD []).getD j x else x
          setShape f out (some merged)
    lengthAt f v i

def same (x y : VarId) (dx dy : Option Nat := none) : M Bool := do
  let (some sx, some sy) := (<- shapeOf f x, <- shapeOf f y) | pure false
  let sx := if let some i := dx then [sx.getD i default] else sx
  let sy := if let some i := dy then [sy.getD i default] else sy
  check (sx.length == sy.length)
  (sx.zip sy).allM fun (a, b) => do
    if a == b then return true
    let (some (.shapeI i, [u]), some (.shapeI j, [w])) := (<- made? a, <- made? b) | pure false
    if i != j then return false
    if u == w then return true
    return (<- getArena).equalComputations [a] [b] [] []

end TensorGraph.Shapes
