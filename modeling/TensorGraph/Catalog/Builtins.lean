import TensorGraph.Kernel

/-! # Built-in functions of programs -/

namespace TensorGraph

variable (v : Value)

def lengthOf : M Nat := do
  match v with
  | .tuple xs => pure xs.length
  | .list c | .set c | .orderedSet c | .dict c => return (<- cellItems c).length
  | .str s => pure s.length
  | .bytes b => pure b.length
  | .array ⟨_, n :: _, _, _⟩ | .objects (n :: _) _ => pure n
  | .record _ | .pass _ | .function _ | .var _ | .type _ | .database _ =>
    let .int i <- callSign v "__len__" [] | badType
    pure i.toNat
  | _ => badType

def isSame (a b : Value) : Bool :=
  match a, b with
  | .bool x, .bool y | .int x, .int y => x == y
  | .array x, .array y => x.region == y.region && x.region != 0
  | .bool _, _ | _, .bool _ | .int _, _ | _, .int _ | .array _, _ | _, .array _ => false
  | a, b => a.isKey b

def setItem (v i x : Value) : M Unit := do
  match v with
  | .list c =>
    let xs <- cellItems c
    let k := placeOf xs.length (<- intArg i)
    if k < 0 || k >= xs.length then badIndex
    setCell c (.seq (xs.toArray.setIfInBounds k.toNat x))
  | .dict c =>
    let ps <- cellPairs c
    if ps.any fun p => p.1.isKey i then setCell c (.map (ps.map fun p => if p.1.isKey i then (p.1, x) else p).toArray)
    else setCell c (.map (ps ++ [(i, x)]).toArray)
  | v =>
    let _ <- callSign v "__setitem__" [i, x]

def containsValue (x v : Value) : M Bool := do
  match v with
  | .str s =>
    let .str t := x | badType
    return (s.splitOn t).length > 1 || t.isEmpty
  | .dict c | .set c | .orderedSet c => return (<- cellItems c).any (·.isKey x)
  | .list _ | .tuple _ | .array _ => (<- iterate v).anyM fun y => do
      match <- operate .eq y x with
      | .bool b => return b || isSame y x
      | r => truthOf r
  | .graph g =>
    match x with
    | .var v => return (<- graph g).vars.contains v
    | .node n => return (<- graph g).nodes.contains n
    | _ => failType ""
  | v =>
    let some r <- attempt (callMethod v "__contains__" [x]) | badType
    truthOf r

def intValue : M Int := do
  match v with
  | .int i => pure i
  | .bool b => return b.toInt
  | .float x => ofElem (.flt x)
  | .str s => if let some i := s.trimAscii.toString.toInt? then return i else badValue
  | .number _ e => ofElem e
  | .array a => if a.size == 1 then ofElem a.item else badType
  | v => if let some (.int i) <- attempt (callMethod v "__int__" []) then pure i else badType
where
  ofElem (e : Elem) : M Int := match e with
    | .cpx .. => badType
    | .flt x => if let some i := truncFloat x then pure i
      else raise (if x.isNaN then .value else .overflow)
    | e => pure e.toInt

def floatValue : M Float := do
  match v with
  | .int i => return floatOfInt i
  | .bool b => return if b then 1 else 0
  | .float x => pure x
  | .str s => if let some x := readFloat? s.trimAscii.toString then return x else badValue
  | .number _ e => ofElem e
  | .array a => if a.size == 1 then ofElem a.item else badType
  | _ => badType
where
  ofElem (e : Elem) : M Float := match e with
    | .cpx .. => badType
    | e => pure e.toFloat

def dimsArg : M (List Int) := if let .int i := v then return [i] else arg v

def arrayFrom (data dtype shape : Value) : M Value := do
  let a <- match dtype with
    | .null =>
      if let some a <- numericArray? data then pure a
      else
        let some xs <- members? data | badValue
        if xs.any (·.str?.isNone) then badValue
        return .objects [xs.length] xs
    | d => if let some d <- dtypeArg d then arrayAs d data else badType
  match shape with
  | .null => inOwnMemory a
  | s => return (<- a.reshape (<- dimsArg s)).fresh

def sparseFrom (format : String) (data dtype shape : Value) : M Value := do
  let some f := SparseFormat.ofName? format | noAttr
  let .array a <- arrayFrom data dtype .null | badType
  let m := SparseMatrix.ofArray f a
  match shape with
  | .null => return .sparse m
  | s =>
    let [r, c] := (<- iterate s).filterMap Value.int? | badValue
    return .sparse { m with rows := r.toNat, cols := c.toNat }

variable (s : String) (v : VarId) (a b : NdArray) (atol rtol : Float)

private def sign (op : BinOp) : ApiRow := fn s "a, b" <| of2 (operate op)

def unarySign (op : UnOp) : ApiRow := fn s "a" <| of1 (operateUnary op)

def distinctValues (xs : Values) : Values :=
  xs.foldl (fun acc x => if acc.any (·.isKey x) then acc else acc ++ [x]) []

def builtinEntries : Table ApiEntry := [
  sign "+" .add, sign "-" .sub, sign "*" .mul, sign "/" .trueDiv, sign "//" .floorDiv, sign "%" .mod,
  sign "**" .pow, sign "<" .lt, sign "<=" .le, sign ">" .gt, sign ">=" .ge, sign "&" .and, sign "|" .or,
  sign "^" .xor, sign "<<" .lshift, sign ">>" .rshift, sign "==" .eq, sign "!=" .ne,
  unarySign "neg" .neg, unarySign "pos" .pos, unarySign "invert" .invert, unarySign "abs" .abs,
  fn2 "is" "a, b" fun a b => return isSame a b,
  fn2 "in" "a, b" containsValue,
  fn2 "[]" "a, i" itemOf,
  fn3 "[]=" "a, i, v" setItem,
  fn "str" "v" fun
    | [.pass p] => passText p
    | [v] => textOf v
    | _ => badType,
  fn1 "repr" "v" reprOf,
  fn1 "len" "v" fun v => return (<- lengthOf v),
  fn1 "bool" "v" fun (v : Bool) => return v,
  fn1 "int" "v" fun v => return (<- intValue v),
  fn1 "float" "v" fun v => return .float (<- floatValue v),
  fn "complex" "re, im=0" fun
    | [.complex re im, .int 0] => return .complex re im
    | [re, im] => return .complex (<- floatValue re) (<- floatValue im)
    | _ => badType,
  fn1 "list" "v=()" newList,
  fn1 "tuple" "*xs" pure,
  fn1 "set" "*xs" fun xs => newSet (distinctValues xs),
  fn1 "dict" "*xs" fun (xs : Pairs) => do
    let d <- newDict []
    for (k, v) in xs do setItem d k v
    return d,
  fn "slice" "*xs" fun
    | [.tuple [b]] => return .slice .null b .null
    | [.tuple [a, b]] => return .slice a b .null
    | [.tuple [a, b, c]] => return .slice a b c
    | _ => badType,
  fn "ellipsis" "" fun _ => return .ellipsis,
  fn "oset" "v=None" fun
    | [.null] => newOrderedSet []
    | [v] => do newOrderedSet (distinctValues (<- iterate v))
    | _ => badType,
  fn3 "array" "data, dtype=None, shape=None" arrayFrom,
  fn2 "scalar_value" "v, dtype" fun v t => do
    let .array a <- arrayFrom v t .null | badType
    return a.toValue,
  fn1 "dtype" "name" fun s => return .dtype s,
  fn4 "sparse_matrix" "format, data, dtype='float64', shape=None" sparseFrom,
  (("call", .raw fun args kw => match args with
    | f :: args => callValue f args kw
    | [] => badType) : ApiRow),
  fn2 "hasattr" "o, name" fun o n => do
    try
      let _ <- attrOf o n
      pure true
    catch e => if e.isA .attr then return false else throw e,
  fn1 "class_name" "v" classNameOf,
  fn2 "max_len" "s, n" fun s (n : Int) => itemOf s (.slice .null n .null) ]

/-! ## Reading arguments -/

def result (x : M VarId) : M Value := x
def dtypeAttr : M Value := do return (<- dtypeOf v).name

def placesArg (input : List Bool) (order : Value) (tupled : Bool := false) : M (List Place × String) := do
  let items <- iterate order
  let shown <- reprOf order
  let places <- items.mapM fun
    | .str "x" => pure .new
    | v => do
      if !(v matches .int _ | .number .. | .bool _) then
        failType s!"DimShuffle indices must be python ints. Got: '{<- textOf v}' of type '{<- classTextOf v}'."
      let i <- intArg v
      if i < 0 then failValue (droppedText input shown tupled) else pure (.dim i.toNat)
  pure (places, shown)

def shuffleBy (order : Value) : M VarId := do
  let b <- bcastOf v
  let (places, shown) <- placesArg b order
  applyTo (<- dimShuffleOp b places shown) [v]

def makeSeveral (one : Value -> M Value) (names : Values) : M Value := do
  match names with
  | .int n :: _ => newList (<- (List.range n.toNat).mapM fun _ => one .null)
  | [.str s] => if s.length == 1 then one s else newList (<- (s.toList.map fun c => c.toString).mapM one)
  | [v] => newList (<- (<- iterate v).mapM one)
  | names => newList (<- names.mapM one)

def clonePairs (m : CloneMap) (is os : Vars) : M Value := do
  let a <- getArena
  let mut pairs := []
  let addVar (l : Pairs) (v : VarId) : Pairs :=
    if let some w := m.vars[v]? then if l.any fun (k, _) => k.isKey v then l else l ++ [(.var v, .var w)] else l
  for v in is do pairs := addVar pairs v
  for n in <- orderBetween is os do
    for v in a.inputs n do pairs := addVar pairs v
    if let some k := m.nodes[n]? then pairs := pairs ++ [(.node n, .node k)]
    for v in a.outputs n do pairs := addVar pairs v
  for v in os do pairs := addVar pairs v
  newDict pairs

/-! ## Tensor types by name -/

def namedShapes : List (String × List Bool) :=
  [("scalar", []), ("vector", [false]), ("matrix", [false, false]), ("row", [true, false]), ("col", [false, true])]
    ++ [3, 4, 5, 6, 7].map fun n => (s!"tensor{n}", .replicate n false)

def typeLetters : Table DType :=
  [("c", .complex64), ("z", .complex128), ("f", .float32), ("d", .float64), ("b", .int8), ("w", .int16),
    ("i", .int32), ("l", .int64)]

def pluralOf : String := if s == "matrix" then "matrices" else s ++ "s"

def tensorType (dtype bcast name : Value) : M Ty := do
  let d <- typeName (<- textOf dtype)
  let bs <- (<- iterate bcast).mapM truthOf
  let some t := DType.ofName? d | failType s!"Unsupported dtype for TensorType: {d}"
  return .tensor t bs (<- arg name)

def makeTensor (b : List Bool) (name dtype : Value) : M Value := do
  let t <- if dtype.isNull then do pure (.ofTensor (<- floatX) b) else tensorType dtype (.ofBools b) .null
  makeVariable t name

def tensorTypeEntries : Table ApiEntry :=
  namedShapes.flatMap (fun (s, b) =>
    [fn2 s!"tensor.{s}" "name=None, dtype=None" (makeTensor b),
      fn1 s!"tensor.{pluralOf s}" "*names" (makeSeveral (makeTensor b · .null))]
    ++ typeLetters.map (fun (c, d) => val s!"tensor.{c}{s}" (.type (.ofTensor d b)))
    ++ (typeLetters.filter fun (c, _) => ["f", "d", "i", "l"].contains c).map (fun (c, d) =>
      fn1 s!"tensor.{c}{pluralOf s}" "*names" (makeSeveral fun n => do return (<- makeVariable (.ofTensor d b) n))))
  ++ [cls "tensor.TensorType" "dtype, broadcastable, name=None, sparse_grad=False" <| of4 fun d b n _ =>
    do return (<- tensorType d b n),
      (("tensor.tensor", .raw fun args kw => do
        let name := (kw.lookup "name").getD .null
        match bindArgs (parseFormals "dtype, broadcastable, sparse_grad=False") args (alistErase "name" kw) with
        | some [d, b, _] => makeVariable (<- tensorType d b .null) name
        | _ => badType) : ApiRow)]

def tolerances? (a b : DType) : Float × Float :=
  if a == .float16 || b == .float16 then (1e-3, 1e-3)
  else if [a, b].any fun d => d == .float32 || d == .complex64 then (1e-5, 1e-5)
  else (1e-8, 1.0000000000000001e-05)

def Elem.distance : Elem -> Elem -> Float
  | .cpx a b, y => let (c, d) := y.toComplex; Cx.abs ⟨a - c, b - d⟩
  | x, .cpx c d => Cx.abs ⟨x.toFloat - c, -d⟩
  | x, y => (x.toFloat - y.toFloat).abs

def Elem.magnitude : Elem -> Float
  | .cpx a b => Cx.abs ⟨a, b⟩
  | x => x.toFloat.abs

def Elem.close (x y : Elem) : Bool :=
  if x.isInf || y.isInf then x == y else x.distance y <= atol + rtol * y.magnitude

def NdArray.allClose : Option Bool :=
  (broadcastShapes [a.shape, b.shape]).map fun s =>
    ((a.stretched s).zip (b.stretched s)).all fun (x, y) => x.close atol rtol y

def NdArray.approxEqual (removeInf removeNaN : Bool) (rtol atol : Option Float) : Value :=
  if a.shape != b.shape || a.dtype != b.dtype then false
  else if !a.dtype.isContinuous then .ofTest (a.equalValues b)
  else
    let (t, r) := tolerances? a.dtype b.dtype
    if (a.allClose b (atol.getD t) (rtol.getD r)).getD false then true
    else if !(a.data.any Elem.isNaN || (removeInf && a.data.any Elem.isInf)) then false
    else
      .ofTest <| (a.data.zip b.data).all fun (x, y) =>
        let near := if x.isInf && y.isInf then x == y else x.distance y <= 1e-8 + 1.0000000000000001e-05 * y.magnitude
        near || (x.isNaN && y.isNaN) || (removeInf && x.isInf) || (removeNaN && x.isNaN)

def arrayPair (vs : Values) : M (NdArray × NdArray) := do
  let a :: b :: _ := vs | badType
  pure (<- arrayOf a, <- arrayOf b)

def valuesEqualExact (vs : Values) : M Value := do
  let (a, b) <- arrayPair vs
  return if a.shape != b.shape || ((<- truthOf (vs.getD 2 .null)) && a.dtype != b.dtype) then false
  else if a.equalValues b then true
  else if !a.data.any Elem.isNaN then false
  else .ofTest ((a.data.zip b.data).all fun (x, y) => x == y || x.isNaN == y.isNaN)

def approx (a b : Value) (ri rn : Bool) (rtol atol : Value) : M Value := do
  let (.array x, .array y) := (a, b) | pure false
  let opt v := do if v.isNull then return none else return some (<- floatValue v)
  return x.approxEqual y ri rn (<- opt rtol) (<- opt atol)

def tensorComparisonEntries : Table ApiEntry := [
  fn "tensor.TensorType.values_eq" "a, b, force_same_dtype=True" valuesEqualExact,
  fn "tensor.TensorType.values_eq_approx" "a, b, allow_remove_inf=False, allow_remove_nan=False, rtol=None, atol=None"
    <| of6 approx,
  fn2 "tensor.type.values_eq_approx_remove_inf" "a, b" fun a b => approx a b true false .null .null,
  fn2 "tensor.type.values_eq_approx_remove_nan" "a, b" fun a b => approx a b false true .null .null,
  fn2 "tensor.type.values_eq_approx_remove_inf_nan" "a, b" fun a b => approx a b true true .null .null,
  fn "tensor.basic._get_atol_rtol" "a, b" fun vs => do
    let (a, b) <- arrayPair vs
    let (t, r) := tolerances? a.dtype b.dtype
    return .tuple [.float t, .float r],
  fn4 "tensor.basic._allclose" "a, b, rtol=None, atol=None" fun a b r t => do
    let (a, b) <- arrayPair [a, b]
    let (t', r') := tolerances? a.dtype b.dtype
    let some c := a.allClose b (<- if t.isNull then pure t' else floatValue t) (<- if r.isNull then pure r' else floatValue r)
      | badValue
    return c,
  fn "tensor.type.values_eq_approx_always_true" "a, b" fun _ => return true ]

def filterVariableFor (t : Ty) (other : Value) (convert : Bool) : M VarId := do
  let v <- match other with
    | .var v => pure v
    | d => newConstant t (<- t.filter d)
  if (<- typeOf v) == t then return v
  if convert then filterVariable t v else refuseVariable t v

def typeMethods : Table Callable := [
  meth4 "type.filter" "data, strict=False, allow_downcast=None" (Ty.filter · · · ·),
  meth2 "type.is_valid_value" "data" fun (t : Ty) d => do
    if t matches .generic then return true
    try
      let _ <- t.filter d true
      pure true
    catch e => if e.isA .type || e.isA .value then return false else throw e,
  meth2 "TensorType.value_validity_msg" "data" fun (t : Ty) d => do
    try
      let _ <- t.filter d true
      pure "value is valid"
    catch e => return e.message,
  meth "type.value_validity_msg" "data" fun _ => return "none",
  meth3 "type.filter_variable" "other, allow_convert=True" filterVariableFor,
  meth "type.convert_variable" "var" fun _ => return .null,
  meth "TensorType.convert_variable" "var" fun
    | [.type (.tensor d b _), .var v] => do
      let .tensor d' b' _ <- typeOf v | pure .null
      if d == d' && b.length == b'.length && (b.zip b').all fun (s, o) => s == o || o then
        result (Tensor.patternBroadcast v b)
      else pure .null
    | _ => badType,
  meth3 "type.make_constant" "value, name=None" fun t d n => do newConstant t (<- t.filter d) n,
  meth "TensorType.clone" "dtype=None, broadcastable=None" fun
    | [.type (.tensor d b n), dt, bc] => do
      tensorType (if dt.isNull then d.name else dt) (if bc.isNull then .ofBools b else bc) (.ofName n)
    | _ => badType,
  meth "TensorType.to_scalar_type" "" fun
    | [.type (.tensor d _ _)] => return .type (.scalar d)
    | _ => badType,
  meth "TensorType.value_zeros" "shape" fun
    | [.type (.tensor d _ _), s] => return .array (.zeros d ((<- dimsArg s).map Int.toNat))
    | _ => badType,
  meth "TensorType.get_size" "shape_info" fun
    | [.type (.tensor d _ _), s] => do
      let dims : List Int <- arg s
      if <- truthOf s then return .number .int64 (.int (dims.foldl (· * ·) (d.itemSize : Int)))
      pure d.itemSize
    | _ => badType,
  meth "TensorType.values_eq" "a, b, force_same_dtype=True" fun vs => valuesEqualExact (vs.drop 1),
  meth "TensorType.values_eq_approx" "a, b, allow_remove_inf=False, allow_remove_nan=False, rtol=None, atol=None"
    <| of7 fun _ => approx,
  meth "TensorType.may_share_memory" "a, b" fun
    | [_, .array a, .array b] => pure (a.region == b.region && a.region != 0)
    | _ => return false,
  meth3 "type.values_eq" "a, b" fun _ a b => operate .eq a b,
  meth3 "type.values_eq_approx" "a, b" fun _ a b => operate .eq a b ]

def typeAttributes : Table (Value -> M Value) := [
  attr_ "TensorType.dtype" dtypeName,
  attr_ "TensorType.broadcastable" fun (t : Ty) => return Value.ofBools (t.bcast?.getD []),
  attr_ "TensorType.ndim" fun (t : Ty) => return t.ndim?.getD 0,
  attr_ "TensorType.name" fun (t : Ty) => return if let .tensor _ _ n := t then n else none,
  attr_ "Scalar.dtype" dtypeName,
  attr_ "Scalar.ndim" fun _ => return Value.int 0,
  attr_ "SparseType.dtype" dtypeName,
  attr_ "SparseType.ndim" fun _ => return Value.int 2,
  attr_ "SparseType.format" fun (t : Ty) => return if let .sparse f _ := t then some f.name else none,
  attr_ "NullType.why_null" fun (t : Ty) => return if let .null w := t then some w else none ]
where
  dtypeName (t : Ty) : M (Option String) := return t.dtype?.map DType.name

/-! ## Function graphs and their observers -/

def clientsValue (l : List (Client × Nat)) : M Value := do
  newList (l.map fun (c, i) => .tuple [(match c with
    | .output => "output"
    | .node n => n), i])

def clientArg (v : Value) : M Client :=
  match v with
  | .node n => pure (.node n)
  | .str "output" => pure .output
  | _ => noAttr

def functionGraphOf (ins outs : Value) (features : Option (List FeatureId)) (clone : Bool) (updates : Value) : M GraphId := do
  if !clone then
    if !(ins matches .list _) then failType "Argument `inputs` should be a list"
    if !(outs matches .list _) then failType "Argument `outputs` should be a list"
  let ups <- match updates with
    | .dict c => do (<- cellPairs c).mapM fun (k, v) => do return ((<- arg k : Nat), (<- arg v : Nat))
    | _ => pure []
  makeGraph (<- varsArg ins) (<- varsArg outs) clone (features.getD []) ups

variable (g : GraphId) (name : String) (x y : VarId) (givens : VarPairs)

def orderingsValue : M Value := do
  newDict (<- (<- graphOrderings g).mapM fun (n, l) => do return (n, <- newOrderedSet (valuesOf l)))

def needAbility : M FeatureId := do if let some f <- ability? g name then return f else noAttr

def destroyersValue (v : VarId) : M Value := do
  let f <- needAbility g "destroyers"
  let .memory s <- feature f | noAttr
  let s <- Memory.refresh f s
  if s.gone then noAttr
  listOf ((s.root.lookup v).bind (s.rootDestroyer.lookup ·)).toList

def graphMethods : Table Callable := [
  meth "graph.replace" "var, new_var, reason=None, verbose=None" <| of5 fun g a b r v => do replaceVar g a b (<- textOf r) v,
  meth3 "graph.replace_all" "pairs, reason=None" fun g ps r => do replaceAll g ps (<- textOf r),
  meth4 "graph.replace_validate" "r, new_r, reason=None" fun g a b r => do
    let _ <- replaceAllValidate g [(a, b)] (<- textOf r),
  meth "graph.replace_all_validate" "replacements, reason=None, verbose=None, **kwargs" <| of5 fun g ps r v _ => do
    replaceAllValidate g ps (<- textOf r) v,
  meth "graph.replace_all_validate_remove" "replacements, remove, reason=None, warn=True, **kwargs" <| of6 fun g ps rm r w _ => do
    let gone <- (<- iterate rm).mapM fun
      | .node n => pure (.node n)
      | .var v => pure (.var v)
      | _ => badType
    replaceAllValidateRemove g ps gone (<- textOf r) w,
  meth2 "graph.attach_feature" "feature" attachFeature,
  meth2 "graph.remove_feature" "feature" fun (g : GraphId) f => do
    if let .feature f := f then removeFeature g f
    return .null,
  meth1 "graph.toposort" "" graphToposort,
  meth1 "graph.orderings" "" orderingsValue,
  meth1 "graph.check_integrity" "" checkIntegrity,
  meth2 "graph.clone" "check_integrity=True" fun g c => do return (<- cloneFunctionGraph g c true).1,
  meth3 "graph.clone_get_equiv" "check_integrity=True, attach_feature=True" fun g c a => do
    let (e, m) <- cloneFunctionGraph g c a
    let x <- graph g
    return .tuple [e, <- clonePairs m x.inputs x.outputs],
  meth "graph.change_input" "node, i, new_var, reason=None" <| of5 fun g n (i : Int) v r => do
    changeInput g (<- clientArg n) i.toNat v (<- textOf r),
  meth3 "graph.add_input" "var, check=True" (addInput · · ·),
  meth3 "graph.import_var" "var, reason" fun g v r => do importVar g v (<- textOf r),
  meth4 "graph.import_node" "apply_node, check=True, reason=None" fun g n c r => do
    importNode g n (<- textOf r) c,
  meth1 "graph.disown" "" disownGraph,
  meth2 "graph.get_clients" "var" fun g v => do
    let some l := (<- graph g).clients[<- varArg v]? | badKey
    clientsValue l,
  meth1 "graph.validate" "" validateGraph,
  meth1 "graph.consistent" "" fun g => do
    let _ <- needAbility g "consistent"
    isConsistent g,
  meth1 "graph.checkpoint" "" checkpoint,
  meth2 "graph.revert" "checkpoint" revert,
  meth2 "graph.destroyers" "r" destroyersValue,
  meth2 "graph.has_destroyers" "protected_list" fun g l => do
    let f <- needAbility g "has_destroyers"
    let .memory s <- feature f | noAttr
    Memory.anyDestroyed g f s l,
  meth2 "graph.get_nodes" "op" fun (g : GraphId) o => do
    if let .op o := o then listOf (<- finderQuery (<- needAbility g "get_nodes") o) else newList [],
  meth "graph.collect_callbacks" "name, *args" fun _ => newDict [],
  meth2 "feature.on_attach" "fgraph" fun f g => tellGraph g (.attached f),
  meth2 "NoOutputFromInplace.validate" "fgraph" fun (_ : FeatureId) g => do
    if (<- ability? g "destroyers").isNone then return .bool true
    tellGraph g .validate
    return .null,
  meth "ShapeFeature.same_shape" "x, y, dim_x=None, dim_y=None" <| of5 (Shapes.same · · · · ·),
  meth2 "feature.on_detach" "fgraph" fun f g => tellGraph g (.detached f)]

def graphAttributes : Table (Value -> M Value) :=
  let ofGraph read v := do read (<- graph (<- graphArg v))
  [ attr_ "graph.inputs" (ofGraph fun x => if x.disowned then return .null else listOf x.inputs),
    attr_ "graph.outputs" (ofGraph fun x => if x.disowned then return .null else listOf x.outputs),
    attr_ "graph.apply_nodes" (ofGraph fun x => newSet (valuesOf x.nodes.toList)),
    attr_ "graph.variables" (ofGraph fun x => newSet (valuesOf x.vars.toList)),
    attr_ "graph.clients" (ofGraph fun x => do
      newDict (<- x.clients.toList.mapM fun (v, l) => do return (v, <- clientsValue l))),
    attr_ "graph._features" (ofGraph fun x => newList (x.features.map .feature)),
    attr_ "graph.destroy_handler" fun v => do return (<- needAbility v "destroy_handler") ]

def givenPairs (givens : Value) : M VarPairs := do
  (<- pairsOf givens).mapM fun (v, w) => do pure (<- varArg v, <- varArg w)

def sameGraph : M Bool := do
  let outs := [x, y]
  let ins := (<- getArena).graphInputs outs
  let m <- cloneGraph ins (outs ++ givens.map (·.2)) true true
  let copy v := m.vars.getD v v
  let g <- makeGraph (ins.map copy) (outs.map copy) false
  for (v, w) in givens do replaceVar g (copy v) (copy w) "None"
  let _ <- optimize (<- newPass { body := .merge }) g
  let ends := (<- graph g).outputs.map fun v => (givens.find? (copy ·.1 == v)).elim v (copy ·.2)
  match <- ends.mapM ownerOf with
  | [none, none] => return ends[0]? == ends[1]?
  | os => return os[0]? == os[1]?

/-- Where each given pair leads from one graph into the other, the walk through both has to come to the same answer. -/
def sameGraphConfirmed : M Bool := do
  let same <- sameGraph x y givens
  let a <- getArena
  let reach v := a.varsBetween (.ofList (a.graphInputs [v])) [v]
  let leads l m p := l.contains p.1 && !m.contains p.1 && m.contains p.2 && !l.contains p.2
  let sides := givens.mapM fun p =>
    if leads (reach x) (reach y) p then some p else if leads (reach y) (reach x) p then some p.swap else none
  if let some l := sides then check (a.equalComputations [x] [y] (l.map (·.1)) (l.map (·.2)) == same)
  pure same

private def observer (f : Feature) : ApiRow :=
  cls name "" fun _ => return (<- newFeature f)

def graphFunctionEntries : Table ApiEntry := under "graph.basic" [
  fn2 "ancestors" "graphs, blockers=None" fun gs (b : Option Vars) => return (<- getArena).ancestors gs (b.getD []),
  fn2 "graph_inputs" "graphs, blockers=None" fun gs (b : Option Vars) => return (<- getArena).graphInputs gs (b.getD []),
  fn2 "vars_between" "ins, outs" fun i o => return (<- getArena).varsBetween (.ofList i) o,
  fn2 "orphans_between" "ins, outs" fun i o => return (<- getArena).orphansBetween (.ofList i) o,
  fn2 "applys_between" "ins, outs" fun i o => return (<- getArena).appliesBetween (.ofList i) o,
  fn4 "clone" "inputs, outputs, copy_inputs=True, copy_orphans=None" fun is os c (p : Option Bool) => do
    let m <- cloneGraph is os c (p.getD c)
    return .tuple [<- listOf (is.map fun v => m.vars.getD v v), <- listOf (os.map fun v => m.vars.getD v v)],
  fn5 "clone_get_equiv" "inputs, outputs, copy_inputs=True, copy_orphans=True, memo=None" fun is os c p _ => do
    clonePairs (<- cloneGraph is os c p) is os,
  fn4 "io_toposort" "inputs, outputs, orderings=None, clients=None" fun is os (r c : Value) => do
    let ords <- if r.isNull then pure [] else readOrderings false r
    if ords.isEmpty && c.isNull then return <- orderBetween is os
    let a <- getArena
    if !c.isNull then
      let deps := a.itemNeeds (.ofList is) (Arena.prerequisites ords)
      let groups := (walkStack deps a.weight (os.map .var).reverse {} []).foldl (fun l x =>
        (deps x).foldl (fun l d => alistSet d ((l.lookup d).getD [] ++ [x]) l) l) ([] : List (Item × List Item))
      let value : Item -> Value
        | .var v => v
        | .node n => n
      for (x, l) in groups do setItem c (value x) (<- newList (l.map value))
    let some l := a.toposortWith is os ords | failValue "graph contains cycles"
    pure l,
  fn2 "io_connection_pattern" "inputs, outputs" connectionsBetween,
  fn2 "is_in_ancestors" "l_apply, f_node" fun l f => do return (<- getArena).needs l f,
  fn2 "list_of_nodes" "inputs, outputs" fun i o => return (<- getArena).listOfNodes i o,
  fn1 "view_roots" "node" (viewRoots 1000),
  fn4 "as_string" "inputs, outputs, leaf_formatter=None, node_formatter=None" fun i o _ _ => graphTexts i o,
  fn4 "op_as_string" "i, op, leaf_formatter=None, node_formatter=None" fun i n _ _ => nodeTextFrom i n,
  fn4 "equal_computations" "xs, ys, in_xs=None, in_ys=None" fun xs ys a b => do
    equalComputations xs ys ((a : Option Vars).getD []) ((b : Option Vars).getD []) ]
  ++ under "graph.toolbox" [
  observer "ReplaceValidate" (.replaceValidate [] [] false), observer "History" (.history []), observer "Validator" .validator,
  observer "NodeFinder" (.nodeFinder none []), observer "PreserveNames" .preserveNames,
  observer "PreserveVariableAttributes" .preserveAttributes, observer "Feature" (.plain []),
  cls1 "PrintListener" "active=True" fun a => newFeature (.printListener a),
  cls "BadOptimization"
      "old_r, new_r=None, old_r_val=None, new_r_val=None, reason=None, old_graph=None, new_graph=None" fun vs =>
    newRecord "BadOptimization" ((["old_r", "new_r", "old_r_val", "new_r_val", "reason"].zip vs)
      ++ [("text", .str "BadOptimization()")]),
  cls2 "NoOutputFromInplace" "first_output_idx=0, last_output_idx=None" fun a b => newFeature (.noOutputFromInplace a b),
  fn3 "is_same_graph" "var1, var2, givens=None" fun x y g => do sameGraphConfirmed x y (<- givenPairs g),
  fn3 "is_same_graph_with_merge" "var1, var2, givens=None" fun x y g => do sameGraph x y (<- givenPairs g) ]
  ++ under "graph" [
  cls "fg.FunctionGraph" "inputs, outputs, features=None, clone=True, update_mapping=None" <| of5 functionGraphOf,
  cls2 "destroyhandler.DestroyHandler" "do_imports_on_attach=True, algo=None" fun d a => do
    let algo <- if a.isNull then settingText "cycle_detection" else pure (a.str?.getD "")
    newFeature (.memory { importOnAttach := <- truthOf d, check := if algo == "fast" then .fast else .regular }),
  observer "opt.MergeFeature" (.merge {}), observer "opt.CheckStackTraceFeature" .traceCheck ]
  ++ [ observer "tensor.opt.ShapeFeature" (.shapes {}),
  cls1 "compile.function.types.Supervisor" "protected" fun vs => newFeature (.supervisor vs),
  fn3 "compile.shape_i" "var, i, fgraph=None" fun v (i : Int) (g : Value) => do
    let some f <- if let .graph g := g then Shapes.of? g else pure none | result (Tensor.atPos (<- Tensor.shape v) i)
    if !(<- Shapes.knows f v) then
      let some n <- ownerOf v | noAttr
      Shapes.learn f 1000 n
    result (Shapes.lengthAt f v i),
  fn2 "compile.load_back" "mod, name" fun (m : String) n => attrOf (.api (m.drop 7).toString) n ]

end TensorGraph
