import TensorGraph.Array.Arith

/-! # What a type accepts -/

namespace TensorGraph

variable (s : ScalarOp) (shown : List String) (ds : List DType) (d : DType)

def commonType : M DType := do
  let d := match ds with
    | [] => .float64
    | d :: rest => rest.foldl .promote d
  if (<- settingText "cast_policy") != "numpy+floatX" then return d
  match <- floatX, d with
  | .float32, .float64 => return if ds.contains .float64 then d else .float32
  | .float16, .float64 | .float16, .float32 => return if ds.contains .float64 || ds.contains .float32 then d else .float16
  | _, _ => return d

def DType.upgraded : DType :=
  match d with
  | .bool | .int8 | .int16 | .uint8 | .uint16 => .float32
  | .int32 | .int64 | .uint32 | .uint64 => .float64
  | d => d

def refuseComplex (msg : String) : M Unit :=
  if ds.any DType.isComplex then failType msg else pure ()

def complexArgument : String := "complex argument not supported"

def complexTypeOf (x y : DType) : M DType := do
  if x.isComplex then failType x.name
  if y.isComplex then failType y.name
  match <- commonType [x, y] with
  | .float64 | .int64 | .uint64 | .int32 | .uint32 => return .complex128
  | _ => return .complex64

private def single : M DType := if let [d] := ds then pure d else badType

def OutRule.apply (r : OutRule) (ds : List DType) : M (List DType) := do
  match r with
  | .upcast => return [<- commonType ds]
  | .upcastNoBool =>
    let d <- commonType ds
    if d == .bool then failType "bool output not supported"
    return [d]
  | .upcastMin8 =>
    let d <- commonType ds
    return [if d == .bool then .int8 else d]
  | .upcastNoComplex =>
    refuseComplex ds "complex type are not supported"
    return [<- commonType ds]
  | .upgradeToFloat => return [<- commonType (ds.map .upgraded)]
  | .upgradeToFloat64 => return [.float64]
  | .upgradeToFloatNoComplex =>
    refuseComplex ds complexArgument
    return [<- commonType (ds.map .upgraded)]
  | .same => return [<- single ds]
  | .sameNoBool =>
    let d <- single ds
    if d == .bool then failType "bool input not supported"
    return [d]
  | .sameMin8 =>
    let d <- single ds
    return [if d == .bool then .int8 else d]
  | .sameFloatOnly =>
    let d <- single ds
    if !d.isFloat then failType "only float type are supported"
    return [d]
  | .sameNoComplex =>
    let d <- single ds
    refuseComplex [d] complexArgument
    return [d]
  | .int64 => return [.int64]
  | .float64 => return [.float64]
  | .int64NoComplex =>
    refuseComplex ds complexArgument
    return [.int64]
  | .float64NoComplex =>
    refuseComplex ds complexArgument
    return [.float64]
  | .realPart =>
    let d <- single ds
    return [match d with
      | .complex64 => .float32
      | .complex128 => .float64
      | d => d]
  | .transfer entries =>
    let common <- commonType ds
    if entries.all fun
      | .input _ => true
      | _ => false then
      entries.mapM fun
        | .input i =>
          let j := placeOf ds.length i
          if let some d := if j < 0 then none else ds[j.toNat]? then pure d else badIndex
        | _ => badType
    else
      let one e := match e with
        | .common => s!"(Scalar({common.name}),)"
        | .text s => quoted s
        | .input i => "Scalar(" ++ (ds.getD i.toNat default).name ++ ")"
      failType ("('output_types_preference should return a list or a tuple of types', "
        ++ "<theano.scalar.basic.transfer_type object>, [" ++ commaList (entries.map one) ++ "])")
  | .specific ts => return ts
  | .lookup table =>
    match table.lookup ds with
    | some ts => return ts
    | none => failType (match ds with
      | [d] => d.name
      | ds => tupleText (ds.map fun d => s!"Scalar({d.name})"))
  | .sign =>
    let d <- single ds
    if d == .bool then failType "bool"
    refuseComplex [d] complexArgument
    return [d]
  | .complexOfReals =>
    let [x, y] := ds | badType
    return [<- complexTypeOf x y]
  | .caller _ => badType

def compositeOf (id : Nat) : M Composite := do return (<- (M.get : M Session)).composites.getD id default

def ScalarOp.arity : M (Option Nat) := do
  match s.kind with
  | .composite id => return some (<- compositeOf id).inputs.length
  | k => pure k.arity

def ScalarOp.outputTypes : M (List DType) := do
  match s.kind with
  | .lt | .gt | .le | .ge | .eq | .neq | .isnan | .isinf => return [.bool]
  -- the range tests never set the mark that makes a comparison boolean
  | .inRange .. => return [.int8]
  | .switch => return [<- commonType (ds.drop 1)]
  | .invert =>
    for d in ds do
      if !d.isDiscrete then
        failType s!"input to a BitOp must have type (u)int8, (u)int16, (u)int32 or (u)int64 or bool not {d.name}"
    return [<- commonType ds]
  | .or | .xor | .and =>
    if ds == [.bool, .bool] then return [.bool]
    for d in ds do
      if !d.isInteger then
        failType s!"input to a BitOp must have type (u)int8, (u)int16, (u)int32 or (u)int64 or be all bools not {d.name}"
    return [<- commonType ds]
  | .composite id =>
    let st <- (M.get : M Session)
    let c := st.composites.getD id default
    let want := c.inputs.map fun v => (st.arena.typeOf v).dtype?.getD .float64
    if want == ds then return c.outputs.map fun v => (st.arena.typeOf v).dtype?.getD .float64
    let names l := tupleText (l.map fun d => s!"Scalar({d.name})")
    failType s!"Wrong types for Composite. Expected {names want}, got {names ds}."
  | .trueDiv =>
    if ds.all DType.isDiscrete then return [<- floatX]
    rule s.rule ds
  | .abs =>
    match ds with
    | [.complex64] => return [.float32]
    | [.complex128] => return [.float64]
    | _ => rule s.rule ds
  | .sgn => rule (some (s.rule.getD .sign)) ds
  | .complex | .complexFromPolar => rule (some .complexOfReals) ds
  | _ => rule s.rule ds
where
  rule (r : Option OutRule) (ds : List DType) : M (List DType) := do
    match r with
    | some r =>
      let ts <- r.apply ds
      if ts.length != 1 then
        failType ("Not the right number of outputs types produced for " ++ (<- opText (.scalar s)) ++ "("
          ++ commaList (ts.map DType.name) ++ ") by "
          ++ (match r with
              | .transfer _ => "<theano.scalar.basic.transfer_type object>"
              | .specific _ => "<theano.scalar.basic.specific_out object>"
              | _ => "<function>")
          ++ s!". Expected 1, got {ts.length}.")
      return ts
    | none => do
      let n <- opText (.scalar s)
      cannot s!"Cannot calculate the output types for {n}"

def ScalarOp.resultCount : M Nat := do
  match s.kind with
  | .composite id => return (<- compositeOf id).outputs.length
  | _ => pure 1

def retypedVar : Nat -> List (VarId × DType) -> VarId -> M DType
  | 0, _, _ => outOfFuel
  | fuel + 1, env, v => do
    match env.lookup v with
    | some d => pure d
    | none =>
      let st <- (M.get : M Session)
      let i := st.arena.var v
      let some n := i.owner | return i.type.dtype?.getD .float64
      let ds <- (st.arena.inputs n).mapM (retypedVar fuel env)
      let .scalar s := st.arena.op n | noAttr
      match s.kind with
      | .composite id =>
        let c <- compositeOf id
        let some o := c.outputs[i.index]? | badIndex
        retypedVar fuel (c.inputs.zip ds) o
      | _ =>
        let d :: _ <- s.outputTypes ds | badIndex
        pure d

def ScalarOp.checkArity : M Unit := do
  let some n <- s.arity | return
  if shown.length == n then return
  match s.kind with
  | .abs => badType
  | .composite _ => unmet
  | _ =>
    let t <- opText (.scalar s)
    failType s!"Wrong number of inputs for {t}.make_node (got {shown.length}({tupleText shown}), expected {n})"

def ScalarOp.typesFor : M (List DType) := do
  s.checkArity shown
  match s.kind with
  | .composite id =>
    let c <- compositeOf id
    c.outputs.mapM (retypedVar 10000 (c.inputs.zip ds))
  | _ => s.outputTypes ds

def NdArray.sameNumbers (a b : NdArray) : Bool := a.shape == b.shape && a.sameValues b

def filterTensor (bcast : List Bool) (me : String) (data : Value) (strict : Bool)
    (allow : Option Bool) : M NdArray := do
  let a <- match data with
    | .var _ => failType ("Expected an array-like object, but found a Variable: maybe you are trying to "
        ++ "call a function on a (possibly shared) variable instead of a numeric array?")
    | .array a =>
      if a.dtype == d then pure a
      else if strict then failType s!"{me} expected an ndarray with dtype={d.name} (got {a.dtype.name})."
      else if allow == some true then pure (a.cast d)
      else if (<- commonType [d, a.dtype]) == d then pure (a.cast d)
      else
        failType (me ++ " cannot store a value of dtype " ++ a.dtype.name ++ " without risking loss of "
          ++ "precision. If you do not mind this loss, you can: 1) explicitly cast your data to " ++ d.name
          ++ ", or 2) set \"allow_input_downcast=True\" when calling \"function\". Value: \"" ++ a.expression
          ++ "\"")
    | v =>
      if strict then failType s!"{me} expected a ndarray object (got {<- classTextOf v})."
      else if allow == some true then arrayAs d v
      else
        let isFloat := match v with
          | .float _ => true
          | .number e _ => e.isFloat
          | _ => false
        if allow.isNone && isFloat && d == (<- floatX) then arrayAs d v
        else
          let conv <- arrayAs d v
          match <- numericArray? v with
          | some plain =>
            if plain.sameNumbers conv then pure conv
            else
              let shown <- if conv.shape.isEmpty && d.isFloat then textOf (.float conv.item.toFloat) else pure conv.text
              failType (me ++ " cannot store accurately value " ++ (<- textOf v)
                ++ ", it would be represented as " ++ shown
                ++ ". If you do not mind this precision loss, you can: 1) explicitly convert your data to a "
                ++ "numpy array of dtype " ++ d.name
                ++ ", or 2) set \"allow_input_downcast=True\" when calling \"function\".")
          | none => badType
  if a.ndim != bcast.length then
    failType s!"Wrong number of dimensions: expected {bcast.length}, got {a.ndim} with shape {shapeText a.shape}."
  if (bcast.zip a.shape).any fun p => p.1 && p.2 != 1 then
    failType s!"('Non-unit value on shape on a broadcastable dimension.', {shapeText a.shape}, {tupleText (bcast.map boolText)})"
  return a

def filterScalar (data : Value) (strict : Bool) (allow : Option Bool) : M Value := do
  let exact := match data with
    | .number e _ => e == d
    | .float _ | _ => false
  if strict && !exact then
    failType
      s!"(\"{d.name} expected a <class 'numpy.{d.className}'>, got {<- textOf data} of type {<- classTextOf data}\", {<- reprOf data})"
  let refuse := do failType s!"Could not convert {<- classTextOf data} (value={<- textOf data}) to {d.name}"
  match <- attempt (arrayAs d data) with
  | none => refuse
  | some a =>
    if !a.shape.isEmpty then refuse else
    let r := .number d a.item
    if allow == some true then return r
    let isFloat := match data with
      | .float _ => true
      | .number e _ => e.isFloat
      | _ => false
    if allow.isNone && isFloat && d == (<- floatX) then return r
    match data.elem? with
    | some (_, e) => if e == a.item then return r else refuse
    | none => refuse

def Ty.filter (t : Ty) (data : Value) (strict : Bool := false) (allow : Option Bool := none) : M Value := do
  match t with
  | .tensor d b _ => filterTensor d b t.text data strict allow
  | .scalar d => filterScalar d data strict allow
  | .sparse f d =>
    match data with
    | .sparse m =>
      if m.format == f && m.dtype == d then return data
      if strict then
        failType s!"{<- textOf data} is not sparse, or not the right dtype (is {m.dtype.name}, expected {d.name})"
    | _ => if strict then noAttr
    let m <- M.ask fun k => k.toSparse f (if allow == some true then some d else none) data
    if m.dtype != d then cannot s!"Expected {d.name} dtype but got {m.dtype.name}"
    return .sparse m
  | .generic | .plain _ => pure data
  | .noneType => if data.isNull then return data else failType "Expected None!"
  | .slice =>
    let .slice .. := data | failType "Expected a slice!"
    pure data
  | .randomState =>
    let .record r := data | failType ""
    if (<- record r).cls == "RandomState" then return data else failType ""
  | .disconnected => fail .assertion ("If you're assigning to a DisconnectedType you're doing something wrong. "
      ++ "It should only be used as a symbolic placeholder.")
  | .null _ => failValue "No values may be assigned to a NullType"
  | .cdata _ => if data.isNull then return data else failType "expected None or a PyCapsule"

end TensorGraph
