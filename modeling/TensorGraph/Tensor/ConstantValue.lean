import TensorGraph.Sparse.Build

/-! # Symbolic and known values -/

namespace TensorGraph

open Tensor

def BinOp.scalarOp? : BinOp -> Option (String × ScalarOp)
  | .add => some ("add", .add) | .sub => some ("sub", .sub) | .mul => some ("mul", .mul)
  | .trueDiv => some ("true_div", .trueDiv) | .floorDiv => some ("int_div", .intDiv)
  | .mod => some ("mod", .mod) | .pow => some ("pow", .pow)
  | .lt => some ("lt", .lt) | .le => some ("le", .le) | .gt => some ("gt", .gt) | .ge => some ("ge", .ge)
  | .and => some ("and_", .and) | .or => some ("or_", .or) | .xor => some ("xor", .xor)
  | .eq | .ne | .lshift | .rshift => none

def BinOp.flipped : BinOp -> BinOp
  | .lt => .gt | .le => .ge | .gt => .lt | .ge => .le
  | o => o

variable (op : BinOp) (a b : Value)

def Tensor.modChecked : M VarId := do
  if (<- dtypeOf (<- asTensor a)).isComplex || (<- dtypeOf (<- asTensor b)).isComplex then fail .complex complexModulo
  mod a b

def markUndecided (v : VarId) : M Unit :=
  modifyVar v fun x => { x with attrs := alistSet "undecided" true x.attrs }

def tensorOperator : M Value := do
  let some (n, s) := op.scalarOp? | badType
  if op.isComparison then
    let v <- ew n s [a, b]
    markUndecided v
    return v
  ew n s [a, b]

def scalarOperator : M Value := do
  let some (_, s) := op.scalarOp? | badType
  if op == .mod then
    if (<- dtypeOf (<- asScalar a)).isComplex || (<- dtypeOf (<- asScalar b)).isComplex then fail .complex complexModulo
  callOp (.scalar s) [a, b]

/-- Which operators a variable's type has. -/
inductive OperatorFamily
  | tensor | scalar | sparse | none
deriving DecidableEq

def operatorFamily (v : Value) : M OperatorFamily := do
  let .var x := v | pure .none
  match <- typeOf x with
  | .tensor .. => pure .tensor
  | .scalar _ => pure .scalar
  | .sparse .. => pure .sparse
  | _ => pure .none

def sparseOperator? : M (Option VarId) := do
  let compared c := do return some (<- SparseExpr.compare c a b)
  match op with
  | .add => return some (<- SparseExpr.add a b)
  | .sub => return some (<- SparseExpr.sub a b)
  | .mul => return some (<- SparseExpr.mul a b)
  | .lt => compared .lessThan
  | .le => compared .lessEqual
  | .gt => compared .greaterThan
  | .ge => compared .greaterEqual
  | _ => pure none

def reflectedOperator : M Value := do
  match <- operatorFamily b with
  | .tensor => if op.isComparison then tensorOperator op.flipped b a else tensorOperator op a b
  | .scalar =>
    match op with
    | .trueDiv | .floorDiv => badType
    | .mod => callOp (.scalar .mod) [a, b]
    | _ => if op.isComparison then scalarOperator op.flipped b a else scalarOperator op a b
  | .sparse =>
    let r <- if op.isComparison then sparseOperator? op.flipped b a
      else if op == .mul then sparseOperator? op b a
      else sparseOperator? op a b
    let some v := r | badType
    pure v
  | .none => badType

def symbolicOperator : M Value := do
  match <- operatorFamily a with
  | .tensor =>
    match op with
    | .add | .sub | .mul | .pow | .mod =>
      try
        if op == .mod then return <- modChecked a b
        tensorOperator op a b
      catch e =>
        if (e.isA .type || e.isA .notImplemented) && !(op == .mod && e.isA .complex) then
          if (<- operatorFamily b) != .none && (<- classNameOf a) != (<- classNameOf b) then reflectedOperator op a b
          else badType
        else throw e
    | _ => tensorOperator op a b
  | .scalar => scalarOperator op a b
  | .sparse => if let some v <- sparseOperator? op a b then return v else reflectedOperator op a b
  | .none => reflectedOperator op a b

def operate : M Value := do
  match op with
  | .eq =>
    match a, b with
    | .tuple [.type (.sparse f d), .sparse x], .tuple [.type t, .sparse y] =>
      if t == .sparse f d then return .ofTest (x.isClose y) else pure false
    | .tuple [.type t@(.tensor ..), .array x], .tuple [.type u, .array y] =>
      return if t != u || x.shape != y.shape || (x.data.any Elem.isNaN && !y.data.any Elem.isNaN) then false
        else .ofTest (x.sameValues y)
    | _, _ => if a.var?.isSome || b.var?.isSome then return a.isKey b else binary op a b
  | .ne => if a.var?.isSome || b.var?.isSome then return !a.isKey b else binary op a b
  | _ =>
    if (<- operatorFamily a) != .none || (<- operatorFamily b) != .none then symbolicOperator op a b
    else
      match a, op.isComparison with
      | .var v, true =>
        let sign := match op with
          | .lt => "lt" | .le => "le" | .gt => "gt" | _ => "ge"
        cannot s!"('Subclasses of Variable must provide __{sign}__', '{<- classNameOf v}')"
      | _, _ => binary op a b

def operateUnary (op : UnOp) (a : Value) : M Value := do
  match <- operatorFamily a, op with
  | .tensor, .neg => neg a
  | .tensor, .abs => abs a
  | .tensor, .invert => invert a
  | .scalar, .neg => callOp (.scalar .neg) [a]
  | .scalar, .abs => callOp (.scalar .abs) [a]
  | .scalar, .invert => callOp (.scalar .invert) [a]
  | .none, _ => unary op a
  | .sparse, .neg => SparseExpr.neg a
  | .sparse, _ | _, .pos => badType

def Tensor.ceilIntDiv : M VarId := do
  let d <- Tensor.intDiv a b
  let r <- Tensor.neq (<- operate .mod a b) 0
  Tensor.add (<- Tensor.cast r (<- dtypeOf d)) d

/-! ## Variables whose value is known -/

def ScalarKind.isTransparent : ScalarKind -> Bool
  | .cast _ | .switch | .neq | .eq | .lt | .gt | .le | .ge | .sub | .add | .mod | .mul | .intDiv
  | .trueDiv | .minimum | .maximum => true
  | _ => false

def singleElement (a : NdArray) : M Value := do
  if a.ndim > 0 && a.shape.contains 0 then
    check ((broadcastShapes [[0], a.shape]).isSome)
    fail .emptyConstant ""
  if a.size == 1 then return a.fresh
  fail .notScalarConstant s!"('v.data is non-numeric, non-scalar, or has more than one unique value', {a.expression})"

/-- The operands of an index template that are not fixed by it, in their places. -/
inductive IndexItem
  | pos (v : VarId)
  | slice (start stop step : Option VarId)

def pairIndices : List IndexEntry -> Vars -> List IndexItem
  | [], _ => []
  | .pos _ :: r, v :: vs => .pos v :: pairIndices r vs
  | .pos _ :: _, [] => []
  | .slice a b c :: r, vs =>
    let take o l :=
      match o, l with
      | some _, v :: l => (some v, l)
      | _, l => (none, l)
    let (x, vs) := take a vs
    let (y, vs) := take b vs
    let (z, vs) := take c vs
    .slice x y z :: pairIndices r vs

def indexEntryText : IndexEntry -> String
  | .pos d => s!"Scalar({d.name})"
  | .slice a b c =>
    let one o := if let some d := o then s!"Scalar({d.name})" else "None"
    "slice(" ++ commaList [one a, one b, one c] ++ ")"

def notConstant (v : VarId) : M α := do fail .notScalarConstant (<- varText v)

def intOf (v : Value) : M Int := do
  match v with
  | .array a => pure a.item.toInt
  | v =>
    let some (_, e) := v.elem? | badType
    pure e.toInt

mutual

def constantValueAt : Nat -> Bool -> Bool -> Nat -> VarId -> M Value
  | 0, _, _, _, v => notConstant v
  | fuel + 1, elemwise, only, depth, v => do
    let i <- varInfo v
    match i.role with
    | .constant d =>
      match d with
      | .array a => if let some e := a.uniqueValue? then return .number a.dtype e else singleElement a
      | d => pure d
    | _ =>
    if only || i.owner.isNone || depth == 0 then notConstant v else
    let depth := depth - 1
    let n := i.owner.getD default
    let nd <- nodeInfo n
    let ins := nd.inputs.toList
    let x := ins.headD default
    let again := constantValueAt fuel elemwise only depth
    let inner := constantValueAt fuel true false depth
    let int p := do intOf (<- constantValueAt fuel true false 10 p)
    match nd.op with
    | .alloc | .dimShuffle .. | .rebroadcast _ | .outputGuard | .deepCopy => again x
    | .shapeI k =>
      match <- constant? x with
      | some (.array a) => return .array (.ofElem .int64 (.int (a.shape.getD k 0 : Nat)))
      | _ =>
        match <- typeOf x with
        | .tensor _ b _ => if b.getD k false then return .array (.ofElem .int64 (.int 1)) else notConstant v
        | _ => notConstant v
    | .scalarFromTensor | .tensorFromScalar => again x
    | .assert _ =>
      let holds := (<- (ins.drop 1).mapM inner).all fun
        | .array a => a.ndim == 0 && a.item.truthy
        | .number _ e => e.truthy
        | _ => false
      if holds then again x else notConstant v
    | .scalar s =>
      if s.kind == .second then again (ins.getD 1 default)
      else if s.kind.isTransparent then
        let cs <- ins.mapM inner
        return (<- M.ask fun k => k.perform n cs).headD .null
      else notConstant v
    | .elemwise s .. =>
      if s.kind == .second then again (ins.getD 1 default)
      else if elemwise && s.kind.isTransparent then
        let cs <- ins.mapM inner
        match (<- M.ask fun k => k.perform n cs).headD .null with
        | .array a => pure a.fresh
        | r => pure r
      else notConstant v
    | .subtensor idx =>
      if (<- ndimOf v) != 0 then notConstant v else
      match <- constant? x with
      | some (.array a) =>
        let items <- (pairIndices idx (ins.drop 1)).mapM fun
          | .pos p => do return .pos (<- int p)
          | .slice s e st => do return .range (<- s.mapM int) (<- e.mapM int) (<- st.mapM int)
        match a.select items with
        | .ok r => pure r.toValue
        | .error _ => fail .index s!"{tupleText (idx.map indexEntryText)} is not a valid index into {a.text}"
      | _ =>
        check (idx.length == (<- ndimOf x))
        let position := do intOf (<- inner (ins.getD 1 default))
        match <- made? x with
        | some (.join _, _ :: parts) =>
          if idx.length != 1 then notConstant v else
          if (<- parts.mapM ndimOf).all (· == 1) then
            let k <- position
            let found <- try
                locate fuel parts k 0
              catch e => if e.isA .type || e.isA .value then pure none else throw e
            if let some w := found then again w else shapePart fuel depth v x idx ins
          else shapePart fuel depth v x idx ins
        | some (.makeVector _, parts) =>
          if idx.length == 1 && (<- parts.mapM ndimOf).all (· == 0) then
            let j := placeOf parts.length (<- position)
            let some p := parts[j.toNat]? | badIndex
            if j < 0 then badIndex
            let r <- inner p
            match r with
            | .array a => return a.cast (<- dtypeOf v)
            | r => arrayAs (<- dtypeOf v) r
          else shapePart fuel depth v x idx ins
        | _ => shapePart fuel depth v x idx ins
    | _ => notConstant v

def locate : Nat -> Vars -> Int -> Int -> M (Option VarId)
  | 0, _, _, _ | _, [], _, _ => pure none
  | fuel + 1, p :: ps, k, seen => do
    let len <- vectorLengthAt fuel p
    if k < seen + len then return some (<- atPos p (k - seen))
    locate fuel ps k (seen + len)

def shapePart : Nat -> Nat -> VarId -> VarId -> List IndexEntry -> Vars -> M Value
  | 0, _, v, _, _, _ => notConstant v
  | fuel + 1, depth, v, x, idx, ins => do
    match <- made? x with
    | some (.shape, g :: _) =>
      let k <- if let .pos _ :: _ := idx then intOf (<- constantValueAt fuel true false depth (ins.getD 1 default))
        else badType
      let b <- bcastOf g
      let b <- if let some (.rebroadcast _, gg :: _) := <- made? g then pure ((<- bcastOf gg).zipWith (· || ·) b)
        else pure b
      if !(k < b.length) then
        let shown <- if (<- settingText "exception_verbosity") == "high" then do pure s!"A. {<- opText (.subtensor idx)}"
          else varText v
        failValue s!"get_scalar_constant_value detected deterministic IndexError: x.shape[{k}] when x.ndim={b.length}. x={shown}"
      let j := placeOf b.length k
      if j < 0 then badIndex
      if b.getD j.toNat false then return .array (.ofElem .int64 (.int 1))
      if let some (.array a) <- constant? g then return .array (.ofElem .int64 (.int (a.shape.getD j.toNat 0 : Nat)))
      else notConstant v
    | _ => notConstant v

def vectorLengthAt : Nat -> VarId -> M Nat
  | 0, v => do failValue s!"Length of {<- varText v} cannot be determined"
  | fuel + 1, v => do
    let unknown := do failValue s!"Length of {<- varText v} cannot be determined"
    let int p := do intOf (<- constantValueAt fuel true false 10 p)
    let known go := try go catch e => if e.isA .value || e.isA .notScalarConstant then unknown else throw e
    if (<- ndimOf v) != 1 then failType s!"argument must be symbolic vector, got '{<- varText v}'"
    if (<- bcastOf v).getD 0 false then return 1
    match (<- varInfo v).role with
    | .shared b => if let .array a := (<- box b).value then return a.shape.getD 0 0 else unknown
    | .constant (.array a) => return a.shape.getD 0 0
    | .constant _ => unknown
    | .plain =>
    match <- made? v with
    | some (.makeVector _, ins) => pure ins.length
    | some (.shape, x :: _) => ndimOf x
    | some (.elemwise .., [x]) => vectorLengthAt fuel x
    | some (.join _, axis :: parts) =>
      known do
        if (<- int axis) != 0 then badValue
        let ls <- parts.mapM fun p => do
          if (<- ndimOf p) != 1 then badValue
          vectorLengthAt fuel p
        return ls.foldl (· + ·) 0
    | some (.subtensor (.slice a b c :: r), x :: ins) =>
      known do
        match pairIndices (.slice a b c :: r) ins with
        | .slice s e st :: _ =>
          let (_, n, _) <- rangeOf (<- vectorLengthAt fuel x) (<- s.mapM int) (<- e.mapM int) (<- st.mapM int)
          return n
        | _ => unknown
    | _ => unknown

end

variable (x : Value)

def constantValue (elemwise : Bool := true) (only : Bool := false) (depth : Nat := 10) : M Value := do
  match x with
  | .null => fail .notScalarConstant ""
  | .bool b => return .array (.ofElem .bool (.int (if b then 1 else 0)))
  | .int i =>
    let some d := intDType i | return .objects [] [x]
    return .array (.ofElem d (.int i))
  | .float f => return .array (.ofElem .float64 (.flt f))
  | .number d e =>
    if d.isInteger || d == .float64 then return .array (.ofElem d e)
    else fail .notScalarConstant (<- textOf x)
  | .array a => singleElement a
  | .var v => constantValueAt 400 elemwise only depth v
  | x => fail .notScalarConstant (<- textOf x)

def valueOf? (elemwise : Bool := true) (only : Bool := false) : M (Option Value) := do
  try
    return some (<- constantValue x elemwise only)
  catch e => if e.isA .notScalarConstant then return none else throw e

def constantInt? : M (Option Int) := do
  let some v <- valueOf? x | pure none
  match v.elem? with
  | some (_, .int i) => return some i
  | some (_, .flt f) => return if f.floor == f then truncFloat f else none
  | _ => if let .array a := v then return some a.item.toInt else return none

def isConstantNumber (k : Float) (elemwise : Bool := true) (only : Bool := false) : M Bool := do
  match <- valueOf? x elemwise only with
  | some (.array a) => return a.data.all fun e => e == .flt k
  | some v =>
    let some (_, e) := v.elem? | pure false
    return e == .flt k
  | none => pure false

def extractConstant (elemwise : Bool := true) (only : Bool := false) : M Value := do
  match <- valueOf? x elemwise only with
  | some c => pure c
  | none =>
    match x with
    | .var v =>
      if (<- typeOf v).isScalar then
        let some (.scalarFromTensor, t :: _) <- made? v | tensorFromScalar v
        return t
      else pure x
    | x => pure x

def vectorLength : M Nat := do vectorLengthAt 100 (<- asTensor x)

/-! ## Slices with symbolic bounds -/

def lastIndex : Int := 9223372036854775807

namespace Slice

def analyze (x : Value) : M (Value × Bool) := do
  let some c <- valueOf? x | pure (<- extractConstant x, false)
  pure (c, true)

def isNum (v : Value) (k : Int) : M Bool := do
  match v with
  | .var _ | .null => pure false
  | v => truthOf (<- operate .eq v k)

/-- A length, unless it is known to be one. -/
def unlessOne (d : Value) : M (Option Value) := do
  let one <- match d with
    | .var v => if let some c <- constant? v then isNum c 1 else pure false
    | d => isNum d 1
  return if one then none else some d

def holds (op : BinOp) (a b : Value) : M Bool := do truthOf (<- operate op a b)
def select (c a b : Value) : M Value := switch c a b
def less (a b : Value) : M Value := lt a b

def fromFront (x len : Value) : M Value := do
  let moved <- operate .add x len
  let zero := 0
  let inner <- select (<- less moved zero) zero moved
  let upper <- select (<- less x len) x len
  select (<- less x zero) inner upper

/-- The case of a known or unknown sign of the step. -/
inductive StepSign
  | up | down | unknown (negative : Value)

def StepSign.choose (s : StepSign) (whenDown whenUp : Value) : M Value :=
  match s with
  | .up => pure whenUp
  | .down => pure whenDown
  | .unknown c => select c whenDown whenUp

end Slice

/-- Start, stop and step of a slice in canonical form. -/
structure CanonicalSlice where
  (start stop step : Value)

variable (start stop step len : Value)

open Slice in
def canonicalSlice : M (CanonicalSlice × Value) := do
  let (start, startKnown) <- analyze start
  let (stop, stopKnown) <- analyze stop
  let (step, stepKnown) <- analyze step
  let (len, lenKnown) <- analyze len
  let (step, stepKnown) := if step.isNull then (.int 1, true) else (step, stepKnown)
  let zero := 0
  let one := 1
  let unit <- isNum step 1
  let general := do
    let (sign, absStep, direction) <-
      if stepKnown then do
        check (!(<- isNum step 0))
        if <- holds .gt step zero then pure (StepSign.up, step, one)
        else pure (StepSign.down, <- operateUnary .neg step, .int (-1))
      else do pure (StepSign.unknown (<- less step zero), <- operateUnary .abs step, .var (<- sgn step))
    let defStart <- sign.choose (<- operate .sub len one) zero
    let defStop <- sign.choose (.int (-1)) len
    let start' <- if start.isNull then pure defStart else do
      let s <- select (<- less start zero) (<- operate .add start len) start
      let s <- select (<- less s zero) (<- sign.choose (.int (-1)) zero) s
      let upper <- sign.choose (<- operate .sub len one) len
      select (<- ge s len) upper s
    let stop' <- if stop.isNull || (<- isNum stop lastIndex) then pure defStop else do
      let s <- select (<- less stop zero) (<- operate .add stop len) stop
      let s <- select (<- less s zero) (.int (-1)) s
      select (<- ge s len) len s
    let nwStop <- sign.choose (<- operate .add start' one) stop'
    let sliceLen <- operate .add
      (<- operate .floorDiv (<- operate .sub (<- operate .sub start' stop') one) absStep) one
    let sliceLen <- select (<- less sliceLen zero) zero sliceLen
    let negStart <- operate .sub
      (<- operate .sub nwStop (<- operate .mul (<- operate .sub sliceLen one) absStep)) one
    let nwStart <- sign.choose (<- select (<- less negStart zero) (<- operate .sub nwStop one) negStart) start'
    let nwStart <- select (<- less nwStart zero) zero nwStart
    let nwStop <- select (<- less nwStop zero) zero nwStop
    return (⟨(<- select (<- less nwStart nwStop) nwStart nwStop), nwStop, absStep⟩, if unit then one else direction)
  if !unit then general else
  let startZero <- if start.isNull || (<- isNum start 0) then pure true
    else if startKnown && lenKnown then do
      pure ((<- holds .lt start zero) && (<- holds .le (<- operate .add start len) zero))
    else pure false
  let stopIsLen <- if stop.isNull then pure true
    else do
      let same <- match stop, len with
        | .var a, .var b => pure (a == b)
        | .var _, _ | _, .var _ => pure false
        | a, b => do truthOf (<- operate .eq a b)
      if same || (<- isNum stop lastIndex) then pure true
      else if stopKnown && lenKnown then holds .ge stop len
      else pure false
  if startZero then
    if stopIsLen then return (⟨zero, len, one⟩, one)
    if <- (if stopKnown then holds .ge stop zero else pure false) then
      return (⟨zero, <- select (<- less stop len) stop len, one⟩, one)
    pure (⟨zero, <- fromFront stop len, one⟩, one)
  else if stopIsLen then
    if <- (if startKnown then holds .ge start zero else pure false) then
      return (⟨<- select (<- less start len) start len, len, one⟩, one)
    pure (⟨<- fromFront start len, len, one⟩, one)
  else general

def canonicalPosition (i len : Value) : M Value := do
  let value <- extractConstant i
  Slice.select (<- Slice.less value 0) (<- operate .add value len) value

def asIndexConstant (a : Value) : M Value := do
  match a with
  | .null => pure .null
  | .slice x y z => return .slice (<- part x) (<- part y) (<- part z)
  | a => part a
where
  part (a : Value) : M Value := do
    match a with
    | .null => pure .null
    | .var _ => pure a
    | .int i => indexConstant i
    | .bool b => indexConstant (if b then 1 else 0)
    | .number d e => if d.isInteger then return (<- indexConstant e.toInt) else asTensor a
    | a => asTensor a

def rangeLength (s : CanonicalSlice) : M VarId := do
  let start <- asIndexConstant s.start
  let stop <- asIndexConstant s.stop
  let step <- asIndexConstant s.step
  let one := 1
  let zero := 0
  let up <- and (<- gt step zero) (<- lt start stop)
  let upLen <- operate .add one
    (<- operate .floorDiv (<- operate .sub (<- operate .sub stop one) start) step)
  let down <- and (<- lt step zero) (<- gt start stop)
  let downLen <- operate .add one
    (<- operate .floorDiv (<- operate .sub (<- operate .sub start one) stop) (<- operateUnary .neg step))
  switch up upLen (<- switch down downLen (<- indexConstant 0))

def sliceLength : M VarId := do rangeLength (<- canonicalSlice start stop step len).1

/-- A place of an index as the shape of the result sees it. -/
inductive ShapeIndex
  | slice (start stop step : Value)
  | newAxis
  | tensor (shape : List (Option Value))
  | other (v : Value)

def ShapeIndex.isBasic : ShapeIndex -> Bool
  | .slice .. | .newAxis => true
  | _ => false

def broadcastShapeOf (shapes : List (List (Option Value))) : M (List (Option Value)) := do
  if shapes.isEmpty then badValue
  let n := shapes.foldl (fun m s => max m s.length) 0
  let padded := shapes.map fun s => .replicate (n - s.length) none ++ s
  (List.range n).mapM fun d => do
    let dims := padded.filterMap fun s => (s[d]?).join
    let last :: rest := dims.reverse | pure none
    let unequal <- rest.reverse.filterM fun x => do return !(<- equalComputations [last] [x])
    if unequal.isEmpty then return some last
    let one <- indexConstant 1
    let conds <- unequal.mapM fun x => do return .var (<- or (<- eq x one) (<- eq last x))
    let c <- all (<- newList conds)
    let c <- or (<- eq last one) c
    return some (<- applyTo (.assert "Could not broadcast dimensions") [last, c])

def stretchShape (v : VarId) : M (List (Option Value)) := do
  let dims <- shapeList v
  return .zipWith (fun s b => if b then none else some s) dims (<- bcastOf v)

def numberDims : Int -> List ShapeIndex -> List (Int × ShapeIndex)
  | _, [] => []
  | k, .newAxis :: r => (k, .newAxis) :: numberDims k r
  | k, x :: r => (k + 1, x) :: numberDims (k + 1) r

def groupKinds (l : List (Int × ShapeIndex)) : List (List (Int × ShapeIndex)) :=
  l.splitBy fun a b => a.2.isBasic == b.2.isBasic

def indexedShape (shape : Values) (indices : List ShapeIndex) : M (List (Option Value)) := do
  let groups := groupKinds (numberDims (-1) indices)
  let isBasic g := (g.head?.map (·.2.isBasic)).getD true
  let groups :=
    if groups.length > 2 || (groups.length > 1 && !(groups.head?.map isBasic).getD true) then
      groupKinds ((groups.filter (!isBasic ·)).flatten ++ (groups.filter isBasic).flatten)
    else groups
  let at_ d := do
    let j := placeOf shape.length d
    if j < 0 then badIndex
    let some x := shape[j.toNat]? | badIndex
    return x
  let mut out := []
  let mut used := []
  for g in groups do
    used := used ++ g.map (·.1)
    if isBasic g then
      let parts <- (g.zip (<- g.mapM fun (d, _) => at_ d)).mapM fun ((_, x), n) => do
        match x with
        | .slice a b c => return some (.var (<- sliceLength a b c n))
        | .newAxis => return none
        | .other v => failValue s!"Invalid index type: {<- textOf v}"
        | .tensor _ => badValue
      out := out ++ parts
    else
      out := out ++ (<- broadcastShapeOf (<- g.mapM fun (_, x) => do
        if let .tensor s := x then return s else noAttr))
  return out ++ ((List.range shape.length).filter fun (d : Nat) => !used.contains (d : Int)).map fun d => shape[d]?

end TensorGraph
