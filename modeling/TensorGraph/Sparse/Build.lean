import TensorGraph.Tensor.Build

/-! # Building expressions of sparse matrices -/

namespace TensorGraph.SparseExpr

variable (v : VarId) (s : SparseOp)

def op : Op := .sparse s
def isSparse : M Bool := do return (<- typeOf v).isSparse
def isDense : M Bool := do return (<- typeOf v).isTensor

def formatOf : M SparseFormat := do
  let .sparse f _ <- typeOf v | noAttr
  pure f

def elementTypes : List DType :=
  [.int8, .int16, .int32, .int64, .float32, .uint8, .uint16, .uint32, .uint64, .float64, .complex64, .complex128]

variable (f : SparseFormat) (x : Value) (d : DType) (y : Value)

def sparseType : M Ty := do
  if !elementTypes.contains d then
    cannot (tupleText [quoted s!"unsupported dtype \"{d.name}\" not in list",
      "[" ++ commaList (elementTypes.map fun d => quoted d.name) ++ "]"])
  if f == .coo then
    cannot (tupleText [quoted s!"unsupported format \"{f.name}\" not in list", "['csr', 'csc', 'bsr']"])
  return .sparse f d

def constant (name : Option String := none) : M VarId := do
  let .sparse m := x | failType "sparse.constant must be called on a scipy.sparse.spmatrix"
  newConstant (<- sparseType m.format m.dtype) (.sparse m) name

def asSparse (name : Option String := none) : M VarId := do
  let x <- match x with
    | .node n =>
      if let [o] <- outsOf n then pure (.var o)
      else manyOutputs n
    | x => pure x
  match x with
  | .var v =>
    if <- isSparse v then return v
    failWith .type ["'Variable type field must be a SparseType.'", <- varText v, <- typeText v]
  | x =>
    try constant x name
    catch e =>
      if e.isA .type then failWith .type [quoted s!"Cannot convert {<- textOf x} to SparseType", <- classTextOf x]
      else throw e

def asSparseOrTensor (name : Option String := none) : M VarId := do
  try asSparse x name
  catch e => if e.isA .value || e.isA .type then asTensor x name else throw e

def properties (x : VarId) : M Vars := applyAll (op .csmProperties) [x]
def part (k : Nat) : M VarId := do return (<- applyAll (op .csmProperties) [x]).getD k default

def data : M VarId := part x 0
def indices : M VarId := part x 1
def indptr : M VarId := part x 2
def shape : M VarId := part x 3
def compressible : M Unit := check (f == .csr || f == .csc)

def assembler : M Op := do
  match f with
  | .csr | .csc => return op (.csm f)
  | f => failWith .value ["\"format must be one of: 'csr', 'csc'\"", quoted f.name]

def withPlaces (x elems : VarId) : M VarId := do
  let f <- formatOf x
  let [_, ind, ptr, shp] <- properties x | badValue
  apply1 (<- assembler f) [elems, ind, ptr, shp]

def onesLike (x : VarId) : M VarId := do
  let [elems, ind, ptr, shp] <- properties x | badValue
  apply1 (<- assembler (<- formatOf x)) [<- Tensor.onesLike elems, ind, ptr, shp]

def zerosLike (x : VarId) : M VarId := do
  let [_, _, ptr, shp] <- properties x | badValue
  let o <- assembler (<- formatOf x)
  let none_ d := .array ⟨d, [0], #[], 0⟩
  applyTo o [none_ (<- dtypeOf x), none_ .int32, <- Tensor.zerosLike ptr, shp]

def cast : M VarId := applyTo (op (.cast d)) [x]
def transposed (x : VarId) : M VarId := do if <- isSparse x then apply1 (op .transpose) [x] else Tensor.transpose x
def toDense (x : VarId) : M VarId := apply1 (op (.denseFromSparse true)) [x]
def neg : M VarId := applyTo (op .neg) [x]

def adopt : M Value := do
  match x with
  | .sparse _ => asSparse x
  | x => pure x

def operand : M VarId := do
  match <- adopt x with
  | .var v => pure v
  | x => asTensor x

def variableOnly : M VarId := do
  match x with
  | .var v => pure v
  | x => cannot (tupleText ["'this function should only be called on *variables* (of type sparse.SparseType or tensor.TensorType, for instance), not '",
      <- reprOf x])

/-- Applies `ss` to two sparse operands, `sd` to a sparse and a dense one, and `ds` to these in the other order. -/
def combine (ss sd ds : SparseOp) (x y : Value) : M VarId := do
  let a <- operand x
  let b <- operand y
  match <- isSparse a, <- isSparse b with
  | true, true => apply1 (op ss) [a, b]
  | true, false => apply1 (op sd) [a, b]
  | false, true => apply1 (op ds) [b, a]
  | false, false => unmet

def add : Value -> Value -> M VarId := combine .addSS .addSD .addSD

def mul : M VarId := do
  let a <- asSparseOrTensor x
  let b <- asSparseOrTensor y
  let widen v other := do
    if (<- dtypeOf other) == .float64 && (<- dtypeOf v) == .float32 then cast v .float64 else return v
  match <- isSparse a, <- isSparse b with
  | true, true => apply1 (op .mulSS) [<- widen a b, b]
  | true, false => apply1 (op .mulSD) [<- widen a b, b]
  | false, true => apply1 (op .mulSD) [b, a]
  | false, false => unmet

def flippedComparison : SparseCmp -> SparseCmp
  | .lessThan => .greaterThan | .greaterThan => .lessThan
  | .lessEqual => .greaterEqual | .greaterEqual => .lessEqual
  | c => c

def compare (c : SparseCmp) : Value -> Value -> M VarId :=
  combine (.compareSS c) (.compareSD c) (.compareSD (flippedComparison c))

def factors (strict : Bool) : M (VarId × VarId) := do
  let take x := do
    match x with
    | .sparse _ =>
      let v <- asSparse x
      if strict then compressible (<- formatOf v)
      return v
    | x => return x
  let a <- take x
  let b <- take y
  pure (<- variableOnly a, <- variableOnly b)

/-- A product by an operator whose first operand is sparse. -/
def structuredDot : M VarId := do
  let (a, b) <- factors x y true
  match <- isSparse a, <- isSparse b with
  | false, false => failType "structured_dot requires at least one sparse argument"
  | true, _ => apply1 (op .structuredDot) [a, b]
  | false, true => transposed (<- apply1 (op .structuredDot) [<- transposed b, <- transposed a])

def dot : M VarId := do
  let (a, b) <- factors x y false
  if !(<- isSparse a) && !(<- isSparse b) then failType ""
  apply1 (op .dot) [a, b]

def colScale (x : VarId) (s : Value) : M VarId := do
  match <- formatOf x with
  | .csc => applyTo (op .colScaleCSC) [x, s]
  | .csr => transposed (<- applyTo (op .rowScaleCSC) [<- transposed x, s])
  | _ => cannot

def rowScale (x : VarId) (s : Value) : M VarId := do transposed (<- colScale (<- transposed x) s)
def sum (axis : Option Int) (structured : Bool) : M VarId := applyTo (op (.spSum axis structured)) [x]

def noVector : M α :=
  cannot "Theano has no sparse vectorUse X[a:b, c:d], X[a:b, c:c+1] or X[a:b] instead."

def sub : M VarId := do
  let minus <- match y with
    | .var v => if <- isSparse v then neg y else Tensor.neg y
    | .sparse m => do
      asSparse (.sparse (m.withData (<- applyPromoted .neg none [m.dataArray])))
    | y => do asTensor (<- unary .neg y)
  match x with
  | .var v => if <- isSparse v then add x minus else if <- isSparse minus then add x minus else Tensor.add x minus
  | x => add x minus

end TensorGraph.SparseExpr
