import TensorGraph.Print.Text

/-! # Arithmetic on values -/

namespace TensorGraph

def intDType (i : Int) : Option DType :=
  if -(.pow 2 63 : Nat) <= i && i < (.pow 2 63 : Nat) then some .int64
  else if 0 <= i && i < (.pow 2 64 : Nat) then some .uint64
  else none

def Value.elem? : Value -> Option (DType × Elem)
  | .bool b => some (.bool, .int (if b then 1 else 0))
  | .int i => (intDType i).map fun d => (d, .int i)
  | .float x => some (.float64, .flt x)
  | .complex re im => some (.complex128, .cpx re im)
  | .number d e => some (d, e)
  | .array a => if a.shape.isEmpty then some (a.dtype, a.item) else none
  | _ => none

/-- A nesting of numbers: a leaf, or parts. -/
inductive Nest
  | leaf (d : DType) (e : Elem)
  | block (a : NdArray)
  | parts (xs : List Nest)
  | other

def nestOf : Nat -> Value -> M Nest
  | 0, _ => outOfFuel
  | fuel + 1, v => do
    match v with
    | .list _ | .tuple _ => do return .parts (<- (<- itemsOf v).mapM (nestOf fuel))
    | .array a => return .block a
    | v =>
      let some (d, e) := v.elem? | pure .other
      return .leaf d e

namespace Nest

mutual

def shape? : Nest -> Option (List Nat)
  | leaf .. => some []
  | block a => some a.shape
  | other => none
  | parts [] => some [0]
  | parts (x :: xs) =>
    match x.shape? with
    | none => none
    | some s => if shapesAre s xs then some ((xs.length + 1) :: s) else none

def shapesAre (s : List Nat) : List Nest -> Bool
  | [] => true
  | x :: xs => x.shape? == some s && shapesAre s xs

end

mutual

def leaves : Nest -> List (DType × Elem) -> List (DType × Elem)
  | leaf d e, acc => (d, e) :: acc
  | block a, acc => a.data.toList.foldr (fun e r => (a.dtype, e) :: r) acc
  | parts xs, acc => leavesAll xs acc
  | other, acc => acc

def leavesAll : List Nest -> List (DType × Elem) -> List (DType × Elem)
  | [], acc => acc
  | x :: xs, acc => leaves x (leavesAll xs acc)

end

mutual

def dtype? : Nest -> Option DType
  | leaf d _ => some d
  | block a => some a.dtype
  | parts xs => dtypeAll xs
  | other => none

def dtypeAll : List Nest -> Option DType
  | [] => none
  | x :: xs =>
    match x.dtype?, dtypeAll xs with
    | some a, some b => some (a.promote b)
    | some a, none => some a
    | none, b => b

end

end Nest

def assignElem (d src : DType) (e : Elem) : Option Elem :=
  if src.isComplex && !d.isComplex && d != .bool then none else some (d.fit e)

def numericArray? (v : Value) : M (Option NdArray) := do
  match v with
  | .array a => return some a
  | .number d e => return some (.ofElem d e)
  | _ =>
    let n <- nestOf 40 v
    let some s := n.shape? | pure none
    let d := n.dtype?.getD .float64
    return some ⟨d, s, ((n.leaves []).map fun (_, e) => d.fit e).toArray, 0⟩

def arrayAs (d : DType) (v : Value) : M NdArray := do
  match v with
  | .array a => return a.cast d
  | .null => if d.isFloat then return .ofElem d (.flt floatNaN) else badType
  | .int i =>
    if (intDType i).isNone || (intDType i == some .uint64 && d != .uint64 && !d.isContinuous && d != .bool) then
      if d.isContinuous then return .ofElem d (d.fit (.flt (floatOfInt i))) else raise .overflow
    else return .ofElem d (d.fit (.int i))
  | .str s =>
    let some x := readFloat? s | badValue
    if d.isFloat then return .ofElem d (d.fit (.flt x)) else badValue
  | _ =>
    let n <- nestOf 40 v
    match n.shape? with
    | none =>
      let .parts _ := n | badType
      badValue
    | some s =>
      let isBlock := n matches .block _
      let data <- (n.leaves []).mapM fun (src, e) =>
        match v, assignElem d src e with
        | .number .., _ => pure (d.fit e)
        | _, some x =>
          if d.isInteger && !isBlock && e.isNaN then badValue
          else if d.isInteger && !isBlock && src.isFloat && e.toFloat.abs >= 9223372036854775808.0 then raise .overflow
          else pure x
        | _, none => badType
      return ⟨d, s, data.toArray, 0⟩

def NdArray.toValue (a : NdArray) : Value := if a.shape.isEmpty then .number a.dtype a.item else a
def NdArray.equalValues (a b : NdArray) : Bool := a.shape == b.shape && (a.data.zip b.data).all fun (x, y) => x == y

def NdArray.sameValues (a b : NdArray) : Bool :=
  a.shape == b.shape && (a.data.zip b.data).all fun (x, y) => x == y || (x.isNaN && y.isNaN)

/-- Binary operators of expressions. -/
inductive BinOp
  | add | sub | mul | trueDiv | floorDiv | mod | pow
  | lt | le | gt | ge | eq | ne
  | and | or | xor | lshift | rshift
deriving DecidableEq

def BinOp.kind? : BinOp -> Option ScalarKind
  | add => some .add | sub => some .sub | mul => some .mul | trueDiv => some .trueDiv
  | floorDiv => some .intDiv | mod => some .mod | pow => some .pow
  | lt => some .lt | le => some .le | gt => some .gt | ge => some .ge | eq => some .eq
  | ne => some .neq | and => some .and | or => some .or | xor => some .xor
  | lshift | rshift => none

def BinOp.isComparison (o : BinOp) : Bool := o matches lt | le | gt | ge | eq | ne

/-- A plain number: neither its width nor its type is chosen. -/
inductive PlainNumber
  | int (i : Int)
  | float (x : Float)
  | complex (z : Cx)

def Value.plainNumber? : Value -> Option PlainNumber
  | .bool b => some (.int (if b then 1 else 0))
  | .int i => some (.int i)
  | .float x => some (.float x)
  | .complex re im => some (.complex ⟨re, im⟩)
  | _ => none

variable (ins : List NdArray) (op : BinOp) (a b : Value)

namespace PlainNumber

def toValue : PlainNumber -> Value
  | int i => i
  | float x => .float x
  | complex z => .complex z.re z.im

def toFloat : PlainNumber -> Checked Float
  | int i => let x := floatOfInt i; if x.isInf then .error .overflow else .ok x
  | float x => .ok x
  | complex z => .ok z.re

def toCx : PlainNumber -> Checked Cx
  | complex z => .ok z
  | n => do return .ofReal (<- n.toFloat)

def isZero : PlainNumber -> Bool
  | int i => i == 0
  | float x => x == 0
  | complex z => z.re == 0 && z.im == 0

def intPow (a : Int) (n : Nat) : Checked PlainNumber :=
  if n > 20000 && a.natAbs > 1 then .error .memory else .ok (.int (.pow a n))

def floatPower (x y : Float) : Checked PlainNumber :=
  if x == 0 && y < 0 then .error .zeroDivision
  else if x < 0 && !y.isNaN && !y.isInf && y.floor != y && !x.isInf then
    .ok (.complex (.pow (.ofReal x) (.ofReal y)))
  else
    let r := floatPow x y
    if r.isInf && !x.isInf && !y.isInf then .error .overflow else .ok (.float r)

variable (a b : PlainNumber)

def apply : Checked PlainNumber := do
  let divided r := if b.isZero then .error .zeroDivision else .ok r
  match a, b with
  | int x, int y =>
    match op with
    | .add => return .int (x + y)
    | .sub => return .int (x - y)
    | .mul => return .int (x * y)
    | .floorDiv => divided (.int (x.fdiv y))
    | .mod => divided (.int (x.fmod y))
    | .trueDiv => divided (.float (floatOfRatio ((x < 0) != (y < 0) && x != 0) x.natAbs y.natAbs))
    | .pow =>
      if y >= 0 then intPow x y.toNat
      else if x == 0 then .error .zeroDivision
      else floatPower (<- (int x).toFloat) (<- (int y).toFloat)
    | .and => return .int (bitwise .int64 .land x y)
    | .or => return .int (bitwise .int64 .lor x y)
    | .xor => return .int (bitwise .int64 .xor x y)
    | .lshift => if y < 0 then .error .value else return .int (x * (.pow 2 y.toNat : Nat))
    | .rshift => if y < 0 then .error .value else return .int (x.fdiv (.pow 2 y.toNat : Nat))
    | _ => .error .type
  | complex _, _ | _, complex _ =>
    let x <- a.toCx
    let y <- b.toCx
    match op with
    | .add => return .complex (x.add y)
    | .sub => return .complex (x.sub y)
    | .mul => return .complex (x.mul y)
    | .trueDiv => divided (.complex (x.div y))
    | .pow => return .complex (x.pow y)
    | _ => .error .type
  | _, _ =>
    let x <- a.toFloat
    let y <- b.toFloat
    match op with
    | .add => return .float (x + y)
    | .sub => return .float (x - y)
    | .mul => return .float (x * y)
    | .trueDiv => divided (.float (x / y))
    | .floorDiv => divided (.float (TensorGraph.floorDiv x y))
    | .mod => divided (.float (floorMod x y))
    | .pow => floatPower x y
    | _ => .error .type

def toElem : PlainNumber -> Elem
  | int i => .int i
  | float x => .flt x
  | complex z => .cpx z.re z.im

def compare : Checked Bool :=
  let x := a.toElem
  let y := b.toElem
  match op with
  | .eq => .ok (x.eq y)
  | .ne => .ok (!x.eq y)
  | _ =>
    if (a matches complex _) || (b matches complex _) then .error .type else
    match op with
    | .lt => .ok (x.lt y)
    | .le => .ok (x.lt y || x.eq y)
    | .gt => .ok (y.lt x)
    | .ge => .ok (y.lt x || x.eq y)
    | _ => .error .type

end PlainNumber

def DType.kindRank (d : DType) : Nat := if d == .bool then 0 else if d.isInteger then 1 else if d.isFloat then 2 else 3

def minScalarType (beside d : DType) (e : Elem) : DType :=
  match e with
  | .int i =>
    if d == .bool then .bool
    else if i < 0 then
      if i >= -128 then .int8 else if i >= -32768 then .int16 else if i >= -2147483648 then .int32 else .int64
    else
      let (u, s, cap) : DType × DType × Int :=
        if i < 256 then (.uint8, .int8, 127) else if i < 65536 then (.uint16, .int16, 32767)
        else if i < 4294967296 then (.uint32, .int32, 2147483647)
        else (.uint64, .int64, 9223372036854775807)
      if beside.isSigned && i <= cap then s else u
  | .flt x =>
    if x.isNaN || x.isInf || x.abs < 65000 then .float16
    else if x.abs < 3.4e38 then .float32 else .float64
  | .cpx re im =>
    let big x := !(x.isNaN || x.isInf) && x.abs >= 3.4e38
    if d == .complex64 || !(big re || big im) then .complex64 else .complex128

def promotionTypes : List DType :=
  let arrays := ins.filter (!·.shape.isEmpty)
  let scalars := ins.filter (·.shape.isEmpty)
  match arrays, scalars with
  | [], _ | _, [] => ins.map (·.dtype)
  | a :: as, _ =>
    let rank l : Nat := l.foldl (fun m x => max m x.dtype.kindRank) 0
    if rank arrays < rank scalars then ins.map (·.dtype)
    else
      let beside := as.foldl (fun d x => d.promote x.dtype) a.dtype
      ins.map fun x => if x.shape.isEmpty then minScalarType beside x.dtype x.item else x.dtype

def resultType : DType :=
  match promotionTypes ins with
  | [] => .float64
  | d :: ds => ds.foldl .promote d

def applyPromoted (k : ScalarKind) (wanted : Option DType) (ins : List NdArray) :
    Checked NdArray :=
  let common := resultType ins
  applyKind k wanted ((ins.zip (promotionTypes ins)).map fun (a, t) => a.cast (if t.isContinuous then common else t))

def shiftArrays (left : Bool) (a b : NdArray) : Checked NdArray :=
  let d := resultType [a, b]
  if !d.isDiscrete then .error .type else
  let d := if d == .bool then .int8 else d
  match broadcastShapes [a.shape, b.shape] with
  | none => .error .value
  | some s => do
    let f xs :=
      match xs with
      | [x, y] =>
        let n := y.toInt.toNat
        .ok (.int (if left then d.wrap (x.toInt * (.pow 2 n : Nat)) else x.toInt.fdiv (.pow 2 n : Nat)))
      | _ => .error .type
    return ⟨d, s, <- zipArrays [(a.cast d).stretched s, (b.cast d).stretched s] (shapeSize s) f, 0⟩

def liftFault (x : Checked α) : M α :=
  match x with
  | .ok a => pure a
  | .error k => raise k

instance : MonadLift Checked M := ⟨liftFault⟩

def Value.isArrayLike (v : Value) : Bool := v matches array _ | number ..

def Value.sameKey : Nat -> Value -> Value -> Bool
  | 0, _, _ => false
  | fuel + 1, a, b =>
    match a, b with
    | .null, .null => true
    | .str x, .str y | .bytes x, .bytes y => x == y
    | .tuple xs, .tuple ys => xs.length == ys.length && (xs.zip ys).all fun (x, y) => sameKey fuel x y
    | .list x, .list y | .dict x, .dict y | .set x, .set y | .orderedSet x, .orderedSet y => x == y
    | .slice a b c, .slice a' b' c' => sameKey fuel a a' && sameKey fuel b b' && sameKey fuel c c'
    | .ellipsis, .ellipsis => true
    | .dtype x, .dtype y | .var x, .var y | .node x, .node y | .op x, .op y | .type x, .type y | .graph x, .graph y => x == y
    | .function x, .function y | .feature x, .feature y | .pass x, .pass y | .database x, .database y => x == y
    | .record x, .record y | .tag x, .tag y | .api x, .api y | .cls x, .cls y => x == y
    | .method s n, .method s' n' => n == n' && sameKey fuel s s'
    | a, b =>
      match a.elem?, b.elem? with
      | some (_, x), some (_, y) => x == y
      | _, _ => false

def Value.isKey : Bool := Value.sameKey 40 a b
def lookupKey (k : Value) (l : List (Value × β)) : Option β := (l.find? fun p => p.1.isKey k).map (·.2)

def truthOf (v : Value) : M Bool := do
  match v with
  | .null => pure false
  | .bool b => pure b
  | .int i => return i != 0
  | .float x => return x != 0
  | .complex re im => return re != 0 || im != 0
  | .str s => return !s.isEmpty
  | .bytes b => return !b.isEmpty
  | .tuple xs => return !xs.isEmpty
  | .list c | .dict c | .set c | .orderedSet c => return !(<- cellItems c).isEmpty
  | .number _ e => pure e.truthy
  | .array a =>
    if a.size == 1 then pure a.item.truthy
    else if a.size == 0 then pure false
    else badValue
  | .var v =>
    if ((<- varInfo v).attrs.lookup "undecided").isSome then failType "Variables do not support boolean operations."
    pure true
  | .record r => return ((<- record r).fields.lookup "nonzero").all fun
    | .bool b => b
    | _ => true
  | _ => pure true

def seqEqual (same : Value -> Value -> M Bool) (xs ys : Values) : M Bool := do
  if xs.length != ys.length then return false
  (xs.zip ys).allM fun (x, y) => same x y

def equalTo : Nat -> Value -> Value -> M Bool
  | 0, _, _ => outOfFuel
  | fuel + 1, a, b => do
    match a, b with
    | .list x, .list y | .orderedSet x, .orderedSet y => seqEqual (equalTo fuel) (<- cellItems x) (<- cellItems y)
    | .tuple xs, .tuple ys => seqEqual (equalTo fuel) xs ys
    | .dict x, .dict y => do
      let p <- cellPairs x
      let q <- cellPairs y
      if p.length != q.length then return false
      p.allM fun (k, v) => if let some w := lookupKey k q then equalTo fuel v w else return false
    | .set x, .set y => do
      let p <- cellItems x
      let q <- cellItems y
      return p.length == q.length && p.all fun v => q.any (·.isKey v)
    | .orderedSet _, .set _ => failType ("Cannot compare an `OrderedSet` to a `set` because this comparison cannot be made "
        ++ "symmetric: please manually cast your `OrderedSet` into `set` before performing this comparison.")
    | .array x, .array y => return x.equalValues y
    | .record x, .record y => do
      let (p, q) := (<- record x, <- record y)
      if x == y || p.cls != q.cls || !(["transfer_type", "specific_out", "unary_out_lookup", "frozendict"].contains p.cls) then
        return x == y
      seqEqual (equalTo fuel) (p.fields.map (·.2)) (q.fields.map (·.2))
    | .type .disconnected, .type .disconnected => pure false
    | a, b => return a.isKey b

def valuesEqual : M Bool := equalTo 40 a b

def operandArray? (v : Value) : M (Option NdArray) := do
  match v with
  | .array _ | .list _ | .tuple _ => numericArray? v
  | v => return v.elem?.map fun (d, e) => .ofElem d e

def compareOrder (o : Ordering) : Bool :=
  match op with
  | .lt => o == .lt
  | .le => o != .gt
  | .gt => o == .gt
  | .ge => o != .lt
  | .eq => o == .eq
  | .ne => o != .eq
  | _ => false

def lexOrder (order : Value -> Value -> M Ordering) : Values -> Values -> M Ordering
  | [], [] => pure .eq
  | [], _ => pure .lt
  | _, [] => pure .gt
  | x :: xs, y :: ys => do if <- valuesEqual x y then lexOrder order xs ys else order x y

def compareValues : Nat -> Value -> Value -> M Ordering
  | 0, _, _ => outOfFuel
  | fuel + 1, a, b => do
    match a, b with
    | .str x, .str y => return compare x y
    | .tuple xs, .tuple ys => lexOrder (compareValues fuel) xs ys
    | .list x, .list y => lexOrder (compareValues fuel) (<- cellItems x) (<- cellItems y)
    | a, b =>
      let (some (_, x), some (_, y)) := (a.elem?, b.elem?) | badType
      return if x.lt y then .lt else if x.eq y then .eq else .gt

def setOperation (xs ys : Values) (make : Values -> M Value) : M Value :=
  let without xs ys := xs.filter fun x => !ys.any (·.isKey x)
  let within xs ys := (without xs ys).isEmpty
  match op with
  | .and => make (xs.filter fun x => ys.any (·.isKey x))
  | .or => make (xs ++ without ys xs)
  | .sub => make (without xs ys)
  | .xor => make (without xs ys ++ without ys xs)
  | .le => pure (within xs ys)
  | .ge => pure (within ys xs)
  | .lt => pure (within xs ys && !within ys xs)
  | .gt => pure (within ys xs && !within xs ys)
  | _ => badType

def repeated (n : Value) (l : List α) : M (List α) := do
  let some i := n.int? | badType
  return (List.replicate i.toNat l).flatten

def binary : M Value := do
  match a.plainNumber?, b.plainNumber? with
  | some x, some y =>
    if op.isComparison then return (<- liftFault (PlainNumber.compare op x y))
    match op, a, b with
    | .and, .bool p, .bool q => pure (p && q)
    | .or, .bool p, .bool q => pure (p || q)
    | .xor, .bool p, .bool q => pure (p != q)
    | _, _, _ => return (<- liftFault (PlainNumber.apply op x y)).toValue
  | _, _ =>
  if a.isArrayLike || b.isArrayLike then
    let unlike k :=
      if op == .eq then return false else if op == .ne then return true else raise k
    match <- operandArray? a, <- operandArray? b with
    | some x, some y =>
      let r := match op with
        | .lshift => shiftArrays true x y
        | .rshift => shiftArrays false x y
        | op => if let some k := op.kind? then applyPromoted k none [x, y] else .error .type
      match r with
      | .ok r => pure r.toValue
      | .error k => if k == .value then unlike k else raise k
    | _, _ => unlike .type
  else
  match op, a, b with
  | .eq, _, _ => valuesEqual a b
  | .ne, _, _ => return !(<- valuesEqual a b)
  | .add, .str x, .str y => pure (x ++ y)
  | .add, .tuple x, .tuple y => return .tuple (x ++ y)
  | .add, .list x, .list y => newList ((<- cellItems x) ++ (<- cellItems y))
  | .mul, .str x, n | .mul, n, .str x => return String.ofList (<- repeated n x.toList)
  | .mul, .tuple x, n | .mul, n, .tuple x => return .tuple (<- repeated n x)
  | .mul, .list x, n | .mul, n, .list x => newList (<- repeated n (<- cellItems x))
  | .add, .record _, _ => callSign a "__add__" [b]
  | .add, _, .record _ => callSign b "__radd__" [a]
  | op, .set x, .set y => setOperation op (<- cellItems x) (<- cellItems y) newSet
  | op, .orderedSet x, .orderedSet y | op, .orderedSet x, .list y =>
    setOperation op (<- cellItems x) (<- cellItems y) newOrderedSet
  | op, a, b =>
    if op.isComparison then return compareOrder op (<- compareValues 40 a b)
    else badType

/-- Unary operators of expressions. -/
inductive UnOp
  | neg | pos | invert | abs
deriving DecidableEq

def unary (op : UnOp) (a : Value) : M Value := do
  match a.plainNumber? with
  | some x =>
    match op, x with
    | .neg, .int i => return .int (-i)
    | .neg, .float x => return .float (-x)
    | .neg, .complex z => return .complex (-z.re) (-z.im)
    | .pos, x => pure x.toValue
    | .invert, .int i => return .int (-i - 1)
    | .invert, _ => badType
    | .abs, .int i => pure i.natAbs
    | .abs, .float x => return .float x.abs
    | .abs, .complex z => return .float z.abs
  | none =>
    let some x <- operandArray? a | badType
    if !a.isArrayLike then badType else
    let k := match op with
      | .neg => .neg
      | .pos => .identity
      | .invert => .invert
      | .abs => .abs
    if op == .invert && !x.dtype.isDiscrete then badType
    return (<- liftFault (applyKind k none [x])).toValue

end TensorGraph
