import TensorGraph.Number.Real

/-!
# Element types

The fourteen element types of arrays and scalars, their promotion lattice, and `Elem`, one element.
Integers are kept as unbounded `Int` and wrapped into their width by `DType.wrap`; floats are kept
as 64-bit floats and rounded into a narrower format by `DType.fit`, which is the identity on values
that already have the type.
-/

namespace TensorGraph

inductive DType
  | bool
  | int8 | int16 | int32 | int64
  | uint8 | uint16 | uint32 | uint64
  | float16 | float32 | float64
  | complex64 | complex128
deriving DecidableEq, Repr, Inhabited

variable (d : DType) (x : Float)

namespace DType

def name : DType -> String
  | bool => "bool" | int8 => "int8" | int16 => "int16" | int32 => "int32" | int64 => "int64"
  | uint8 => "uint8" | uint16 => "uint16" | uint32 => "uint32" | uint64 => "uint64"
  | float16 => "float16" | float32 => "float32" | float64 => "float64"
  | complex64 => "complex64" | complex128 => "complex128"

def all : List DType :=
  [bool, int8, int16, int32, int64, uint8, uint16, uint32, uint64, float16, float32, float64,
    complex64, complex128]

def ofName? (s : String) : Option DType := all.find? (·.name == s)

def isSigned : DType -> Bool
  | int8 | int16 | int32 | int64 => true
  | _ => false

def isUnsigned : DType -> Bool
  | uint8 | uint16 | uint32 | uint64 => true
  | _ => false

def isInteger : Bool := d.isSigned || d.isUnsigned

def isFloat : DType -> Bool
  | float16 | float32 | float64 => true
  | _ => false

def isComplex : DType -> Bool
  | complex64 | complex128 => true
  | _ => false

def isDiscrete : Bool := d == bool || d.isInteger
def isContinuous : Bool := d.isFloat || d.isComplex

def itemSize : DType -> Nat
  | bool | int8 | uint8 => 1
  | int16 | uint16 | float16 => 2
  | int32 | uint32 | float32 => 4
  | int64 | uint64 | float64 | complex64 => 8
  | complex128 => 16

def bits : Nat := 8 * d.itemSize

def format : DType -> BinaryFormat
  | float16 => .half
  | float32 | complex64 => .single
  | _ => .double

def floatFor : DType -> DType
  | bool | int8 | uint8 => float16
  | int16 | uint16 => float32
  | d => if d.isFloat then d else float64

def maxFloat : DType -> DType -> DType
  | float64, _ | _, float64 => float64
  | float32, _ | _, float32 => float32
  | _, _ => float16

def signedOfBits : Nat -> Option DType
  | 8 => some int8 | 16 => some int16 | 32 => some int32 | 64 => some int64
  | _ => none

/-- The smallest type to which both can be promoted. Two signed or two unsigned types give the
wider; a signed and an unsigned one the signed type that holds both, or `float64` when there is
none; floats absorb integers that fit their precision; complex absorbs floats. -/
def promote (a b : DType) : DType :=
  if a == b then a
  else if a == bool then b
  else if b == bool then a
  else if a.isComplex || b.isComplex then
    let part d :=
      match d with
      | complex64 => float32
      | complex128 => float64
      | d => d.floatFor
    if maxFloat (part a) (part b) == float64 then complex128 else complex64
  else if a.isFloat || b.isFloat then maxFloat a.floatFor b.floatFor
  else if a.isSigned == b.isSigned then if a.bits >= b.bits then a else b
  else
    let (s, u) := if a.isSigned then (a, b) else (b, a)
    if s.bits > u.bits then s else (signedOfBits (2 * u.bits)).getD float64

def wrap (i : Int) : Int :=
  match d with
  | bool => if i == 0 then 0 else 1
  | _ =>
    if d.isSigned then .bmod i (.pow 2 d.bits)
    else if d.isUnsigned then i % (.pow 2 d.bits : Nat)
    else i

def range : Int × Int :=
  if d == bool then (0, 1)
  else if d.isSigned then (-(.pow 2 (d.bits - 1) : Nat), (.pow 2 (d.bits - 1) : Nat) - 1)
  else (0, (.pow 2 d.bits : Nat) - 1)

def roundFloat : Float :=
  match d with
  | float16 => BinaryFormat.half.nearest x
  | float32 | complex64 => x.toFloat32.toFloat
  | _ => x

end DType

/-- One element of an array. Booleans are the integers `0` and `1`. -/
inductive Elem
  | int (i : Int)
  | flt (x : Float)
  | cpx (re im : Float)
deriving Inhabited

namespace Elem

def zero : DType -> Elem
  | d => if d.isComplex then .cpx 0 0 else if d.isFloat then .flt 0 else .int 0

def one : DType -> Elem
  | d => if d.isComplex then .cpx 1 0 else if d.isFloat then .flt 1 else .int 1

def toFloat : Elem -> Float
  | int i => floatOfInt i
  | flt x => x
  | cpx re _ => re

def toComplex : Elem -> Float × Float
  | int i => (floatOfInt i, 0)
  | flt x => (x, 0)
  | cpx re im => (re, im)

def toInt : Elem -> Int
  | int i => i
  | flt x => (truncFloat x).getD (-(.pow 2 63 : Nat))
  | cpx re _ => (truncFloat re).getD (-(.pow 2 63 : Nat))

def truthy : Elem -> Bool
  | int i => i != 0
  | flt x => x != 0
  | cpx re im => re != 0 || im != 0

def isNaN : Elem -> Bool
  | int _ => false
  | flt x => x.isNaN
  | cpx re im => re.isNaN || im.isNaN

def isInf : Elem -> Bool
  | int _ => false
  | flt x => x.isInf
  | cpx re im => re.isInf || im.isInf

/-- Numerical equality, as the comparison of values of different types does. -/
def eq : Elem -> Elem -> Bool
  | int a, int b => a == b
  | int a, flt b => floatOfInt a == b
  | flt a, int b => a == floatOfInt b
  | flt a, flt b => a == b
  | a, b =>
    let (ar, ai) := a.toComplex
    let (br, bi) := b.toComplex
    ar == br && ai == bi

instance : BEq Elem := ⟨eq⟩

/-- Lexicographic for complex numbers, and exact for integers. -/
def lt : Elem -> Elem -> Bool
  | int a, int b => a < b
  | int a, flt b => floatOfInt a < b
  | flt a, int b => a < floatOfInt b
  | flt a, flt b => a < b
  | a, b =>
    let (ar, ai) := a.toComplex
    let (br, bi) := b.toComplex
    ar < br || (ar == br && ai < bi)

end Elem

/-- The conversion of a float to an integer type as the machine does it: through a signed 64-bit
integer, whose least value stands for what does not fit. -/
def DType.ofFloat : Int :=
  match truncFloat x with
  | none =>
    if d.bits <= 32 && d.isSigned then d.wrap (-(.pow 2 31 : Nat)) |> fun v => if d == .int32 then v else 0
    else d.wrap (-(.pow 2 63 : Nat))
  | some i =>
    if d == .uint64 then
      if i >= .pow 2 64 then 0 else d.wrap i
    else if i >= .pow 2 63 || i < -(.pow 2 63 : Nat) then d.wrap (-(.pow 2 63 : Nat)) else d.wrap i

def DType.fit (e : Elem) : Elem :=
  match d with
  | .bool => .int (if e.truthy then 1 else 0)
  | .float16 | .float32 | .float64 => .flt (d.roundFloat e.toFloat)
  | .complex64 | .complex128 =>
    let (re, im) := e.toComplex
    .cpx (d.roundFloat re) (d.roundFloat im)
  | _ =>
    match e with
    | .int i => .int (d.wrap i)
    | .flt x => .int (d.ofFloat x)
    | .cpx re _ => .int (d.ofFloat re)

/-!
# Arrays

An `NdArray` is an element type, a shape and the elements in row-major order. The `region` says in
which piece of memory the array lives: arrays with the same non-zero region share memory. It plays
no part in the value.
-/

inductive Lit
  | none
  | bool (b : Bool)
  | int (i : Int)
  | float (x : Float)
  | str (s : String)
  | tuple (xs : List Lit)
  | list (xs : List Lit)
  /-- a text that is printed as it stands -/
  | word (s : String)
  /-- a value with a text of its own -/
  | named (text : String) (v : Lit)

namespace Lit

mutual

/-- Equality; floats are compared as numbers, and NaN equals itself. -/
def same : Lit -> Lit -> Bool
  | none, none => true
  | bool a, bool b | int a, int b => a == b
  | float a, float b => a == b || a != a && b != b
  | int a, float b => floatOfInt a == b
  | float a, int b => a == floatOfInt b
  | str a, str b => a == b
  | tuple a, tuple b | list a, list b => sameAll a b
  | word a, word b => a == b
  | named a x, named b y => a == b && same x y
  | _, _ => false

def sameAll : List Lit -> List Lit -> Bool
  | [], [] => true
  | a :: as, b :: bs => same a b && sameAll as bs
  | _, _ => false

end

instance : BEq Lit := ⟨same⟩

end Lit

variable (n : Nat)

def hexDigit : Char := if n < 10 then .ofNat (48 + n) else .ofNat (87 + n)

def escapeCode : String :=
  let hex k := .ofList ((List.range k).reverse.map fun i => hexDigit (n / Nat.pow 16 i % 16))
  if n < 256 then "\\x" ++ hex 2 else if n < 65536 then "\\u" ++ hex 4 else "\\U" ++ hex 8

/-- A text in quotes: single ones unless it holds a single and no double quote; backslashes, the
quote in use and control characters are escaped. -/
def quoted (s : String) : String :=
  let cs := s.toList
  let q := if cs.contains '\'' && !cs.contains '"' then '"' else '\''
  let one c :=
    if c == '\\' then "\\\\"
    else if c == q then .ofList ['\\', q]
    else if c == '\n' then "\\n"
    else if c == '\r' then "\\r"
    else if c == '\t' then "\\t"
    else if c.toNat < 32 || (c.toNat >= 127 && c.toNat < 161) || c.toNat == 173 then escapeCode c.toNat
    else .singleton c
  .singleton q ++ .join (cs.map one) ++ .singleton q

variable (xs : List String)

def commaList : String := .intercalate ", " xs

def tupleText : String :=
  match xs with
  | [x] => s!"({x},)"
  | xs => s!"({commaList xs})"

def boolText (b : Bool) : String := if b then "True" else "False"

namespace Lit

mutual

/-- The notation of a literal. -/
def text : Lit -> String
  | none => "None"
  | bool b => boolText b
  | int i => toString i
  | float x => floatLiteral x
  | str s => quoted s
  | tuple xs => tupleText (textAll xs)
  | list xs => s!"[{commaList (textAll xs)}]"
  | word s => s
  | named t _ => t

def textAll : List Lit -> List String
  | [] => []
  | x :: xs => text x :: textAll xs

end

def ofInts (xs : List Int) : Lit := tuple (xs.map int)
def ofBools (xs : List Bool) : Lit := tuple (xs.map bool)
def ofOption (f : α -> Lit) : Option α -> Lit
  | some a => f a
  | .none => none

end Lit

structure NdArray where
  dtype : DType
  shape : List Nat
  data : Array Elem
  region : Nat := 0
deriving Inhabited

def placeOf (k : Int) : Int := if k < 0 then k + n else k

def dropAxes (axes : List Int) (l : List α) : List α :=
  l.zipIdx.filterMap fun (x, i) => if axes.contains (i : Int) then none else some x

variable (d : DType) (s : List Nat) (a : NdArray) (k : Nat)

def shapeSize : Nat := s.foldl (· * ·) 1
def rowStrides : List Nat := (s.foldr (fun d (acc, n) => (n :: acc, n * d)) ([], 1)).1
def flatIndex (strides idx : List Nat) : Nat := (strides.zip idx).foldl (fun n (s, i) => n + s * i) 0
def unflatten : List Nat := (s.foldr (fun d (acc, n) => ((n % d) :: acc, n / d)) ([], k)).1

namespace NdArray

variable (e : Elem)

def ndim : Nat := a.shape.length
def size : Nat := a.data.size
def ofElem : NdArray := ⟨d, [], #[e], 0⟩
def fresh : NdArray := { a with region := 0 }
def full : NdArray := ⟨d, s, .replicate (shapeSize s) e, 0⟩
def zeros : NdArray := full d s (.zero d)
def at' : Elem := a.data.getD k (.int 0)
def item : Elem := a.at' 0
def get (idx : List Nat) : Elem := a.at' (flatIndex (rowStrides a.shape) idx)

def build (f : List Nat -> Elem) : NdArray :=
  ⟨d, s, (Array.range (shapeSize s)).map fun k => f (unflatten s k), 0⟩

def map (f : Elem -> Elem) (d : DType) (a : NdArray) : NdArray := ⟨d, a.shape, a.data.map f, 0⟩
def cast : NdArray := if a.dtype == d then a else ⟨d, a.shape, a.data.map d.fit, 0⟩
def ofInts (xs : List Int) : NdArray := ⟨d, [xs.length], (xs.map .int).toArray, 0⟩
def toInts : List Int := a.data.toList.map Elem.toInt

end NdArray

end TensorGraph
