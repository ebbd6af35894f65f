/-! # Floats -/

/-! ## Decimal text -/

namespace TensorGraph

/-- A binary floating point format: `precision` bits of significand, and `minExp` the exponent of
the unit in the last place of the smallest numbers. -/
structure BinaryFormat where
  precision : Nat
  (minExp maxExp : Int)

namespace BinaryFormat

def half : BinaryFormat := ⟨11, -24, 5⟩
def single : BinaryFormat := ⟨24, -149, 104⟩
def double : BinaryFormat := ⟨53, -1074, 971⟩

end BinaryFormat

/-- What the bits of a float stand for. -/
inductive FloatParts
  | nan
  | inf (negative : Bool)
  | finite (negative : Bool) (mant : Nat) (exp : Int)

def FloatParts.ofFloat (x : Float) : FloatParts :=
  let b := x.toBits.toNat
  let negative := b / .pow 2 63 == 1
  let expBits := b / .pow 2 52 % .pow 2 11
  let frac := b % .pow 2 52
  if expBits == 2047 then
    if frac == 0 then .inf negative else .nan
  else if expBits == 0 then .finite negative frac (-1074)
  else .finite negative (frac + .pow 2 52) ((expBits : Int) - 1075)

def bitLength (n : Nat) : Nat := if n == 0 then 0 else .log2 n + 1

def roundDivEven (num den : Nat) : Nat :=
  let q := num / den
  let r := num % den
  if 2 * r < den then q
  else if 2 * r > den then q + 1
  else if q % 2 == 0 then q else q + 1

def roundToExp (m : Nat) (e t : Int) : Nat :=
  if e >= t then m * .pow 2 (e - t).toNat else roundDivEven m (.pow 2 (t - e).toNat)

variable (f : BinaryFormat) (negative : Bool)

def BinaryFormat.round (m : Nat) (e : Int) : Option (Nat × Int) :=
  if m == 0 then some (0, f.minExp) else
  let t := max f.minExp ((e + bitLength m) - f.precision)
  let m' := roundToExp m e t
  let (m', t) := if m' == .pow 2 f.precision then (.pow 2 (f.precision - 1), t + 1) else (m', t)
  if t > f.maxExp then none else some (m', t)

def floatOfParts (m : Nat) (e : Int) : Float :=
  let sign := if negative then .pow 2 63 else 0
  if m == 0 then .ofBits (UInt64.ofNat sign) else
  -- normalise to 53 bits where the exponent allows it
  let shift := min (53 - bitLength m) (e + 1074).toNat
  let m := m * .pow 2 shift
  let e := e - shift
  if m < .pow 2 52 then .ofBits (UInt64.ofNat (sign + m))
  else .ofBits (UInt64.ofNat (sign + (e + 1075).toNat * .pow 2 52 + (m - .pow 2 52)))

def BinaryFormat.nearest (x : Float) : Float :=
  match FloatParts.ofFloat x with
  | .finite s m e =>
    match f.round m e with
    | some (m', e') => floatOfParts s m' e'
    | none => if s then .ofBits 0xFFF0000000000000 else .ofBits 0x7FF0000000000000
  | _ => x

def floatOfRatio (num den : Nat) : Float :=
  if num == 0 then floatOfParts negative 0 0 else
  -- scale so that the quotient has at least 55 bits, and keep a sticky bit
  let shift := 56 + (bitLength den : Int) - bitLength num
  let (n, d) := if shift >= 0 then (num * .pow 2 shift.toNat, den) else (num, den * .pow 2 (-shift).toNat)
  let q := n / d * 2 + (if n % d == 0 then 0 else 1)
  if let some (m, e) := BinaryFormat.double.round q (-shift - 1) then floatOfParts negative m e
  else if negative then .ofBits 0xFFF0000000000000 else .ofBits 0x7FF0000000000000

def floatOfInt (i : Int) : Float := floatOfRatio (i < 0) i.natAbs 1

def truncFloat (x : Float) : Option Int :=
  match FloatParts.ofFloat x with
  | .finite s m e =>
    let n := if e >= 0 then m * .pow 2 e.toNat else m / .pow 2 (-e).toNat
    some (if s then -(n : Int) else n)
  | _ => none

def floatInf : Float := .ofBits 0x7FF0000000000000
def floatNegInf : Float := .ofBits 0xFFF0000000000000
def floatNaN : Float := .ofBits 0x7FF8000000000000
def signBit (x : Float) : Bool := x.toBits >= 0x8000000000000000

/-- Decimal digits `d₁ d₂ …` of `d₁.d₂… · 10 ^ exp`. -/
structure Digits where
  digits : List Nat
  exp : Int

variable (n : Nat) (x : Float) (num den : Nat) (d : Digits) (k : Int)

def natDigits : List Nat := (Nat.toDigits 10 n).map fun c => c.toNat - '0'.toNat
def digitsText (ds : List Nat) : String := .ofList (ds.map fun d => .ofNat ('0'.toNat + d))
def dyadic (m : Nat) (e : Int) : Nat × Nat := if e >= 0 then (m * .pow 2 e.toNat, 1) else (m, .pow 2 (-e).toNat)
def ltPow10 : Bool := if k >= 0 then num < den * .pow 10 k.toNat else num * .pow 10 (-k).toNat < den

def floorLog10 : Int :=
  let est := ((bitLength num : Int) - bitLength den) * 30103 / 100000 - 2
  let rec go : Nat -> Int -> Int
    | 0, k => k
    | n + 1, k => if ltPow10 num den (k + 1) then k else go n (k + 1)
  go 6 est

def scaleRound : Nat :=
  if k >= 0 then roundDivEven num (den * .pow 10 k.toNat) else roundDivEven (num * .pow 10 (-k).toNat) den

def significant : Digits :=
  let k := floorLog10 num den
  let s := scaleRound num den (k - n + 1)
  if s == Nat.pow 10 n then ⟨1 :: .replicate (n - 1) 0, k + 1⟩ else ⟨natDigits s, k⟩

def Digits.trim : Digits :=
  let r := (d.digits.reverse.dropWhile (· == 0)).reverse
  { d with digits := if r.isEmpty then [0] else r }

def roundingInterval (m : Nat) (e : Int) : Nat × Nat :=
  let low := if m == .pow 2 (f.precision - 1) && e > f.minExp then 4 * m - 1 else 4 * m - 2
  (low, 4 * m + 2)

def shortest (m : Nat) (e : Int) : Digits :=
  let (low, high) := roundingInterval f m e
  let (num, den) := dyadic m e
  let k := floorLog10 num den
  let (lnum, lden) := dyadic low (e - 2)
  let (hnum, hden) := dyadic high (e - 2)
  let inclusive := m % 2 == 0
  -- s · 10 ^ j lies inside the interval
  let inside s j :=
    let (snum, sden) := if j >= 0 then (s * .pow 10 j.toNat, 1) else (s, .pow 10 (-j).toNat)
    let lo := compare (lnum * sden) (snum * lden)
    let hi := compare (snum * hden) (hnum * sden)
    (lo == .lt || (inclusive && lo == .eq)) && (hi == .lt || (inclusive && hi == .eq))
  let rec go : Nat -> Nat -> Digits
    | 0, n => significant n num den
    | fuel + 1, n =>
      let j := k - n + 1
      let s := scaleRound num den j
      if inside s j then if s == Nat.pow 10 n then ⟨[1], k + 1⟩ else ⟨natDigits s, k⟩
      else
        -- the nearest grid point may fall outside a one-sided interval while its neighbour is in
        let below := if j >= 0 then num / (den * Nat.pow 10 j.toNat) else num * Nat.pow 10 (-j).toNat / den
        if below != s && below > 0 && inside below j then ⟨natDigits below, k⟩
        else if inside (below + 1) j then if below + 1 == Nat.pow 10 n then ⟨[1], k + 1⟩ else ⟨natDigits (below + 1), k⟩
        else go fuel (n + 1)
  (go 17 1).trim

def exponentText (e : Int) : String :=
  let a := e.natAbs
  (if e < 0 then "-" else "+") ++ (if a < 10 then "0" else "") ++ toString a

def Digits.positional : String :=
  if d.exp < 0 then "0." ++ digitsText (.replicate (-d.exp - 1).toNat 0 ++ d.digits)
  else
    let n := d.exp.toNat + 1
    if d.digits.length <= n then digitsText (d.digits ++ .replicate (n - d.digits.length) 0)
    else s!"{digitsText (d.digits.take n)}.{digitsText (d.digits.drop n)}"

def Digits.scientific : String :=
  let head := digitsText (d.digits.take 1)
  let tail := d.digits.drop 1
  (if tail.isEmpty then head else s!"{head}.{digitsText tail}") ++ "e" ++ exponentText d.exp

/-- The text of a float whose magnitude, if it is finite, has the text `abs`. -/
def signedText (abs : Nat -> Int -> String) : String :=
  match FloatParts.ofFloat x with
  | .nan => "nan"
  | .inf s => if s then "-inf" else "inf"
  | .finite s m e => (if s then "-" else "") ++ abs m e

def generalText : String := signedText x fun m e =>
  if m == 0 then "0" else
  let (num, den) := dyadic m e
  let d := (significant n num den).trim
  if d.exp < -4 || d.exp >= (n : Int) then d.scientific else d.positional

def fixedText : String := signedText x fun m e =>
  let (num, den) := dyadic m e
  let ds := natDigits (roundDivEven (num * Nat.pow 10 n) den)
  let ds := .replicate (n + 1 - ds.length) 0 ++ ds
  digitsText (ds.take (ds.length - n)) ++ (if n == 0 then "" else "." ++ digitsText (ds.drop (ds.length - n)))

/-- How the shortest digits of a float are laid out. -/
structure FloatStyle where
  (lowExp highExp : Int)
  whole : String

def FloatStyle.literal : FloatStyle := ⟨-4, 16, ".0"⟩

def shortestText (style : FloatStyle) (f : BinaryFormat) (x : Float) : String := signedText x fun m e =>
  if m == 0 then "0" ++ style.whole else
  -- bring the pair to the format's own unit
  let (m, e) := (f.round m e).getD (m, e)
  let d := shortest f m e
  if d.exp < style.lowExp || d.exp >= style.highExp then d.scientific
  else if d.exp >= 0 && d.digits.length <= d.exp.toNat + 1 then d.positional ++ style.whole
  else d.positional

def floatLiteral : String := shortestText .literal .double x

def readFloat? (s : String) : Option Float :=
  let cs := s.trimAscii.toString.toList
  let (neg, cs) := match cs with
    | '-' :: r => (true, r)
    | '+' :: r | r => (false, r)
  let low := (String.ofList cs).toLower
  if low == "inf" || low == "infinity" then some (if neg then floatNegInf else floatInf)
  else if low == "nan" then some floatNaN
  else
    let (ip, rest) := cs.span Char.isDigit
    let (fp, rest) := match rest with
      | '.' :: r => r.span Char.isDigit
      | r => ([], r)
    if ip.isEmpty && fp.isEmpty then none else
    let value ds := ds.foldl (fun n c => n * 10 + (c.toNat - '0'.toNat)) 0
    let mant := value (ip ++ fp)
    let build (e : Int) :=
      let e := e - fp.length
      if e >= 0 then floatOfRatio neg (mant * .pow 10 e.toNat) 1 else floatOfRatio neg mant (.pow 10 (-e).toNat)
    match rest with
    | [] => some (build 0)
    | c :: r =>
      if c != 'e' && c != 'E' then none else
      let (eneg, r) := match r with
        | '-' :: r => (true, r)
        | '+' :: r | r => (false, r)
      if r.isEmpty || !r.all Char.isDigit then none else
      let v := min (value r) 5000
      some (build (if eneg then -(v : Int) else v))

/-! ## Functions of a float -/

variable (x : Float)

def log1p : Float :=
  if x.isNaN then x
  else if x.isInf then if x > 0 then x else floatNaN
  else
    let u := 1.0 + x
    if u == 1.0 then x
    else if u <= 0 then if u == 0 then floatNegInf else floatNaN
    else u.log * (x / (u - 1.0))

def expm1 : Float :=
  if x.isNaN then x
  else if x.abs < 1e-5 then x + x * x / 2.0 + x * x * x / 6.0
  else
    let u := x.exp
    if u.isInf then u
    else
      let um := u - 1.0
      if um == -1.0 then um
      else um * (x / u.log)

def fmod (x y : Float) : Float :=
  match FloatParts.ofFloat x, FloatParts.ofFloat y with
  | .nan, _ | _, .nan | .inf _, _ => floatNaN
  | _, .inf _ => x
  | .finite s m e, .finite _ n f =>
    if n == 0 then floatNaN
    else
      let g := min e f
      floatOfParts s ((m * .pow 2 (e - g).toNat) % (n * .pow 2 (f - g).toNat)) g

def floatDivMod (x y : Float) : Float × Float :=
  if y == 0 then (x / y, floatNaN)
  else
    let m := fmod x y
    let d := (x - m) / y
    let (m, d) :=
      if m != 0 then if (y < 0) != (m < 0) then (m + y, d - 1) else (m, d)
      else ((if signBit y then -0.0 else 0.0), d)
    if d != 0 then
      let f := d.floor
      ((if d - f > 0.5 then f + 1 else f), m)
    else ((if signBit (x / y) then -0.0 else 0.0), m)

def floorDiv (x y : Float) : Float :=
  if x.isNaN || y.isNaN then floatNaN
  else if x.isInf then floatNaN
  else if y.isInf then
    if x == 0 then x / y else if (x < 0) != (y < 0) then -1.0 else 0.0
  else (floatDivMod x y).1

def floorMod (x y : Float) : Float :=
  if x.isNaN || y.isNaN || x.isInf then floatNaN
  else if y.isInf then
    if x == 0 || (x < 0) == (y < 0) then x else y
  else (floatDivMod x y).2

def toHalfEven : Float :=
  if !x.isFinite || x.abs >= 4503599627370496.0 then x
  else
    let f := x.floor
    let d := x - f
    let r :=
      if d < 0.5 then f
      else if d > 0.5 then f + 1
      else if (f / 2).floor * 2 == f then f else f + 1
    if r == 0 && signBit x then -0.0 else r

def toHalfAway : Float :=
  if !x.isFinite || x.abs >= 4503599627370496.0 then x
  else if x > 0 then (x + 0.5).floor else (x - 0.5).ceil

def truncate : Float :=
  if !x.isFinite then x
  else if signBit x then let r := x.ceil; if r == 0 then -0.0 else r else x.floor

def floatSign : Float := if x.isNaN then x else if x > 0 then 1 else if x < 0 then -1 else 0
def pi : Float := 3.141592653589793

def deg2rad : Float := x * (pi / 180.0)
def rad2deg : Float := x * (180.0 / pi)
def floatPow (x y : Float) : Float := if y == 0 || x == 1 then 1 else x.pow y

/-! ## Complex arithmetic -/

structure Cx where
  (re im : Float)

namespace Cx

variable (a : Cx) (b : Cx)

def ofReal : Cx := ⟨x, 0⟩
def add : Cx := ⟨a.re + b.re, a.im + b.im⟩
def sub : Cx := ⟨a.re - b.re, a.im - b.im⟩
def neg : Cx := ⟨-a.re, -a.im⟩
def mul : Cx := ⟨a.re * b.re - a.im * b.im, a.re * b.im + a.im * b.re⟩
def scale (k : Float) (a : Cx) : Cx := ⟨k * a.re, k * a.im⟩

def abs : Float :=
  let x := a.re.abs
  let y := a.im.abs
  if x.isInf || y.isInf then floatInf
  else if x.isNaN || y.isNaN then floatNaN
  else
    let (hi, lo) := if x >= y then (x, y) else (y, x)
    if hi == 0 then 0
    else
      let r := lo / hi
      if hi > 1e150 || lo < 1e-150 then hi * (1 + r * r).sqrt else (x * x + y * y).sqrt

def arg : Float := a.im.atan2 a.re

def div : Cx :=
  if b.re.abs >= b.im.abs then
    if b.re.abs == 0 && b.im.abs == 0 then ⟨a.re / b.re.abs, a.im / b.re.abs⟩
    else
      let rat := b.im / b.re
      let scl := 1 / (b.re + b.im * rat)
      ⟨(a.re + a.im * rat) * scl, (a.im - a.re * rat) * scl⟩
  else
    let rat := b.re / b.im
    let scl := 1 / (b.im + b.re * rat)
    ⟨(a.re * rat + a.im) * scl, (a.im * rat - a.re) * scl⟩

def exp : Cx :=
  let r := a.re.exp
  if a.im == 0 then ⟨r, a.im⟩ else ⟨r * a.im.cos, r * a.im.sin⟩

def log : Cx := ⟨a.abs.log, a.arg⟩

def sqrt : Cx :=
  if a.re == 0 && a.im == 0 then ⟨0, a.im⟩
  else
    let m := a.abs
    if a.re >= 0 then
      let t := ((a.re + m) * 0.5).sqrt
      ⟨t, a.im / (2 * t)⟩
    else
      let t := ((-a.re + m) * 0.5).sqrt
      ⟨a.im.abs / (2 * t), if signBit a.im then -t else t⟩

def powNat (a : Cx) : Nat -> Cx
  | 0 => ⟨1, 0⟩
  | n + 1 => mul (powNat a n) a

def pow : Cx :=
  if b.re == 0 && b.im == 0 then ⟨1, 0⟩
  else if a.re == 0 && a.im == 0 then if b.re > 0 && b.im == 0 then ⟨0, 0⟩ else ⟨floatNaN, floatNaN⟩
  else if b.im == 0 && b.re == b.re.floor && b.re.abs < 100 then
    let p := powNat a b.re.abs.toUInt64.toNat
    if b.re < 0 then div ⟨1, 0⟩ p else p
  else exp (mul b (log a))

def sin : Cx := ⟨a.re.sin * a.im.cosh, a.re.cos * a.im.sinh⟩
def cos : Cx := ⟨a.re.cos * a.im.cosh, -(a.re.sin * a.im.sinh)⟩
def sinh : Cx := ⟨a.re.sinh * a.im.cos, a.re.cosh * a.im.sin⟩
def cosh : Cx := ⟨a.re.cosh * a.im.cos, a.re.sinh * a.im.sin⟩
def tan : Cx := div (sin a) (cos a)
def tanh : Cx := div (sinh a) (cosh a)

def timesI : Cx := ⟨-a.im, a.re⟩
def overI : Cx := ⟨a.im, -a.re⟩

def arcsinh : Cx := log (add a (sqrt (add (mul a a) ⟨1, 0⟩)))
def arcsin : Cx := overI (arcsinh (timesI a))
def arccos : Cx := let s := arcsin a; ⟨pi / 2 - s.re, -s.im⟩
def arctanh : Cx := scale 0.5 (log (div (add ⟨1, 0⟩ a) (sub ⟨1, 0⟩ a)))
def arctan : Cx := overI (arctanh (timesI a))
def arccosh : Cx := log (add a (mul (sqrt (add a ⟨1, 0⟩)) (sqrt (sub a ⟨1, 0⟩))))
def sign : Cx := if a.re != 0 then ⟨floatSign a.re, 0⟩ else ⟨floatSign a.im, 0⟩

end Cx

/-! ## Special functions -/

def sqrtPi : Float := 1.7724538509055160273

def sumTerms (fuel : Nat) (first : Float) (step : Nat -> Float -> Float) : Float :=
  let rec go : Nat -> Nat -> Float -> Float -> Float
    | 0, _, _, acc => acc
    | fuel + 1, n, t, acc =>
      let t := step n t
      let acc' := acc + t
      if t == 0 || (acc' == acc && n > 3) then acc' else go fuel (n + 1) t acc'
  go fuel 0 first first

variable (z : Cx) (x : Float) (y : Float)

def erfSeries : Float :=
  2 / sqrtPi * (-(x * x)).exp * (sumTerms 300 x fun n t => t * 2 * x * x / (2 * n.toFloat + 3))

def erfcxFraction : Float :=
  -- 1 / (x + (1/2) / (x + 1 / (x + (3/2) / (x + …)))), from the tail
  let rec go : Nat -> Float -> Float
    | 0, acc => acc
    | n + 1, acc => go n (x + (n.toFloat + 1) / 2 / acc)
  1 / (go 200 x) / sqrtPi

def erfc : Float :=
  if x.isNaN then x
  else if x >= 2 then if x > 28 then 0 else (-(x * x)).exp * erfcxFraction x
  else if x <= -2 then if x < -28 then 2 else 2 - (-(x * x)).exp * erfcxFraction (-x)
  else 1 - erfSeries x

def erf : Float :=
  if x.isNaN then x
  else if x.abs < 2 then erfSeries x
  else if x > 0 then 1 - erfc x else erfc (-x) - 1

def erfcx : Float :=
  if x.isNaN then x
  else if x >= 2 then if x.isInf then 0 else erfcxFraction x
  else (x * x).exp * erfc x

def improve (n : Nat) (x : Float) (f : Float -> Float) : Float :=
  match n with
  | 0 => x
  | n + 1 => improve n (f x) f

def erfcinvTail : Float :=
  let t := (-2 * (y / 2).log).sqrt
  improve 4 (-0.70711 * ((2.30753 + t * 0.27061) / (1 + t * (0.99229 + t * 0.04481)) - t)) fun x =>
    let err := erfc x - y
    x + err / (1.12837916709551257 * (-(x * x)).exp - x * err)

def erfcinv : Float :=
  if y.isNaN || y < 0 || y > 2 then floatNaN
  else if y == 0 then floatInf
  else if y == 2 then floatNegInf
  else if y == 1 then -0.0
  else if y < 1 then erfcinvTail y else -erfcinvTail (2 - y)

def erfinv : Float :=
  if x.isNaN || x < -1 || x > 1 then floatNaN
  else if x == 1 then floatInf
  else if x == -1 then floatNegInf
  else if x == 0 then x
  else if x.abs < 0.9 then
    let a := 0.147
    let l := (1 - x * x).log
    let u := 2 / (pi * a) + l / 2
    improve 4 (floatSign x * ((u * u - l / a).sqrt - u).sqrt) fun z =>
      let err := erf z - x
      z - err / (1.12837916709551257 * (-(z * z)).exp + z * err)
  else if x > 0 then erfcinvTail (1 - x) else -erfcinvTail (1 + x)

def lanczosCoefficients : List Float :=
  [676.5203681218851, -1259.1392167224028, 771.32342877765313, -176.61502916214059,
    12.507343278686905, -0.13857109526572012, 9.9843695780195716e-6, 1.5056327351493116e-7]

def lanczosSum : Float :=
  (lanczosCoefficients.zipIdx.foldl (fun acc (c, i) => acc + c / (x + i.toFloat + 1)) 0.99999999999980993)

def gammaPositive : Float :=
  let y := x - 1
  let t := y + 7.5
  let p := t.pow ((y + 0.5) / 2)
  2.5066282746310002 * p * (-t).exp * p * lanczosSum y

def factorialFloat : Nat -> Float
  | 0 => 1
  | n + 1 => (n.toFloat + 1) * factorialFloat n

def gammaFn : Float :=
  if x.isNaN then x
  else if x.isInf then x
  else if x == x.floor then
    if x <= 0 then floatInf
    else if x < 171.5 then factorialFloat (x - 1).toUInt64.toNat else floatInf
  else if x < 0.5 then pi / ((pi * x).sin * gammaPositive (1 - x))
  else if x > 171.7 then floatInf
  else gammaPositive x

def gammalnPositive : Float :=
  if x == 1 || x == 2 then 0
  else if x < 20 then (gammaPositive x).log
  else
    let z := 1 / (x * x)
    (x - 0.5) * x.log - x + 0.91893853320467274178 +
      (1.0 / 12 - z * (1.0 / 360 - z * (1.0 / 1260 - z * (1.0 / 1680 - z / 1188)))) / x

def gammaln : Float :=
  if x.isNaN then x
  else if x.isInf then floatInf
  else if x <= 0 && x == x.floor then floatInf
  else if x < 0.5 then (pi / ((pi * x).sin.abs)).log - gammalnPositive (1 - x)
  else gammalnPositive x

def shiftUp (term : Float -> Float) : Nat -> Float -> Float -> Float × Float
  | 0, x, acc => (x, acc)
  | n + 1, x, acc => if x >= 12 then (x, acc) else shiftUp term n (x + 1) (acc + term x)

def psiPositive : Float :=
  let (x, acc) := shiftUp (fun x => -(1 / x)) 20 x 0
  let z := 1 / (x * x)
  acc + x.log - 0.5 / x -
    z * (1.0 / 12 - z * (1.0 / 120 - z * (1.0 / 252 - z * (1.0 / 240 - z * (1.0 / 132 - z * (691.0 / 32760))))))

def psi : Float :=
  if x.isNaN then x
  else if x == floatInf then x
  else if x == floatNegInf then floatNaN
  else if x <= 0 then
    if x == x.floor then if x == 0 then (if signBit x then floatInf else floatNegInf) else floatNaN
    else psiPositive (1 - x) - pi / (pi * x).tan
  else psiPositive x

def trigammaPositive : Float :=
  let (x, acc) := shiftUp (fun x => 1 / (x * x)) 20 x 0
  let z := 1 / (x * x)
  acc + 1 / x + z / 2 +
    z / x * (1.0 / 6 - z * (1.0 / 30 - z * (1.0 / 42 - z * (1.0 / 30 - z * (5.0 / 66 - z * (691.0 / 2730))))))

def trigamma : Float :=
  if x.isNaN then x
  else if x.isInf then if x > 0 then 0 else floatInf
  else if x <= 0 then
    if x == x.floor then floatInf
    else
      let s := pi / (pi * x).sin
      s * s - trigammaPositive (1 - x)
  else trigammaPositive x

def gammaParts (a x : Float) : Float × Float :=
  let scale := (a * x.log - x - gammaln a).exp
  if x < a + 1 then
    let p := scale * (sumTerms 2000 (1 / a) fun n t => t * x / (a + n.toFloat + 1))
    (p, 1 - p)
  else
    let rec lentz : Nat -> Nat -> Float -> Float -> Float -> Float -> Float
      | 0, _, _, _, _, h => h
      | fuel + 1, i, b, c, d, h =>
        let i' := i.toFloat + 1
        let an := -i' * (i' - a)
        let b := b + 2
        let d := an * d + b
        let d := if d.abs < 1e-300 then 1e-300 else d
        let c := b + an / c
        let c := if c.abs < 1e-300 then 1e-300 else c
        let d := 1 / d
        let del := d * c
        let h := h * del
        if (del - 1).abs < 1e-16 then h else lentz fuel (i + 1) b c d h
    let b := x + 1 - a
    let d := 1 / b
    let q := scale * lentz 1000 0 b (1 / 1e-300) d d
    (1 - q, q)

/-- A part of the gamma function, given what it is at the two ends. -/
def gammaPart (low high : Float) (part : Float × Float -> Float) (a x : Float) : Float :=
  if a.isNaN || x.isNaN || a < 0 || x < 0 then floatNaN
  else if a == 0 then if x > 0 then high else floatNaN
  else if x == 0 then low
  else if a.isInf then if x.isInf then floatNaN else low
  else if x.isInf then high
  else part (gammaParts a x)

def gammainc := gammaPart 0 1 (·.1)
def gammaincc := gammaPart 1 0 (·.2)

def besselSeries (sign v x : Float) : Float :=
  let h := x / 2
  let large := v > 150
  let first := if large then 1 else 1 / gammaFn (v + 1)
  let s := sumTerms 1000 first fun n t =>
    let m := n.toFloat + 1
    t * sign * h * h / (m * (m + v))
  if large then (v * h.log - gammaln (v + 1)).exp * s else floatPow h v * s

/-- Opposite whole orders and opposite arguments change at most the sign. -/
def bessel (sign v x : Float) : Float :=
  let whole := v == v.floor
  if v.isNaN || x.isNaN || x.isInf || x < 0 && !whole then floatNaN
  else
    let r := besselSeries sign (if whole then v.abs else v) x.abs
    if whole && (v / 2).floor * 2 != v && (x < 0) != (sign < 0 && v < 0) then -r else r

def besselJ : Float -> Float -> Float := bessel (-1)
def besselI : Float -> Float -> Float := bessel 1

/-! ## Special functions of a complex number -/

namespace Cx

def erf : Cx :=
  if z.im == 0 then ⟨TensorGraph.erf z.re, z.im⟩
  else
    let z2 := mul z z
    if z.abs < 4 || z.re.abs < 1.5 then
      let rec series : Nat -> Nat -> Cx -> Cx -> Cx
        | 0, _, _, acc => acc
        | fuel + 1, n, t, acc =>
          let t := mul t (scale (2 / (2 * n.toFloat + 3)) z2)
          let acc' := add acc t
          if t.abs <= acc'.abs * 1e-18 then acc' else series fuel (n + 1) t acc'
      scale (2 / sqrtPi) (mul (exp (neg z2)) (series 400 0 z z))
    else
      let right := z.re > 0
      let w := if right then z else neg z
      let rec fraction : Nat -> Cx -> Cx
        | 0, acc => acc
        | n + 1, acc => fraction n (add w (div ⟨(n.toFloat + 1) / 2, 0⟩ acc))
      let r := sub ⟨1, 0⟩ (scale (1 / sqrtPi) (div (exp (neg z2)) (fraction 200 w)))
      if right then r else neg r

def gammaRight : Cx :=
  let y := sub z ⟨1, 0⟩
  let t := add y ⟨7.5, 0⟩
  let s := lanczosCoefficients.zipIdx.foldl (fun acc (c, i) => add acc (div ⟨c, 0⟩ (add y ⟨i.toFloat + 1, 0⟩)))
    ⟨0.99999999999980993, 0⟩
  scale 2.5066282746310002 (mul (exp (sub (mul (add y ⟨0.5, 0⟩) (log t)) t)) s)

def gamma : Cx :=
  if z.re < 0.5 then div ⟨pi, 0⟩ (mul (sin (scale pi z)) (gammaRight (sub ⟨1, 0⟩ z)))
  else gammaRight z

def psiRight : Cx :=
  let rec shift : Nat -> Cx -> Cx -> Cx × Cx
    | 0, z, acc => (z, acc)
    | n + 1, z, acc => if z.re >= 12 then (z, acc) else shift n (add z ⟨1, 0⟩) (sub acc (div ⟨1, 0⟩ z))
  let (z, acc) := shift 20 z ⟨0, 0⟩
  let w := div ⟨1, 0⟩ (mul z z)
  let tail := [691.0 / 32760, 1.0 / 132, 1.0 / 240, 1.0 / 252, 1.0 / 120, 1.0 / 12].foldl
    (fun acc c => sub ⟨c, 0⟩ (mul w acc)) (⟨0, 0⟩ : Cx)
  sub (sub (add acc (log z)) (div ⟨0.5, 0⟩ z)) (mul w tail)

def psi : Cx :=
  if z.re < 0.5 then sub (psiRight (sub ⟨1, 0⟩ z)) (div ⟨pi, 0⟩ (tan (scale pi z)))
  else psiRight z

end Cx

end TensorGraph
