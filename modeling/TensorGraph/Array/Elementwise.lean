import TensorGraph.Core.Fault
import TensorGraph.Op.Basic

/-! # Elementwise computation -/

namespace TensorGraph

def realFn? : ScalarKind -> Option (Float -> Float)
  | .log => some .log | .log2 => some .log2 | .log10 => some .log10
  | .log1p => some log1p | .exp => some .exp | .exp2 => some .exp2
  | .expm1 => some expm1 | .sqrt => some .sqrt
  | .deg2rad => some deg2rad | .rad2deg => some rad2deg
  | .cos => some .cos | .arccos => some .acos | .sin => some .sin
  | .arcsin => some .asin | .tan => some .tan | .arctan => some .atan
  | .cosh => some .cosh | .arccosh => some .acosh | .sinh => some .sinh
  | .arcsinh => some .asinh | .tanh => some .tanh | .arctanh => some .atanh
  | .erf => some erf | .erfc => some erfc | .erfcx => some erfcx
  | .erfinv => some erfinv | .erfcinv => some erfcinv
  | .gamma => some gammaFn | .gammaln => some gammaln | .psi => some psi
  | .trigamma => some trigamma | .j0 => some (besselJ 0) | .j1 => some (besselJ 1)
  | .i0 => some (besselI 0) | .i1 => some (besselI 1)
  | .sigmoid | .ultraFastSigmoid => some fun x => 1 / (1 + (-x).exp)
  | .ceil => some .ceil | .floor => some .floor | .trunc => some truncate
  | .roundHalfEven => some toHalfEven | .roundHalfAway => some toHalfAway
  | .inv => some fun x => 1 / x
  | _ => none

def ScalarKind.complexFn? : ScalarKind -> Option (Cx -> Cx)
  | .log => some .log | .exp => some .exp | .sqrt => some .sqrt
  | .log2 => some fun a => .scale (1 / (2.0 : Float).log) (.log a)
  | .log10 => some fun a => .scale (1 / (10.0 : Float).log) (.log a)
  | .log1p => some fun a => .log (.add ⟨1, 0⟩ a)
  | .exp2 => some fun a => .exp (.scale (2.0 : Float).log a)
  | .expm1 => some fun a => .sub (.exp a) ⟨1, 0⟩
  | .cos => some .cos | .arccos => some .arccos | .sin => some .sin
  | .arcsin => some .arcsin | .tan => some .tan | .arctan => some .arctan
  | .cosh => some .cosh | .arccosh => some .arccosh | .sinh => some .sinh
  | .arcsinh => some .arcsinh | .tanh => some .tanh | .arctanh => some .arctanh
  | .inv => some fun a => .div ⟨1, 0⟩ a
  | .erf => some .erf | .gamma => some .gamma | .psi => some .psi
  | .roundHalfEven => some fun a => ⟨toHalfEven a.re, toHalfEven a.im⟩
  | _ => none

def ScalarKind.realFn2? : ScalarKind -> Option (Float -> Float -> Float)
  | .add => some (· + ·) | .mul => some (· * ·) | .sub => some (· - ·) | .trueDiv => some (· / ·)
  | .intDiv => some floorDiv | .mod => some floorMod | .pow => some floatPow
  | .arctan2 => some .atan2
  | .maximum => some fun a b => if a.isNaN then a else if b.isNaN then b else if a >= b then a else b
  | .minimum => some fun a b => if a.isNaN then a else if b.isNaN then b else if a <= b then a else b
  | .gammainc => some TensorGraph.gammainc | .gammaincc => some TensorGraph.gammaincc
  | .gammau => some fun k x => TensorGraph.gammaincc k x * gammaFn k
  | .gammal => some fun k x => TensorGraph.gammainc k x * gammaFn k
  | .chi2sf => some fun x k => if k.isNaN || k <= 0 then floatNaN else if x <= 0 then 1 else TensorGraph.gammaincc (k / 2) (x / 2)
  | .jv => some besselJ | .iv => some besselI
  | .xlogy0 => some fun x y => if x == 0 then 0 else x * y.log
  | .mulWithoutZeros => some fun x y => if x == 0 then y else if y == 0 then x else x * y
  | _ => none

def ScalarKind.complexFn2? : ScalarKind -> Option (Cx -> Cx -> Cx)
  | .add => some .add | .mul => some .mul | .sub => some .sub | .trueDiv => some .div
  | .pow => some .pow
  | .maximum => some fun a b => if a.re > b.re || (a.re == b.re && a.im >= b.im) then a else b
  | .minimum => some fun a b => if a.re < b.re || (a.re == b.re && a.im <= b.im) then a else b
  | .mulWithoutZeros => some fun x y =>
    if x.re == 0 && x.im == 0 then y else if y.re == 0 && y.im == 0 then x else .mul x y
  | _ => none

def powMod (b : Int) (m : Nat) : Nat -> Int
  | 0 => 1
  | n + 1 =>
    let h := powMod b m ((n + 1) / 2)
    let s := h * h % m
    if (n + 1) % 2 == 1 then s * b % m else s
termination_by n => n
decreasing_by omega

variable (d : DType) (k : ScalarKind) (wanted : Option DType) (a : NdArray) (shape : List Nat)

def bitwise (f : Nat -> Nat -> Nat) (a b : Int) : Int :=
  let m := (.pow 2 d.bits : Nat)
  d.wrap (f (a % m).toNat (b % m).toNat)

def ScalarKind.intFn2 (a b : Int) : Checked Int :=
  match k with
  | .add => .ok (d.wrap (a + b))
  | .mul => .ok (d.wrap (a * b))
  | .sub => if d == .bool then .error .type else .ok (d.wrap (a - b))
  | .maximum => .ok (max a b)
  | .minimum => .ok (min a b)
  | .intDiv => .ok (if b == 0 then 0 else d.wrap (a.fdiv b))
  | .mod => .ok (if b == 0 then 0 else d.wrap (a.fmod b))
  | .pow => if b < 0 then .error .value else .ok (d.wrap (powMod a (.pow 2 64) b.toNat))
  | .and => .ok (bitwise d .land a b)
  | .or => .ok (bitwise d .lor a b)
  | .xor => .ok (bitwise d .xor a b)
  | .mulWithoutZeros => .ok (if a == 0 then b else if b == 0 then a else d.wrap (a * b))
  | _ => .error .type

def ScalarKind.compare (a b : Elem) : Bool :=
  match k with
  | .lt => a.lt b
  | .gt => b.lt a
  | .le => a.lt b || a.eq b
  | .ge => b.lt a || a.eq b
  | .eq => a.eq b
  | .neq => !a.eq b
  | _ => false

def ScalarKind.types (ins : List DType) : DType × DType :=
  let common := match ins with
    | [] => .float64
    | d :: ds => ds.foldl .promote d
  let noBool d := if d == .bool then .int8 else d
  let single d := if d == .float16 then .float32 else d
  let real d := match d with
    | .complex64 => .float32
    | .complex128 => .float64
    | d => d
  let toFloat d := if d.isContinuous then d else d.floatFor
  let same d := (d, d)
  match k with
  | .lt | .gt | .le | .ge | .eq | .neq | .isnan | .isinf | .inRange .. => (common, .bool)
  | .or | .xor | .and | .invert => same common
  | .maximum | .minimum | .add | .mul | .sub | .mulWithoutZeros => same (wanted.getD common)
  | .trueDiv => same (wanted.getD (if common.isDiscrete then .float64 else common))
  | .intDiv | .mod | .pow => same (wanted.getD (noBool common))
  | .abs => (common, real common)
  | .sgn | .neg => same common
  | .sqr | .conj => same (noBool common)
  | .inv => same (wanted.getD common)
  | .roundHalfEven | .roundHalfAway => same common
  | .switch =>
    let d := if let [_, a, b] := ins then a.promote b else common
    same d
  | .angle => if common.isComplex then (common, real common) else same .float64
  | .real | .imag => (common, real common)
  | .identity => same common
  | .chi2sf => same .float64
  | .erf | .erfc | .erfcx | .erfinv | .erfcinv | .gamma | .gammaln | .psi | .trigamma
  | .gammainc | .gammaincc | .gammau | .gammal | .jv | .j1 | .j0 | .iv | .i1 | .i0 =>
    same (single (wanted.getD (toFloat common)))
  | _ => same (wanted.getD (toFloat common))

def ScalarKind.eval (d : DType) (args : List Elem) : Checked Elem :=
  match args with
  | [a] =>
    match k with
    | .isnan => .ok (.int (if a.isNaN then 1 else 0))
    | .isinf => .ok (.int (if a.isInf then 1 else 0))
    | .invert => if d == .bool then .ok (.int (1 - a.toInt)) else .ok (.int (d.wrap (-a.toInt - 1)))
    | .identity => .ok a
    | .abs => match a with
      | .int i => .ok (.int (d.wrap i.natAbs))
      | .flt x => .ok (.flt x.abs)
      | .cpx re im => .ok (.flt (Cx.abs ⟨re, im⟩))
    | .neg => match a with
      | .int i => if d == .bool then .error .type else .ok (.int (d.wrap (-i)))
      | .flt x => .ok (.flt (-x))
      | .cpx re im => .ok (.cpx (-re) (-im))
    | .sgn => match a with
      | .int i => .ok (.int i.sign)
      | .flt x => .ok (.flt (floatSign x))
      | .cpx re im => let c := Cx.sign ⟨re, im⟩; .ok (.cpx c.re c.im)
    | .sqr => match a with
      | .int i => .ok (.int (d.wrap (i * i)))
      | .flt x => .ok (.flt (x * x))
      | .cpx re im => let c := Cx.mul ⟨re, im⟩ ⟨re, im⟩; .ok (.cpx c.re c.im)
    | .conj => match a with
      | .cpx re im => .ok (.cpx re (-im))
      | a => .ok a
    | .real => match a with
      | .cpx re _ => .ok (.flt re)
      | a => .ok a
    | .imag => match a with
      | .cpx _ im => .ok (.flt im)
      | .flt _ => .ok (.flt 0)
      | .int _ => .ok (.int 0)
    | .angle => let (re, im) := a.toComplex; .ok (.flt (im.atan2 re))
    | k =>
      match a with
      | .cpx re im =>
        match k.complexFn? with
        | some f => let c := f ⟨re, im⟩; .ok (.cpx (d.roundFloat c.re) (d.roundFloat c.im))
        | none => .error .type
      | .flt x => if let some f := realFn? k then .ok (.flt (d.roundFloat (f x))) else .error .type
      | .int i =>
        match k with
        | .inv => .ok (.int (if i == 1 then 1 else if i == -1 then -1 else 0))
        | .roundHalfEven | .roundHalfAway => .ok a
        | _ => .error .type
  | [a, b] =>
    if k.isLogical then .ok (.int (if k.compare a b then 1 else 0)) else
    match a, b with
    | .int x, .int y =>
      match k.intFn2 d x y with
      | .ok z => .ok (.int z)
      | .error e => .error e
    | .cpx .., _ | _, .cpx .. =>
      match k.complexFn2? with
      | some f =>
        let (ar, ai) := a.toComplex
        let (br, bi) := b.toComplex
        let c := f ⟨ar, ai⟩ ⟨br, bi⟩
        .ok (.cpx (d.roundFloat c.re) (d.roundFloat c.im))
      | none => .error .type
    | a, b =>
      if let some f := k.realFn2? then .ok (.flt (d.roundFloat (f a.toFloat b.toFloat)))
      else .error .type
  | [c, a, b] => if let .switch := k then .ok (if c.truthy then a else b) else .error .type
  | _ => .error .type

/-- The length of two dimensions of which one may be stretched. -/
def stretch? (d e : Nat) : Option Nat := if e == d || e == 1 then some d else if d == 1 then some e else none

def broadcastShapes (shapes : List (List Nat)) : Option (List Nat) :=
  let n := shapes.foldl (fun m s => max m s.length) 0
  let padded := shapes.map fun s => .replicate (n - s.length) 1 ++ s
  (List.range n).mapM fun i => padded.foldlM (fun d s => stretch? d (s.getD i 1)) 1

def stretchStrides (src dst : List Nat) : List Nat :=
  .replicate (dst.length - src.length) 0 ++ (src.zip (rowStrides src)).map fun (d, s) => if d == 1 then 0 else s

def NdArray.stretched : Array Elem :=
  if a.shape == shape then a.data
  else
    let st := stretchStrides a.shape shape
    (Array.range (shapeSize shape)).map fun k => a.at' (flatIndex st (unflatten shape k))

def NdArray.broadcastTo : NdArray := ⟨a.dtype, shape, a.stretched shape, 0⟩

def zipArrays (arrays : List (Array Elem)) (n : Nat) (f : List Elem -> Checked Elem) :
    Checked (Array Elem) :=
  match arrays with
  | [a] => a.mapM fun x => f [x]
  | [a, b] => (a.zip b).mapM fun (x, y) => f [x, y]
  | arrays => (Array.range n).mapM fun i => f (arrays.map fun a => a.getD i (.int 0))

def applyKind (ins : List NdArray) :
    Checked NdArray := do
  let (c, r) := k.types wanted (ins.map (·.dtype))
  match broadcastShapes (ins.map (·.shape)) with
  | none => .error .value
  | some shape =>
    let prep a := (a.cast c).stretched shape
    let arrays := match k, ins with
      | .switch, x :: rest => x.stretched shape :: rest.map prep
      | _, ins => ins.map prep
    let data <- zipArrays arrays (shapeSize shape) (k.eval c)
    return ⟨r, shape, if r == c then data else data.map r.fit, 0⟩

/-! ## Selecting from arrays -/

/-- One entry of a selection. -/
inductive Sel
  | pos (i : Int)
  | range (start stop step : Option Int)
  | newAxis
  | rest
  | index (a : NdArray)
  | mask (a : NdArray)

def rangeOf (len : Nat) (start stop step : Option Int) : Checked (Int × Nat × Int) :=
  let st := step.getD 1
  if st == 0 then .error .value else
  let n := len
  let clamp x lo hi := max lo (min hi x)
  let norm x : Int := if x < 0 then x + n else x
  let (a, b) : Int × Int :=
    if st > 0 then ((start.map fun x => clamp (norm x) 0 n).getD 0, (stop.map fun x => clamp (norm x) 0 n).getD n)
    else
      ((start.map fun x => clamp (norm x) (-1) (n - 1)).getD (n - 1),
        (stop.map fun x => clamp (norm x) (-1) (n - 1)).getD (-1))
  let count :=
    if st > 0 then if a < b then (b - a - 1) / st + 1 else 0
    else if b < a then (a - b - 1) / (-st) + 1 else 0
  .ok (a, count.toNat, st)

def positionOf (len : Nat) (i : Int) : Checked Nat :=
  let j := placeOf len i
  if 0 <= j && j < len then .ok j.toNat else .error .index

def Sel.uses : Sel -> Nat
  | pos _ | range .. | index _ => 1
  | newAxis | rest => 0
  | mask a => a.ndim

variable (shape : List Nat) (a : NdArray) (sels : List Sel) (ndim : Nat)

def NdArray.nonzero : List NdArray :=
  let idx := ((List.range a.size).filter fun k => (a.at' k).truthy).map (unflatten a.shape)
  (List.range a.ndim).map fun d => .ofInts .int64 (idx.map fun l => (l.getD d 0 : Nat))

/-- An entry after the shape of the array is known: a range of a dimension, a new dimension, or
positions in a dimension. -/
inductive Step
  | span (stride : Nat) (first : Int) (count : Nat) (step : Int)
  | one
  | gather (stride : Nat) (at_ : NdArray)

def expandMasks : Checked (List Sel) := do
  let rec go dims : List Sel -> Checked (List Sel)
    | [] => .ok []
    | .mask a :: r => do
      if dims.take a.ndim != a.shape then .error .index
      else return a.nonzero.map .index ++ (<- go (dims.drop a.ndim) r)
    | .rest :: r => do
      return .rest :: (<- go (dims.drop (dims.length - (r.foldl (fun n s => n + s.uses) 0))) r)
    | s :: r => do return s :: (<- go (dims.drop s.uses) r)
  go shape sels

def completeSels (sels : List Sel) : Checked (List Sel) :=
  let used := sels.foldl (fun n s => n + s.uses) 0
  let rests := sels.filter fun
    | .rest => true
    | _ => false
  if used > ndim || rests.length > 1 then .error .index else
  let fill := .replicate (ndim - used) (.range none none none)
  if rests.isEmpty then .ok (sels ++ fill)
  else .ok (sels.flatMap fun s => match s with
    | .rest => fill
    | s => [s])

def stepsOf : Checked (List Step) := do
  let joint := sels.any fun
    | .index _ => true
    | _ => false
  let rec go : List (Nat × Nat) -> List Sel -> Checked (List Step)
    | _, [] => .ok []
    | dims, .newAxis :: r => do return .one :: (<- go dims r)
    | (len, st) :: dims, s :: r => do
      let step <- match s with
        | .pos i =>
          let j <- positionOf len i
          if joint then pure (Step.gather st (.ofElem .int64 (.int j)))
          else pure (Step.span st j 1 0)
        | .range a b c =>
          let (first, count, by_) <- rangeOf len a b c
          pure (Step.span st first count by_)
        | .index a =>
          let data <- a.data.mapM fun e => do return .int (<- positionOf len e.toInt)
          pure (Step.gather st ⟨.int64, a.shape, data, 0⟩)
        | _ => .error .index
      return step :: (<- go dims r)
    | [], _ :: _ => .error .index
  go (shape.zip (rowStrides shape)) sels

/-- What a selection denotes: the shape of the result and the places in the array. -/
structure Places where
  shape : List Nat
  at_ : Array Nat

def selectPlaces : Checked Places := do
  let sels <- expandMasks shape sels
  let steps <- stepsOf shape (<- completeSels shape.length sels)
  let isGather s := s matches .gather ..
  let arrays := steps.filterMap fun
    | .gather st a => some (st, a)
    | _ => none
  let common <- match broadcastShapes (arrays.map fun (_, a) => a.shape) with
    | some s => .ok s
    | none => .error .index
  -- offsets of the joint positions
  let offsets := (Array.range (shapeSize common)).map fun k =>
    let idx := unflatten common k
    arrays.foldl (fun n (st, a) => n + st * (a.at' (flatIndex (stretchStrides a.shape common) idx)).toInt.toNat) 0
  let dropped := steps.dropWhile fun s => !isGather s
  let together := (dropped.takeWhile isGather).length == arrays.length
  let before := steps.takeWhile fun s => !isGather s
  let others l := l.filter fun s => !isGather s
  let (front, back) := if arrays.isEmpty then (steps, [])
    else if together then (before, others dropped) else ([], others steps)
  -- a single position has no dimension of its own
  let visible l := l.filterMap fun
    | .span st a n by_ => if by_ == 0 then none else some (st * a, n, st * by_)
    | .one => some (0, 1, 0)
    | .gather .. => none
  let fixed := (front ++ back).foldl (fun (n : Int) s => match s with
    | .span st a _ by_ => if by_ == 0 then n + st * a else n
    | _ => n) 0
  let fs := visible front
  let bs := visible back
  let fshape := fs.map fun (_, n, _) => n
  let total := fshape ++ common ++ (bs.map fun (_, n, _) => n)
  let offsetOf l (idx : List Nat) :=
    (l.zip idx).foldl (fun n ((a, _, st), i) => n + a + st * i) 0
  let at_ := (Array.range (shapeSize total)).map fun k =>
    let idx := unflatten total k
    let fi := idx.take fs.length
    let ci := (idx.drop fs.length).take common.length
    let bi := idx.drop (fs.length + common.length)
    (fixed + offsetOf fs fi + offsetOf bs bi + (offsets.getD (flatIndex (rowStrides common) ci) 0)).toNat
  return ⟨total, at_⟩

namespace NdArray

def select : Checked NdArray := do
  let p <- selectPlaces a.shape sels
  let basic := sels.all fun
    | .index _ | .mask _ => false
    | _ => true
  return ⟨a.dtype, p.shape, p.at_.map a.at', if basic then a.region else 0⟩

variable (v : NdArray)

def forAssignment (shape : List Nat) : Checked (Array Elem) :=
  let extra := v.shape.length - shape.length
  let vs := if v.shape.take extra |>.all (· == 1) then v.shape.drop extra else v.shape
  match broadcastShapes [vs, shape] with
  | some s => if s == shape then .ok ({ v with shape := vs }.stretched shape) else .error .value
  | none => .error .value

def assign : Checked NdArray := do
  let p <- selectPlaces a.shape sels
  let vals <- (v.cast a.dtype).forAssignment p.shape
  let data := (p.at_.zip vals).foldl (fun d (k, e) => d.setIfInBounds k e) a.data
  return { a with data }

def addAt : Checked NdArray := do
  let p <- selectPlaces a.shape sels
  let vals <- (v.cast a.dtype).forAssignment p.shape
  let step d q := do
    let d <- d
    return d.setIfInBounds q.1 (<- ScalarKind.add.eval a.dtype [d.getD q.1 (.int 0), q.2])
  let data <- (p.at_.zip vals).foldl step (.ok a.data)
  return { a with data }

def reshape (shape : List Int) : Checked NdArray :=
  let unknown := shape.filter (· < 0)
  let known := (shape.filter (· >= 0)).foldl (fun n d => n * d.toNat) 1
  if unknown.length > 1 || unknown.any (· != -1) then .error .value
  else if unknown.isEmpty then
    if known == a.size then .ok { a with shape := shape.map Int.toNat } else .error .value
  else if known == 0 || a.size % known != 0 then .error .value
  else .ok { a with shape := shape.map fun d => if d < 0 then a.size / known else d.toNat }

def concat (xs : List NdArray) (axis : Nat) : Checked NdArray :=
  match xs with
  | [] => .error .value
  | x :: rest =>
    let same y := y.ndim == x.ndim &&
      ((List.range x.ndim).all fun i => i == axis || y.shape.getD i 0 == x.shape.getD i 0)
    if x.ndim == 0 || axis >= x.ndim || !rest.all same then .error .value else
    let d := rest.foldl (fun d y => d.promote y.dtype) x.dtype
    let xs := xs.map (·.cast d)
    let shape := x.shape.set axis (xs.foldl (fun n y => n + y.shape.getD axis 0) 0)
    let outer := shapeSize (x.shape.take axis)
    let inner := shapeSize (x.shape.drop (axis + 1))
    let data := (List.range outer).foldl (fun acc o =>
      xs.foldl (fun acc y =>
        let w := y.shape.getD axis 0 * inner
        acc ++ y.data.extract (o * w) (o * w + w)) acc) #[]
    .ok ⟨d, shape, data, 0⟩

def lanes (axis : Nat) : List (List Elem) :=
  let len := a.shape.getD axis 1
  let inner := shapeSize (a.shape.drop (axis + 1))
  (List.range (shapeSize (a.shape.take axis))).flatMap fun o => (List.range inner).map fun i =>
    (List.range len).map fun k => a.at' ((o * len + k) * inner + i)

def ofLanes (d : DType) (shape : List Nat) (axis len : Nat) (ls : List (List Elem)) : NdArray :=
  let inner := shapeSize (shape.drop (axis + 1))
  let cols := (ls.map List.toArray).toArray
  let shape := shape.set axis len
  ⟨d, shape, (Array.range (shapeSize shape)).map fun p =>
    let i := p % inner
    let k := p / inner % len
    (cols.getD ((p / inner / len) * inner + i) #[]).getD k (.int 0), 0⟩

end NdArray

/-! ## Order of elements -/

def axisOf (axis : Int) : Checked Nat :=
  let k := placeOf ndim axis
  if 0 <= k && k < ndim then .ok k.toNat else .error .axis

end TensorGraph
