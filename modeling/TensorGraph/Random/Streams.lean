import TensorGraph.Compile.Inputs

/-!
# Operators that draw from streams

Each stream has a state of six words. A step of all streams gives one sample from each.
-/

namespace TensorGraph.Random

/-- The last three values of each of the two recurrences. -/
structure StreamState where
  (x11 x12 x13 x21 x22 x23 : Int32)
deriving Inhabited

def modulus1 : Int32 := 2147483647
def modulus2 : Int32 := 2147462579

namespace StreamState

def toInts (s : StreamState) : List Int := [s.x11, s.x12, s.x13, s.x21, s.x22, s.x23].map Int32.toInt

def ofInts? : List Int -> Option StreamState
  | [a, b, c, d, e, f] => some ⟨.ofInt a, .ofInt b, .ofInt c, .ofInt d, .ofInt e, .ofInt f⟩
  | _ => none

end StreamState

def reduceOnce (m y : Int32) : Int32 := if y < 0 || y >= m then y - m else y

def difference (a b : Int32) : Int32 := if a <= b then a - b + modulus1 else a - b

def step (s : StreamState) : StreamState × Int32 :=
  let y := ((s.x12 &&& 511) <<< 22) + (s.x12 >>> 9) + ((s.x13 &&& 16777215) <<< 7) + (s.x13 >>> 24)
  let a := reduceOnce modulus1 (reduceOnce modulus1 y + s.x13)
  let half (x : Int32) := reduceOnce modulus2 (((x &&& 65535) <<< 15) + (x >>> 16) * 21069)
  let b := reduceOnce modulus2 (reduceOnce modulus2 (half s.x23 + s.x23) + half s.x21)
  (⟨a, s.x11, s.x12, b, s.x21, s.x22⟩, difference a b)

/-- What 64 bits keep of a number. -/
def word (i : Int) : Int := (Int64.ofInt i).toInt

def products (r s : List Int) (m : Int) : List Int := r.zipWith (fun a x => (word (a * x)).fmod m) s

def dotModulo (rows : List (List Int)) (s : List Int) (m : Int) : List Int :=
  rows.map fun r => (Int32.ofInt ((word ((products r s m).foldl (· + ·) 0)).fmod m)).toInt

/-- Matrices that advance both recurrences by the same number of steps. -/
structure Jump where
  (first second : List (List Int))

def toNextStream : Jump where
  first := [[1516919229, 758510237, 499121365], [1884998244, 1516919229, 335398200], [601897748, 1884998244, 358115744]]
  second := [[1228857673, 1496414766, 954677935], [1133297478, 1407477216, 1496414766], [2002613992, 1639496704, 1407477216]]

def beyondStreams : Jump where
  first := [[1702500920, 1849582496, 1656874625], [828554832, 1702500920, 1512419905], [1143731069, 828554832, 102237247]]
  second := [[796789021, 1464208080, 607337906], [1241679051, 1431130166, 1464208080], [1401213391, 1178684362, 1431130166]]

def Jump.ints (j : Jump) (v : List Int) : List Int :=
  dotModulo j.first (v.take 3) modulus1.toInt ++ dotModulo j.second (v.drop 3) modulus2.toInt

def Jump.apply (j : Jump) (s : StreamState) : StreamState := (StreamState.ofInts? (j.ints s.toInts)).getD s

def streams (s : StreamState) : Nat -> List StreamState
  | 0 => []
  | n + 1 => s :: streams (toNextStream.apply s) n

def draw (states : Array StreamState) (n : Nat) : Array Int32 × Array StreamState :=
  (List.range n).foldl (fun (zs, ss) i =>
    let k := i % states.size
    let (s, z) := step (ss.getD k default)
    (zs.push z, ss.setIfInBounds k s)) (#[], states)

variable (d : DType) (n : NodeId) (args : Values) (l : List Int) (o : Op)

def fraction (z : Int32) : Elem :=
  let whole := z.toUInt32.toFloat
  d.fit (.flt (match d with
    | .float16 => .ofInt (z.toInt % 32768 + 1) * (511 / 16777216)
    -- the single precision number below `2 ^ -31`
    | .float32 => whole * 4.6566125955216364e-10
    | _ => whole * 4.656612873077392578125e-10))

def chunks (size : Nat) : Nat -> List α -> List (List α)
  | 0, _ => []
  | n + 1, l => l.take size :: chunks size n (l.drop size)

def stateArray (states : List StreamState) : NdArray :=
  ⟨.int32, [states.length, 6], (states.flatMap StreamState.toInts).toArray.map .int, 0⟩

/-- Whether an array has more bytes than can be addressed. -/
def tooLarge (shape : List Nat) : Bool := (shape.filter (· != 0)).foldl (· * ·) d.itemSize >= .pow 2 63

/-- Why a seed is refused. -/
inductive SeedFault
  | zero
  | large
  | allZero (first : Bool)
  | someLarge (first : Bool)
  | overflow

def SeedFault.message : SeedFault -> String
  | .zero => "seed should not be 0"
  | .large => "seed should be less than 2147462579"
  | .allZero first => "The " ++ (if first then "first" else "last") ++ " 3 values of seed should not be all 0"
  | .someLarge first => "The " ++ (if first then "first" else "last") ++ " 3 values of seed should be less than "
      ++ toString (if first then modulus1 else modulus2)
  | .overflow => ""

def stored : Except SeedFault StreamState :=
  if l.any fun i => i >= .pow 2 63 || i < -.pow 2 63 then .error .overflow else .ok ((StreamState.ofInts? l).getD default)

def ofSeed (s : Int) : Except SeedFault StreamState :=
  if s == 0 then .error .zero else if s >= modulus2.toInt then .error .large else stored (.replicate 6 s)

def ofSeeds : Except SeedFault StreamState :=
  let (a, b) := (l.take 3, l.drop 3)
  if a.all (· == 0) then .error (.allZero true)
  else if b.all (· == 0) then .error (.allZero false)
  else if a.any (· >= modulus1.toInt) then .error (.someLarge true)
  else if b.any (· >= modulus2.toInt) then .error (.someLarge false)
  else stored l

def streamCount (size : List Int) : Int :=
  let r := size.foldl (· * ·) 1
  min (if r > 6 then r / 6 else r) 15360

open Tensor

def uniformNode (d : DType) (bcast : List Bool) (args : Values) : M NodeId := do
  let [state, size] := args | badType
  let part i := match size with
    | .var v => getItem 3 v i
    | s => do
      let some x := (<- iterate s)[i]? | badIndex
      return x
  let bs <- bcast.zipIdx.mapM fun (_, i) => do
    return ((<- extractConstant (<- part i)).elem?.map fun (_, e) => e == .int 1 || e == .flt 1).getD false
  let state <- asTensor state
  newNode o [state, <- asTensor size] [<- typeOf state, .tensor d bs none]

def uniformPerform : M Values := do
  let [state, size] := args | badValue
  let dims := (<- arrayOf size).toInts
  let count := (dims.foldl (· * ·) 1).bmod (.pow 2 64)
  if count > modulus1.toInt then failValue "rng_mrg does not support more then (2**31 -1) samples"
  let a <- arrayOf state
  let [rows, cols] := a.shape | badValue
  let shape := dims.map Int.toNat
  if dims.any (· < 0) || tooLarge d shape then badValue
  if count > 0 && !d.isFloat then raise .unboundLocal
  check (count == 0 || a.dtype == .int32)
  let some states := (chunks cols rows a.toInts).mapM StreamState.ofInts? | badValue
  let (zs, states) := draw states.toArray count.toNat
  ((<- outsOf n).zip [stateArray states.toList, ⟨d, shape, zs.map (fraction d), 0⟩]).mapM fun (v, x) => do
    (<- typeOf v).filter x

def matVecModulo (A s m : Value) : M NdArray := do
  let A <- arrayOf A
  check (A.dtype == .int64)
  let [rows, k] := A.shape | badValue
  let s := (<- arrayOf s).toInts
  if s.length != k then badValue
  return .ofInts .int32 (dotModulo (chunks k rows A.toInts) s ((<- arrayOf m).toInts.headD 0))

def dotModuloPerform : M Values := do
  let [A, s, m, B, t, n] := args | badValue
  let x <- matVecModulo A s m
  pure [.array (.ofInts .int32 (x.toInts ++ (<- matVecModulo B t n).toInts))]

/-! ## Draws from finite distributions -/

def finiteNode (d : String) (counted : Bool) (args : Values) : M NodeId := do
  let p :: u :: rest := args | badType
  let p <- asTensor p
  let u <- asTensor u
  let dims v k what := do
    let n <- ndimOf v
    if n != k then cannot (tupleText [s!"'{what} ndim should be {k}'", toString n])
  dims p 2 "pvals"
  dims u 1 "unis"
  let d <- if d == "auto" then (if counted then dtypeOf p else pure .int64) else
    if let some d := DType.ofName? d then pure d
    else failType s!"Unsupported dtype for TensorType: {d}"
  newNode o [p, u, <- asScalar (rest.headD 1)] [.tensor d (<- bcastOf p) none]

def finiteGrad (ins : Vars) : M Vars :=
  ins.mapM fun x => do if (<- dtypeOf x).isDiscrete then floatZerosLike x else zerosLike x

def finiteInputs : M (List (List Float) × List Float × Nat) := do
  let [p, u, n] := args | badValue
  let a <- arrayOf p
  let us <- arrayOf u
  let [rows, cols] := a.shape | badValue
  let n <- intArg n
  if (us.size : Int) != rows * n then
    failWith .value ["'unis.shape[0] != pvals.shape[0] * n_samples'", toString us.size, toString rows, toString n]
  return (chunks cols rows (a.data.toList.map Elem.toFloat), us.data.toList.map Elem.toFloat, n.toNat)

def runningSums (ps : List Float) : List Float := (ps.foldl (fun (acc, s) p => (acc ++ [s + p], s + p)) ([], 0.0)).1

def countsPerform : M Values := do
  let (rows, us, k) <- finiteInputs args
  let counts <- rows.zipIdx.mapM fun (r, i) => do
    let sums := runningSums r
    let hits := (List.range k).map fun c => (sums.takeWhile (· < (us.getD (c * rows.length + i) 0))).length
    if hits.any (· >= r.length) then badIndex
    return (List.range r.length).map fun m => (hits.filter (· == m)).length
  let d <- dtypeOf (<- outOf n)
  return [.array ⟨d, [rows.length, (rows.headD []).length], (counts.flatten.map fun c => d.fit (.int c)).toArray, 0⟩]

/-! ## The source of streams -/

/-- The arguments of a draw that say which streams it uses. -/
structure DrawRequest where
  size : Value
  ndim : Value := .null
  dtype : Option DType := none
  streams : Value := .null
  more : Kw := []

def DrawRequest.drawType (q : DrawRequest) (a b : VarId) : M DType := do
  if let some d := q.dtype then pure d else commonType [<- floatX, <- dtypeOf a, <- dtypeOf b]

variable (r : RecordId) (q : DrawRequest) (seed : Value) (size : Value)

def sourceSeed : M Value := do
  let put x := do
    match x with
    | .ok s => return .array (.ofInts .int32 s.toInts)
    | .error .overflow => raise .overflow
    | .error e => failWith .value [quoted e.message, <- reprOf seed]
  match seed with
  | .int i => put (ofSeed i)
  | .bool b => put (ofSeed b.toInt)
  | .str s => if s.length == 6 then badType else failType "seed should be 1 integer or 6 integers"
  | .list _ | .tuple _ | .array _ | .dict _ =>
    let l <- iterate seed
    if l.length != 6 then failType "seed should be 1 integer or 6 integers"
    put (ofSeeds (<- l.mapM intArg))
  | _ => badType

def newSource : M Value := do
  let state <- sourceSeed seed
  newRecord "MRG_RandomStream" [("state_updates", <- newList []), ("default_instance_seed", seed), ("rstate", state)]

def countFor : M Int := do
  let some l <- members? size | pure 15360
  let some is := l.mapM Value.int? | pure 15360
  return streamCount is

def sourceState : M StreamState := do
  let some s := StreamState.ofInts? (<- arrayOf (<- field r "rstate")).toInts | badValue
  pure s

def skipAhead : M Unit := do
  setField r "rstate" (.array (.ofInts .int32 (beyondStreams.apply (<- sourceState r)).toInts))

def substreams (n : Value) (further : Bool) : M Value := do
  let some n := n.int? | badType
  check (n < .pow 2 72 && n > 0)
  if tooLarge .int32 [n.toNat, 6] then badValue
  let s <- sourceState r
  if further then skipAhead r
  return (stateArray (streams s n.toNat))

def reseed : M Unit := do
  let seed <- if seed.isNull then field r "default_instance_seed" else pure seed
  setField r "rstate" (<- sourceSeed seed)
  for entry in <- iterate (<- field r "state_updates") do
    let .tuple [old, _, size, n] := entry | badValue
    let n <- if n.isNull then do pure (.int (<- countFor size)) else pure n
    let _ <- callMethod old "set_value" [<- substreams r n true] [("borrow", true)]

def undefinedBelow (x : Value) : M VarId := applyTo .undefinedGrad [x]

def uniform (r : RecordId) (q : DrawRequest) (low high : Value) : M VarId := do
  let low <- asTensor low
  let high <- asTensor high
  let d <- q.drawType low high
  let low <- undefinedBelow (<- cast low d)
  let high <- undefinedBelow (<- cast high d)
  match q.size with
  | .tuple xs =>
    check (xs.all fun x => x.int?.isSome || x.var?.isSome)
    if xs.any fun x => (x.int?.getD 1) <= 0 then
      failWith .value ["'The specified size contains a dimension with value <= 0'", <- reprOf q.size]
  | s =>
    let ok <- if let .var v := s then do pure ((<- typeOf v).ndim? == some 1) else pure false
    if !ok then
      failType s!"size must be a tuple of int or a Theano Variable with 1 dimension, got {<- textOf s} of type {<- classTextOf s}"
  let n <- if q.streams.isNull then do pure (.int (<- countFor q.size)) else pure q.streams
  let states <- substreams r n true
  if let k :: ks := q.more.map (·.1) |>.filter (· != "target") then
    failType ("uniform() got unexpected keyword arguments dict_keys([" ++ commaList ((k :: ks).map quoted) ++ "])")
  let state <- sharedFrom states none false none none
  let size <- asTensor q.size
  let ndim <- if let some k := q.ndim.int? then pure k.toNat else vectorLength size
  let [next, u] := (<- applyAll (.mrgUniform d (.replicate ndim false) false) [state, size]) | badValue
  let set v name x :=
    modifyVar v fun i => { i with attrs := alistSet name x i.attrs }
  set u "rstate" state
  set u "update" (.tuple [state, next])
  let .list c <- field r "state_updates" | noAttr
  setCell c (.seq ((<- cellItems c) ++ [Value.tuple [state, next, q.size, q.streams]]).toArray)
  set state "default_update" next
  let x <- add (<- mul u (<- sub high low)) low
  if (<- bcastOf u) != (<- bcastOf x) then
    cannot ("Increase the size to match the broadcasting pattern of \x60low\x60 and \x60high\x60 arguments")
  check ((<- dtypeOf x) == d)
  pure x

def checkedSize : M VarId := do
  let bad m more := do
    failValue (tupleText (quoted m :: (<- more.mapM reprOf)))
  match size with
  | .var v =>
    match <- ndimOf v with
    | 1 => return v
    | 0 => let .var s <- stack [size] 0 | badType
           return s
    | _ => bad "Theano variable must have 1 dimension to be a valid size." [size]
  | .tuple _ | .list _ =>
    for i in <- iterate size do
      match i with
      | .var v => if (<- ndimOf v) != 0 then bad "Non-scalar Theano variable in size" [size, i]
      | i => match i.int? with
        | some k => if k <= 0 then bad "Non-positive dimensions not allowed in size." [size, i]
        | none => bad "Only Theano variables and integers are allowed in a size-tuple." [size, i]
  | s =>
    if let some i := s.int? then return <- asTensor (.array (.ofInts .int64 [i]))
    else bad "Size must be a int, tuple, list or Theano variable." [size]
  asTensor size

def normal (avg std : Value) (truncate : Bool) : M VarId := do
  let size <- checkedSize q.size
  let avg <- undefinedBelow (<- asTensor avg)
  let std <- undefinedBelow (<- asTensor std)
  let d <- q.drawType avg std
  let avg <- cast avg d
  let std <- cast std d
  let draws n low :=
    uniform r { q with size := .tuple [n], ndim := 1, dtype := some d } low (.float 1)
  let odd <- prod size none (some .int64)
  let even <- add odd (<- mod odd 2)
  let us <- draws even (.float 0)
  let pick v i : M VarId := do
    let .var w <- getItem 5 v i | badType
    return w
  let part v lo hi := pick v (.slice lo hi .null)
  let u1 <- part us .null (<- intDiv even 2)
  let u2 <- part us (<- intDiv even 2) .null
  let radius u : M VarId := do sqrt (<- mul (.float (-2)) (<- log u))
  let rad <- radius u1
  let angle <- mul (.array (.ofElem d (d.fit (.flt 6.283185307179586)))) u2
  let cosA <- ew "cos" .cos [angle]
  let sinA <- ew "sin" .sin [angle]
  let z0 <- mul rad cosA
  let z1 <- mul rad sinA
  let all <- if truncate then do
      let beyond z : M VarId := do or (<- lt z (.float (-2))) (<- gt z (.float 2))
      let f0 <- beyond z0
      let f1 <- beyond z1
      let ok0 <- pick z0 (.tuple (valuesOf (<- nonzeroOf (<- invert f0))))
      let ok1 <- pick z1 (.tuple (valuesOf (<- nonzeroOf (<- invert f1))))
      let f0 := (<- nonzeroOf f0).headD default
      let f1 := (<- nonzeroOf f1).headD default
      let n <- operate .add (<- attrOf f0 "size") (<- attrOf f1 "size")
      let low <- elemConstant d (d.fit (.flt 0.1353352832366127))
      let rad <- radius (<- draws n low)
      let fixed0 <- mul (<- part rad .null (<- attrOf f0 "size")) (<- pick cosA f0)
      join 0 [ok0, fixed0, ok1, <- mul (<- part rad (<- attrOf f0 "size") .null) (<- pick sinA f1)]
    else join 0 [z0, z1]
  let .var all := all | badType
  add (<- mul (<- reshapeTo (<- part all .null odd) size q.ndim.int?) std) avg

def drawsFor (p : VarId) (n : Value) : M VarId := do
  let .var col <- getItem 5 p (.tuple [.whole, 0]) | badType
  let .var size <- operate .mul (<- shape col) n | badType
  uniform r { q with size, ndim := 1 } (.float 0) (.float 1)

end TensorGraph.Random
