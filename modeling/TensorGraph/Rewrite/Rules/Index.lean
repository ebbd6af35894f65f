import TensorGraph.Rewrite.Rules.Basic

/-! # Rules on parts of tensors -/

namespace TensorGraph.Rules

open Tensor

variable (g : GraphId) (n : NodeId)

def indexValues (idx : List IndexEntry) (ins : Vars) : Values :=
  (pairIndices idx ins).map fun
    | .pos v => v
    | .slice a b c => .slice (.ofOption .var a) (.ofOption .var b) (.ofOption .var c)

def partOf (x : VarId) (slices : Values) : M VarId := do
  applyTo (.subtensor (<- slices.mapM indexEntry)) (x :: indexOperands slices)

def valueIs (v : Option Value) (k : Float) : Bool :=
  match v with
  | some (.array a) => a.data.all (· == .flt k)
  | v => (v.bind Value.elem?).any (·.2 == .flt k)

/-- Whether an index takes a whole dimension, in steps of `k`. -/
def takesAll (k : Float) : IndexItem -> M Bool
  | .slice none none none => pure true
  | .slice none none (some s) => isKnown s k
  | _ => pure false

def partOfSetPart : Offer := do
  let (.subtensor idx, x :: is) <- readNode n | skip
  let some (.incSubtensor idx2 _ true _, base :: y :: is2) <- made? x | skip
  if is2 != is || idx2 != idx then return .none
  let out <- outOf n
  let y <- cast y (<- dtypeOf x)
  if <- sameType out y then return .one y
  check !(<- sameBcast out y)
  let part <- apply1 (.subtensor idx) (base :: is2)
  propose do alloc y (<- dimsOf part)

def dropUnitIndex : Offer := do
  let (.subtensor idx, x :: is) <- readNode n | skip
  let b <- bcastOf x
  let mut drop := []
  for (i, d) in (pairIndices idx is).zipIdx do
    match i with
    | .pos v =>
      let k := (<- constant? v).bind knownInt?
      if !((k == some 0 || k == some (-1)) && b.getD d false) then return .none
      drop := drop ++ [d]
    | .slice none none none => pure ()
    | .slice .. => return .none
  if drop.isEmpty then return .none
  propose (shuffleDims x ((List.range b.length).filter fun d => !drop.contains d))

def listSlice (l : List α) (start stop step : Value) : Option (List α) := do
  let part v := if v.isNull then some none else (knownInt? v).map some
  let (first, n, by_) <- (rangeOf l.length (<- part start) (<- part stop) (<- part step)).toOption
  (List.range n).mapM fun (i : Nat) => l[(first + i * by_).toNat]?

def partOfMadeVector : Offer := do
  let ins <- insOf n
  let some (.makeVector .int64, parts) <- made? (ins.headD default) | skip
  let at_ i := (positionOf parts.length i).toOption.bind (parts[·]?)
  let vector vs := do likeOutput n (<- apply1 (.makeVector .int64) vs)
  let i := ins.getD 1 default
  match <- opOf n with
  | .subtensor [.pos _] =>
    let some c <- valueOf? i true true | skip
    let some v := (knownInt? c).bind at_ | skip
    return .one v
  | .subtensor idx =>
    let [.slice ..] := idx | badValue
    let [.slice a b c] := pairIndices idx (ins.drop 1) | skip
    let known v := if let some v := v then constantValue v else pure .null
    try
      let some vs := listSlice parts (<- known a) (<- known b) (<- known c) | badType
      vector vs
    catch e => if e.isA .notScalarConstant then skip else throw e
  | .advSubtensor1 _ =>
    let some (.array a) <- constant? i | failType "case not expected"
    vector (<- a.data.toList.mapM fun e => if let some v := at_ e.toInt then pure v else badIndex)
  | _ => skip

def uselessIncPart : Offer := do
  let (.incSubtensor idx _ set _, x :: y :: is) <- readNode n | skip
  if !set && !valueIs (<- valueOf? x true true) 0 then return .none
  if (<- ndimOf x) != (<- ndimOf y) || !(<- sameBcast x y) then return .none
  if !(<- (pairIndices idx is).allM (takesAll (-1))) then return .none
  let some f <- Shapes.of? g | skip
  if !(<- Shapes.same f x y) then return .none
  if idx.all (· matches .slice _ _ none) then return .one y
  propose (apply1 (.subtensor idx) (y :: is))

def setToInc : Offer := do
  let (.advIncSubtensor1 _ true, [x, y, i]) <- readNode n | skip
  let some addends <- madeByKind? y .add | skip
  let taken (k : Nat) := do
    let some v := addends[k]? | badIndex
    let some (.advSubtensor1 _, ins) <- made? v | return none
    return some ins
  let (src, other) <- match <- taken 0 with
    | some ins => pure (ins, addends[1]?)
    | none => if let some ins := <- taken 1 then pure (ins, addends[0]?) else return .none
  let some o := other | badIndex
  if src.getD 1 default != i || src.getD 0 default != x then return .none
  propose (apply1 (.advIncSubtensor1 false false) [x, o, i])

def uselessSlice : Offer := do
  let (.subtensor idx, x :: is) <- readNode n | skip
  let keep := ((<- (pairIndices idx is).mapM (takesAll 1)).reverse.dropWhile id).length
  if keep == idx.length then return .none
  propose (partOf x ((indexValues idx is).take keep))

def uselessPart : Offer := do
  let some f <- Shapes.of? g | skip
  let ins <- insOf n
  let x := ins.headD default
  let lengths := do
    if !(<- Shapes.knows f x) then badKey
    let some l <- Shapes.shapeOf f x | badType
    return l
  match <- opOf n with
  | .subtensor idx =>
    let known <- knownIndices idx (ins.drop 1) true
    let is v k := v.isNull || (v.var?.isNone && valueIs (some v) k)
    for i in known do
      let .slice start _ step := i | return .no
      if !is start 0 || !is step 1 then return .no
    for (i, p) in known.zipIdx do
      let .slice _ stop _ := i | return .no
      let len := (<- lengths).getD p default
      match stop with
      | .null => pure ()
      | .var v =>
        let (a, b) <- match <- made? v, <- made? len with
          | some (.scalarFromTensor, t :: _), _ => pure (t, len)
          | _, some (.tensorFromScalar, t :: _) => pure (v, t)
          | _, _ => return .no
        check ((<- typeOf b).dtype? == some .int64)
        check ((<- typeOf a).dtype?.any DType.isSigned)
        if a != b then return .no
      | .int _ | .number .. =>
        if (stop.int?.getD 0) < (((<- valueOf? len true true).bind knownInt?).getD 9223372036854775807) then return .no
      | _ => return .no
    return .one x
  | .advSubtensor1 _ =>
    let some c <- valueOf? ((<- lengths).headD default) true true | deny
    let len := (knownInt? c).getD 0
    let i := ins.getD 1 default
    if let some (.array a) <- constant? i then
      let same := (a.size : Int) == len && a.data.toList.zipIdx.all fun (e, k) => e.toInt == (k : Int)
      return if same then .one x else .no
    let some (.arange _, [start, stop, step]) <- made? i | deny
    let [a, b, c] <- [start, stop, step].mapM fun v => valueOf? (.var v) true true | deny
    return if valueIs a 0 && valueIs b (floatOfInt len) && valueIs c 1 then .one x else .no
  | _ => deny

def liftPart : Offer := do
  let (.subtensor idx, u :: is) <- readNode n | skip
  let some (o, args) <- made? u | deny
  if (<- clientsOf g u).length > 1 then return .no
  let sub v := apply1 (.subtensor idx) (v :: is)
  match o with
  | .elemwise .. =>
    if let [a] := args then return .one (<- apply1 o [<- sub a])
    let counts <- args.mapM fun v => do return ((<- bcastOf v).filter id).length
    if counts.all (· == 0) then return .one (<- apply1 o (<- args.mapM sub))
    if !(<- (args.zip counts).allM fun (v, c) => do return c == 0 || c == (<- ndimOf v)) then return .none
    let k <- ndimOf (<- outOf n)
    let new <- (args.zip counts).mapM fun (v, c) => do
      if c == 0 then sub v
      else if k == (<- ndimOf v) then pure v
      else dimshuffle v (.replicate k .new)
    propose (apply1 o new)
  | .rebroadcast _ =>
    check (args.length == 1)
    let b <- bcastOf u
    let kept := ((idx.zip b).filterMap fun (e, flag) => if e matches .slice .. then some flag else none) ++ b.drop idx.length
    propose (rebroadcastRaw (<- sub (args.headD default)) (kept.zipIdx.map fun (c, j) => (j, c)))
  | _ => skip

def mergeSlices (first len1 : Value) (second len2 : Value) : M Value := do
  let (s1, rev1) <- match first with
    | .slice a b c => canonicalSlice a b c len1
    | v => failWith .value ["'First provided slice should actually be of typeslice and not an index !'",
        <- reprOf v]
  let plus := operate .add
  let minus := operate .sub
  let times := operate .mul
  let beyond := plus len1 1
  let before := do minus (<- operateUnary .neg len1) 1
  let sw c (a b : Value) := do switch (<- c) a b
  match second with
  | .slice a b c =>
    let (s2, rev2) <- canonicalSlice a b c len2
    let len <- minus s2.stop s2.start
    let pStep <- times s1.step s2.step
    let nStep <- times (<- times s1.step s2.step) (.int (-1))
    let ppStart <- minimum (<- plus s1.start (<- times s2.start s1.step)) s1.stop
    let ppStop <- minimum (<- plus s1.start (<- times s2.stop s1.step)) s1.stop
    let pnStop <- plus s1.start (<- times (<- minus s2.start 1) s1.step)
    let pnStop <- sw (do and (<- lt pnStop 0) (<- gt len 0)) (<- before) (<- minimum pnStop s1.stop)
    let pnStart <- plus s1.start (<- times (<- minus s2.stop 1) s1.step)
    let pnStart <- maximum (<- minimum pnStart s1.stop) 0
    let npStop <- minus (<- minus s1.stop (<- times s2.stop s1.step)) 1
    let npStop <- sw (do and (<- lt npStop 0) (<- gt len 0)) (<- before)
      (<- maximum (<- minus s1.start 1) npStop)
    let npStart <- maximum s1.start (<- minus (<- minus s1.stop (<- times s2.start s1.step)) 1)
    let nnStart <- maximum s1.start
      (<- minus (<- minus s1.stop 1) (<- times (<- minus s2.stop 1) s1.step))
    let nnStop <- maximum s1.start (<- minus s1.stop (<- times s2.start s1.step))
    let across := do lt (<- times rev2 rev1) 0
    let down := lt rev1 0
    let start <- sw across (<- sw down npStart pnStart) (<- sw down nnStart ppStart)
    let stop <- sw across (<- sw down npStop pnStop) (<- sw down nnStop ppStop)
    let step <- sw across nStep pStep
    return .slice (<- sw (le len 0) 0 start) (<- sw (le len 0) 0 stop) step
  | i =>
    let pos <- canonicalPosition i len2
    let val <-
      if rev1.isNull then plus s1.start (<- times pos s1.step)
      else do
        let up <- plus s1.start (<- times pos s1.step)
        let down <- minus (<- minus s1.stop 1) (<- times pos s1.step)
        if <- settingFlag "warn__subtensor_merge_bug" then noAttr
        sw (lt rev1 0) down up
    let val <- sw (le len2 0) (<- beyond) val
    let val <- sw (ge pos len2) (<- beyond) val
    let val <- sw (lt pos 0) (<- before) val
    if <- truthOf s1.step then sw (eq s1.step 0) (<- beyond) val
    else pure val

def mergeParts : Offer := do
  let (.subtensor idx2, u :: is2) <- readNode n | skip
  let some (.subtensor idx1, x :: is1) <- made? u | skip
  let lengthsOf v : M (Nat -> M Value) := do
    let some f <- Shapes.of? g | do
      let s <- shape v
      return fun i => atPos s i
    if !(<- Shapes.knows f v) then badKey
    let some l <- Shapes.shapeOf f v | return fun _ => badType
    return fun i => if let some d := l[i]? then pure d else badIndex
  let xlen <- lengthsOf x
  let ulen <- lengthsOf u
  let rec merge : Values -> Values -> Nat -> Nat -> M Values
    | s1 :: r1, s2 :: r2, p1, p2 => do
      if s1 matches .slice .. then
        return (<- mergeSlices s1 (<- xlen p1) s2 (<- ulen p2)) :: (<- merge r1 r2 (p1 + 1) (p2 + 1))
      return s1 :: (<- merge r1 (s2 :: r2) (p1 + 1) p2)
    | r1, [], _, _ => return r1
    | [], r2, _, _ => return r2
  let r <- partOf x (<- (<- merge (indexValues idx1 is1) (indexValues idx2 is2) 0 0).mapM asIndexConstant)
  let out <- outOf n
  check ((<- dtypeOf r) == (<- dtypeOf out))
  check ((<- ndimOf r) == (<- ndimOf out))
  fitOutput n r

def partOfAlloc : Offer := do
  let (.subtensor idx, u :: is) <- readNode n | deny
  let some (.alloc, val :: dims) <- made? u | deny
  let slices := indexValues idx is
  check (slices.length <= dims.length)
  let b <- bcastOf val
  let added := (<- ndimOf u) - b.length
  let mut newDims := []
  let mut valSlices := []
  for ((s, dim), i) in (slices.zip dims).zipIdx do
    if i >= added then valSlices := valSlices ++ [if b.getD (i - added) false then .whole else s]
    if let .slice a b c := s then
      let (cs, _) <- canonicalSlice a b c dim
      let len <- operate .sub cs.stop cs.start
      let unit := cs.step.var?.isNone && valueIs (some cs.step) 1
      newDims := newDims ++ [<- if unit then pure len else do pure (<- ceilIntDiv len cs.step)]
    else let _ <- canonicalPosition s dim
  let v <- itemOf val valSlices
  newDims := newDims ++ valuesOf (dims.drop slices.length)
  if (<- ndimOf v) > newDims.length then return .no
  fitOutput n (<- alloc v newDims)

def partOfDot : Offer := do
  let (.subtensor idx, u :: is) <- readNode n | skip
  let some (.dot, [a, b]) <- made? u | skip
  if (<- clientsOf g u).length > 1 then return .none
  let slices := indexValues idx is
  let k := min ((<- ndimOf a) - 1) slices.length
  let ofB := slices.drop k
  let nb <- ndimOf b
  let ofB := if nb > 1 && ofB.length >= nb - 1 then ofB.insertIdx (nb - 2) .whole else ofB
  let sa <- itemOf a (slices.take k)
  let sb <- if ofB.isEmpty then pure b else itemOf b ofB
  propose (denseDot sa sb)

def incInfo? : Op -> Option Bool
  | .incSubtensor _ _ set _ | .advIncSubtensor1 _ set | .advIncSubtensor _ set => some set
  | _ => none

def serializeIncs : Offer := do
  if !isPlain (<- opOf n) .add then return .none
  let out <- outOf n
  let (moved, rest) <- (<- insOf n).partitionM fun v => do
    let some (p, _) <- made? v | return false
    if incInfo? p != some false || !(<- sameType v out) then return false
    return (<- clientsOf g v).length == 1
  if moved.isEmpty then return .none
  let bases <- moved.mapM fun v => do return ((<- made? v).map fun (_, is) => is.headD default).getD default
  let mut tip <- ew "add" .add ((rest ++ bases).map .var)
  for v in moved do
    let some (p, x :: more) <- made? v | pure ()
    check (<- sameType tip out)
    check (<- sameType tip x)
    tip <- apply1 p (tip :: more)
  return .one tip

def inplaceSet : Offer := do
  let .incSubtensor idx false set tol <- opOf n | deny
  let r <- apply1 (.incSubtensor idx true set tol) (<- insOf n)
  setTag r "nan_guard_mode_check" ((<- tagOf (<- outOf n) "nan_guard_mode_check").getD true)
  return .one r

def inplaceInc : Offer := do
  let .advIncSubtensor1 false set <- opOf n | deny
  propose do apply1 (.advIncSubtensor1 true set) (<- insOf n)

def incByZero : Offer := do
  let (some false, x :: y :: _) := (incInfo? (<- opOf n), <- insOf n) | skip
  return if valueIs (<- valueOf? y false) 0 then .one x else .none

def incOfZeros : Offer := do
  let (.incSubtensor idx inplace false tol, x :: rest) <- readNode n | skip
  let some (.array a) <- constant? x | skip
  if a.data.any Elem.truthy then return .none
  propose (apply1 (.incSubtensor idx inplace true tol) (x :: rest))

def setToSameConstant : Offer := do
  let (.incSubtensor _ _ true _, x :: y :: _) <- readNode n | skip
  let some a <- valueOf? x false | skip
  let some b <- valueOf? y false | skip
  let elemIn v := if let .array a := v then some a.item else v.elem?.map (·.2)
  let (some p, some q) := (elemIn a, elemIn b) | deny
  return if p == q then .one x else .no

def takeOfSet : Offer := do
  let (.advSubtensor1 _, [src, idx]) <- readNode n | skip
  let some (.advIncSubtensor1 _ set, [x, y, idx2]) <- made? src | skip
  if idx != idx2 then return .none
  if !set then
    if !valueIs (<- valueOf? x false) 0 then return .none
    if <- settingFlag "warn__inc_subtensor1_opt" then noAttr
    return .none
  let len <- shapeAt x 0
  let c <- all (<- and (<- lt idx len) (<- ge idx (<- neg (<- shapeAt x 0))))
  let some f <- Shapes.of? g | noAttr
  let more <- if <- Shapes.same f idx y (some 0) (some 0) then pure []
    else do pure [.var (<- eq (<- shapeAt idx 0) (<- shapeAt y 0))]
  let r <- applyTo (.assert "Bad indexing or shapes in a AdvancedIncSubtensor1 that was optimized away")
    (y :: c :: more)
  propose do cast r (<- dtypeOf (<- outOf n))

def uselessIncAlloc : Offer := do
  let o <- opOf n
  let (some _, x :: y :: is) := (incInfo? o, <- insOf n) | skip
  let some (.alloc, z :: _) <- made? y | skip
  let some f <- Shapes.of? g | deny
  let xi <- match o with
    | .incSubtensor idx .. => apply1 (.subtensor idx) (x :: is)
    | .advIncSubtensor .. => apply1 .advSubtensor (x :: is)
    | _ => apply1 (.advSubtensor1 false) (x :: is)
  let learn v := do
    if !(<- Shapes.knows f v) then
      let some m <- ownerOf v | noAttr
      Shapes.onImport f m
  learn xi
  let k <- ndimOf xi
  let ky <- ndimOf y
  let y <- if k > ky then padLeft y (k - ky) else pure y
  if k > ky then learn y
  let zb <- bcastOf z
  let zb := .replicate (k - zb.length) true ++ zb
  let conds <- (List.range k).filterMapM fun d => do
    if !zb.getD d false then return none
    if <- Shapes.same f xi y (some d) (some d) then return none
    return some (.var (<- or (<- eq (<- shapeAt y d) 1) (<- eq (<- shapeAt y d) (<- shapeAt xi d))))
  let z <- if conds.isEmpty then pure z
    else applyTo (.assert "`x[i]` and `y` do not have the same shape.") (z :: conds)
  propose (apply1 o (x :: z :: is))

def subtensorClass : Track := .cls "Subtensor"

def partRules : List LocalRule :=
  let sub := [subtensorClass]
  let inc := [.cls "IncSubtensor"]
  let incs := [.cls "IncSubtensor", .cls "AdvancedIncSubtensor", .cls "AdvancedIncSubtensor1"]
  let take := .cls "AdvancedSubtensor1"
  [ rule "local_subtensor_inc_subtensor" sub partOfSetPart,
    rule "local_subtensor_remove_broadcastable_index" sub dropUnitIndex,
    rule "local_subtensor_make_vector" [subtensorClass, take] partOfMadeVector,
    rule "local_useless_inc_subtensor" inc uselessIncPart,
    rule "local_set_to_inc_subtensor" ["AdvancedIncSubtensor1"] setToInc,
    rule "local_useless_slice" sub uselessSlice,
    rule "local_useless_subtensor" [subtensorClass, take] uselessPart,
    rule "local_subtensor_lift" sub liftPart,
    rule "local_subtensor_merge" sub mergeParts,
    rule "local_subtensor_of_alloc" sub partOfAlloc,
    rule "local_subtensor_of_dot" sub partOfDot,
    rule "local_IncSubtensor_serialize" [addOp] serializeIncs,
    inplaceRule "local_inplace_setsubtensor" inc inplaceSet,
    inplaceRule "local_inplace_incsubtensor1" ["AdvancedIncSubtensor1"] inplaceInc,
    rule "local_incsubtensor_of_zeros" incs incByZero,
    rule "local_incsubtensor_of_zeros_to_setsubtensor" inc incOfZeros,
    rule "local_setsubtensor_of_constants" inc setToSameConstant,
    rule "local_adv_sub1_adv_inc_sub1" [take] takeOfSet,
    rule "local_useless_inc_subtensor_alloc" incs uselessIncAlloc ]

end TensorGraph.Rules
