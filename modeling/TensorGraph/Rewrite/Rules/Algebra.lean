import TensorGraph.Rewrite.Composite
import TensorGraph.Rewrite.Rules.Index

/-! # Sums and products -/

namespace TensorGraph.Rules

open Tensor

variable (g : GraphId) (n : NodeId)

def castRank : DType -> Nat × Float
  | .bool => (0, 0)
  | .uint8 => (1, 1) | .uint16 => (1, 2) | .uint32 => (1, 3) | .uint64 => (1, 4)
  | .int8 => (2, 1) | .int16 => (2, 2) | .int32 => (2, 3) | .int64 => (2, 4)
  | .float16 => (3, 1.5) | .float32 => (3, 2.5) | .float64 => (3, 3.5)
  | .complex64 => (4, 3) | .complex128 => (4, 4)

def isUpcast (a b : DType) : Bool :=
  let (k, x) := castRank a
  let (l, y) := castRank b
  l >= k && y > x

def uselessElemwise : Offer := do
  match scalarOf? (<- opOf n), <- insOf n with
  | some s, [x] => if s == .mul || s == .add || s == .identity then return .one x else skip
  | some s, [x, y] =>
    let d <- dtypeOf (<- outOf n)
    let zeros v := propose (fullLike .zero v (some d) true)
    let ones v := propose (fullLike .one v (some d) true)
    if s == .eq then return <- if x == y then ones x else return .none
    if s == .neq || s.kind == .xor then return <- if x == y then zeros x else return .none
    let isAnd := s.kind == .and
    if !isAnd && s.kind != .or then return .none
    for (k, v) in [(x, y), (y, x)] do
      if <- isTensorConstant k then
        let some c <- valueOf? k true true | pure ()
        let zero := valueIs (some c) 0
        if zero && isAnd then return <- zeros v
        if zero || (isAnd && d == .bool) then return <- propose (cast v d)
        if d == .bool then return <- ones v
    skip
  | _, _ => skip

def unaryOfAlloc : Offer := do
  let (.elemwise s i m, [a]) <- readNode n | skip
  let some (.alloc, x :: dims) <- made? a | skip
  let v <- apply1 (.elemwise s i m) [x]
  propose do alloc (<- cast v (<- dtypeOf (<- outOf n))) (valuesOf dims)

def castOfCast : Offer := do
  let o <- opOf n
  let (some (.cast d2), x :: _) := (kindOf? o, <- insOf n) | skip
  let some (p, [base]) <- made? x | skip
  let some (.cast d1) := kindOf? p | skip
  if d1 == d2 then return .one x
  let d0 <- dtypeOf base
  if !isUpcast d0 d1 then return .none
  if d2 == d0 then return .one base else propose (apply1 o [base])

def inverseFunctions : Offer := do
  let x :: _ <- insOf n | badIndex
  let (some a, some (p, ins)) := (kindOf? (<- opOf n), <- made? x) | skip
  let some b := kindOf? p | skip
  let undoes := (a, b) matches
    (.deg2rad, .rad2deg) | (.rad2deg, .deg2rad) | (.cosh, .arccosh) | (.arccosh, .cosh) | (.tanh, .arctanh)
    | (.arctanh, .tanh) | (.sinh, .arcsinh) | (.arcsinh, .sinh) | (.conj, .conj) | (.neg, .neg) | (.inv, .inv)
  if undoes then return .all ins else skip

def upcastConstants : Offer := do
  if (<- outsOf n).length > 1 then return .none
  let o <- opOf n
  let some s := scalarOf? o | skip
  if !(s.rule matches some .upgradeToFloat | some .upcast) then return .none
  let out <- outOf n
  let d <- dtypeOf out
  let ins <- insOf n
  let mut new := []
  for i in ins do
    let w <- if (<- dtypeOf i) == d then pure i
      else if let some c := <- valueOf? i true true then do
        if !(<- bcastOf i).all id then return .none
        padLeft (<- cast c d) (<- ndimOf i)
      else if <- isTensorConstant i then cast i d else pure i
    new := new ++ [w]
  if new == ins then return .none
  let r <- apply1 o new
  if <- sameType r out then return .one r else skip

def expMinusOne : Offer := do
  let (some .sub, [a, b]) := (kindOf? (<- opOf n), <- insOf n) | skip
  let some [x] <- madeByKind? a .exp | skip
  if !(<- isNumber b 1) then return .none
  let out <- outOf n
  let r <- ew "expm1" .expm1 [x]
  let r <- cast r (<- dtypeOf out)
  if <- sameType r out then return .one r else skip

def sumOfSquares : Offer := do
  let (.reduce r, [a]) <- readNode n | skip
  if !(r.cls == .sum && r.axis == some [1, 2]) then return .none
  let some [p] <- madeByKind? a .sqr | skip
  let some [x, y] <- madeByKind? p .mul | skip
  match <- made? x, <- made? y with
  | some (.dimShuffle _ [.new, .dim 0, .dim 1] _, [w]), some (.dimShuffle _ [.dim 0, .new, .dim 1] _, [v]) =>
    let r <- denseDot (<- sqr v) (<- sum (<- sqr w) (some [0]))
    propose do cast r (<- dtypeOf (<- outOf n))
  | none, _ | some (.dimShuffle _ [.new, .dim 0, .dim 1] _, _), none => noAttr
  | _, _ => skip

def commonShape (vs : Vars) : M Values := do
  let one <- indexConstant 1
  return (<- broadcastShapeOf (<- vs.mapM stretchShape)).map fun d => d.getD one

def uselessSwitch : Offer := do
  let (some .switch, [c, a, b]) := (kindOf? (<- opOf n), <- insOf n) | deny
  let out <- outOf n
  let known <- valueOf? c true true
  let decided : Option Bool := match known with
    | some (.array x) => if x.ndim == 0 then some (x.item == .flt 0) else none
    | some (.number d e) => if d == .bool then none else some (e == .flt 0)
    | _ => none
  if let some zero := decided then
    let pick := if zero then b else a
    let r <- cast pick (<- dtypeOf out)
    return <- propose do alloc r (<- commonShape [c, a, b])
  if a == b then
    if known.isSome then noAttr
    if <- sameType c a then return .one a else return <- propose (fill c a)
  let some [x, y] <- madeByKind? c .le | deny
  let some (.shapeI _, _) <- made? x | deny
  if !((<- isKnown y 0) && (<- isKnown a 0) && b == x) then return .no
  check (<- sameType b out)
  return .one b

def switchSink (c : VarId) (first : Bool) (r : VarId) : Offer := do
  let s <- if first then switch c 0 r else switch c r 0
  tolerate "nan" s
  return .one s

def isZeroHere (v : VarId) : M Bool := do return valueIs (<- valueOf? v true true) 0

def mulSwitchSink : Offer := do
  if !isPlain (<- opOf n) .mul then return .no
  let ins <- insOf n
  for (v, k) in ins.zipIdx do
    let some [c, a, b] <- madeByPlain? v .switch | pure ()
    let times x := ew "mul" .mul ((ins.eraseIdx k ++ [x]).map .var)
    if <- isZeroHere a then return <- switchSink c true (<- times b)
    if <- isZeroHere b then return <- switchSink c false (<- times a)
  deny

def divSwitchSink : Offer := do
  let o <- opOf n
  if !isPlain o .trueDiv && !isPlain o .intDiv then return .no
  let [x, y] <- insOf n | deny
  let some [c, a, b] <- madeByPlain? x .switch | deny
  if <- isZeroHere a then return <- switchSink c true (<- apply1 o [b, y])
  if <- isZeroHere b then return <- switchSink c false (<- apply1 o [a, y])
  deny

def mergeSwitches : Offer := do
  let o <- opOf n
  let some k := kindOf? o | skip
  if !(k.arity == some 2 || k == .add || k == .mul) then return .none
  let parts <- (<- insOf n).mapM fun v => madeByKind? v .switch
  let some (c :: _) :: _ := parts | skip
  if !parts.all fun p => (p.bind (·.head?)) == some c then return .none
  let pick i := parts.map fun p => (p.getD []).getD i default
  let a <- apply1 o (pick 1)
  propose (switch c a (<- apply1 o (pick 2)))

def elementwiseRules : List LocalRule :=
  let any := [elemwiseClass]
  [ rule "local_useless_elemwise" any uselessElemwise,
    rule "local_alloc_unary" any unaryOfAlloc,
    rule "local_cast_cast" any castOfCast,
    rule "local_func_inv" any inverseFunctions,
    rule "local_upcast_elemwise_constant_inputs" any upcastConstants,
    rule "local_sumsqr2dot" ["Sum"] sumOfSquares,
    rule "local_expm1" any expMinusOne,
    rule "local_useless_switch" any uselessSwitch,
    rule "local_mul_switch_sink" [mulOp] mulSwitchSink,
    rule "local_div_switch_sink" [trueDivOp, intDivOp] divSwitchSink,
    rule "local_merge_switch_same_cond" any mergeSwitches ]

end TensorGraph.Rules

namespace TensorGraph

open Tensor

def products : Canonizer :=
  { main := mulOp, inverse := trueDivOp, reciprocal := invOp, sums := false, useReciprocal := false }

def sums : Canonizer := { main := addOp, inverse := subOp, reciprocal := negOp, sums := true, useReciprocal := true }

namespace Canonizer

abbrev Sides := Vars × Vars

def members (c : Canonizer) : Nat -> VarId -> M Sides
  | 0, _ => outOfFuel
  | fuel + 1, v => do
    let some (o, ins) <- made? v | pure ([v], [])
    if o == c.main then
      let ps <- ins.mapM (c.members fuel)
      return (ps.flatMap (·.1), ps.flatMap (·.2))
    else if o == c.inverse then
      let [(an, ad), (bn, bd)] <- ins.mapM (c.members fuel) | badIndex
      pure (an ++ bd, ad ++ bn)
    else if o == c.reciprocal then
      let (n, d) :: _ <- ins.mapM (c.members fuel) | badIndex
      pure (d, n)
    else
      let (.dimShuffle _ order _, x :: _) := (o, ins) | pure ([v], [])
      let k <- ndimOf x
      let plain := .replicate ((<- ndimOf v) - k) .new ++ (List.range k).map .dim
      if order == plain then c.members fuel x else pure ([v], [])

variable (c : Canonizer) (num den : Vars) (v : VarId) (d : DType)

def membersOf : M Sides := do c.members ((<- get).arena.nodes.size + 1) v

def number? : M (Option Value) := do
  let some (.array a) <- constant? v | constant? v
  let some e := a.uniqueValue? | return if a.ndim == 0 then some a else none
  return some (.number a.dtype e)

def combine (num den : Values) (asList : Bool) (d : Option DType) : M Values := do
  let total op l e := l.foldlM (operate op) e
  if c.sums then
    let zero := if let some d := d then .array (.ofElem d (.zero d)) else .float 0
    if d == some .bool && !den.isEmpty then
      fail (.named "Exception") "bool subtraction not supported. This should not happen as an earlier error should have been raised"
    let v <- total .add num zero
    let v <- if d == some .bool then pure v else do operate .sub v (<- total .add den zero)
    return if asList && Rules.valueIs (some v) 0 then [] else [v]
  if num.isEmpty && den.isEmpty then return if asList then [] else [.number .int8 (.int 1)]
  let d := d.getD .float64
  let one := .array (.ofElem d (.one d))
  let v <- operate .trueDiv (<- total .mul num one) (<- total .mul den one)
  return if asList && Rules.valueIs (some v) 1 then [] else [v]

def cancel : Sides :=
  num.foldl (fun (n, d) v => if d.contains v then (n.erase v, d.erase v) else (n, d)) (num, den)

def combineConstants : M Sides := do
  let part l := do
    let xs <- l.mapM fun v => do return (v, <- number? v)
    return (xs.filterMap fun (v, x) => if x.isNone then some v else none, xs.filterMap (·.2))
  let (rest, consts) <- part num
  let (restDen, constsDen) <- part den
  let ct <- c.combine consts constsDen (c.useReciprocal || !rest.isEmpty) (some d)
  let ct <- ct.mapM fun x => tensorConstant x none none (some d)
  if let (k :: _, first :: _, [_], []) := (ct, num, consts, constsDen) then
    let (some x, some (.array y)) := (<- number? first, <- constant? k) | pure ()
    let some (e, el) := x.elem? <|> (match x with | .array a => some (a.dtype, a.item) | _ => none) | pure ()
    if e == y.dtype && (NdArray.ofElem e el).sameValues y then return (num, den)
  pure (ct ++ rest, restDen)

def signs : M Sides := do
  den.foldlM (fun (n, d) v => do
    let some (x :: _) <- Rules.madeWith? v absOp | pure (n, d)
    if !n.contains x || (<- dtypeOf x).isComplex then return (n, d)
    return (n.erase x ++ [<- sgn x], d.erase v)) (num, den)

def softmaxes : M Sides := do
  num.foldlM (fun (n, d) v => do
    if !(<- dtypeOf v).isFloat || (<- ndimOf v) != 2 then return (n, d)
    let some (x :: _) <- Rules.madeWith? v expOp | pure (n, d)
    let fits w := do
      let some (.dimShuffle _ [.dim 0, .new] _, z :: _) <- made? w | return false
      let some (.reduce r, y :: _) <- made? z | return false
      return r.cls == .sum && r.axis == some [1] && y == v
    let some w <- d.findM? fits | pure (n, d)
    return (n.erase v ++ [<- apply1 (.net .softmax) [x]], d.erase w)) (num, den)

def simplify : M Sides := do
  let (n, e) := cancel num den
  let (n, e) <- c.combineConstants n e d
  if c.sums then return (n, e)
  let (n, e) <- signs n e
  softmaxes n e

def rebuild : M VarId := do
  let neutral := do
    let v :: _ <- c.combine [] [] false none | badIndex
    asTensor v
  let side l := if let [v] := l then pure v else apply1 c.main l
  match num, den with
  | [], [] => neutral
  | num, [] => side num
  | [], den =>
    let below <- side den
    if c.useReciprocal then apply1 c.reciprocal [below] else do apply1 c.inverse [<- neutral, below]
  | num, den => do apply1 c.inverse [<- side num, <- side den]

def continues (c : Canonizer) (g : GraphId) : Nat -> NodeId -> M Bool
  | 0, _ => outOfFuel
  | fuel + 1, n => do
    let o <- opOf n
    let .dimShuffle .. := o | return c.ops.contains o
    match <- Rules.clientsOf g (<- outOf n) with
    | [] => badIndex
    | [(.node m, _)] => c.continues g fuel m
    | _ => pure false

def transform (g : GraphId) (n : NodeId) : Offer := do
  let o <- opOf n
  if !c.ops.contains o then return .no
  let [out] <- outsOf n | unmet
  if g == Rules.noGraph then noAttr
  let readers := ((<- graph g).clients[out]?).getD []
  if readers.isEmpty then return .no
  for (r, _) in readers do
    let .node m := r | pure ()
    if <- c.continues g 100000 m then return .no
  let d <- dtypeOf out
  let (num, den) <- c.membersOf out
  let (num', den') <- c.simplify num den d
  let ins <- insOf n
  let shorter <- do
    if !c.useReciprocal || o != c.reciprocal || !num.isEmpty then pure false
    else if let some (_, l) <- made? (ins.headD default) then pure (l.length < den.length) else pure false
  if num == num' && den == den' && !(den.isEmpty && ins.length < num.length) && !shorter then return .no
  let new <- c.rebuild num' den'
  let new <- cast new d
  let new <- if <- Rules.sameType new out then pure new else Rules.fillChain new ins
  if !(<- Rules.sameType new out) then badType
  Rules.tolerate "inf_nan" new
  return .one new

end Canonizer

namespace Rules

variable (g : GraphId) (n : NodeId)

def negToMul : Offer := do
  let some (x :: _) <- inputsIf negOp n | skip
  propose do mul (<- elemConstant (<- dtypeOf x) (.int (-1))) x

def distribute (pos neg : List Canonizer.Sides) (num den : Vars) (d : DType) :
    M (Option (List Canonizer.Sides × List Canonizer.Sides)) := do
  let cost s : Float := s.1.length.toFloat + 1.5 * s.2.length.toFloat
  let step s := products.simplify (s.1 ++ num) (s.2 ++ den) d
  let pos' <- pos.mapM step
  let neg' <- neg.mapM step
  let gain := ((pos ++ neg).zip (pos' ++ neg')).foldl (fun acc (s, t) => acc + (cost s - cost t)) (cost (num, den))
  return if gain <= 0 then none else some (pos', neg')

def distributeOver (factor : VarId) (num den : Vars) (d : DType) :
    M (Option (VarId × Vars × Vars)) := do
  let (pos, neg) <- sums.membersOf factor
  if pos.length == 1 && neg.isEmpty then return none
  let mut ps <- pos.mapM products.membersOf
  let mut ns <- neg.mapM products.membersOf
  let mut num' := num
  let mut den' := den
  for (v, above) in num.map (·, true) ++ den.map (·, false) do
    let some (p, q) <- distribute ps ns (if above then [v] else []) (if above then [] else [v]) d | pure ()
    (ps, ns) := (p, q)
    if above then num' := num'.erase v else den' := den'.erase v
  if num'.length == num.length && den'.length == den.length then return none
  let above <- ps.mapM fun (a, b) => products.rebuild a b
  let below <- ns.mapM fun (a, b) => products.rebuild a b
  return some (<- sums.rebuild above below, num', den')

/-- Distributes over each member of a side in turn. -/
def distributeSide (num den : Vars) (d : DType) : M (Vars × Vars × Vars × Bool) := do
  let mut (left, others, new, changed) := (num, den, ([] : Vars), false)
  for v in num do
    if left.contains v then
      left := left.erase v
      let r <- distributeOver v left others d
      new := new ++ [(r.map (·.1)).getD v]
      let some (_, a, b) := r | pure ()
      changed := true
      (left, others) := (a, b)
  pure (new, left, others, changed)

def greedyDistributor : Offer := do
  let out <- outOf n
  let d <- if let .tensor d _ _ := <- typeOf out then pure d else pure .float64
  let (num, den) <- products.membersOf out
  if num.length == 1 && den.isEmpty then return .no
  let (newNum, num, den, above) <- distributeSide num den d
  let (newDen, den, num, below) <- distributeSide den num d
  if !(above || below) then return .no
  let r <- products.rebuild (newNum ++ num) (newDen ++ den)
  if <- sameType r out then return .one r else deny

/-! ## Single operators -/

def negNeg : Offer := do
  let some (x :: _) <- inputsIf negOp n | skip
  let some (y :: _) <- madeWith? x negOp | skip
  return .one y

def negDivNeg : Offer := do
  let some (frac :: _) <- inputsIf negOp n | skip
  let some [num, den] <- madeWith? frac trueDivOp | skip
  let alone := do return (<- clientsOf g frac).length == 1
  if let some (x :: _) <- madeWith? num negOp then
    if <- alone then propose (div x den) else skip
  else
    if !(<- bcastOf num).all id then return .none
    let some c <- constant? num | skip
    if <- alone then propose (do div (<- operateUnary .neg c) den) else skip

def mulZero : Offer := do
  let some ins <- inputsIf mulOp n | skip
  for i in ins do
    if valueIs (<- valueOf? i) 0 then
      let d <- dtypeOf (<- outOf n)
      return <- propose do fillChain (<- elemConstant d (.zero d)) ins
  skip

def divToInv : Offer := do
  let some [a, b] <- inputsIf trueDivOp n | deny
  if !valueIs (<- Canonizer.number? a) 1 then return .no
  let out <- outOf n
  let r <- cast (<- apply1 invOp [b]) (<- dtypeOf out)
  propose (if <- sameType r out then pure r else broadcastLike g r out)

def invToPow : Offer := do
  let some (x :: _) <- inputsIf invOp n | deny
  propose (pow x (.float (-1)))

def powOfKnown : Offer := do
  let some [x, y] <- inputsIf powOp n | deny
  let c <- Canonizer.number? y
  let out <- outOf n
  if valueIs c 0 then return <- propose do broadcastLike g (<- asTensor 1) out
  if valueIs c 1 then return <- propose (broadcastLike g x out)
  skip

def mulToSquare : Offer := do
  let some [a, b] <- inputsIf mulOp n | skip
  if a == b then propose (sqr a) else skip

def intDivByOne : Offer := do
  let some [a, b] <- inputsIf intDivOp n | skip
  if valueIs (<- constant? b) 1 then propose (do cast a (<- dtypeOf (<- outOf n))) else skip

def zeroDiv : Offer := do
  let (o, a :: _) <- readNode n | skip
  if !(kindOf? o matches some .intDiv | some .trueDiv) || !valueIs (<- Canonizer.number? a) 0 then return .none
  let r <- broadcastLike g (<- asTensor 0) (<- outOf n)
  tolerate "nan" r
  return .one r

def encompasses (b1 b2 : List Bool) : Bool :=
  b1.length >= b2.length && !((b1.drop (b1.length - b2.length)).zip b2).any fun (x, y) => x && !y

def knownPower? (n : NodeId) : M (Option (VarId × Value)) := do
  let some [x, y] <- inputsIf powOp n | pure none
  let some c <- Canonizer.number? y | pure none
  return if encompasses (<- bcastOf x) (<- bcastOf y) then some (x, c) else none

def castOutput (n : NodeId) (v : VarId) : Offer := do
  let out <- outOf n
  let v <- cast v (<- dtypeOf out)
  if <- sameType v out then return .one v else unmet

def powSpecial : Offer := do
  if (<- inputsIf powOp n).isNone then return .no
  let some (x, c) <- knownPower? n | skip
  let d <- dtypeOf (<- outOf n)
  let done v := do castOutput n (<- v)
  let is k := valueIs (some c) k
  if is (-2) then done do apply1 invOp [<- sqr x]
  else if is (-1) then done (apply1 invOp [x])
  else if is (-0.5) then done do apply1 invOp [<- sqrt x]
  else if is 0.5 then done (sqrt x)
  else if is 0 then done do fill x (<- elemConstant d (.one d))
  else if is 1 then done (pure x)
  else if is 2 then done (sqr x)
  else skip

def numberOf (c : Value) : M Float := do
  if let .array a := c then return a.item.toFloat
  if let some (_, e) := c.elem? then return e.toFloat else badType

def powByComposite : Offer := do
  let some (x, c) <- knownPower? n | skip
  let f <- numberOf c
  let a := f.abs
  if a.isNaN then badValue
  if a.isInf then raise .overflow
  if a.floor != a || a > 512 then return .none
  if a == 0 then raise .overflow
  let k := a.toUInt64.toNat
  let top := Nat.log2 k
  let xs <- newVar (.scalar (<- dtypeOf x))
  let mut squares := [x]
  let mut inner := [xs]
  for i in List.range top do
    squares := squares ++ [<- sqr (squares.getD i default)]
    inner := inner ++ [<- apply1 (.scalar .sqr) [inner.getD i default]]
  let mut left := k
  let mut whole : Option (VarId × VarId) := none
  for _ in List.range (top + 1) do
    if left > 0 then
      let j := .log2 left
      let (p, q) := (squares.getD j default, inner.getD j default)
      whole <- if let some (a, b) := whole then do pure (some (<- mul a p, <- apply1 (.scalar .mul) [b, q]))
        else pure (some (p, q))
      left := left - .pow 2 j
  let some (p, q) := whole | skip
  let r <- if a > 2 then do apply1 (bareOp (<- makeComposite [xs] [q])) [x] else pure p
  castOutput n (<- if f < 0 then apply1 invOp [r] else pure r)

def stripNegs : Nat -> VarId -> M (VarId × Nat)
  | 0, _ => outOfFuel
  | fuel + 1, v => do
    let some (x :: _) <- madeWith? v negOp | pure (v, 0)
    let (w, k) <- stripNegs fuel x
    pure (w, k + 1)

def mulSpecial : Offer := do
  let some ins <- inputsIf mulOp n | skip
  let out <- outOf n
  let like v := do propose do broadcastLike g (<- v) out
  let mut odd := false
  let mut new := []
  let mut negs := 0
  let mut consts := 0
  for i in ins do
    let (v, k) <- stripNegs 100000 i
    if k % 2 == 1 then odd := !odd
    negs := negs + k
    let y <- Canonizer.number? v
    if valueIs y 0 then return <- like (asTensor 0)
    if valueIs y (-1) then odd := !odd
    if valueIs y 1 || valueIs y (-1) then consts := consts + 1 else new := new ++ [v]
  if new == ins then return .none
  match new with
  | [] => like (asTensor (.int (if odd then -1 else 1)))
  | [v] =>
    if !odd then return <- like (pure v)
    let d <- dtypeOf v
    if d.isUnsigned || d == .bool then return .none
    like (neg v)
  | _ =>
    if odd && negs == 0 && consts == 1 then return .none
    let d <- dtypeOf out
    let lead : Vars <- if odd then do pure [<- elemConstant d (d.fit (.int (-1)))] else pure []
    like (apply1 mulOp (lead ++ new))

def addSpecial : Offer := do
  let some ins <- inputsIf addOp n | deny
  let new <- ins.filterM fun i => do return !valueIs (<- valueOf? (.var i)) 0
  if new.length == ins.length then return .none
  let out <- outOf n
  let d <- dtypeOf out
  let r <- match new with
    | [] => do arrayConstant { NdArray.ofElem d (.zero d) with shape := .replicate (<- ndimOf out) 1 }
    | [v] => pure v
    | l => apply1 addOp l
  let r <- fillChain r ins
  propose (if new.isEmpty then pure r else cast r d)

def absLift : Offer := do
  let some (x :: _) <- inputsIf absOp n | skip
  let some (p, ins) <- made? x | skip
  if p != mulOp && p != trueDivOp then return .none
  propose do apply1 p (<- ins.mapM fun i => apply1 absOp [i])

def absMerge : Offer := do
  let (o, ins) <- readNode n
  let insides <- ins.mapM fun i => do return (<- madeWith? i absOp).bind List.head?
  let count := (insides.filterMap id).length
  if o == mulOp && count > 1 then
    let mut new := []
    for (i, x) in ins.zip insides do
      if x.isNone then
        if !(<- isConstant i) then return .no
        let some c <- valueOf? i true true | return .no
        if !((<- numberOf c) >= 0) then return .no
      new := new ++ [x.getD i]
    return <- propose do apply1 absOp [<- apply1 mulOp new]
  if o == trueDivOp && count == 2 then return <- propose do apply1 absOp [<- apply1 trueDivOp (insides.filterMap id)]
  skip

def algebraRules : List LocalRule :=
  [ rule "local_neg_to_mul" [negOp] negToMul,
    rule "local_neg_neg" [negOp] negNeg,
    rule "local_neg_div_neg" [negOp] negDivNeg,
    rule "local_mul_zero" [mulOp] mulZero,
    rule "local_div_to_inv" [trueDivOp] divToInv,
    rule "local_inv_canon" [invOp] invToPow,
    rule "local_pow_canonicalize" [powOp] powOfKnown,
    rule "local_mul_to_sqr" [mulOp] mulToSquare,
    rule "local_intdiv_by_one" [intDivOp] intDivByOne,
    rule "local_zero_div" [intDivOp, trueDivOp] zeroDiv,
    rule "local_pow_specialize" [powOp] powSpecial,
    rule "local_pow_specialize_device" [powOp] powByComposite,
    rule "local_mul_specialize" [mulOp] mulSpecial,
    rule "local_add_specialize" [addOp] addSpecial,
    rule "local_abs_lift" [absOp] absLift,
    rule "local_abs_merge" [mulOp, trueDivOp] absMerge,
    rule "local_greedy_distributor" [mulOp, trueDivOp, invOp] greedyDistributor ]

end Rules

end TensorGraph
