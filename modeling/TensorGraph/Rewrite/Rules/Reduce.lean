import TensorGraph.Rewrite.Rules.Algebra
import TensorGraph.Tensor.Reduce

/-! # Reductions -/

namespace TensorGraph.Rules

open Tensor

variable (g : GraphId) (n : NodeId)

def sumOrProd? (o : Op) : Option Reduction :=
  if let .reduce r := o then if r.cls == .sum || r.cls == .prod then some r else none else none

def sizeOf (v : VarId) : M VarId := do if (<- ndimOf v) == 1 then shapeAt v 0 else prod (<- shape v)

def reduceScaled : Offer := do
  let o <- opOf n
  let some r := sumOrProd? o | skip
  let [x] <- insOf n | badValue
  let some (p, terms) <- made? x | skip
  if r.cls == .sum && p == negOp then return <- propose do neg (<- apply1 o [terms.headD default])
  if p != mulOp then return .none
  let (scalars, rest) <- terms.partitionM fun t => do return (<- bcastOf t).all id
  if scalars.isEmpty then return .none
  let scalars <- scalars.mapM fun t => dimshuffle t []
  if rest.isEmpty then
    if let [v] := scalars then return .one v else return <- propose (apply1 mulOp scalars)
  let v <- if let [v] := rest then pure v else apply1 mulOp rest
  let k <- sizeOf v
  let inner <- apply1 o [v]
  let scalars <- if r.cls == .prod then scalars.mapM fun (s : VarId) => pow s k else pure scalars
  propose (apply1 mulOp (scalars ++ [inner]))

def subSame : Offer := do
  let (some .sub, [a, b]) := (kindOf? (<- opOf n), <- insOf n) | skip
  if a == b then propose (zerosLike a) else skip

def isLengths : Nat -> VarId -> M Bool
  | 0, _ => outOfFuel
  | fuel + 1, v => do
    match <- made? v with
    | some (.shape, _) | some (.shapeI _, _) => pure true
    | some (.subtensor _, x :: _) => isLengths fuel x
    | some (.join _, _ :: xs) | some (.makeVector _, xs) => xs.allM (isLengths fuel)
    | _ => pure false

def uselessComparison : Offer := do
  let (some k, [a, b]) := (kindOf? (<- opOf n), <- insOf n) | skip
  if k == .add || k == .mul then return .none
  let d <- dtypeOf (<- outOf n)
  let zeros v := propose (fullLike .zero v (some d) true)
  let ones v := propose (fullLike .one v (some d) true)
  let isLength v := do return (<- madeBy? v) matches some (.shapeI _)
  let aboveZero v z := do return (<- isLength v) && (<- isKnown z 0)
  let notBelow := do
    let length <- if let some l := <- madeByKind? a .add then l.allM isLength else isLength a
    return a == b || (length && (<- isKnown b 0))
  match k with
  | .lt => if <- notBelow then zeros a else skip
  | .gt => if a == b then zeros a else skip
  | .le => if a == b then ones a else skip
  | .ge => if <- notBelow then ones a else skip
  | .maximum =>
    if a == b || (<- aboveZero a b) then return .one a
    if <- aboveZero b a then return .one b else skip
  | .minimum =>
    if a == b then return .one a
    if <- aboveZero a b then zeros a else if <- aboveZero b a then zeros b else skip
  | .eq =>
    if !(<- isLengths 1000 a) then return .none
    let some c <- valueOf? b true true | skip
    if (<- numberOf c) < 0 then zeros a else skip
  | _ => skip

def reduceQuotient : Offer := do
  let (some r, x :: _) := (sumOrProd? (<- opOf n), <- insOf n) | skip
  let axis <- if let some l := r.axis then pure (l.map Int.toNat) else do pure (.range (<- ndimOf x))
  let some [num, den] <- madeWith? x trueDivOp | skip
  let some (.dimShuffle _ order _, base :: _) <- made? den | skip
  let (good, bad) := axis.partition fun a => order[a]? == some .new
  if good.isEmpty then return .none
  let moved := bad.map fun (a : Nat) => (a : Int) - (good.countP (· < a) : Nat)
  let kept := (order.zipIdx.filter fun (p, i) => !axis.contains i || p != .new).map (·.1)
  let kept := kept.dropWhile (· == .new)
  let den' <- if kept.zipIdx.all fun (p, i) => p == .dim i then pure base
    else do
      let shown := "(" ++ commaList (kept.map fun
        | .new => "'x'"
        | .dim i => toString i) ++ ")"
      apply1 (<- dimShuffleOp (<- bcastOf base) kept shown) [base]
  let along v axes := if r.cls == .sum then sum v (some axes) else prod v (some axes)
  let above <- along num (good.map .ofNat)
  let below <- if r.cls == .sum then pure den' else do
    let d <- dtypeOf num
    let lengths <- good.mapM fun (a : Nat) => do cast (<- shapeAt num a) d
    pow den' (<- prod (.tuple (valuesOf lengths)))
  let v <- div above below
  propose (if moved.isEmpty then pure v else along v moved)

def reduceAll : Offer := do
  let (some r, x :: _) := (sumOrProd? (<- opOf n), <- insOf n) | skip
  let some l := r.axis | skip
  let k <- ndimOf x
  if (List.range k).all (fun i => l.contains (i : Int)) && l.all fun i => 0 <= i && i < k then
    propose (apply1 (.reduce { cls := r.cls, scalar := r.scalar, dtype := r.dtype }) [x])
  else skip

def reduceTwice : Offer := do
  let (some r, [x]) := (sumOrProd? (<- opOf n), <- insOf n) | skip
  if (<- clientsOf g x).length != 1 then return .none
  let some (.reduce q, y :: _) <- made? x | skip
  if q.cls != r.cls then return .none
  let along axis :=
    propose (apply1 (.reduce { cls := r.cls, scalar := r.scalar, axis, dtype := r.dtype }) [y])
  let (some inner, some outer) := (q.axis, r.axis) | along none
  let mut axes := inner
  for i in outer do
    let k := inner.foldl (fun k j => if k >= j then k + 1 else k) i
    check (!axes.contains k)
    axes := axes ++ [k]
  along (some (axes.eraseDups.mergeSort fun a b => decide (a <= b)))

def reduceJoin : Offer := do
  let (.reduce r, x :: _) <- readNode n | skip
  let some (.join _, axis :: xs) <- made? x | skip
  if !(<- isKnown axis 0) then return .none
  match r.scalar.kind with
  | .maximum | .minimum => if xs.length != 2 then return .none
  | .add | .mul => if xs.length <= 1 then return .none
  | _ => return .none
  let mut parts := []
  for v in xs do
    let some (.dimShuffle _ order _, y :: _) <- made? v | return .none
    if order != .new :: (List.range (<- ndimOf y)).map .dim then return .none
    parts := parts ++ [y]
  let v <- apply1 (bareOp r.scalar) parts
  if (<- dtypeOf v) != (<- dtypeOf (<- outOf n)) then return .none
  let axes <- if let some l := r.axis then pure l else do pure ((List.range (<- ndimOf x)).map Int.ofNat)
  if axes == [0] then return .one v
  if <- settingFlag "warn__reduce_join" then noAttr
  skip

def uselessReduce : Offer := do
  let (.reduce _, [x]) <- readNode n | skip
  if <- sameType x (<- outOf n) then return .one x else skip

def reduceUnit : Offer := do
  let (.reduce r, [x]) <- readNode n | skip
  let d <- dtypeOf (<- outOf n)
  let bs <- bcastOf x
  let some axis := r.axis | if bs.all id then propose (do cast (<- dimshuffle x []) d) else return .none
  let cut := axis.filter fun a => bs.getD (placeOf bs.length a).toNat false
  if cut.isEmpty then return .none
  let kept := (List.range bs.length).filter fun (p : Nat) => !cut.contains (p : Int)
  let axes := kept.zipIdx.filterMap fun ((p, i) : Nat × Nat) => if axis.contains (p : Int) then some (i : Int) else none
  let y <- dimshuffle x (kept.map .dim)
  if axes.isEmpty then return <- propose (cast y d)
  if let .typed := r.cls then badType
  propose (apply1 (.reduce { cls := r.cls, scalar := r.scalar, axis := some axes }) [y])

def reduceAlloc : Offer := do
  let (some r, [x]) := (sumOrProd? (<- opOf n), <- insOf n) | skip
  let some (.alloc, v :: dims) <- made? x | skip
  let some c <- valueOf? v true true | skip
  let c := if let .array a := c then .number a.dtype a.item else c
  let size <- apply1 mulOp dims
  let vd <- dtypeOf v
  let d <- dtypeOf (<- outOf n)
  let size <- if vd == .float16 || vd == .float32 then cast size .float32 else pure size
  let times s := operate (if r.cls == .sum then .mul else .pow) c s
  let toType x := do
    match x with
    | .var w => cast w d
    | .number _ e => return .number d (d.fit e)
    | x => return x
  if r.axis.all (· == (List.range (<- ndimOf v)).map Int.ofNat) then
    return <- propose do asTensor (<- toType (<- times size))
  let (picked, rest) := dims.zipIdx.partition fun (_, i) => (r.axis.getD []).contains (i : Int)
  let w <- if picked.isEmpty then pure c else do times (<- apply1 mulOp (picked.map (·.1)))
  propose do alloc (<- toType w) (rest.map (·.1))

def allReductions : List Track :=
  ["CAReduce", "All", "Any", "Sum", "Prod", "ProdWithoutZeros", "All", "Any", "CAReduceDtype", "Max", "Min", "Mean"].map .cls

def reduceRules : List LocalRule :=
  let two := [.cls "Sum", .cls "Prod"]
  [ rule "local_sum_prod_mul_by_scalar" two reduceScaled,
    rule "local_elemwise_sub_zeros" [elemwiseClass] subSame,
    rule "local_useless_elemwise_comparison" [elemwiseClass] uselessComparison,
    rule "local_sum_prod_div_dimshuffle" two reduceQuotient,
    rule "local_sum_prod_all_to_none" two reduceAll,
    rule "local_op_of_op" two reduceTwice,
    rule "local_reduce_join" allReductions reduceJoin,
    rule "local_useless_reduce" allReductions uselessReduce,
    rule "local_reduce_broadcastable" allReductions reduceUnit,
    rule "local_opt_alloc" two reduceAlloc ]

/-! ## Back from canonical forms -/

def maxReduction (axis : Axes) : Op := .reduce { cls := .max, scalar := .maximum, axis }
def minReduction (axis : Axes) : Op := .reduce { cls := .min, scalar := .minimum, axis }

def separateMax : Offer := do
  let (.maxAndArgmax axis, x :: _, [m, i]) := (<- opOf n, <- insOf n, <- outsOf n) | skip
  if (<- clientsOf g i).isEmpty then return .outputs [some (<- apply1 (maxReduction (some axis)) [x]), none]
  if (<- clientsOf g m).isEmpty then return .outputs [none, some (<- apply1 (.argmax (some axis)) [x])]
  skip

def maxToMin : Offer := do
  let some [m] <- inputsIf negOp n | deny
  let some (.reduce r, [x]) <- made? m | deny
  if r.scalar.kind != .maximum then return .no
  let some [y] <- madeWith? x negOp | deny
  propose (apply1 (minReduction r.axis) [y])

def onlyPads (k ndim : Nat) (order : List Place) : Bool := order == .replicate k .new ++ (List.range ndim).map .dim

def allocShuffled : Offer := do
  let (.alloc, v :: dims) <- readNode n | deny
  let some (.dimShuffle input order _, [x]) <- made? v | deny
  if !onlyPads (order.length - input.length) input.length order then return .no
  propose (alloc x (valuesOf dims))

def keptDims (order : List Place) : List Nat :=
  order.filterMap fun
    | .dim i => some i
    | .new => none

def reshapeShuffled : Offer := do
  let (.reshape k _, [v, shp]) <- readNode n | deny
  let some (.dimShuffle _ order _, [x]) <- made? v | deny
  let dims := keptDims order
  if dims != .range dims.length then return .no
  propose (reshapeTo x shp (some k))

def shuffledAlloc : Offer := do
  let (.dimShuffle input order _, [v]) <- readNode n | deny
  let some (.alloc, x :: dims) <- made? v | deny
  let k := order.length - input.length
  if !onlyPads k input.length order then return .no
  propose (alloc x (.replicate k 1 ++ dims.map .var))

def increasing : List Nat -> Bool
  | a :: b :: l => a < b && increasing (b :: l)
  | _ => true

def shuffledIndex : Offer := do
  let (.dimShuffle bs order _, [v]) <- readNode n | deny
  let dims := keptDims order
  if dims.length != order.length || !increasing dims then return .no
  let some (.subtensor idx, x :: rest) <- made? v | deny
  let missing := (List.range bs.length).filter fun i => !dims.contains i
  if !missing.all fun i => bs.getD i false then return .no
  let zero <- tensorConstant 0
  let mut entries := idx
  let mut operands := []
  let mut left := rest
  let mut slices := 0
  let mut removed := 0
  let mut place := 0
  for e in idx do
    match e with
    | .slice a b c =>
      let k := [a, b, c].countP (·.isSome)
      operands := operands ++ left.take k
      left := left.drop k
      if k == 0 && missing.contains slices then
        entries := entries.set place (.pos .int8)
        operands := operands ++ [zero]
      slices := slices + 1
    | .pos _ =>
      operands := operands ++ left.take 1
      left := left.drop 1
      removed := removed + 1
    place := place + 1
  for i in List.range (<- ndimOf x) do
    if i >= idx.length && missing.contains (i - removed) then
      entries := entries ++ .replicate (i - entries.length) (.slice none none none) ++ [.pos .int8]
      operands := operands ++ [zero]
  propose (apply1 (.subtensor entries) (x :: operands))

def uncanonicalRules : List LocalRule :=
  [ rule "local_max_and_argmax" ["MaxAndArgmax"] separateMax,
    rule "local_max_to_min" [negOp] maxToMin,
    rule "local_alloc_dimshuffle" ["Alloc"] allocShuffled,
    rule "local_reshape_dimshuffle" ["Reshape"] reshapeShuffled,
    rule "local_dimshuffle_alloc" ["DimShuffle"] shuffledAlloc,
    rule "local_dimshuffle_subtensor" ["DimShuffle"] shuffledIndex ]

/-! ## Logarithms and the error function -/

def sqrOp : Op := tensorOp "sqr" .sqr

def logOnePlus : Offer := do
  let some [arg] <- inputsIf logOp n | skip
  let some (p, ins) <- made? arg | skip
  if p == addOp then
    let (consts, rest) <- splitConstants ins
    let total <- consts.foldlM (fun acc (_, c) => do return acc + (<- numberOf c)) (0 : Float)
    if consts.isEmpty || !((total - 1).abs <= 1e-8 + 1e-5) || rest.isEmpty then return .none
    let x <- if let [v] := rest then pure v else apply1 addOp rest
    let x <- if (<- dtypeOf x) != (<- dtypeOf arg) then cast x (<- dtypeOf (<- outOf n)) else pure x
    propose do fillChain (<- Tensor.log1p x) (consts.map (·.1))
  else if p == subOp then
    let [a, b] := ins | skip
    if !(<- isKnown a 1) then return .none
    let b <- cast b (<- dtypeOf arg)
    propose do Tensor.log1p (<- neg b)
  else skip

def logOfSum : Offer := do
  let some (z :: _) <- inputsIf logOp n | skip
  let some [x, y] <- madeWith? z addOp | skip
  let (some (a :: _), some (b :: _)) := (<- madeWith? x expOp, <- madeWith? y expOp) | skip
  let m <- maximum a b
  let p <- sub a m
  let q <- sub b m
  let r <- add m (<- Tensor.log1p (<- exp (<- apply1 addOp [p, q])))
  tolerate "inf" r
  return .one r

def logSumExp : Offer := do
  let some (x :: _) <- inputsIf logOp n | skip
  let (shuffle, s) <- match <- made? x with
    | some (.dimShuffle b order i, y :: _) => pure (some (.dimShuffle b order i), y)
    | _ => pure (none, x)
  let some (.reduce r, e :: _) <- made? s | skip
  if r.cls != .sum then return .none
  let some (y :: _) <- madeByKind? e .exp | skip
  let axis := if let some l := r.axis then .tuple (valuesOf l) else .null
  let top <- maxOf y axis
  let kept <- keepDims y top r.axis
  let v <- add top (<- log (<- sum (<- exp (<- sub y kept)) r.axis))
  propose (if let some d := shuffle then apply1 d [v] else pure v)

def erfcSeries (x : VarId) : M VarId := do
  let s <- sub 1 (<- div 1 (<- mul 2 (<- pow x 2)))
  let s <- add s (<- div 3 (<- mul 4 (<- pow x 4)))
  sub s (<- div 15 (<- mul 8 (<- pow x 6)))

def logErfc : Offer := do
  let some (y :: _) <- inputsIf logOp n | deny
  let some (x :: _) <- madeWith? y erfcOp | deny
  if ((<- nodeInfo n).tag.lookup "local_log_erfc_applied").isSome then return .no
  modifyNode n fun i => { i with tag := i.tag ++ [("local_log_erfc_applied", .bool true)] }
  let a <- neg (<- pow x 2)
  let a <- sub a (<- log x)
  let stab <- add (<- sub a (<- mul (.float 0.5) (<- log (.float 3.141592653589793)))) (<- log (<- erfcSeries x))
  let out <- outOf n
  let limit <- match <- dtypeOf out with
    | .float32 | .float16 => pure 10.0541949
    | .float64 => pure 26.641747557
    | _ => raise .unboundLocal
  let r <- switch (<- lt x (.float limit)) out stab
  tolerate "inf" r
  return .one r

def flatFactors : Nat -> Vars -> M Vars
  | 0, _ => outOfFuel
  | fuel + 1, l => l.flatMapM fun i => do
    if let some ins <- madeWith? i mulOp then flatFactors fuel ins else return [i]

def gradLogErfc : Offer := do
  let some [num, den] <- inputsIf trueDivOp n | deny
  let some (erfcX :: _) <- madeWith? den erfcOp | deny
  let some (p, ins) <- made? num | deny
  let (e, rest) <- if p == mulOp then do
      let some k := (<- ins.mapM fun i => do return (<- madeWith? i expOp).isSome).findIdx? id | noAttr
      pure (ins.getD k default, ins.eraseIdx k)
    else if p == expOp then pure (num, [])
    else return .no
  let some (_, inside :: _) <- made? e | noAttr
  let some (q, ins) <- made? inside | deny
  let x <- if q == negOp then do
      let some (x :: _) <- madeWith? (ins.headD default) sqrOp | return .no
      pure x
    else if q == mulOp then do
      let some (_, fs) <- made? (<- apply1 mulOp (<- flatFactors 1000 ins)) | noAttr
      let some c <- valueOf? (fs.headD default) true true | return .no
      let c2 <- numberOf c
      let x <- match fs with
        | [_, s] => do
          let some (x :: _) <- madeWith? s sqrOp | return .no
          pure x
        | [_, a, b] => if a != b then return .no else pure a
        | _ => return .no
      if c2 != -1 then
        let some [k, y] <- madeWith? erfcX mulOp | return .no
        if fs[1]? != some y then return .no
        let some c <- valueOf? k true true | return .no
        if c2 != -(<- numberOf c) * 2 then return .no else pure erfcX
      else if erfcX != x then return .no
      else pure x
    else return .no
  if ((<- nodeInfo n).tag.lookup "local_grad_log_erfc_neg").isSome then return .no
  let quotient <- div e den
  let some m <- ownerOf quotient | noAttr
  modifyNode m fun i => { i with tag := i.tag ++ [("local_grad_log_erfc_neg", .bool true)] }
  let d <- dtypeOf x
  let series <- pow (<- erfcSeries x) (.int (-1))
  let stab <- mul (<- mul x series) (<- cast (<- sqrt (.float 3.141592653589793)) d)
  let limit <- match d with
    | .float32 | .float16 => pure 9.3
    | .float64 => pure 26.641747557
    | _ => raise .unboundLocal
  let r <- switch (<- lt x (.float limit)) quotient stab
  let r <- if rest.isEmpty then pure r else apply1 mulOp (r :: rest)
  tolerate "inf_nan" r
  return .one r

def logRules : List LocalRule :=
  [ rule "local_log1p" [logOp] logOnePlus,
    rule "local_log_add" [logOp] logOfSum,
    rule "local_log_sum_exp" [logOp] logSumExp,
    rule "local_log_erfc" [logOp] logErfc,
    rule "local_grad_log_erfc_neg" [trueDivOp] gradLogErfc ]

/-! ## Folding constants -/

def foldable (g : GraphId) (n : NodeId) : M Bool := do
  match <- opOf n with
  | .alloc =>
    let readers <- clientsOf g (<- outOf n)
    if readers.isEmpty then return false
    readers.allM fun (r, i) => do
      let .node m := r | pure false
      return i != 0 || !((<- opOf m) matches .incSubtensor .. | .advIncSubtensor1 .. | .advIncSubtensor ..
        | .blas (.gemv _) | .blas (.cGemv _) | .blas (.ger _) | .blas (.cGer _) | .blas (.scipyGer _))
  | .allocEmpty _ | .net (.abstractConv ..) => pure false
  | _ => pure true

def constantFolding : Offer := do
  let mut vals := []
  for i in <- insOf n do
    let some d <- constant? i | return .no
    vals := vals ++ [d]
  if !(<- foldable g n) then return .no
  let outs <- M.ask fun k => k.perform n vals
  proposeAll (((<- outsOf n).zip outs).mapM fun (o, v) => do
    let t <- typeOf o
    newConstant t (<- t.filter v))

def uselessComposite : Offer := do
  let .elemwise s _ _ <- opOf n | skip
  match s.kind with
  | .composite id =>
    let outs <- outsOf n
    let read <- outs.mapM fun o => do return !(<- clientsOf g o).isEmpty
    if read.all (·) then return .none
    let c <- compositeOf id
    let kept := (outs.zip (c.outputs.zip read)).filter fun (_, _, b) => b
    let new <- reapply (bareOp (<- makeComposite c.inputs (kept.map fun (_, o, _) => o))) (<- insOf n)
    return .pairs ((kept.map (·.1)).zip new) []
  | _ => skip

def dropView : Offer := do
  let .view <- opOf n | skip
  return .all (<- insOf n)

def mergeAlloc : Offer := do
  let (.alloc, x :: outer) <- readNode n | deny
  let some (.alloc, y :: inner) <- made? x | deny
  let pairs := inner.reverse.zip outer.reverse
  let mut dims := outer.reverse
  for ((i, o), k) in pairs.zipIdx do
    if i != o && !valueIs (<- constant? i) 1 then
      let d <- assertThat o [<- eq o i] ("You have a shape error in your graph. To see a better error message and a "
        ++ "stack trace of where in your code the error is created, use the Theano flags optimizer=None or "
        ++ "optimizer=fast_compile.")
      dims := dims.set k d
  propose (alloc y (valuesOf dims.reverse))

def foldRules : List LocalRule :=
  [ anyRule "constant_folding" constantFolding,
    rule "local_useless_composite" [elemwiseClass] uselessComposite,
    anyRule "local_view_op" dropView,
    rule "local_merge_alloc" ["Alloc"] mergeAlloc,
    -- no operator of this class is known
    rule "local_useless_topk" ["TopKOp"] fun _ _ => skip ]

end TensorGraph.Rules
