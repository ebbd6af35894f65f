import TensorGraph.Rewrite.Rules.Algebra
import TensorGraph.Net.Conv

/-! # Rules for softmax and cross-entropy -/

namespace TensorGraph.Rules

open Tensor

variable (v : VarId) (plain : Bool) (reason : String) (g : GraphId) (n : NodeId) (x : Value) (vs : Vars)

def convLeft : Offer := do
  let .net (.abstractConv r c) <- opOf n | skip
  fail (.named "LocalMetaOptimizerSkipAssertionError") ((NetOp.abstractConv r c).className
    ++ " Theano optimization failed: there is no implementation available supporting the requested options. "
    ++ "Did you exclude both \"conv_dnn\" and \"conv_gemm\" from the optimizer? If on GPU, is cuDNN available and does the GPU support it? "
    ++ "If on CPU, do you have a BLAS library installed Theano can link against? On the CPU we do not support float16.")

/-- The rules about operators of blocks, diagonals and normalization, which no expression here holds. -/
def idle : Rule := fun _ _ => deny

/-- There is no operator of convolution here: the rules decline every abstract one. -/
def noConv : Rule := fun _ _ => skip

def convRules : List LocalRule :=
  let roles := [(ConvRole.forward, ""), (.gradWeights, "_gradweight"), (.gradInputs, "_gradinputs")]
  let named r dims := .cls s!"AbstractConv{dims}d{r.ending}"
  [ inplaceRule "local_inplace_sparse_block_gemv" ["SparseBlockGemv"] idle,
    inplaceRule "local_inplace_sparse_block_outer" ["SparseBlockOuter"] idle ]
  ++ (roles.flatMap fun (r, s) => [(2, ""), (3, "3d")].map fun (d, t) =>
    rule s!"local_abstractconv{t}{s}_gemm" [named r d] noConv)
  ++ (roles.map fun (r, s) => rule s!"local_conv2d{s}_cpu" [named r 2] noConv)
  ++ [rule "local_abstractconv_check" ([2, 3].flatMap fun d => roles.map (named ·.1 d)) convLeft]

def batchNormRules : List LocalRule :=
  [ rule "local_abstract_batch_norm_train" ["AbstractBatchNormTrain"] idle,
    rule "local_abstract_batch_norm_train_grad" ["AbstractBatchNormTrainGrad"] idle,
    rule "local_abstract_batch_norm_inference" ["AbstractBatchNormInference"] idle ]

def diagonalRules : List LocalRule :=
  [ rule "local_inplace_DiagonalSubtensor" ["DiagonalSubtensor", "IncDiagonalSubtensor"] idle ]

def sigmoidOp : Op := .elemwise .sigmoid [] (some "sigmoid")
def softplusOp : Op := .elemwise .softplus [] (some "softplus")
def ultraFastSigmoidOp : Op := .elemwise .ultraFastSigmoid [] (some "ultra_fast_sigmoid")
def sigmoid : M VarId := applyTo sigmoidOp [x]

def hardSigmoid : M VarId := do
  let d <- if let .var v := x then dtypeOf v else noAttr
  let out := d.upgraded
  let number k := tensorConstant (.array (.ofElem out (out.fit (.flt k))))
  let slope <- number 0.2
  let shift <- number 0.5
  clip (<- operate .add (<- operate .mul x slope) shift) 0 1

def closeTo (c : Value) (k : Float) : Bool :=
  let near e := (e.toFloat - k).abs <= 1e-8 + 1e-5 * k.abs
  if let .array a := c then a.data.all near else c.elem?.any (near ·.2)

def isCloseTo (k : Float) : M Bool := do
  let some c <- valueOf? v | pure false
  return closeTo c k

def product : M VarId := applyTo mulOp (valuesOf vs)

def negated? : M (Option VarId) := do
  let some (o, ins) <- made? v | pure none
  if o == negOp then return ins.head?
  if o != mulOp || ins.length < 2 then return none
  let some (_, k) <- ins.zipIdx.findM? fun (i, _) => isCloseTo i (-1) | pure none
  if let [x] := ins.eraseIdx k then return some x else return some (<- product (ins.eraseIdx k))

def exponential? : M (Option (Bool × VarId)) := do
  let w <- negated? v
  let some (x :: _) <- madeWith? (w.getD v) expOp | pure none
  return some (w.isSome, x)

def onePlusExp? : M (Option (VarId × Vars)) := do
  let some ins <- madeWith? v addOp | pure none
  let (consts, rest) <- splitConstants ins
  let ([e], c :: cs) := (rest, consts) | pure none
  let some (x :: _) <- madeWith? e expOp | pure none
  return if closeTo (<- cs.foldlM (fun acc (_, k) => binary .add acc k) c.2) 1 then some (x, consts.map (·.1)) else none

def partitionFactors (f : VarId -> M (Option (Bool × VarId))) : M (Vars × Vars × Bool) := do
  ((<- madeWith? v mulOp).getD [v]).foldlM (fun (fs, rest, neg) t => do
    if let some (n, x) <- f t then return (fs ++ [x], rest, neg != n)
    else return (fs, rest ++ [t], neg)) ([], [], false)

def expOverOnePlusExp : Offer := do
  let some [num, den] <- inputsIf trueDivOp n | skip
  let (exps, rest, numNeg) <- partitionFactors num exponential?
  let (ones, denRest, denNeg) <- partitionFactors den fun v => do return (<- onePlusExp? v).map (false, ·.1)
  let (sigmoids, exps) <- ones.foldlM (fun (ss, es) t => do
    if es.contains t then return (ss ++ [<- sigmoid t], es.erase t)
    else return (ss ++ [<- sigmoid (<- neg t)], es)) (([] : Vars), exps)
  if sigmoids.isEmpty then return .none
  let top := sigmoids ++ (<- exps.mapM fun t => exp (.var t)) ++ rest
  let top <- if let [x] := top then pure x else product top
  let top <- if numNeg != denNeg then neg top else pure top
  match denRest with
  | [] => propose (pure top)
  | [d] => propose (div top d)
  | ds => propose do div top (<- product ds)

/-! ## Products as trees -/

def treeNode (t : Value) : M (CellId × Bool × Value) := do
  let .list c := t | badType
  let [s, x] <- cellItems c | badValue
  pure (c, <- truthOf s, x)

def parseProduct : Nat -> VarId -> M Value
  | 0, _ => outOfFuel
  | fuel + 1, v => do
    if let some ins <- madeWith? v mulOp then
      return <- newList [false, <- newList (<- ins.mapM (parseProduct fuel))]
    let some w <- negated? v | newList [false, v]
    let (_, s, x) <- treeNode (<- parseProduct fuel w)
    newList [(!s), x]

def simplifyProduct : Nat -> Value -> M Value
  | 0, _ => outOfFuel
  | fuel + 1, t => do
    let (_, s, x) <- treeNode t
    let .list c := x | pure t
    let (s, kept) <- (<- (<- cellItems c).mapM (simplifyProduct fuel)).foldlM (fun (s, kept) p => do
      let (_, ps, px) <- treeNode p
      if px.isNull then return (s != ps, kept) else return (s, kept ++ [p])) (s, ([] : Values))
    match kept with
    | [] => newList [s, .null]
    | [p] =>
      let (pc, ps, px) <- treeNode p
      setCell pc (.seq #[(ps != s), px])
      pure p
    | ps => newList [s, <- newList ps]

def computeProduct : Nat -> Value -> M VarId
  | 0, _ => outOfFuel
  | fuel + 1, t => do
    let (_, s, x) <- treeNode t
    let r <- match x with
      | .null => fail .assertion "Function \x60compute_mul\x60 found a missing leaf, did you forget to call \x60simplify_mul\x60 on the tree first?"
      | .list c => product (<- (<- cellItems c).mapM (computeProduct fuel))
      | .var v => pure v
      | _ => badType
    if s then neg r else pure r

abbrev Leaf := VarId × CellId

/-- The exponentials and logistic functions (`true`) met in a product, those of an opposite (`true`) apart: their
arguments and nodes. -/
abbrev FactorsMet := Bool × Bool -> List Leaf

def FactorsMet.put (m : FactorsMet) (k : Bool × Bool) (l : List Leaf) : FactorsMet := fun j => if j == k then l else m j

def replaceLeaf (arg : VarId) (leaves : List Leaf) (new : M VarId) (flip : Bool) : M (Option (List Leaf × Leaf)) := do
  let some (v, c) := leaves.find? (·.1 == arg) | pure none
  let s :: _ <- cellItems c | pure none
  setCell c (.seq #[((<- truthOf s) != flip), <- new])
  return some (leaves.eraseP (·.1 == arg), (v, c))

def joinSigmoids : Nat -> Value -> Option (CellId × Nat) -> FactorsMet -> M (Bool × FactorsMet)
  | 0, _, _, _ => outOfFuel
  | fuel + 1, t, parent, m => do
    let (c, s, x) <- treeNode t
    match x with
    | .list kids =>
      let mut changed := false
      let mut m := m
      for (k, i) in (<- cellItems kids).zipIdx do
        let (d, m') <- joinSigmoids fuel k (some (kids, i)) m
        changed := changed || d
        m := m'
      pure (changed, m)
    | .var v =>
      let met <- if let some (negative, x) := <- exponential? v then pure (some (false, x, s != negative))
        else do pure (((<- madeWith? v sigmoidOp).bind List.head?).map (true, ·, s))
      let some (isSigm, arg, flip) := met | pure (false, m)
      let (minus, arg) <- do if let some w <- negated? arg then pure (true, w) else pure (false, arg)
      let other := (!isSigm, !minus)
      -- the sigmoid that a factor and the one it meets make
      let made := (true, isSigm != minus)
      let some (rest, e) <- replaceLeaf arg (m other) (do sigmoid (<- if made.2 then neg arg else pure arg)) flip
        | pure (false, m.put (isSigm, minus) (m (isSigm, minus) ++ [(arg, c)]))
      let some (pc, i) := parent | unmet
      setCell pc (.seq ((<- cellItems pc).set i (<- newList [false, .null])).toArray)
      pure (true, (m.put other rest).put made (m made ++ [e]))
    | _ => pure (false, m)

def sigmoidTimesExp : Offer := do
  if (<- opOf n) != mulOp then return .none
  let t <- parseProduct 200 (<- outOf n)
  if !(<- joinSigmoids 200 t none fun _ => []).1 then return .none
  propose do computeProduct 200 (<- simplifyProduct 200 t)

def invOnePlusExp : Offer := do
  let some [x] <- inputsIf invOp n | skip
  let some (y, consts) <- onePlusExp? x | skip
  propose do fillChain (<- sigmoid (<- neg y)) consts

def oneMinusSigmoid : Offer := do
  let some [a, b] <- inputsIf subOp n | skip
  if (<- clientsOf g b).length > 1 then return .none
  let some (x :: _) <- madeWith? b sigmoidOp | skip
  if <- isCloseTo a 1 then propose (do sigmoid (<- neg x)) else skip

def approximateSigmoid (f : Value -> M VarId) : Rule := fun _ n => do
  let (.elemwise s .., x :: _) <- readNode n | skip
  if s == .sigmoid then propose (f x) else skip

def sigmoidRules : List LocalRule :=
  [ rule "local_ultra_fast_sigmoid" [sigmoidOp] (approximateSigmoid fun x => applyTo ultraFastSigmoidOp [x]),
    rule "local_hard_sigmoid" [sigmoidOp] (approximateSigmoid hardSigmoid),
    rule "local_exp_over_1_plus_exp" [trueDivOp] expOverOnePlusExp,
    rule "local_sigm_times_exp" [mulOp] sigmoidTimesExp,
    rule "local_inv_1_plus_exp" [invOp] invOnePlusExp,
    rule "local_1msigmoid" [subOp] oneMinusSigmoid ]

def softmaxOp : Op := .net .softmax
def biasedSoftmaxOp : Op := .net .softmaxWithBias
def softmaxGradOp : Op := .net .softmaxGrad
def xentOp : Op := .net .xentSoftmaxArgmax
def xentDxOp : Op := .net .xentSoftmaxDx

def logOfSoftmax : Offer := do
  let (some .log, [x]) := (kindOf? (<- opOf n), <- insOf n) | skip
  let some (.net .softmax, y :: _) <- made? x | skip
  propose (apply1 (.net .logSoftmax) [y])

def logSoftmaxGradient : Offer := do
  let [d, s] <- insOf n | skip
  let some (g :: sm :: _) <- madeWith? d trueDivOp | skip
  if sm != s || (<- madeBy? sm) != some softmaxOp then return .none
  if let some (.advIncSubtensor ..) <- madeBy? g then return .none
  let wide <- if ((<- bcastOf g).getD 1 false) && !((<- bcastOf sm).getD 1 false) then
      alloc g [<- shapeAt g 0, <- shapeAt sm 1]
    else pure g
  let total <- keepDims wide (<- sum wide (some [1])) (some [1])
  propose do sub wide (<- mul total sm)

def softmaxWithBias? : M (Option VarId) := do
  let some (.net .softmax, [x]) <- made? v | pure none
  let some terms <- madeWith? x addOp | pure none
  let (rows, others) <- terms.partitionM fun t => do return (<- bcastOf t) == [true, false]
  let vectors <- rows.mapM fun t => do
    let some (.dimShuffle .., [r]) <- made? t | dimshuffle t [.dim 1]
    if (<- bcastOf r) == [false] then return r else dimshuffle t [.dim 1]
  check (!(others.isEmpty && vectors.isEmpty))
  let (others, vectors) <- if others.isEmpty then do
      pure ([<- padLeft (vectors.getLastD default) 1], vectors.dropLast)
    else pure (others, vectors)
  if vectors.isEmpty then return none
  let sumOf l := if let [t] := l then pure t else applyTo addOp (valuesOf l)
  let bias <- sumOf vectors
  let some sm <- attempt (apply1 biasedSoftmaxOp [<- sumOf others, bias]) | pure none
  if <- sameType sm v then return some sm else pure none

def softmaxWithBiasRule : Offer := do
  let some v <- softmaxWithBias? (<- outOf n) | skip
  return .one v

def xentGradient : Offer := do
  let [g, _] <- insOf n | skip
  let some (.net .xentCategoricalGrad, [gn, c, t]) <- made? g | skip
  propose (apply1 xentDxOp [gn, c, t])

def argmaxPushdown : Offer := do
  let (.maxAndArgmax axis, [x], [top, _]) := (<- opOf n, <- insOf n, <- outsOf n) | skip
  let some (o, ins) <- made? x | skip
  if !(<- clientsOf g top).isEmpty then return .none
  let best v := do
    let (m, i) <- maxAndArgmax v (.tuple (valuesOf axis))
    return .all [m, i]
  if [softmaxOp, softplusOp, expOp, logOp, tensorOp "tanh" .tanh, sigmoidOp].contains o then best (ins.headD default)
  else
    let (true, [y, b]) := (o == biasedSoftmaxOp, ins) | skip
    best (<- add y (<- dimshuffle b [.new, .dim 0]))

def isInteger (k : Int) : M Bool := do return ((<- constant? v).bind (·.elem?)).any (·.2 == .int k)

def rowsCoverLabels (rows labels : VarId) : M Bool := do
  let f? <- Shapes.of? g
  let lengths? <- if let some f := f? then Shapes.shapeOf f labels else pure none
  if f?.isSome && lengths?.isNone then badType
  if let some [l] := lengths? then if <- isNumber l 1 then return <- isNumber rows 0
  let some (.arange _, [start, stop, step]) <- made? rows | pure false
  if !(<- isInteger start 0) || !(<- isInteger step 1) then return false
  match <- made? stop, lengths? with
  | none, _ => pure false
  | some (.subtensor idx, ins), _ =>
    let [.pos c] <- knownIndices idx ins.tail false | pure false
    if !c.elem?.any (·.2 == .int 0) then return false
    let some (.shape, [x]) <- made? (ins.headD default) | pure false
    return x == labels
  | _, some (l :: _) => return l == stop
  | _, some [] => badIndex
  | _, none => noAttr

/-- What a softmax is taken of, and the bias if there is one. -/
def softmaxOperands? (sm : VarId) : M (Option (VarId × Option VarId)) := do
  let some (o, x :: _) <- made? sm | pure none
  if o != softmaxOp && o != biasedSoftmaxOp then return none
  let some v <- softmaxWithBias? sm | return some (x, none)
  return (<- made? v).map fun (_, l) => (l.headD x, l[1]?)

def indexedCrossentropy : Offer := do
  let found : Option Vars <- match <- readNode n with
    | (.advSubtensor, l :: rest) => do pure ((<- madeWith? l logOp).map (· ++ rest))
    | (o, [x]) => if o == logOp then madeWith? x .advSubtensor else pure none
    | _ => pure none
  let some [sm, rows, labels] := found | skip
  let some (x, b?) <- softmaxOperands? sm | skip
  let b <- if let some b := b? then pure b else do zerosLike (<- atPos x 0)
  if !(<- rowsCoverLabels g rows labels) || (<- ndimOf labels) != 1 || (<- ndimOf x) != 2 then return .none
  propose (neg ((<- reapply xentOp [x, b, labels]).headD default))

/-- The parts of the gradient of an indexed cross-entropy: what is put back, and where. -/
structure Placed where
  (grad rows labels : VarId)

def placedQuotient? (sm x : VarId) (ins : Vars) : M (Option Placed) := do
  let [z, incr, rows, labels] := ins | pure none
  if !(<- isNumber z 0) then return none
  let negative? := (<- madeWith? incr negOp).bind List.head?
  let sign := if negative?.isSome then -1 else 1
  let some [num, den] <- madeWith? (negative?.getD incr) trueDivOp | pure none
  let small v := do return (<- ndimOf v) == 1 || (<- bcastOf v).all id
  if !(<- small num) then return none
  let grad <- operate .mul (.float sign) (<- neg num)
  let some (o, factors) <- made? den | pure none
  if o != .advSubtensor && o != mulOp then return none
  let found <- if o == .advSubtensor then pure (some (den, grad)) else
    factors.zipIdx.findSomeM? fun (f, i) => do
      if (<- madeBy? f) != some .advSubtensor then return none
      let rest <- match factors.eraseIdx i with
        | [r] => pure r
        | l => do applyTo mulOp [<- listOf l]
      if <- small rest then return some (f, <- operate .trueDiv grad rest) else return none
  let filled <- fill (<- Rules.itemOf x [.whole, 0]) ((found.map (·.2)).getD grad)
  let some (sub, _) := found | pure none
  let some (_, from_) <- made? sub | pure none
  return if from_ == [sm, rows, labels] then some ⟨filled, rows, labels⟩ else none

def indexedCrossentropyGradient : Offer := do
  let [d, sm] <- insOf n | skip
  let some (x, _) <- softmaxOperands? sm | skip
  let placed? <- if let some (.advIncSubtensor .., l) := <- made? d then placedQuotient? sm x l else do
    let some [num, den] <- madeWith? d trueDivOp | pure none
    let some (.advIncSubtensor .., [z, incr, rows, labels]) <- made? num | pure none
    if den != sm || !(<- isNumber z 0) || !([[false, false], [true, false]].contains (<- bcastOf z)) then pure none
    else if (<- ndimOf incr) != 1 || !(<- dtypeOf incr).isFloat then pure none
    else pure (some (⟨<- neg incr, rows, labels⟩ : Placed))
  let some p := placed? | skip
  if !(<- rowsCoverLabels g p.rows p.labels) || (<- ndimOf p.labels) != 1 || (<- ndimOf x) != 2 then return .none
  propose (apply1 xentDxOp [p.grad, sm, p.labels])

def softmaxOfCrossentropy : Offer := do
  let [x, b] <- insOf n | skip
  let readers <- clientsOf g b
  for (c, _) in <- clientsOf g x do
    let .node m := c | noAttr
    if (<- opOf m) == xentOp && readers.any (·.1 == .node m) then
      return .one ((<- reapply xentOp [x, b, (<- insOf m).getD 2 default]).getD 1 default)
  skip

def unrepeatedGradient : Offer := do
  let [dy, sm, y] <- insOf n | skip
  if (<- ndimOf dy) == 0 || (<- bcastOf dy) == [true] then return .no
  check ((<- ndimOf dy) == 1)
  let some (.alloc, z :: _) <- made? dy | skip
  let some f <- Shapes.of? g | deny
  let known <- if (<- bcastOf z).getD 0 true then Shapes.same f sm dy (some 0) (some 0) else pure true
  let z <- if known then pure z else do
    let len <- shapeAt dy 0
    let cond <- or (<- eq len 1) (<- eq (<- shapeAt dy 0) (<- shapeAt sm 0))
    applyTo (.assert "\x60sm\x60 and \x60dy\x60 do not have the same shape.") [z, cond]
  propose (apply1 xentDxOp [z, sm, y])

def onlyFor (o : Op) (r : Rule) : Rule := fun g n => do if (<- opOf n) == o then r g n else skip

def softmaxRules : List LocalRule :=
  [ rule "local_logsoftmax" [elemwiseClass] logOfSoftmax,
    rule "local_logsoftmax_grad" ["SoftmaxGrad"] (onlyFor softmaxGradOp logSoftmaxGradient),
    rule "local_softmax_with_bias" [softmaxOp] softmaxWithBiasRule,
    rule "local_softmax_grad_to_crossentropy_with_softmax_grad" [softmaxGradOp]
      (onlyFor softmaxGradOp xentGradient),
    rule "local_argmax_pushdown" ["MaxAndArgmax"] argmaxPushdown,
    rule "local_advanced_indexing_crossentropy_onehot" ["AdvancedSubtensor", logOp] indexedCrossentropy,
    rule "local_advanced_indexing_crossentropy_onehot_grad" [softmaxGradOp]
      (onlyFor softmaxGradOp indexedCrossentropyGradient),
    rule "graph_merge_softmax_with_crossentropy_softmax" [biasedSoftmaxOp]
      (onlyFor biasedSoftmaxOp softmaxOfCrossentropy),
    rule "local_useless_crossentropy_softmax_1hot_with_bias_dx_alloc" ["CrossentropySoftmax1HotWithBiasDx"]
      (onlyFor xentDxOp unrepeatedGradient) ]

/-! ## Passes -/

def joinCrossentropy : M Bool := do
  for n in <- graphToposort g do
    if (<- opOf n) == .net .xentCategorical then
      let [sm, t] <- insOf n | pure ()
      let parts? <- match <- made? sm with
        | some (.net .softmax, [x]) => do if plain then pure (some (x, <- zerosLike (<- atPos x 0))) else pure none
        | some (.net .softmaxWithBias, [x, b]) => pure (some (x, b))
        | _ => pure none
      let some (x, b) := parts? | pure ()
      let os <- reapply xentOp [x, b, t]
      let _ <- replaceAllValidate g [(<- outOf n, os.getD 0 default), (sm, os.getD 1 default)] reason
      return true
  pure false

def joinCrossentropies : GlobalRule :=
  { name := reason, cls := "FromFunctionOptimizer"
    run := fun _ g => do
      for _ in List.range ((<- graph g).nodes.size + 1) do if !(<- joinCrossentropy plain reason g) then break
      return .null }

def softmaxPasses : List GlobalRule :=
  [ joinCrossentropies false "crossentropy_to_crossentropy_with_softmax_with_bias",
    joinCrossentropies true "crossentropy_to_crossentropy_with_softmax" ]

end TensorGraph.Rules
