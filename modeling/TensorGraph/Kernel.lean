import TensorGraph.Compile.GraphOp
import TensorGraph.Linalg.Ops
import TensorGraph.Loop.Gradient
import TensorGraph.Net.Conv
import TensorGraph.Sparse.Perform
import TensorGraph.Sparse.Node
import TensorGraph.Random.Streams

/-!
# What operators mean

One table for all operators: how they are applied, evaluated, differentiated, and what shapes they give.
-/

namespace TensorGraph

open Tensor

variable (s : SymbolicOp) (o : Op) (args : Values)

def symbolicNode : M NodeId := do
  let vs <- args.mapM fun | .var v => pure v | _ => badType
  let t <- if let v :: _ := vs then typeOf v else pure (.plain "")
  newNode (.symbolic s) vs (.replicate s.nout t)

def opNode (kw : Kw) : M NodeId := do
  match o with
  | .scalar s => scalarNode s args
  | .elemwise s inplace _ => elemwiseNode o s inplace args
  | .dimShuffle b order _ => dimShuffleNode o b order args
  | .reduce r => reduceNode r args
  | .view | .outputGuard | .deepCopy | .considerConstant | .zeroGrad | .undefinedGrad | .disconnectedGrad
  | .gradClip .. | .gradScale .. | .print .. | .raise .. => sameTypeNode o args
  | .shape => shapeNode args
  | .shapeI i => shapeINode o i args
  | .rebroadcast axes => rebroadcastNode o axes args
  | .specifyShape => specifyShapeNode args
  | .breakpoint _ =>
    let c :: xs := args | badType
    let c <- asTensor c
    check ((<- ndimOf c) == 0)
    let vs := xs.filterMap Value.var?
    if vs.length < xs.length then noAttr
    newNode o (c :: vs) (<- vs.mapM typeOf)
  | .fromFunction id => functionOpNode id args
  | .fromGraph id => graphOpNode id args
  | .tensorFromScalar => tensorFromScalarNode args
  | .scalarFromTensor => scalarFromTensorNode args
  | .maxAndArgmax axis => maxAndArgmaxNode o axis args
  | .argmax axis => argmaxNode o axis args
  | .nonzero => nonzeroNode args
  | .tri d => sizedNode o false d args
  | .eye d => sizedNode o true d args
  | .alloc => allocNode args
  | .allocEmpty d => allocEmptyNode d args
  | .default => defaultNode args
  | .split k => splitNode o k args
  | .join _ => joinNode o args
  | .reshape k _ => reshapeNode o k args
  | .flatten k => flattenNode o k args
  | .tile k => tileNode o k args
  | .arange d => arangeNode d args
  | .permuteRowElements => permuteRowsNode args
  | .dot => dotNode args
  | .extractDiag .. => extractDiagNode o args
  | .allocDiag .. => allocDiagNode o args
  | .makeVector d => makeVectorNode d args
  | .assert _ => assertNode o args
  | .makeSlice => makeSliceNode args
  | .subtensor idx => subtensorNode idx args
  | .incSubtensor idx .. => incSubtensorNode o idx args
  | .advSubtensor1 _ => advSubtensor1Node o args
  | .advIncSubtensor1 _ set => advIncSubtensor1Node o set args
  | .advSubtensor => advSubtensorNode args
  | .advIncSubtensor .. => advIncSubtensorNode o args
  | .cumOp axis _ => cumNode o axis args
  | .contiguous => sameTypeNode o (valuesOf (<- tensors args))
  | .repeatOp axis => repeatNode o axis args
  | .fillDiagonal => fillDiagonalNode o "FillDiagonal" false args
  | .fillDiagonalOffset => fillDiagonalNode o "FillDiagonalOffset" true args
  | .unique i v c axis => uniqueNode o i v c axis args
  | .blas b => Blas.opNode b args
  | .linalg l => Linalg.opNode l args
  | .sparse s => SparseExpr.opNode s args
  | .net o => Net.opNode o args kw
  | .scan id _ => loopNode o id args
  | .ifElse n .. => Choice.opNode o n args
  | .mrgUniform d b _ => Random.uniformNode o d b args
  | .dotModulo => do
    let [_, .var s, _, _, _, _] := args | badType
    newNode o (args.filterMap Value.var?) [<- typeOf s]
  | .multinomialFromUniform d => Random.finiteNode o d true args
  | .choiceFromUniform d _ | .multinomialWOReplacement d _ => Random.finiteNode o d false args
  | .symbolic s => symbolicNode s args
  | _ => raise (.named "Unsupported")

/-! ## Evaluation -/

variable (n : NodeId)

def opPrepare : M Unit := do
  match <- opOf n with
  | .scan id _ => let _ <- prepareLoop id
  | .fromGraph id => let _ <- graphOpFunction id
  | _ => pure ()

def symbolicPerform : M Values := do
  let shown <- args.mapM textOf
  return (List.range s.nout).map fun k =>
    (s.name ++ "." ++ toString k ++ "(" ++ .intercalate "," shown ++ ")")

def opPerformOne (o : Op) (args : Values) : M Value := do
  match o, args with
  | .view, [x] | .outputGuard, [x] | .considerConstant, [x] | .zeroGrad, [x] | .undefinedGrad, [x]
  | .disconnectedGrad, [x] | .contiguous, [x] | .gradClip .., [x] | .gradScale .., [x] => pure x
  | .raise m k, _ => fail (.ofName k) m
  | .tensorFromScalar, [x] => arrayOf x
  | .scalarFromTensor, [x] =>
    let a <- arrayOf x
    return .number a.dtype a.item
  | .argmax axis, [x] =>
    let a <- arrayOf x
    if axis == some [] then badType
    let (_, i) <- maxAndArgmaxOf a ((axis.map fun l => l.map Int.toNat).getD (.range a.ndim))
    pure i
  | .allocEmpty d, dims => return .array (.zeros d (<- shapeValues dims))
  | .default, [x, y] => if x.isNull then copyValue 5 y else pure x
  | .makeSlice, [a, b, c] => return .slice a b c
  | .advIncSubtensor inplace set, x :: y :: idx =>
    checkMasks (<- arrayOf x).shape idx
    writeSelected inplace set x y (<- idx.mapM selOf)
  | .dimShuffle _ order _, [x] => shufflePerform order x
  | .reduce r, [x] => reducePerform r n x
  | .deepCopy, [x] => copyValue 20 x
  | .print m attrs _, [x] => printPerform m attrs x
  | .shape, [x] => shapePerform x
  | .shapeI i, [x] => shapeIPerform i x
  | .rebroadcast axes, [x] => rebroadcastPerform axes x
  | .specifyShape, [x, s] => specifyShapePerform x s
  | .tri d, xs => triPerform d true xs
  | .eye d, xs => triPerform d false xs
  | .alloc, x :: dims => allocPerform x dims
  | .join v, xs => joinPerform v n xs
  | .reshape k _, [x, s] => reshapePerform k x s
  | .flatten k, [x] => flattenPerform k x
  | .tile k, [x, r] => tilePerform k x r
  | .arange d, xs => arangePerform d xs
  | .permuteRowElements, xs => permuteRowsPerform n xs
  | .dot, xs => dotPerform xs
  | .extractDiag off a b view, [x] => extractDiagPerform off a b view x
  | .allocDiag off a b, [x] => allocDiagPerform off a b x
  | .makeVector d, xs => makeVectorPerform d xs
  | .assert _, x :: cs => assertPerform x cs
  | .subtensor idx, x :: vs => subtensorPerform idx x vs
  | .incSubtensor idx inplace set _, x :: y :: vs => incSubtensorPerform idx inplace set x y vs
  | .advSubtensor1 _, [x, i] => advSubtensor1Perform x i
  | .advIncSubtensor1 inplace set, [x, y, i] => writeSelected inplace set x y [<- selOf i]
  | .advSubtensor, x :: idx => advSubtensorPerform x idx
  | .cumOp axis mode, [x] => cumPerform axis mode x
  | .repeatOp axis, [x, r] => repeatPerform axis x r
  | .fillDiagonal, xs | .fillDiagonalOffset, xs => fillDiagonalPerform xs
  | _, _ => raise (.named "Unsupported")

def opPerform (args : Values) : M Values := do
  match <- opOf n, args with
  | .scalar s, xs => scalarPerform s xs
  | .elemwise s inplace _, xs => elemwisePerform s inplace n xs
  | .ifElse n .., xs => Choice.perform n xs
  | .mrgUniform d .., xs => Random.uniformPerform d n xs
  | .dotModulo, xs => Random.dotModuloPerform xs
  | .multinomialFromUniform _, xs => Random.countsPerform n xs
  | .breakpoint _, c :: xs => if <- truthOf c then raise (.named "BdbQuit") else pure xs
  | .fromFunction id, xs => functionOpPerform id n xs
  | .fromGraph id, xs => do itemsOf (<- callValue (<- graphOpFunction id) xs [])
  | .maxAndArgmax axis, [x] =>
    let (m, i) <- maxAndArgmaxOf (<- arrayOf x) (axis.map Int.toNat)
    pure [m, i]
  | .nonzero, [x] => return valuesOf (<- arrayOf x).nonzero
  | .split k, xs => splitPerform k xs
  | .blas b, xs => Blas.opPerform b xs
  | .linalg l, xs => Linalg.opPerform l xs
  | .sparse s, xs => SparseExpr.opPerform s n xs
  | .net o, xs => Net.opPerform o n xs
  | .scan id _, xs => loopPerform id n xs
  | .symbolic s, xs => symbolicPerform s xs
  | o, xs => pure [<- opPerformOne n o xs]

/-! ## Gradients -/

def opPullback (ins outs gs : Vars) : M Vars := do
  let name := opText o
  let unknown k := do gradMissing (<- name) k (ins.getD k default)
  match o, ins, gs with
  | .scalar s, _, _ => scalarPullback s ins outs gs
  | .elemwise s .., _, _ => elemwiseGrad s ins outs gs
  | .dimShuffle _ order _, [x], [g] => shuffleGrad order x g
  | .reduce r, _, _ => reduceGrad r ins outs gs
  | .view, _, gs | .outputGuard, _, gs | .print .., _, gs => pure gs
  | .considerConstant, _, gs | .zeroGrad, _, gs => gs.mapM zerosLike
  | .undefinedGrad, ins, _ => mapIdxM (fun k _ => unknown k) ins
  | .disconnectedGrad, _, gs => gs.mapM fun _ => disconnectedVar
  | .gradClip a b, _, gs => gs.mapM fun (g : VarId) => clip g a.toValue b.toValue
  | .gradScale k, _, gs => gs.mapM fun (g : VarId) => do
    let .var v <- operate .mul k.toValue g | badType
    pure v
  | .shape, _, _ => pure [<- disconnectedVar]
  | .shapeI _, [x], _ =>
    pure [<- gradMissing (<- name) 0 x "No gradient for the shape of a matrix is implemented."]
  | .rebroadcast axes, [x], [g] => rebroadcastGrad axes x g
  | .specifyShape, _, [g] => pure [g, <- disconnectedVar]
  | .tensorFromScalar, [s], [g] => tensorFromScalarGrad s g
  | .scalarFromTensor, _, [g] => pure [<- tensorFromScalar g]
  | .maxAndArgmax axis, [x], [gm, gi] => maxAndArgmaxGrad axis x gm gi
  | .argmax _, [x], _ => pure [<- zerosLike x]
  | .nonzero, _, _ => pure [<- unknown 0]
  | .tri _, _, _ | .eye _, _, _ => pure [<- unknown 0, <- unknown 1, <- unknown 2]
  | .alloc, _, [g] => allocGrad ins g
  | .allocEmpty _, ins, _ => disconnectedList ins.length
  | .split k, [_, axis, _], gs =>
    let off g := do return (<- typeOf g) == .disconnected
    let os <- applyAll (.split k) (valuesOf ins)
    if <- gs.allM off then return [<- disconnectedVar, <- unknown 1, <- unknown 2]
    let gs <- (os.zip gs).mapM fun (o, g) => do if <- off g then zerosLike o else return g
    let .var v <- join axis gs | badType
    pure [v, <- unknown 1, <- unknown 2]
  | .join _, axis :: xs, [g] => joinGrad (<- name) axis xs g
  | .reshape .., x :: _, [g] => reshapeGrad x g
  | .flatten _, [x], [g] => return [<- applyTo (.reshape (<- ndimOf x) none) [g, <- shape x]]
  | .tile _, _, _ => cannot
  | .arange d, [start, _, step], [g] => arangeGrad d start step (outs.headD default) g
  | .permuteRowElements, [x, y, i], [g] => permuteRowsGrad x y i g
  | .dot, [x, y], [g] => dotGrad x y g
  | .extractDiag off .., [x], [g] => extractDiagGrad o off x g
  | .allocDiag off a b, _, [g] => return [<- apply1 (.extractDiag off a b false) [g]]
  | .makeVector d, ins, [g] =>
    if d.isDiscrete then ins.mapM floatZerosLike
    else mapIdxM (fun i _ => atPos g i) ins
  | .assert _, ins, gs => return gs ++ (<- disconnectedList (ins.length - 1))
  | .makeSlice, ins, _ => disconnectedList ins.length
  | .subtensor idx, ins, [g] => subtensorGrad idx ins g
  | .incSubtensor idx _ set _, ins, [g] => incSubtensorGrad idx set ins g
  | .advSubtensor1 sparse, [x, i], [g] => advSubtensor1Grad sparse x i g
  | .advIncSubtensor1 _ set, [x, y, i], [g] => advIncSubtensor1Grad set x y i g
  | .advSubtensor, ins, [g] => advSubtensorGrad ins g
  | .advIncSubtensor _ set, ins, [g] => advIncSubtensorGrad set ins g
  | .contiguous, _, [g] => pure [<- asTensor g]
  | .breakpoint _, _, gs => return (<- disconnectedVar) :: gs
  | .fromFunction id, ins, gs => functionOpPullback id ins gs
  | .fromGraph id, ins, gs => do applyDerivative (<- pullOperator id) (ins ++ outs ++ gs)
  | .ifElse n v d name, ins, gs => Choice.pullback n v d name ins gs
  | .mrgUniform .., ins, _ => mapIdxM (fun i x => do
      gradMissing (<- name) i x "No gradient defined through random sampling op") ins
  | .multinomialFromUniform _, ins, _ | .choiceFromUniform .., ins, _ => Random.finiteGrad ins
  | .cumOp axis mode, [x], [g] => cumGrad axis mode x g
  | .repeatOp axis, [x, r], [g] => repeatGrad axis x r g
  | .fillDiagonal, _, [g] => fillDiagonalGrad o "FillDiagonal" ins g
  | .fillDiagonalOffset, _, [g] => fillDiagonalGrad o "FillDiagonalOffset" ins g
  | .blas .batchedDot, [x, y], [g] => Blas.batchedDotGrad x y g
  | .linalg l, ins, gs => Linalg.pullback l ins outs gs
  | .sparse s, ins, gs => SparseExpr.opGrad s ins gs
  | .net o, ins, gs => Net.opGrad o ins outs gs
  | .scan id _, _, _ => loopPullback id o ins outs gs
  | _, _, _ => cannot

/-! ## Shapes -/

def opShapes (_g : Value) (n : NodeId) (shapes : Shapes) : M Shapes := do
  let ins <- insOf n
  let first := if let some l :: _ := shapes then pure l else badType
  let one x := do return [some (<- x)]
  match <- opOf n with
  | .elemwise .. => elemwiseShapes n shapes
  | .dimShuffle _ order _ => one do
    let l <- first
    let kept <- order.filterMapM fun
      | .dim i => if let some d := l[i]? then pure (some d) else badIndex
      | .new => pure none
    return insertOnes order 1 kept
  | .reduce r => one do reduceShape r n (<- first)
  | .view | .outputGuard | .considerConstant | .zeroGrad | .undefinedGrad | .disconnectedGrad | .gradClip ..
  | .gradScale .. => pure shapes
  | .shape => one do return [(<- first).length]
  | .shapeI _ | .tensorFromScalar | .scalarFromTensor => return [some []]
  | .rebroadcast axes => one do rebroadcastShape axes (<- first)
  | .specifyShape => one do specifyShapeShape n (<- first)
  | .maxAndArgmax axis => return .replicate 2 (some (dropAxes axis (<- first)))
  | .argmax axis => one do
    return (axis.map (dropAxes · (<- first))).getD []
  | .tri _ | .eye _ => one (return valuesOf (ins.take 2))
  | .ifElse k _ _ name => Choice.shapes k name n shapes
  | .alloc => one (return valuesOf (ins.drop 1))
  | .allocEmpty _ => one (return valuesOf ins)
  | .split k => splitShapes k n (<- first)
  | .join _ => one (joinShape n shapes)
  | .reshape k _ => one do reshapeShape k n (<- first)
  | .flatten k => one do flattenShape k (<- first)
  | .tile k => one do
    let l <- first
    let reps := ins.getD 1 default
    if k == 0 then return []
    let .var v <- operate .mul (.tuple l) reps | badType
    (List.range k).mapM fun (i : Nat) => atPos v i
  | .arange _ => one (arangeShape n)
  | .permuteRowElements => one do
    let some a :: some b :: _ := shapes | badType
    check (a.length == b.length)
    (a.zip b).mapM fun (x, y) => maximum x y
  | .dot => one (dotShape n shapes)
  | .extractDiag off a b _ => one do extractDiagShape off a b (<- first)
  | .allocDiag off a b => one do allocDiagShape off a b (<- first)
  | .makeVector _ => one (return [ins.length])
  | .subtensor idx => one do subtensorShape idx n (<- first)
  | .incSubtensor .. | .advIncSubtensor1 .. | .advIncSubtensor .. | .fillDiagonal | .fillDiagonalOffset | .assert _ =>
    pure [shapes.headD none]
  | .advSubtensor1 _ => one do
    let [some x, some i] := shapes | badType
    return i ++ x.drop 1
  | .advSubtensor => one (advSubtensorShape n shapes)
  | .cumOp axis _ => cumShapes axis shapes
  | .repeatOp axis => one do repeatShape axis n (<- first)
  | .blas b => Blas.opShapes b shapes
  | .linalg l => Linalg.shapes l shapes
  | .sparse s => SparseExpr.opShapes s n shapes
  | .net o => Net.opShapes o n ins shapes
  | .scan id _ => loopShapes id n shapes
  | .breakpoint _ => return shapes.drop 1
  | .fromGraph id => graphOpShapes id n shapes
  | _ => noAttr

/-! ## Derivatives along a direction -/

def opPushforward (ins : Vars) (points : List (Option VarId)) : M (List (Option VarId)) := do
  let first := points.headD none
  let on vs := do return (<- applyAll o vs).map some
  /- the operator on the first directions and the other inputs, if those directions are known -/
  let onFirst k : M (List (Option VarId)) := do
    let some ds := (points.take k).mapM id | return [none]
    on (valuesOf (ds ++ ins.drop k))
  let onAll := onFirst ins.length
  let plus a b : M VarId := do
    let .var r <- operate .add a b | badType
    return r
  match o, ins with
  | .elemwise s .., _ =>
    let outs <- applyAll o (valuesOf ins)
    mapIdxM (fun k (out : VarId) => do
      let gs := (<- outs.mapM zerosLike).set k (<- onesLike out)
      let terms <- elemwiseBackward s ins outs gs
      let mut sum : Option VarId := none
      for (t, p) in terms.zip points do
        let some p := p | pure ()
        if (<- typeOf t) != .disconnected then
          let .var q <- operate .mul t p | badType
          sum := some (<- if let some r := sum then plus r q else pure q)
      return sum) outs
  | .dimShuffle .., _ | .scalarFromTensor, _ | .flatten _, _ | .makeVector _, _ => onAll
  | .reduce r, _ => if r.cls == .sum then onAll else cannot
  | .maxAndArgmax axis, x :: _ =>
    let some e := first | pure [none, none]
    if axis.length != 1 then failValue "R_op supported for arg_max only for one axis!"
    if axis.headD 0 > 1 then failValue "R_op supported for arg_max only when  axis is 0 or 1"
    if (<- ndimOf x) != 2 then failValue "R_op supported for arg_max only when  input is a matrix"
    let place := (<- applyAll o (valuesOf ins)).getD 1 default
    let dims <- shape e
    let count k : M Value := do
      applyTo (.arange .int64) [0, (<- atPos dims k), 1]
    let idx <- if axis.headD 0 == 0 then do pure [.var place, <- count 1] else do pure [<- count 0, place]
    let .var r <- getItem 3 e (.tuple idx) | badType
    pure [some r, none]
  | .alloc, _ | .reshape .., _ | .subtensor _, _ | .advSubtensor1 _, _ | .advSubtensor, _ | .specifyShape, _
  | .rebroadcast _, _ => onFirst 1
  | .split k, _ => if first.isNone then return .replicate k none else onFirst 1
  | .join _, axis :: _ =>
    let some ds := (points.drop 1).mapM id | pure [none]
    on (axis :: valuesOf ds)
  | .incSubtensor .., _ | .advIncSubtensor1 .., _ | .advIncSubtensor .., _ => onFirst 2
  | .arange _, _ | .shape, _ | .undefinedGrad, _ | .disconnectedGrad, _ => pure [none]
  | .scan id _, _ => loopPushforward id ins points
  | .fromGraph k, _ =>
    let some ds := points.mapM id | badType
    return (<- applyDerivative (<- pushOperator k) (ins ++ ds)).map some
  | .mrgUniform .., _ => return points.map fun _ => none
  | .ifElse .., c :: _ => return (<- applyAll o (c :: (points.drop 1).map (.ofOption .var))).map some
  | .net o, _ => Net.opPushforward o ins points
  | .linalg l, _ => Linalg.pushforward l ins points
  | .sparse .constructFromList, _ =>
    let some a :: some b :: _ := points | pure [none]
    on (a :: b :: valuesOf (ins.drop 2))
  | .zeroGrad, _ =>
    if first.isNone then return [none]
    return [some (<- atPos (<- zeros (<- floatX) [1]) 0)]
  | .print .., _ => pure points
  | .allocEmpty d, _ => pure [some (<- zeros d (valuesOf ins))]
  | .dot, [x, y] | .blas .batchedDot, [x, y] =>
    let mut tested := o != .dot && (<- settingText "compute_test_value") != "off"
    for v in if tested then [x, y] ++ points.filterMap id else [] do
      if (<- attempt (testValue v)).isNone then tested := false
    match points with
    | [none, none] => return [none]
    | [some _, none] | [none, some _] => if tested then raise .unboundLocal
    | _ => pure ()
    match points with
    | [some a, none] => return [some (<- apply1 o [a, y])]
    | [none, some b] => return [some (<- apply1 o [x, b])]
    | [some a, some b] => return [some (<- plus (<- apply1 o [a, y]) (<- apply1 o [x, b]))]
    | _ => unmet
  | _, _ => cannot

/-! ## Connections -/

def opConnections? : M (Option Links) := do
  let ins <- insOf n
  let outs <- outsOf n
  let row (b : Bool) := .replicate outs.length b
  let firsts k := some ((List.range ins.length).map fun i => row (i < k))
  match <- opOf n with
  | .scalar s =>
    let .second := s.kind | pure none
    return some [[false], [true]]
  | .elemwise s .. =>
    let .second := s.kind | return firsts ins.length
    return some [[false], [true]]
  | .shape | .shapeI _ | .disconnectedGrad => return some [[false]]
  | .undefinedGrad => return some [[true]]
  | .specifyShape | .reshape .. | .repeatOp _ => return some [[true], [false]]
  | .alloc | .assert _ | .subtensor _ | .advSubtensor1 _ | .advSubtensor => return firsts 1
  | .allocEmpty _ => return firsts 0
  | .incSubtensor .. | .advIncSubtensor1 .. | .advIncSubtensor .. => return firsts 2
  | .arange _ => return some [[true], [false], [true]]
  | .breakpoint _ => return some ((List.range ins.length).map fun i => (List.range outs.length).map (· + 1 == i))
  | .fromFunction id => functionOpConnections id n
  | .fromGraph id => graphOpConnections id
  | .scan id _ => return some (<- loopConnections id n)
  | .sparse s => return SparseExpr.connections s
  | .net o => Net.connections o n
  | _ => pure none

end TensorGraph
