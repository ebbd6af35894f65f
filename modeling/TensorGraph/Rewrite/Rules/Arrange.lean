import TensorGraph.Rewrite.Rules.Index

/-! # Rules on arranged tensors -/

namespace TensorGraph.Rules

open Tensor

variable (g : GraphId) (n : NodeId)

def allocated (v : VarId) : M Bool := do
  match <- made? v with
  | some (.alloc, _) => pure true
  | some (.dimShuffle .., [x]) => return (<- madeBy? x) == some .alloc
  | _ => pure false

def elemwiseAlloc : Offer := do
  let o <- opOf n
  let .elemwise .. := o | deny
  let ins <- insOf n
  let outs <- outsOf n
  let b <- bcastOf (outs.headD default)
  for v in outs.drop 1 do check ((<- bcastOf v) == b)
  let full <- ins.mapM fun v => do return (<- bcastOf v) == b
  if !full.any id then return .no
  let allocs <- ins.mapM allocated
  if !allocs.any id then return .no
  let firstFull free := (full.zip allocs).findIdx? fun (f, a) => f && !(free && a)
  let some k := firstFull true <|> (if allocs.count true > 1 then firstFull false else none) | deny
  let cmp := ins.getD k default
  let some f <- Shapes.of? g | noAttr
  let asserts <- settingFlag "experimental__local_alloc_elemwise_assert"
  let mut guarded := cmp
  let mut new := []
  for i in ins do
    let bi <- bcastOf i
    let guard x length := do
      check (bi.length == (<- ndimOf cmp))
      if !asserts then return x
      let different <- (List.range bi.length).filterM fun d => do
        if bi.getD d false then return false else return !(<- Shapes.same f i cmp (some d) (some d))
      let conds <- different.mapM fun d => do return .var (<- eq (<- length i d) (<- length cmp d))
      if conds.isEmpty then return x else assertThat x conds
    match <- made? i with
    | some (.alloc, src :: _) =>
      if <- sameType src i then new := new ++ [i]
      else
        guarded <- guard guarded (Shapes.getLength f 50)
        new := new ++ [src]
    | some (.dimShuffle p order w, [x]) =>
      let some (.alloc, src :: _) <- made? x | new := new ++ [i]
      guarded <- guard guarded fun v d => shapeAt v d
      let missing := (<- ndimOf x) - (<- ndimOf src)
      let src <- if missing == 0 then pure src
        else dimshuffle src (.replicate missing .new ++ (List.range (<- ndimOf src)).map .dim)
      new := new ++ [<- apply1 (.dimShuffle p order w) [src]]
    | _ => new := new ++ [i]
  proposeAll (reapply o (new.set k guarded))

def sinkFill (g : GraphId) : Nat -> NodeId -> VarId -> M VarPairs
  | 0, _, _ => outOfFuel
  | fuel + 1, n, place => do
    let o <- opOf n
    if (scalarOf? o).isNone || isPlain o .second then return []
    let parts <- (<- insOf n).mapM fun v => do
      if let some [m, x] <- madeByPlain? v .second then return (some m, x) else return (none, v)
    let models := parts.filterMap (·.1)
    if models.isEmpty then return []
    let mut c <- apply1 o (parts.map (·.2))
    for m in models do if !(<- sameType m c) then c <- fill m c
    let mut pairs := [((<- outOf n), c)]
    for (cl, i) in <- clientsOf g place do
      let .node m := cl | pure ()
      let p <- opOf m
      if (scalarOf? p).isSome && !isPlain p .second then
        let more <- sinkFill g fuel (<- applyNode p (valuesOf ((<- insOf m).set i c))) (<- outOf m)
        pairs := more.foldl (fun l (a, b) => alistSet a b l) pairs
    pure pairs

def fillSink : Offer := do
  let ps <- sinkFill g 400 n (<- outOf n)
  if ps.isEmpty then deny else return .pairs ps []

def fillToAlloc : Offer := do
  let (o, [r, v]) <- readNode n | skip
  if !isPlain o .second then return .none
  let out <- outOf n
  let new <- if <- sameType v out then pure v
    else if <- sameBcast v out then cast v (<- dtypeOf out)
    else if <- sameBcast r out then broadcastLike g v r (some (<- dtypeOf v))
    else return .none
  check (<- sameType new out)
  return .one new

def uselessFill : Offer := do
  let [_, v] <- insOf n | skip
  if isPlain (<- opOf n) .second && (<- sameType v (<- outOf n)) then return .one v
  skip

def uselessAlloc : Offer := do
  let (.alloc, x :: _) <- readNode n | deny
  if <- sameType x (<- outOf n) then return .one x else skip

def canonicalAlloc : Offer := do
  let (.alloc, x :: dims) <- readNode n | deny
  let out <- outOf n
  if <- sameType x out then return .one x
  for (c, _) in <- clientsOf g out do
    let .node m := c | pure ()
    if (<- opOf m) == .alloc then return .none
  let ones <- countOnes (dims.take (dims.length - (<- ndimOf x)))
  let rest := dims.drop ones
  if ones == 0 || rest.length < (<- ndimOf x) then return .none
  let inner <- if (<- bcastOf out).drop ones == (<- bcastOf x) then pure x else apply1 .alloc (x :: rest)
  propose (dimshuffle inner (.replicate ones .new ++ (List.range rest.length).map .dim))
where
  countOnes : Vars -> M Nat
    | [] => pure 0
    | d :: ds => do if <- isKnown d 1 then return (<- countOnes ds) + 1 else pure 0

def allocEmptyToZeros : Offer := do
  let .allocEmpty d <- opOf n | skip
  propose do zeros d (valuesOf (<- insOf n))

def shapeToLengths : Offer := do
  let (.shape, [x], some f) := (<- opOf n, <- insOf n, <- Shapes.of? g) | skip
  let some l <- Shapes.shapeOf f x | badType
  propose (apply1 (.makeVector .int64) l)

def trackLength : Offer := do
  let some f <- Shapes.of? g | skip
  let some new := (<- Shapes.state f).scheduled[n]? | skip
  let .shapeI i <- opOf n | unmet
  propose (Shapes.lengthAt f new i)

def fillRules : List LocalRule :=
  [ rule "local_elemwise_alloc" [elemwiseClass] elemwiseAlloc,
    rule "local_fill_sink" [elemwiseClass] fillSink,
    rule "local_fill_to_alloc" [fillOp] fillToAlloc,
    rule "local_useless_fill" [fillOp] uselessFill,
    rule "local_useless_alloc" [Op.alloc] uselessAlloc,
    rule "local_canonicalize_alloc" [Op.alloc] canonicalAlloc,
    rule "local_alloc_empty_to_zeros" ["AllocEmpty"] allocEmptyToZeros,
    rule "local_shape_to_shape_i" ["Shape"] shapeToLengths,
    anyRule "local_track_shape_i" trackLength ]

/-! ## Shuffled dimensions and conversions -/

def zeroDot : Offer := do
  let (.dot, [x, y]) <- readNode n | deny
  if !((<- isKnown x 0) || (<- isKnown y 0)) then return .none
  let d <- dtypeOf (<- outOf n)
  let zero <- elemConstant d (.zero d)
  let guarded i j : M VarId := do
    let a <- shapeAt x i
    let b <- shapeAt y j
    assertThat zero [(<- eq a b)]
  match <- ndimOf x, <- ndimOf y with
  | 2, 2 => propose do alloc (<- guarded 1 0) [<- shapeAt x 0, <- shapeAt y 1]
  | 1, 2 => propose do alloc (<- guarded 0 0) [<- shapeAt y 1]
  | 2, 1 => propose do alloc (<- guarded 1 0) [<- shapeAt x 0]
  | 1, 1 => propose (guarded 0 0)
  | _, _ => skip

def shuffleIsUseless (order : List Place) (b : List Bool) : Bool :=
  order.length == b.length && order.zipIdx.all fun (p, i) =>
    p == .dim i || (b.getD i false && match p with
      | .new => true
      | .dim j => b.getD j false)

def liftShuffle (g : GraphId) : Nat -> NodeId -> M (Option Vars)
  | 0, _ => outOfFuel
  | fuel + 1, n => do
    let again v := do
      let some m <- ownerOf v | return v
      let .dimShuffle .. <- opOf m | return v
      let some (w :: _) <- liftShuffle g fuel m | return v
      return w
    let (.dimShuffle _ order _, [x]) <- readNode n | pure none
    let keep := do
      return if shuffleIsUseless order (<- bcastOf x) then some [x] else none
    match <- made? x with
    | some (.elemwise s p name, ins) =>
      if (<- clientsOf g x).length != 1 then return <- keep
      let new <- ins.mapM fun i => do again (<- dimshuffle i order)
      return some (<- reapply (.elemwise s p name) new)
    | some (.dimShuffle _ inner _, [y]) =>
      let order := order.map fun
        | .new => .new
        | .dim i => inner.getD i .new
      if shuffleIsUseless order (<- bcastOf y) then return some [y]
      return some [<- again (<- dimshuffle y order)]
    | _ => keep

def shuffleLift : Offer := do
  let .dimShuffle .. <- opOf n | deny
  let some vs <- liftShuffle g 400 n | skip
  return .all vs

def shuffleInReshape : Offer := do
  let (.reshape .., [x, shp]) <- readNode n | deny
  let some (.dimShuffle _ order _, [y]) <- made? x | deny
  let dims := (order.zip (<- bcastOf x)).filterMap fun
    | (_, true) => none
    | (.dim i, _) => some i
    | (.new, _) => some 0
  if (dims.zip dims.tail).all fun (a, b) => a <= b then
    propose (apply1 (.reshape (<- ndimOf (<- outOf n)) none) [y, shp])
  else skip

def transposeThroughDot : Offer := do
  let (.dimShuffle _ [.dim 1, .dim 0] _, [z]) <- readNode n | deny
  let some (.dot, [x, y]) <- made? z | deny
  if (<- ndimOf x) == 2 && (<- ndimOf y) == 2 then
    propose (denseDot (<- transpose y) (<- transpose x))
  else skip

/-- A conversion of what the other conversion made gives what there was before. -/
def undone (o p : Op) : Rule := fun _ n => do
  let some [x] <- inputsIf o n | skip
  let some [y] <- madeWith? x p | skip
  return .one y

def shuffleRules : List LocalRule :=
  [ rule "local_0_dot_x" ["Dot"] zeroDot,
    rule "local_dimshuffle_lift" ["DimShuffle"] shuffleLift,
    rule "local_useless_dimshuffle_in_reshape" ["Reshape"] shuffleInReshape,
    rule "local_lift_transpose_through_dot" ["DimShuffle"] transposeThroughDot,
    rule "local_tensor_scalar_tensor" ["TensorFromScalar"] (undone .tensorFromScalar .scalarFromTensor),
    rule "local_scalar_tensor_scalar" ["ScalarFromTensor"] (undone .scalarFromTensor .tensorFromScalar) ]

/-! ## Rules on arranged tensors -/

def uselessAssert : Offer := do
  let (.assert _, x :: conds) <- readNode n | skip
  let open_ <- conds.filterM fun c => do
    match <- valueOf? (.var c) with
    | some (.array a) => return a.ndim != 0 || a.item == .flt 0
    | some v => return valueIs (some v) 0
    | none => return true
  if open_.isEmpty then return .one x
  if open_.length != conds.length then propose (assertThat x (valuesOf open_)) else skip

def removeAssert : Offer := do
  let (.assert _, x :: _) <- readNode n | skip
  return .one x

def uselessRebroadcast : Offer := do
  let (.rebroadcast axes, [x]) <- readNode n | skip
  let b <- bcastOf x
  if b == (<- bcastOf (<- outOf n)) then return .one x
  let new := axes.filter fun (d, c) => b.getD d false != c
  if new == axes then return .none
  propose (rebroadcastRaw x new)

def liftRebroadcast : Offer := do
  let (.rebroadcast axes, [x]) <- readNode n | deny
  match <- made? x with
  | some (.elemwise s i m, [y]) =>
    if (<- clientsOf g x).length != 1 then return .none
    proposeAll do reapply (.elemwise s i m) [<- rebroadcastRaw y axes]
  | some (.rebroadcast inner, [y]) => propose (rebroadcastRaw y (axes.foldl (fun l (d, c) => alistSet d c l) inner))
  | _ => skip

def joinOne : Offer := do
  let (.join _, [_, x]) <- readNode n | skip
  return .one x

private def joinOn (axis : VarId) (xs : Vars) : M VarId := do
  let .var v <- join axis (valuesOf xs) | badType
  pure v

def joinEmpty : Offer := do
  let (.join _, axis :: xs) <- readNode n | skip
  let some k <- valueOf? axis true true | skip
  let kept <- xs.filterM fun x => do
    let some (.array a) <- constant? x | return true
    return a.shape[<- positionOf a.ndim ((knownInt? k).getD 0)]? != some 0
  if kept.length == xs.length || kept.isEmpty then return .none
  let r <- joinOn axis kept
  let out <- outOf n
  if (<- dtypeOf r) != (<- dtypeOf out) then return .none
  check ((<- ndimOf r) == (<- ndimOf out))
  fitOutput n r

def joinMadeVectors : Offer := do
  let (.join _, axis :: x :: xs) <- readNode n | skip
  if (<- ndimOf (<- outOf n)) != 1 then return .none
  let mut new := [x]
  for y in xs do
    let joint <- match <- made? (new.getLastD default), <- made? y with
      | some (.makeVector d, ps), some (.makeVector e, qs) =>
        if d == e then do pure (some (<- apply1 (.makeVector d) (ps ++ qs))) else pure none
      | _, _ => pure none
    new := if let some v := joint then new.dropLast ++ [v] else new ++ [y]
  if new.length < xs.length + 1 then propose (joinOn axis new) else skip

def uselessTile : Offer := do
  let (.tile _, [x, reps]) <- readNode n | skip
  if !valueIs (<- valueOf? reps true true) 1 then return .none
  let l <- try vectorLength reps catch e => if e.isA .value then return .none else throw e
  if l == (<- ndimOf x) then return .one x else skip

def uselessSplit : Offer := do
  let (.split 1, [x, axis, splits]) <- readNode n | skip
  let a <- assertThat x [<- eq (<- shapeAt splits 0) 1]
  let len <- itemOf (<- shape x) [axis]
  propose do assertThat a [<- eq len (<- itemOf splits [0])]

def liftFlatten : Offer := do
  let (.flatten k, x :: _) <- readNode n | skip
  let some (.elemwise s i m, [y]) <- made? x | skip
  propose do apply1 (.elemwise s i m) [<- apply1 (.flatten k) [y]]

def reshapeChain : Offer := do
  let (.reshape k m, [x, shp]) <- readNode n | deny
  let some (.reshape .., y :: _) <- made? x | deny
  let r <- apply1 (.reshape k m) [y, shp]
  if <- sameBcast r (<- outOf n) then return .one r else deny

def uselessReshape : Offer := do
  let (.reshape .., [x, shp]) <- readNode n | deny
  let out <- outOf n
  let k <- ndimOf x
  if k != (<- ndimOf out) then return .no
  if k == 1 && (<- sameBcast x out) then return .one x
  match <- made? shp with
  | some (.shape, [y]) => if y == x then return .one x else skip
  | some (.makeVector _, dims) =>
    let f <- Shapes.of? g
    let b <- bcastOf x
    let mut unknown := 0
    for i in List.range k do
      let d := dims.getD i default
      let byLength <- match <- made? d with
        | some (.shapeI j, [y]) => pure (j == i && y == x)
        | some (.subtensor _, [s, p]) =>
          if valueIs (<- valueOf? p) i.toFloat then do pure ((<- madeWith? s .shape) == some [x])
          else pure false
        | _ => pure false
      if byLength then continue
      let c <- valueOf? d true true
      if b.getD i false && valueIs c 1 then continue
      if valueIs c (-1) then unknown := unknown + 1
      else
        let some f := f | return .none
        let l <- Shapes.getLength f 50 x i
        if l != d then
          let (some a, some c) := (<- valueOf? l true true, c) | return .none
          if knownInt? a != knownInt? c then return .none
    if unknown <= 1 then return .one x else skip
  | _ => skip

def reshapeToShuffle : Offer := do
  let (.reshape .., [x, shp]) <- readNode n | deny
  let k <- ndimOf (<- outOf n)
  let mut order := []
  let mut dims := []
  for i in List.range k do
    let d <- extractConstant (<- atPos shp i) false false
    if d.var?.isNone && valueIs (some d) 1 then order := order ++ [.new]
    else
      order := order ++ [.dim dims.length]
      dims := dims ++ [d]
  if dims.length == k then return .none
  propose (dimshuffle (<- applyTo (.reshape dims.length none) [x, <- newList dims]) order)

def liftReshape : Offer := do
  let (.reshape k m, [x, shp]) <- readNode n | skip
  let some (.elemwise s i nm, [y]) <- made? x | skip
  fitOutput n (<- apply1 (.elemwise s i nm) [<- apply1 (.reshape k m) [y, shp]])

def listRules : List LocalRule := [inplaceRule "typed_list_inplace_opt"
  (["Append", "Extend", "Insert", "Reverse", "Remove"].map fun c => .cls s!"typed_list.{c}") fun _ _ => deny]

def arrangeRules : List LocalRule :=
  let join := [.cls "Join"]
  let reshape := [.cls "Reshape"]
  [ rule "local_remove_useless_assert" ["Assert"] uselessAssert,
    rule "local_remove_all_assert" ["Assert"] removeAssert,
    rule "local_useless_rebroadcast" ["Rebroadcast"] uselessRebroadcast,
    rule "local_rebroadcast_lift" ["Rebroadcast"] liftRebroadcast,
    rule "local_join_1" join joinOne,
    rule "local_join_empty" join joinEmpty,
    rule "local_join_make_vector" join joinMadeVectors,
    rule "local_useless_tile" ["Tile"] uselessTile,
    rule "local_useless_split" ["Split"] uselessSplit,
    rule "local_flatten_lift" ["Flatten"] liftFlatten,
    rule "local_useless_reshape" reshape uselessReshape,
    rule "local_reshape_to_dimshuffle" reshape reshapeToShuffle,
    rule "local_reshape_lift" reshape liftReshape ]

def unnamedArrangeRules : List LocalRule :=
  [ { rule "local_reshape_chain" ["Reshape"] reshapeChain with label := some "f" } ]

end TensorGraph.Rules
