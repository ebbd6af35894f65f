import TensorGraph.Tensor.Arrange

/-!
# Pooling

Formulas for lengths are written once, for numbers and for expressions.
-/

namespace TensorGraph.Net

/-- Arithmetic of lengths. Comparisons are of numbers; `chooseAtLeast a b x y` is `x` where `a >= b` and `y` elsewhere,
also for expressions. `refuse` is the answer to a padding below zero. -/
structure Lengths (m : Type -> Type) (α : Type) where
  lit : Int -> α
  (add sub mul floorDiv max : α -> α -> m α)
  chooseAtLeast : α -> α -> α -> α -> m α
  (same less : α -> α -> m Bool)
  refuse : m α

def Lengths.ints : Lengths Option Int where
  lit := id
  add a b := some (a + b)
  sub a b := some (a - b)
  mul a b := some (a * b)
  floorDiv a b := if b = 0 then none else some (a.fdiv b)
  max a b := some (Max.max a b)
  chooseAtLeast a b x y := some (if a >= b then x else y)
  same a b := some (a == b)
  less a b := some (decide (a < b))
  refuse := none

/-! ## Pooling -/

section Pooling

variable {m : Type -> Type} [Monad m] {α : Type} (L : Lengths m α)

def Lengths.pooledInside (equal : Bool) (v window step : α) : m α := do
  if equal then L.floorDiv v step
  else L.max (<- L.add (<- L.floorDiv (<- L.sub v window) step) (L.lit 1)) (L.lit 0)

def Lengths.pooled (ignoreBorder : Bool) (v window step : α) : m α := do
  if ignoreBorder then L.pooledInside (<- L.same window step) v window step
  else
    let last <- L.sub v (L.lit 1)
    if <- L.less step window then
      let more <- L.floorDiv (<- L.add (<- L.sub last window) step) step
      let more := if <- L.less (L.lit 0) more then more else L.lit 0
      L.add more (L.lit 1)
    else L.add (<- L.floorDiv last step) (L.lit 1)

def Lengths.pooledExpression (v window step : α) : m α := do
  let last <- L.sub v (L.lit 1)
  let apart <- L.add (<- L.floorDiv last step) (L.lit 1)
  let more <- L.add (<- L.floorDiv (<- L.sub last window) step) (L.lit 1)
  L.chooseAtLeast step window apart (<- L.add (<- L.max (L.lit 0) more) (L.lit 1))

end Pooling

/-- A range of positions of a padded image: the first, and the one after the last. -/
structure Region where
  (start stop : Int)

namespace Region

def positions (r : Region) : List Nat := (List.range (r.stop - r.start).toNat).map fun k => r.start.toNat + k

def behindPadding (len pad window step : Int) (j : Nat) : Region :=
  let start := max (j * step) pad
  ⟨start, min (start + window) len⟩

def window (len window step : Int) (j : Nat) : Region :=
  let start := j * step
  ⟨start, min (start + window) len⟩

end Region

/-! ## Convolution -/

/-- The padding of one dimension of a convolution: a rule, or the amounts before and after. -/
inductive AxisBorder (α : Type)
  | valid | half | full
  | pad (before after : α)

section Convolution

variable {m : Type -> Type} [Monad m] {α : Type} (L : Lengths m α)

def Lengths.dilated (kernel dilation : α) : m α := do L.add (<- L.mul (<- L.sub kernel (L.lit 1)) dilation) (L.lit 1)

def Lengths.checkedPads (l r : α) : m (α × α) := do
  let low <- L.less l (L.lit 0)
  let low <- if low then pure true else L.less r (L.lit 0)
  if low then
    let a <- L.refuse
    return (a, a)
  pure (l, r)

def Lengths.pads (extent : α) : AxisBorder α -> m (α × α)
  | .valid => pure (L.lit 0, L.lit 0)
  | .half => do
    let p <- L.floorDiv extent (L.lit 2)
    pure (p, p)
  | .full => do
    let p <- L.sub extent (L.lit 1)
    pure (p, p)
  | .pad l r => L.checkedPads l r

def Lengths.convolved (image kernel : α) (border : AxisBorder α) (step dilation : α) : m α := do
  let extent <- L.dilated kernel dilation
  let (l, r) <- L.pads extent border
  let out <- L.sub image extent
  let out <- if <- L.same l (L.lit 0) then pure out else L.add out l
  let out <- if <- L.same r (L.lit 0) then pure out else L.add out r
  let out <- if <- L.same step (L.lit 1) then pure out else L.floorDiv out step
  L.add out (L.lit 1)

/-- The length of the kernel, where it can be told; the gaps in it are divided out by `ratio`. -/
def Lengths.kernelOf (ratio : α -> α -> m α) (image top : α) (border : AxisBorder α) (step dilation : α) : m (Option α) := do
  if !(<- L.same step (L.lit 1)) then return none
  let known <- match border with
    | .half => return none
    | .full => L.sub top image
    | .valid => L.sub image top
    | .pad l r => do
      let (l, r) <- L.checkedPads l r
      L.sub (<- L.add (<- L.add image l) r) top
  let known <- if <- L.less (L.lit 1) dilation then ratio known dilation else pure known
  return some (<- L.add known (L.lit 1))

def Lengths.imageOf (kernel top : α) (border : AxisBorder α) (step dilation : α) : m (Option α) := do
  if !(<- L.same step (L.lit 1)) then return none
  let extent <- L.dilated kernel dilation
  let (l, r) <- L.pads extent border
  let image <- L.sub (<- L.add top extent) (L.lit 1)
  let image <- if <- L.less (L.lit 0) l then L.sub image l else pure image
  let image <- if <- L.less (L.lit 0) r then L.sub image r else pure image
  return some image

/-- One dimension of a convolution; a missing entry is not known. The first two lengths are those from which a third
follows. -/
structure ConvAxis (α : Type) where
  (first second : Option α)
  border : Option (AxisBorder α)
  (step dilation : Option α)

def ConvAxis.follow {m : Type -> Type} [Monad m] {α : Type} (a : ConvAxis α)
    (f : α -> α -> AxisBorder α -> α -> α -> m (Option α)) : m (Option α) :=
  match a.first, a.second, a.border, a.step, a.dilation with
  | some x, some y, some b, some s, some d => f x y b s d
  | _, _, _, _, _ => pure none

def Lengths.resultShape (batch kernels : Option α) (axes : List (ConvAxis α)) : m (List (Option α)) := do
  return batch :: kernels :: (<- axes.mapM fun a => a.follow fun x k b s d => do return some (<- L.convolved x k b s d))

def Lengths.perGroup (op : α -> α -> m α) (groups : α) (n : Option α) : m (Option α) := n.mapM fun n => do
  if <- L.less (L.lit 1) groups then op n groups else pure n

def Lengths.kernelShape (ratio : α -> α -> m α) (channels kernels : Option α) (groups : α) (unsharedOver : Option (List (Option α)))
    (axes : List (ConvAxis α)) : m (List (Option α)) := do
  let kernels <- L.perGroup L.floorDiv groups kernels
  let lengths <- axes.mapM fun a => a.follow (L.kernelOf ratio)
  if let some top := unsharedOver then return kernels :: top ++ channels :: lengths
  else return kernels :: channels :: lengths

def Lengths.imageShape (batch channels : Option α) (groups : α) (axes : List (ConvAxis α)) : m (List (Option α)) := do
  let channels <- L.perGroup L.mul groups channels
  return batch :: channels :: (<- axes.mapM fun a => a.follow L.imageOf)

end Convolution

open Tensor

def valueLengths : Lengths M Value where
  lit := .int
  add := operate .add
  sub := operate .sub
  mul := operate .mul
  floorDiv := operate .floorDiv
  max a b := do
    match a, b with
    | .var _, _ | _, .var _ => maximum a b
    | a, b => return (<- applyPromoted .maximum none [<- arrayOf a, <- arrayOf b]).toValue
  chooseAtLeast a b x y := do switch (<- ge a b) x y
  same a b := do truthOf (<- operate .eq a b)
  less a b := do truthOf (<- operate .lt a b)
  refuse := failValue "border_mode must be >= 0"

def placed (names : List String) (args : Values) (kw : Kw) : M Values := do
  if args.length > names.length then badType
  let rest := names.drop args.length
  if kw.any fun (k, _) => !rest.contains k then badType
  return args ++ rest.map fun n => (kw.lookup n).getD .null

/-! ## Shapes -/

def renamed (v old : Value) (message : String) : M Value := do
  if old.isNull then return v
  if !v.isNull then failValue message
  pure old

def eitherWindow (ws ds : Value) : M Value := do
  if ds.isNull && ws.isNull then failValue "You must provide a tuple value for the window size."
  renamed ws ds "You can't provide a tuple value to both 'ws' and 'ds'. Please provide a value only to 'ws'."

def eitherStride (stride st : Value) : M Value :=
  renamed stride st "You can't provide a tuple value to both 'st and 'stride'. Please provide a value only to 'stride'."

def eitherPad (pad old : Value) (default : Option Value) : M Value := do
  if old.isNull then return pad
  let free <- if pad.isNull then pure true else default.elim (pure false) fun d => do truthOf (<- operate .eq pad d)
  if !free then
    failValue "You can't provide a tuple value to both 'padding' and pad.  Please provide a value only to pad."
  pure old

def pooledLength (ignoreBorder shortcut : Bool) (v window step : Value) : M Value := do
  let L := valueLengths
  if ignoreBorder then
    let equal <- if shortcut then L.same window step else pure false
    L.pooledInside equal v window step
  else if v matches .var _ then L.pooledExpression v window step
  else L.pooled false v window step

def pooledShape (image ws : Value) (ignoreBorder : Bool) (stride pad : Value) (ndim : Int) (shortcut : Bool := true) :
    M Values := do
  let dims <- iterate image
  if (dims.length : Int) < ndim then failType s!"imgshape must have at least {ndim} dimensions"
  let n := ndim.toNat
  let stride := if stride.isNull then ws else stride
  let pad := if pad.isNull then .tuple (.replicate n 0) else pad
  let lead := dims.length - n
  let padded <- (List.range n).mapM fun i => do
    operate .add (<- extractConstant (dims.getD (lead + i) .null)) (<- operate .mul (<- itemOf pad i) 2)
  let out <- mapIdxM (fun i v => do
    pooledLength ignoreBorder shortcut v (<- itemOf ws i) (<- itemOf stride i)) padded
  return dims.take lead ++ out

/-! ## Application -/

def isSequence (v : Value) : Bool := v matches .tuple _ | .list _

/-- Windows of an image: its leading dimensions, its lengths with padding, and sizes, steps and paddings. -/
structure Windows where
  lead : List Nat
  (lengths sizes steps pads : List Int)

variable (w : Windows) (role : PoolRole) (p : PoolSpec) (vs : Vars) (args : Values)

def checkPads (pad ws : Value) : M Unit := do
  if !isSequence pad then return
  let sizes <- (<- iterate pad).mapM fun v => if let some x := v.float? then pure x else badType
  if sizes.isEmpty then badValue
  let top := sizes.foldl (fun a b => if b > a then b else a) (sizes.headD 0)
  if top != 0 && !p.ignoreBorder then cannot "padding works only with ignore_border=True"
  if isSequence ws then
    let wide <- (List.range p.ndim).anyM fun (i : Nat) => do
      truthOf (<- operate .ge (<- itemOf pad i) (<- itemOf ws i))
    if wide then cannot "padding must be smaller than strides"

def windowInputs (ws stride pad : Value) : M Vars := do
  let stride := if stride.isNull then ws else stride
  let pad := if pad.isNull then .tuple (.replicate p.ndim 0) else pad
  let vs <- [ws, stride, pad].mapM asTensor
  for v in vs do check ((<- ndimOf v) == 1)
  pure vs

def checkWindowTypes : M Unit := do
  for (v, n) in vs.zip ["Pool downsample", "Stride", "Padding"] do
    if !(<- dtypeOf v).isSigned then failType s!"{n} parameters must be ints."

def checkImages : M Unit := do
  let ns <- vs.mapM ndimOf
  check (ns.all fun n => n >= p.ndim && n == ns.headD 0)

def poolNode (kw : Kw) : M NodeId := do
  let o := .net (.pool role p)
  /- the shape is free in the pooled dimensions -/
  let pooledType v d := do
    let bs <- bcastOf v
    return .ofTensor d (bs.take (bs.length - p.ndim) ++ .replicate p.ndim false)
  let images := match role with
    | .forward => ["x"]
    | .maxRop => ["x", "eval_point"]
    | .averageGrad => ["x", "gz"]
    | .maxGrad | .maxGradGrad => ["x", "maxout", "gz"]
  let pools := role matches .forward | .maxRop
  let all <- placed (images ++ ["ws", "stride", "pad"] ++ if role == .averageGrad then ["dummy"] else []) args kw
  if role == .forward && args.isEmpty then badType
  let vs <- (all.take images.length).mapM asTensor
  let ws :: stride :: pad :: _ := all.drop images.length | badType
  if pools || role == .maxGradGrad then checkPads p pad ws
  let ins <- windowInputs p ws stride pad
  let v := vs.headD default
  if !pools then checkImages p vs else if (<- ndimOf v) < p.ndim then failType ""
  checkWindowTypes ins
  newNode o (vs ++ ins) [<- if pools then do pooledType v (<- dtypeOf (vs.getLastD v)) else typeOf v]

/-! ## Computation -/

namespace Windows

def ofArrays (what : String) (p : PoolSpec) (x ws st pad : NdArray) : M Windows := do
  check ([ws, st, pad].all fun a => a.shape == [p.ndim])
  if x.ndim < p.ndim then cannot s!"{what} requires input with {p.ndim} or more dimensions"
  let lead := x.shape.take (x.ndim - p.ndim)
  let lengths := ((x.shape.drop (x.ndim - p.ndim)).zip pad.toInts).map fun (n, q) => (n : Int) + 2 * q
  return ⟨lead, lengths, ws.toInts, st.toInts, pad.toInts⟩

def counts (ignoreBorder : Bool) : M (List Int) :=
  ((w.lengths.zip w.sizes).zip w.steps).mapM fun ((n, k), s) =>
    if let some c := Lengths.ints.pooled ignoreBorder n k s then pure c else raise .zeroDivision

def read (x : NdArray) (k c : List Nat) : Elem :=
  let at_ := (c.zip w.pads).map fun (i, q) => (i : Int) - q
  let inner := x.shape.drop w.lead.length
  if (at_.zip inner).all fun (i, n) => 0 <= i && i < (n : Int) then x.get (k ++ at_.map Int.toNat) else .zero x.dtype

def crop (a : NdArray) : NdArray :=
  .build a.dtype (w.lead ++ ((w.lengths.zip w.pads).map fun (n, q) => (n - 2 * q).toNat)) fun i =>
    a.get (i.take w.lead.length ++ ((i.drop w.lead.length).zip w.pads).map fun (j, q) => ((j : Int) + q).toNat)

end Windows

def indicesOf (shape : List Nat) : List (List Nat) := (List.range (shapeSize shape)).map (unflatten shape)

def choices : List (List α) -> List (List α)
  | [] => [[]]
  | l :: rest => l.flatMap fun x => (choices rest).map (x :: ·)

def regionsOf (f : Int -> Int -> Int -> Int -> Nat -> Region) (r : List Nat) : List Region :=
  ((((w.lengths.zip w.pads).zip w.sizes).zip w.steps).zip r).map fun ((((n, q), k), s), j) => f n q k s j

def emptyOnly (d : DType) (shape : List Int) : M NdArray := do
  if shape.any (· < 0) then badValue
  let shape := shape.map Int.toNat
  if shapeSize shape > 0 then badIndex
  return .zeros d shape

def poolPerform : M Values := do
  let lead w := w.lead.map fun (n : Nat) => (n : Int)
  match role, <- args.mapM arrayOf with
  | .forward, [x, ws, st, pad] | .maxRop, [x, _, ws, st, pad] =>
    let w <- Windows.ofArrays "Pool" p x ws st pad
    let out <- w.counts p.ignoreBorder
    if !p.ignoreBorder then check (out.all (· > 0))
    pure [<- emptyOnly x.dtype (lead w ++ out)]
  | .averageGrad, [x, _, ws, st, pad] =>
    let w <- Windows.ofArrays "AveragePoolGrad" p x ws st pad
    if p.mode == "average_exc_pad" && w.pads.any (· != 0) then cannot
    let _ <- emptyOnly x.dtype (lead w ++ (<- w.counts p.ignoreBorder))
    pure [(w.crop (.zeros x.dtype (w.lead ++ w.lengths.map Int.toNat)))]
  | .maxGrad, [x, top, g, ws, st, pad] =>
    let w <- Windows.ofArrays "MaxPoolGrad" p x ws st pad
    let out := top.shape.drop (top.ndim - p.ndim)
    let shape := w.lead ++ w.lengths.map Int.toNat
    let strides := rowStrides shape
    let mut acc := (NdArray.zeros x.dtype shape).data
    for k in indicesOf w.lead do
      for r in indicesOf out do
        let best := top.get (k ++ r)
        for c in choices ((regionsOf w Region.behindPadding r).map Region.positions) do
          if best.eq (w.read x k c) then
            acc := acc.modify (flatIndex strides (k ++ c)) fun e => SparseMatrix.plus x.dtype e (g.get (k ++ r))
    pure [(w.crop ⟨x.dtype, shape, acc, 0⟩)]
  | .maxGradGrad, [x, top, g, ws, st, pad] =>
    let w <- Windows.ofArrays "DownsampleFactorMaxGradGrad" p x ws st pad
    let n := top.ndim - p.ndim
    return [.array (.build x.dtype top.shape fun i =>
      let k := i.take n
      let r := i.drop n
      let best := top.get i
      (choices ((regionsOf w (fun len _ => Region.window len) r).map Region.positions)).foldl (fun acc c =>
        if best.eq (w.read x k c) then SparseMatrix.plus x.dtype acc (w.read g k c) else acc) (.zero x.dtype))]
  | _, _ => badValue

/-! ## Gradients and shapes -/

def poolGrad (ins outs gs : Vars) : M Vars := do
  let o r (mode : String := "max") :=
    .net (.pool r { ignoreBorder := p.ignoreBorder, ndim := p.ndim, mode })
  match role, ins, gs with
  | .forward, x :: window, [g] =>
    let d <- if p.mode == "max" then apply1 (o .maxGrad) (x :: outs.headD default :: g :: window)
      else apply1 (o .averageGrad p.mode) (x :: g :: window)
    return d :: (<- disconnectedList 3)
  | .maxGrad, x :: m :: _ :: window, [gg] =>
    return [<- zerosLike x, <- zerosLike m, <- apply1 (o .maxGradGrad) (x :: m :: gg :: window)] ++ (<- disconnectedList 3)
  | .averageGrad, x :: _ :: window, [gg] =>
    return [<- zerosLike x, <- apply1 (o .forward p.mode) (gg :: window)] ++ (<- disconnectedList 3)
  | .maxGradGrad, x :: m :: _ :: window, [g] =>
    return [<- zerosLike x, <- zerosLike m, <- apply1 (o .maxGrad) (x :: m :: g :: window)] ++ (<- disconnectedList 3)
  | _, _, _ => cannot

def poolShapes (n : NodeId) (shapes : Shapes) : M Shapes := do
  match role, <- insOf n with
  | .forward, [_, ws, st, pad] =>
    let some dims := shapes.headD none | badType
    pure [some (<- pooledShape (.tuple dims) ws p.ignoreBorder st pad p.ndim)]
  | .maxGrad, _ | .averageGrad, _ => pure [shapes.headD none]
  | .maxGradGrad, _ => pure [shapes.getD 1 none]
  | _, _ => noAttr

def poolConnections : Option Links :=
  let row k n := .replicate k [true] ++ .replicate n [false]
  match role with
  | .forward => some (row 1 3)
  | .averageGrad => some (row 2 3)
  | .maxGrad | .maxGradGrad => some (row 3 3)
  | .maxRop => none

def poolPushforward (ins : Vars) (points : List (Option VarId)) : M (List (Option VarId)) := do
  let (x :: window, e :: _) := (ins, points) | badIndex
  let here r := .net (.pool r p)
  if p.mode != "max" then return [some (<- applyTo (here .forward) (.ofOption .var e :: valuesOf window))]
  let some e := e | pure [none]
  let z <- apply1 (here .forward) (x :: window)
  pure [some (<- apply1 (.net (.pool .maxGradGrad { p with openmp := false })) (x :: z :: e :: window))]

end TensorGraph.Net
