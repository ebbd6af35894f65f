import TensorGraph.Tensor.ConstantValue

/-!
# Indexing

An index is a template of slices and entries with operands to fill it in; advanced indices are arrays.
-/

namespace TensorGraph

open Tensor

/-! ## Templates -/

def invalidIndex : M α := fail .advancedIndexing "Invalid index type or slice for Subtensor"

variable (entry : Value)

def indexBound : M DType := do
  let signed d ok := if ok && d.isSigned then return d else invalidIndex
  let plain := failType "Python scalar in idx_list.Please report this error to theano-dev."
  match entry with
  | .var v =>
    match <- typeOf v with
    | .scalar d =>
      if d.isFloat then failType "Expected an integer"
      signed d true
    | .tensor d b _ =>
      if b.isEmpty && (d == .float32 || d == .float64 || d.isComplex) then failType "Expected an integer"
      signed d b.isEmpty
    | _ => invalidIndex
  | .type (.scalar d) => signed d true
  | .type (.tensor d b _) => signed d b.isEmpty
  | .int _ | .bool _ => plain
  | .number d _ => if d.isInteger then plain else invalidIndex
  | _ => invalidIndex

def indexEntry : M IndexEntry := do
  let .slice a b c := entry | return .pos (<- indexBound entry)
  let bound x := do if x.isNull then return none else return some (<- indexBound x)
  return .slice (<- bound a) (<- bound (if b.isKey lastIndex then .null else b)) (<- bound c)

def IndexEntry.types : IndexEntry -> List DType
  | .pos d => [d]
  | .slice a b c => [a, b, c].filterMap id

def indexOperands (l : Values) : Values :=
  (l.flatMap fun x => if let .slice a b c := x then [a, b, c] else [x]).filter (·.var?.isSome)

def templateOperands (ndim : Nat) (idx : List IndexEntry) (args : Values) : M Vars := do
  let vs <- args.mapM fun a => do
    match a with
    | .var v => if (<- typeOf v).isTensor then scalarFromTensor v else asScalar a
    | a => asScalar a
  if idx.length > ndim then fail .index "too many indices for array"
  let types := idx.flatMap IndexEntry.types
  if vs.length != types.length then
    fail .index
      s!"('Not enough inputs to fill in the Subtensor template.', {tupleText (<- vs.mapM varText)}, [{commaList (idx.map indexEntryText)}])"
  for (v, d) in vs.zip types do
    let t <- typeOf v
    if t != .scalar d then
      failType ("Wrong type for Subtensor template. Expected " ++ t.text ++ ", got " ++ (Ty.scalar d).text ++ ".")
  pure vs

def sliceStretches (start stop : Option VarId) : M Bool := do
  let known v ok := do
    let some v := v | return true
    match <- valueOf? v with
    | none => return false
    | some .null => return true
    | some c => ok c
  if !(<- known start (Slice.isNum · 0)) then return false
  known stop (Slice.holds .gt · 0)

variable (o : Op) (idx : List IndexEntry) (args : Values) (x : Value) (v : Value) (set : Bool) (ins : Vars) (vals : Values)

def subtensorNode : M NodeId := do
  let x :: rest := args | badType
  let v <- asTensor x
  let b <- bcastOf v
  let vs <- templateOperands b.length idx rest
  let items := pairIndices idx vs
  let padded := items ++ .replicate (b.length - items.length) (IndexItem.slice none none none)
  let out <- (padded.zip b).filterMapM fun (p, bc) => do
    match p with
    | .pos _ => return none
    | .slice s e _ => if bc then return some (<- sliceStretches s e) else return some false
  newNode (.subtensor idx) (v :: vs) [.ofTensor (<- dtypeOf v) out]

/-! ## Selections from values -/

def selOf : M Sel := do
  let bound x := do
    if x.isNull then return none
    if let some (d, e) := x.elem? then if d.isDiscrete then return some e.toInt
    if let .array a := x then if a.ndim == 0 && a.dtype.isInteger then return some a.item.toInt
    badType
  match v with
  | .null => pure .newAxis
  | .ellipsis => pure .rest
  | .slice a b c => return .range (<- bound a) (<- bound b) (<- bound c)
  | .array a =>
    if a.dtype == .bool then return .mask a
    else if a.dtype.isInteger then
      if a.ndim == 0 then return .pos a.item.toInt else return .index a
    else badIndex
  | .bool b => return .mask (.ofElem .bool (.int (if b then 1 else 0)))
  | .list _ | .tuple _ =>
    let some a <- numericArray? v | badIndex
    if a.dtype == .bool then return .mask a
    else if a.size == 0 then return .index (a.cast .int64)
    else if a.dtype.isInteger then return .index a
    else badIndex
  | v =>
    match v.elem? with
    | some (.bool, e) => return .mask (.ofElem .bool e)
    | some (d, e) => if d.isInteger then return .pos e.toInt else badIndex
    | none => badIndex

def fillTemplate : M (List Sel) := do
  let take o l := if o.isSome then (l.headD .null, l.drop 1) else (.null, l)
  let (vs, _) := idx.foldl (fun (vs, l) e => match e with
    | .pos _ => (vs ++ [l.headD .null], l.drop 1)
    | .slice a b c =>
      let (x, l) := take a l
      let (y, l) := take b l
      let (z, l) := take c l
      (vs ++ [.slice x y z], l)) ([], vals)
  vs.mapM selOf

def subtensorPerform : M Value := do
  let a <- arrayOf x
  return (<- a.select (<- fillTemplate idx vals))

def subtensorShape (n : NodeId) (xshape : Values) : M Values := do
  let ins <- insOf n
  check (xshape.length == (<- ndimOf (ins.headD default)))
  let items := pairIndices idx (ins.drop 1)
  let padded := items ++ .replicate (xshape.length - idx.length) (IndexItem.slice none none none)
  let out <- (padded.zip xshape).filterMapM fun (p, len) => do
    match p with
    | .pos _ => return none
    | .slice none none none => return some len
    | .slice a b c =>
      let v o := .ofOption .var o
      let (s, _) <- canonicalSlice (v a) (v b) (v c) len
      if <- Slice.isNum s.step 1 then return some (<- operate .sub s.stop s.start)
      let gap <- operate .sub (<- operate .sub s.stop s.start) 1
      return some (<- operate .add (<- operate .floorDiv gap s.step) 1)
  check (out.length == (<- ndimOf (<- outOf n)))
  pure out

def disconnectedList (k : Nat) : M Vars := (List.range k).mapM fun _ => disconnectedVar

def subtensorGrad (gz : VarId) : M Vars := do
  let x :: rest := ins | pure []
  let first <- if (<- dtypeOf x).isDiscrete then do cast (<- zerosLike x) (<- floatX)
    else apply1 (.incSubtensor idx false false []) ([<- zerosLike x, gz] ++ rest)
  return first :: (<- disconnectedList rest.length)

/-! ## Writing to a part -/

def incSubtensorNode : M NodeId := do
  let x :: y :: rest := args | badType
  let x <- asTensor x
  let y <- asTensor y
  let xt <- typeOf x
  if (<- ndimOf y) > (<- ndimOf x) then
    failValue s!"Trying to increment a {<- ndimOf x}-dimensional subtensor with a {<- ndimOf y}-dimensional value."
  newNode o (x :: y :: (<- templateOperands (<- ndimOf x) idx rest)) [xt]

/-- Writes to an array, or to a copy of it. -/
def writeOver (inplace : Bool) (x y : Value) (write : NdArray -> NdArray -> M NdArray) : M Value := do
  let a <- arrayOf x
  let r <- write a (<- arrayOf y)
  return .array { r with region := if inplace then a.region else 0 }

def incSubtensorPerform (inplace set : Bool) (x y : Value) (vals : Values) : M Value :=
  writeOver inplace x y fun a b => do
    let sels <- fillTemplate idx vals
    let new <- if set then pure b else do
      let part <- a.select sels
      let s <- applyPromoted .add none [part, b]
      if part.shape.isEmpty then pure s
      else
        if s.shape != part.shape then badValue
        if s.dtype.kindRank > a.dtype.kindRank then badType
        pure (s.cast a.dtype)
    a.assign sels new

def sumStretched (x gx : VarId) : M VarId := do
  let gb <- bcastOf gx
  let xb <- bcastOf x
  if gb == xb then return gx
  let added := gb.length - xb.length
  let broad := .replicate added true ++ xb
  check (gb.countP id < broad.countP id)
  let axes := ((gb.zip broad).zipIdx.filter fun ((g, b), _) => !g && b).map fun (_, i) => (i : Int)
  let s <- sum gx (some axes) none true
  let s <- if added == 0 then pure s else do
    check (((<- bcastOf s).take added).all id)
    shuffleDims s (.range' added (gb.length - added))
  check ((<- bcastOf s) == xb)
  pure s

def incSubtensor : Nat -> Value -> Value -> Bool -> Bool -> Bool -> M Value
  | 0, _, _, _, _, _ => outOfFuel
  | fuel + 1, x, y, inplace, set, tolerate => do
    let x <- asTensor x
    let y <- asTensor y
    let xn <- ndimOf x
    let yn <- ndimOf y
    if yn > xn then failType s!"Trying to increment a {xn}-dimensional subtensor with a {yn}-dimensional value."
    let offset := xn - yn
    let xb <- bcastOf x
    let mut y := y
    for d in List.range yn do
      if xb.getD (d + offset) false && !((<- bcastOf y).getD d false) then y <- addBroadcast y [d]
    match <- made? x with
    | some (.subtensor idx, real :: rest) =>
      callOp (.incSubtensor idx inplace set (if tolerate then [(0, 1)] else [])) (real :: y :: valuesOf rest)
    | some (.advSubtensor1 _, [real, il]) => callOp (.advIncSubtensor1 inplace set) [real, y, il]
    | some (.advSubtensor, real :: il) =>
      if inplace then cannot "In place computation is not implemented"
      callOp (.advIncSubtensor false set) (real :: y :: valuesOf il)
    | some (.dimShuffle _ order _, [inner]) =>
      let mut places := .replicate xn .new
      for (p, i) in order.zipIdx do
        if let .dim d := p then
          if d >= offset then places := places.set (d - offset) (.dim i)
      let r <- incSubtensor fuel inner (<- dimshuffle y places) inplace set tolerate
      if let .var v := r then return (<- dimshuffle v order) else return r
    | some (.reshape .., inner :: _) =>
      let flat <- if yn > 0 then do
          applyTo (.reshape (<- ndimOf inner) none) [<- alloc y (<- dimsOf x), <- shape inner]
        else pure y
      incSubtensor fuel inner flat inplace set tolerate
    | _ => failType "x must be the result of a subtensor operation"

def setSubtensor (x y : Value) : M VarId := do
  let .var v <- incSubtensor 20 x y false true false | badType
  pure v

def incSubtensorGrad (g : VarId) : M Vars := do
  let x :: y :: rest := ins | pure []
  let part := apply1 (.subtensor idx) (g :: rest)
  writeGrad x y rest part (if set then do setSubtensor (<- part) (<- zerosLike y) else pure g)
where
  writeGrad (x y : VarId) (rest : Vars) (part left : M VarId) : M Vars := do
    let d <- dtypeOf x
    let (gx, gy) <- if d.isDiscrete then do
        pure (<- floatZerosLike x, <- if (<- dtypeOf y).isDiscrete then floatZerosLike y else zerosLike y)
      else if d.isComplex then cannot "No support for complex grad yet"
      else do pure (<- left, <- sumStretched y (<- part))
    return gx :: gy :: (<- disconnectedList rest.length)

/-! ## One vector of positions -/

def vectorIndex (x i : Value) : M (VarId × VarId) := do
  let x <- asTensor x
  let i <- asTensor i
  if !(<- dtypeOf i).isInteger then failType "index must be integers"
  if (<- ndimOf i) != 1 then failType "index must be vector"
  if (<- ndimOf x) == 0 then failType "cannot index into a scalar"
  pure (x, i)

def advSubtensor1Node : M NodeId := do
  let [x, i] := args | badType
  let (xv, iv) <- vectorIndex x i
  if !(x matches .var _ | .array _ | .number ..) then noAttr
  newNode o [xv, iv] [.ofTensor (<- dtypeOf xv) ((<- bcastOf iv).take 1 ++ (<- bcastOf xv).drop 1)]

def advSubtensor1Perform (x i : Value) : M Value := do
  let a <- arrayOf x
  let ix <- arrayOf i
  let ii := ix.map (fun e => .int (DType.wrap .int64 e.toInt)) .int64
  if ix.dtype == .uint64 && (ix.data.toList.zip ii.data.toList).any (fun (p, q) => !p.eq q) then
    fail .index s!"('index contains values that are bigger than the maximum array size on this system.', {ix.expression})"
  a.select [.index ii]

def zerosForPart (x : VarId) : M VarId := do
  let d <- dtypeOf x
  if d.isComplex then cannot "No support for complex grad yet"
  if d.isDiscrete then floatZerosLike x else zerosLike x

def advSubtensor1Grad (sparseGrad : Bool) (x il gz : VarId) : M Vars := do
  let first <- if sparseGrad then do
      let n <- ndimOf x
      if n != 2 then
        failType s!"AdvancedSubtensor1: you can't take the sparse grad from a tensor with ndim != 2. ndim is {n}"
      apply1 (.sparse .constructFromList) [x, gz, il]
    else do apply1 (.advIncSubtensor1 false false) [<- zerosForPart x, gz, il]
  pure [first, <- disconnectedVar]

def advIncSubtensor1Node (args : Values) : M NodeId := do
  let [x, y, i] := args | badType
  let xv <- asTensor x
  let yv <- asTensor y
  let (xv, iv) <- vectorIndex xv i
  if (<- ndimOf yv) > (<- ndimOf xv) then
    failType ("cannot " ++ (if set then "set" else "increment") ++ " x subtensor with ndim="
      ++ toString (<- ndimOf xv) ++ " by y with ndim=" ++ toString (<- ndimOf yv) ++ ".")
  newNode o [xv, yv, iv] [<- typeOf xv]

def writeSelected (inplace set : Bool) (x y : Value) (sels : List Sel) : M Value :=
  writeOver inplace x y fun a b => do
    if set then return <- a.assign sels b
    if b.dtype.kindRank > a.dtype.kindRank then badType
    a.addAt sels b

def advIncSubtensor1Grad (x y il g : VarId) : M Vars :=
  incSubtensorGrad.writeGrad x y [il] (apply1 (.advSubtensor1 false) [g, il])
    (if set then do apply1 (.advIncSubtensor1 false true) [g, <- zerosLike y, il] else pure g)

/-! ## General advanced indexing -/

def asIntOrNone : M VarId := do
  if x.isNull then return ⟨0⟩
  if let .var v := x then
    if (<- typeOf v) == .noneType && (<- isConstant v) then return v
  let v <- asTensor x none (some 0)
  if !(<- dtypeOf v).isInteger then failType "index must be integers"
  pure v

def makeSliceNode : M NodeId := do
  if args.isEmpty || args.length > 3 then badType
  let three <- if let .slice a b c :: more := args then do
      check (more.all Value.isNull)
      pure [a, b, c]
    else pure (args ++ .replicate (3 - args.length) .null)
  newNode .makeSlice (<- three.mapM asIntOrNone) [.slice]

def asIndexVariable : M VarId := do
  match x with
  | .null => cloneVar ⟨0⟩
  | .slice .. => applyTo .makeSlice [x]
  | x =>
    if let .var v := x then
      if (<- typeOf v) matches .slice | .noneType then return v
    let v <- asTensor x
    if !(<- dtypeOf v).isDiscrete then failType "index must be integers or a boolean mask"
    pure v

def shapeIndexOf (v : VarId) (shape : Option (List (Option Value))) : M ShapeIndex := do
  match <- typeOf v with
  | .noneType => pure .newAxis
  | .slice =>
    let some (_, [a, b, c]) <- made? v | return .slice .null .null .null
    return .slice a b c
  | .tensor .. =>
    let some s := shape | return .tensor (<- stretchShape v)
    return .tensor s
  | _ => return .other v

def advSubtensorNode : M NodeId := do
  let x :: rest := args | badType
  let v <- asTensor x
  let idx <- rest.mapM asIndexVariable
  let out <- withoutTests do
    let fake <- (<- bcastOf v).mapM fun b => do
      if b then return .int 1 else return .var (<- newVar (.ofTensor .int64 []))
    let length := (<- newVar (.ofTensor .int64 []))
    let places <- idx.flatMapM fun i => do
      match <- typeOf i with
      | .tensor .bool b _ =>
        if b.isEmpty then return [.tensor []]
        else return .replicate b.length (.tensor [some length])
      | .tensor _ b _ => return [.tensor (b.map fun s => if s then none else some length)]
      | _ => return [<- shapeIndexOf i none]
    return (<- indexedShape fake places).map (· matches none | some (.int 1))
  newNode .advSubtensor (v :: idx) [.ofTensor (<- dtypeOf v) out]

def knownLengths (l : List (Option Value)) : M Values := l.mapM fun
  | some v => pure v
  | none => indexConstant 1

def advSubtensorShape (n : NodeId) (shapes : Shapes) : M Values := do
  let idx := (<- insOf n).drop 1
  for i in idx do
    if (<- typeOf i).dtype? == some .bool then fail .shape "Shape inference for boolean indices is not implemented"
  let places <- (idx.zip (shapes.drop 1)).mapM fun (i, s) => do
    shapeIndexOf i (<- s.mapM fun l => l.mapM Slice.unlessOne)
  let some (some xs) := shapes.head? | badType
  let r <- indexedShape xs places
  check (r.length == (<- ndimOf (<- outOf n)))
  knownLengths r

def checkMasks (shape : List Nat) (idx : Values) : M Unit := do
  let mut seen := 0
  for i in idx do
    if let .array a := i then
      if a.dtype == .bool then
        for (m, k) in a.shape.zipIdx do
          let have_ := shape.getD (seen + k) 0
          if m != have_ then
            fail .index ("boolean index did not match indexed array along dimension " ++ toString (seen + k)
              ++ "; dimension is " ++ toString have_ ++ " but corresponding boolean dimension is " ++ toString m)
        seen := seen + a.ndim
        continue
    if !i.isNull then seen := seen + 1

def advSubtensorPerform (idx : Values) : M Value := do
  let a <- arrayOf x
  checkMasks a.shape idx
  let r <- a.select (<- idx.mapM selOf)
  return .array { r with region := 0 }

def advSubtensorGrad (gz : VarId) : M Vars := do
  let x :: rest := ins | pure []
  return (<- apply1 (.advIncSubtensor false false) ([<- zerosForPart x, gz] ++ rest)) :: (<- disconnectedList rest.length)

def advIncSubtensorNode : M NodeId := do
  let x :: y :: rest := args | badType
  let x <- asTensor x
  let y <- asTensor y
  let idx <- rest.mapM fun a => if a matches .var _ | .tuple _ | .list _ then asVariable a else noAttr
  newNode o (x :: y :: idx) [.ofTensor (<- dtypeOf x) (<- bcastOf x)]

def advIncSubtensorGrad (g : VarId) : M Vars := do
  let x :: y :: rest := ins | pure []
  incSubtensorGrad.writeGrad x y rest (apply1 .advSubtensor (g :: rest))
    (if set then do apply1 (.advIncSubtensor false true) ([g, <- zerosLike y] ++ rest) else pure g)

/-! ## Taking positions along an axis -/

def sliceVector (v : VarId) (lo hi : Option Int) : M VarId := do
  let c o := do
    let some i := o | return .null
    indexConstant i
  let entries := [Value.slice (<- c lo) (<- c hi) .null]
  applyTo (.subtensor (<- entries.mapM indexEntry)) (v :: indexOperands entries)

def flattenTo (ndim : Int := 1) : M VarId := do
  let v <- asTensor x
  let n <- ndimOf v
  if ndim < 1 || (ndim > 1 && ndim > n) then failValue s!"ndim {ndim} out of bound [1, {n + 1})"
  let k := ndim.toNat
  let firsts <- if k == 1 then pure [] else do
    let front <- sliceVector (<- shape v) none (some (ndim - 1))
    (List.range (k - 1)).mapM fun (i : Nat) => do return .var (<- atPos front i)
  let r <- applyTo (.reshape k none) [v, (<- asTensor (.tuple (firsts ++ [.int (-1)])))]
  let b <- bcastOf v
  addBroadcast r (((b.take (k - 1) ++ [(b.drop (k - 1)).all id]).zipIdx.filter (·.1)).map (·.2))

def takeFrom : Nat -> Value -> Value -> Value -> String -> M VarId
  | 0, _, _, _, _ => outOfFuel
  | fuel + 1, a, indices, axis, mode => do
    let a <- asTensor a
    let indices <- asTensor indices
    let n <- ndimOf a
    let m <- ndimOf indices
    let ax := axis.int?
    let at_ := ax.map (placeOf n)
    if m == 1 then
      let extent : M VarId := do
        let some k := ax | failValue "('You cannot drop a non-broadcastable dimension.', ([False], ['x']))"
        shapeAt a k
      let indices <- match mode with
        | "clip" => do clip indices 0 (<- sub (<- extent) 1)
        | "wrap" => do modChecked indices (<- extent)
        | _ => pure indices
      let pick a := apply1 (.advSubtensor1 false) [a, indices]
      match at_ with
      | none => pick (<- flattenTo a)
      | some k =>
        if ax == some 0 then return <- pick a
        check (k >= 0)
        if k >= n then badIndex
        let dims := ((List.range n).set 0 k.toNat).set k.toNat 0
        shuffleDims (<- pick (<- shuffleDims a dims)) dims
    else
      let ishape <- shape indices
      let part lo hi : M Value := do sliceVector (<- shape a) lo hi
      let shp <- match at_ with
        | none => pure (.var ishape)
        | some k => do
          let before <- if ax == some 0 then pure [] else do pure [<- part none (some k)]
          join 0 (before ++ [.var ishape, <- part (some (k + 1)) none])
      let flat <- takeFrom fuel a (<- flattenTo indices) axis mode
      applyTo (.reshape (if ax.isNone then m else n + m - 1) none) [flat, shp]

/-! ## The index sign -/

def includesBool : Nat -> Value -> M Bool
  | 0, _ => outOfFuel
  | fuel + 1, v => do
    match v with
    | .bool _ => pure true
    | .number d _ => return d == .bool
    | .array a => if a.dtype != .bool && a.shape.isEmpty then badType else return a.dtype == .bool
    | .var x => return (<- typeOf x).dtype? == some .bool
    | .tuple xs => xs.anyM (includesBool fuel)
    | .list c | .set c => do (<- cellItems c).anyM (includesBool fuel)
    | _ => pure false

def isFullSlice : Bool := v matches .slice .null .null .null

def getItem : Nat -> VarId -> Value -> M Value
  | 0, _, _ => outOfFuel
  | fuel + 1, v, arg => do
    let args <- match arg with
      | .tuple xs => pure xs
      | .list c => do
        let xs <- cellItems c
        pure (if xs.any (· matches .slice ..) then xs else [arg])
      | x => pure [x]
    let ndim <- ndimOf v
    let mut count := 0
    let mut rests := []
    for (a, i) in args.zipIdx do
      match a with
      | .null => pure ()
      | .ellipsis => rests := rests ++ [i]
      | a =>
        let maskDims <- match a with
          | .array m => pure (if m.dtype == .bool then some m.ndim else none)
          | .var x => do
            let t <- typeOf x
            pure (if t.dtype? == some .bool then some (t.ndim?.getD 0) else none)
          | _ => pure none
        match maskDims with
        | some n => count := count + n
        | none =>
          if <- includesBool 40 a then
            failType ("TensorType does not support Python bools for indexing, such as tensor[[True, False]]. "
              ++ "To use a boolean mask, convert the mask to a NumPy array first, e.g., "
              ++ "tensor[numpy.array([True, False])].")
          count := count + 1
    if ndim < count then fail .index "too many indices for array"
    let args <- match rests with
      | [] => pure args
      | [i] => pure (args.take i ++ .replicate (ndim - count) .whole ++ args.drop (i + 1))
      | _ => fail .index "an index can only have a single Ellipsis (`...`)"
    let args <- args.mapM fun a => do
      let empty <- match a with
        | .tuple [] => pure (some [0])
        | .list c => do pure (if (<- cellItems c).isEmpty then some [0] else none)
        | .array x => pure (if x.size == 0 then some x.shape else none)
        | _ => pure none
      asIndexConstant (if let some s := empty then .array (.zeros .int64 s) else a)
    -- the first place that is no basic index, and whether it is the only one
    let mut advanced := false
    let mut axis := none
    for (a, i) in args.zipIdx do
      if <- includesBool 40 a then
        advanced := true
        axis := none
        break
      if a.isNull then continue
      try let _ <- indexEntry a
      catch e =>
        if !e.isA .advancedIndexing then throw e
        axis := if advanced then none else some i
        if advanced then break
        advanced := true
    if advanced then
      if let some k := axis then
        let isTensor <- if let some (.var x) := args[k]? then do pure (<- typeOf x).isTensor else pure false
        if (args.take k).all isFullSlice && (args.drop (k + 1)).all isFullSlice && isTensor then
          return <- takeFrom 3 v (args.getD k .null) k "raise"
      callOp .advSubtensor (v :: args)
    else if args.any Value.isNull then
      let (places, _) := args.foldl (fun (ps, k) a =>
        if a.isNull then (ps ++ [.new], k) else (ps ++ [.dim k], k + 1)) ([], 0)
      let newArgs := args.map fun a => if a.isNull then .whole else a
      let shown := "[" ++ commaList (places.map fun
        | .dim i => toString i
        | .new => "'x'") ++ "]"
      let view <- applyTo (<- dimShuffleOp (<- bcastOf v) places shown) [v]
      if newArgs.all isFullSlice then return view
      getItem fuel view (.tuple newArgs)
    else
      callOp (.subtensor (<- args.mapM indexEntry)) (v :: indexOperands args)

def iterate : M Values := do
  match v with
  | .tuple _ | .list _ | .set _ | .orderedSet _ | .dict _ => itemsOf v
  | .str s => return s.toList.map (·.toString)
  | .array a =>
    let n :: rest := a.shape | badType
    let k := shapeSize rest
    return (List.range n).map fun i =>
      (⟨a.dtype, rest, a.data.extract (i * k) ((i + 1) * k), a.region⟩ : NdArray).toValue
  | .objects _ xs => pure xs
  | .var x =>
    if (<- typeOf x).isTensor then
      let n <- try vectorLength v
        catch e =>
          if e.isA .type then
            failType "TensorType does not support iteration. Maybe you are using builtins.sum instead of theano.tensor.sum? (Maybe .max?)"
          else throw e
      (List.range n).mapM fun (i : Nat) => getItem 40 x i
    else if (<- typeOf x).isSparse then SparseExpr.noVector
    else badType
  | .record _ | .pass _ | .function _ | .database _ => itemsOf (<- callMethod v "__iter__" [])
  | _ => badType

/-! ## Elements of values -/

def elementAt (xs : Values) (i : Int) : M Value := do
  let k := placeOf xs.length i
  if k < 0 then badIndex
  let some v := xs[k.toNat]? | badIndex
  pure v

def optionalInt : M (Option Int) := do if v.isNull then return none else return some (<- intArg v)

def sliceList (xs : List α) (a b c : Value) : M (List α) := do
  let (start, n, step) <- rangeOf xs.length (<- optionalInt a) (<- optionalInt b) (<- optionalInt c)
  return (List.range n).filterMap fun (i : Nat) => xs[(start + (i : Int) * step).toNat]?

def itemOf (v i : Value) : M Value := do
  let pick xs := do elementAt xs (<- intArg i)
  match v, i with
  | .var x, i =>
    if (<- typeOf x).isTensor then getItem 40 x i
    else callSign v "__getitem__" [i]
  | .tuple xs, .slice a b c => return .tuple (<- sliceList xs a b c)
  | .list l, .slice a b c => newList (<- sliceList (<- cellItems l) a b c)
  | .str s, .slice a b c => return String.ofList (<- sliceList s.toList a b c)
  | .tuple xs, _ | .objects _ xs, _ => pick xs
  | .list l, _ => pick (<- cellItems l)
  | .str s, _ => pick (s.toList.map (·.toString))
  | .dict c, k =>
    let some x := lookupKey k (<- cellPairs c) | badKey
    pure x
  | .array a, i =>
    let is := if let .tuple is := i then is else [i]
    return (<- a.select (<- is.mapM selOf)).toValue
  | .number .., _ => badIndex
  | v, i => callSign v "__getitem__" [i]

def isBasicIndex : M Bool := do
  if let .var x := v then return (<- typeOf x) matches .slice | .noneType
  return v matches .slice .. | .null

def indexedResultShape (shape indices : Value) (areShapes : Bool) : M Value := do
  let n <- vectorLength shape
  let dims <- if let some xs <- members? shape then pure xs
    else (List.range n).mapM fun (i : Nat) => itemOf shape i
  let idx <- (<- iterate indices).mapM fun x => do
    if <- isBasicIndex x then
      match x with
      | .slice a b c => return .slice a b c
      | .var v =>
        let some (.makeSlice, [a, b, c]) <- made? v | return .newAxis
        return .slice a b c
      | _ => return .newAxis
    else if areShapes then return .tensor ((<- iterate x).map some)
    else
      let .var v := x | noAttr
      return .tensor (<- stretchShape v)
  return .tuple (<- knownLengths (<- indexedShape dims idx))

def indexItems (idx : List IndexEntry) : Value :=
  let opt v := .ofOption .var v
  .tuple ((pairIndices idx (ins.drop 1)).map fun
    | .pos v => v
    | .slice a b c => .slice (opt a) (opt b) (opt c))

end TensorGraph
