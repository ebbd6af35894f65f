import TensorGraph.Print.Show
import TensorGraph.Rewrite.Rules.Reduce

/-! # Products that update, from sums of products -/

namespace TensorGraph.Rules

open Tensor

variable (g : GraphId) (n : NodeId)

def dot22Op : Op := .blas .dot22
def gemmOp (inplace : Bool := false) : Op := .blas (.gemm inplace)
def gemvOp (inplace : Bool := false) : Op := .blas (.gemv inplace)
def gerOp (inplace : Bool := false) : Op := .blas (.ger inplace)

def dotToDot22 : Offer := do
  let (.dot, [x, y]) <- readNode n | skip
  let d <- dtypeOf y
  if d != (<- dtypeOf x) || !(d.isFloat || d.isComplex) then return .none
  let product x y := apply1 dot22Op [x, y]
  match <- ndimOf x, <- ndimOf y with
  | 2, 2 => propose (product x y)
  | 2, 1 => propose do dimshuffle (<- product x (<- dimshuffle y [.dim 0, .new])) [.dim 0]
  | 1, 2 => propose do dimshuffle (<- product (<- dimshuffle x [.new, .dim 0]) y) [.dim 1]
  | 1, 1 => propose do dimshuffle (<- product (<- dimshuffle x [.new, .dim 0]) (<- dimshuffle y [.dim 0, .new])) []
  | _, _ => skip

def exchange (old new : Op) : Rule := fun _ n => do
  if (<- opOf n) == old then propose (apply1 new (<- insOf n)) else skip

def gemmToGemv : Offer := do
  let (.blas (.gemm false), [z, a, x, y, b]) <- readNode n | skip
  let zb <- bcastOf z
  if zb == [true, false] && (<- bcastOf x) == zb then
    let r <- apply1 gemvOp [<- dimshuffle z [.dim 1], a, <- transpose y, <- dimshuffle x [.dim 1], b]
    propose (dimshuffle r [.new, .dim 0])
  else if zb == [false, true] && (<- bcastOf y) == zb then
    propose (dimshuffle (<- apply1 gemvOp [<- dimshuffle z [.dim 0], a, x, <- dimshuffle y [.dim 0], b]) [.dim 0, .new])
  else skip

def zeroProduct (x y : VarId) : M VarId := do zeros (<- dtypeOf x) [<- shapeAt x 0, <- shapeAt y 1]

def gemmToGer : Offer := do
  let (.blas (.gemm false), [z, a, x, y, b]) <- readNode n | skip
  if !((<- bcastOf x).getD 1 false && (<- bcastOf y).getD 0 false) then return .none
  let xv <- dimshuffle x [.dim 0]
  let yv <- dimshuffle y [.dim 1]
  if (<- valueOf? b).isNone then return .none
  if <- isNumber b 1 then propose (apply1 gerOp [z, a, xv, yv])
  else if <- isNumber b 0 then propose do apply1 gerOp [<- zeroProduct x y, a, xv, yv]
  else skip

def dot22ToGerOrGemv : Offer := do
  let (.blas .dot22, [x, y]) <- readNode n | skip
  let d <- dtypeOf x
  let one <- arrayConstant (.ofElem d (.one d))
  let zero <- arrayConstant (.ofElem d (.zero d))
  let byRow k := propose do
    let xv <- dimshuffle x [.dim 1]
    let z <- applyTo (.allocEmpty d) [<- k]
    dimshuffle (<- apply1 gemvOp [z, one, <- transpose y, xv, zero]) [.new, .dim 0]
  match <- bcastOf x, <- bcastOf y with
  | [_, true], [true, _] => propose do
    let xv <- dimshuffle x [.dim 0]
    let yv <- dimshuffle y [.dim 1]
    apply1 gerOp [<- zeroProduct x y, one, xv, yv]
  | [true, _], [_, true] => byRow (return 1)
  | [true, _], [false, false] => byRow (do return (<- shapeAt y 1))
  | [false, false], [_, true] => propose do
    let yv <- dimshuffle y [.dim 0]
    let z <- applyTo (.allocEmpty d) [<- shapeAt x 0]
    dimshuffle (<- apply1 gemvOp [z, one, x, yv, zero]) [.dim 0, .new]
  | _, _ => skip

/-! ## Sums of scaled matrices -/

def unshuffled : Nat -> VarId -> M VarId
  | 0, _ => outOfFuel
  | fuel + 1, v => do
    let some (.dimShuffle .., x :: _) <- made? v | pure v
    unshuffled fuel x

def asOneNumber (v : VarId) (d : Option DType := none) : M (Option VarId) := do
  let d <- d.elim floatX pure
  if !(<- bcastOf v).all id then return none
  let r <- unshuffled 10000 v
  let s <- if (<- bcastOf r).isEmpty then pure r else dimshuffle r []
  if !(<- dtypeOf s).isInteger then return some s
  if (<- commonType [<- dtypeOf r, d]) == d then return some (<- cast s d) else pure none

def isRealOfRank (k : Nat) (v : VarId) : M Bool := do
  let .tensor d bs _ <- typeOf v | pure false
  return d.isFloat && bs == .replicate k false

/-- A term of a sum: a scale and what it scales, or something that is not scaled further. -/
inductive Term
  | scaled (scale : Value) (v : VarId)
  | whole (v : Value)

def scaleIs (s : Value) (k : Float) : Bool :=
  s.plainNumber?.any fun n => match n.toFloat with
    | .ok f => f == k
    | .error _ => false

def scaleBy (s : Value) (v : VarId) : M Value := do
  if scaleIs s 1 then return v
  if scaleIs s (-1) && (<- dtypeOf v) != .bool then return <- neg v
  operate .mul s v

def sumTerms (g : GraphId) : Nat -> VarId -> Value -> Nat -> List Term -> M (List Term)
  | 0, _, _, _, _ => outOfFuel
  | fuel + 1, r, scale, most, acc => do
    let .tensor d bs _ <- typeOf r | return acc
    if !(bs.length == 1 || bs.length == 2) || !(d.isFloat || d.isComplex) then
      return acc ++ [.whole (<- scaleBy scale r)]
    let here := acc ++ [.scaled scale r]
    if most != 0 then if (<- clientsOf g r).length > most then return here
    let some (o, ins) <- made? r | return here
    if isPlain o .sub then
      let [a, b] := ins | return here
      let acc <- sumTerms g fuel a scale 1 acc
      return <- sumTerms g fuel b (<- unary .neg scale) 1 acc
    if isPlain o .add then return <- ins.foldlM (fun acc i => sumTerms g fuel i scale 1 acc) acc
    if isPlain o .neg then return <- sumTerms g fuel (ins.headD default) (<- unary .neg scale) 1 acc
    if !isPlain o .mul then return here
    let (scalars, others) <- ins.partitionM fun i => do return (<- bcastOf i).all id
    let scalars <- scalars.mapM fun i => do
      let j <- unshuffled 10000 i
      if (<- bcastOf j).isEmpty then return j else dimshuffle j []
    let (vectors, others) <- others.partitionM (isRealOfRank 1)
    let (matrices, others) <- others.partitionM (isRealOfRank 2)
    if !others.isEmpty then return here
    let deeper v := do
      let scale <- match scalars with
        | [] => pure scale
        | [s] => scaleBy scale s
        | s :: rest => do ew "mul" .mul ((<- scaleBy scale s) :: valuesOf rest)
      sumTerms g fuel v scale 1 acc
    match matrices, vectors with
    | [m], [] => deeper m
    | [], [v] => deeper v
    | [_], _ | _, [_] => unmet
    | _, _ => return here

def termsWithout (v : VarId) (l : List Term) : List Term :=
  l.filter fun
    | .scaled _ w => w != v
    | _ => true

def factorTerms : List Term -> M (List Term)
  | [] => pure []
  | .whole v :: rest => do return .whole v :: (<- factorTerms rest)
  | .scaled s v :: rest => do
    let same := rest.filterMap fun
      | .scaled k w => if w == v then some k else none
      | _ => none
    return .scaled (<- same.foldlM (operate .add) s) v :: (<- factorTerms (termsWithout v rest))
termination_by l => l.length
decreasing_by
  · exact Nat.lt_succ_self _
  · exact Nat.lt_succ_of_le (List.length_filter_le ..)

def updateFrom (beta : Value) (l : VarId) (alpha : Value) (m : VarId) : M (Option (VarId × VarId)) := do
  let gemm z x y := applyTo gemmOp [z, alpha, x, y, beta]
  match <- made? m with
  | some (.blas .dot22, [x, y]) => return some (<- gemm l x y, m)
  | some (.dimShuffle _ order _, [mm]) =>
    let some (.blas .dot22, [x, y]) <- made? mm | pure none
    let some places := [([.dim 0], [.dim 0, .new]), ([.dim 1], [.new, .dim 0]), ([], [.new, .new])].lookup order
      | return none
    return some (<- dimshuffle (<- gemm (<- dimshuffle l places) x y) order, mm)
  | _ => pure none

def updateOfPair (beta : Value) (l : VarId) (alpha : Value) (m : VarId) : M (Option (VarId × VarId)) := do
  if let some r <- updateFrom beta l alpha m then return some r else updateFrom alpha m beta l

def updateOfTerms (terms : List Term) : M (Option (VarId × VarId)) := do
  let items <- terms.filterMapM fun
    | .scaled s v => do
      let s <- asTensor s
      let d <- dtypeOf v
      if (<- commonType [<- dtypeOf s, d]) == d then return some (<- cast s d, v) else return none
    | .whole _ => return none
  for ((si, mi), i) in items.zipIdx do
    for ((sj, mj), j) in items.zipIdx.drop (i + 1) do
      if <- sameType mi mj then
        let some (update, product) <- updateOfPair si mi sj mj | pure ()
        let others <- ((items.eraseIdx j).eraseIdx i).mapM fun (s, m) => operate .mul s m
        return some (<- if others.isEmpty then pure update else ew "add" .add (others ++ [.var update]), product)
  pure none

def updateOfNode (g : GraphId) (n : NodeId) : M (Option (VarId × VarId)) := do
  let out <- outOf n
  let terms <- sumTerms g 10000 out (.float 1) 0 []
  if terms.length <= 1 then return none
  let some (r, product) <- updateOfTerms (<- factorTerms terms) | pure none
  return if <- sameType r out then some (r, product) else none

/-- What the search for updates counts. -/
structure UpdateCounts where
  rounds : Nat := 0
  replaced : Nat := 0
  kept : Nat := 0
  unmade : Nat := 0
  refused : Nat := 0
  tried : Bool := false

def startsSum (o : Op) : Bool := kindOf? o matches some .add | some .sub | some .neg | some .mul

def seekUpdates (g : GraphId) (q : Option FeatureId) :
    Nat -> Nodes -> UpdateCounts -> M UpdateCounts
  | _, [], c => pure c
  | 0, _, _ => outOfFuel
  | fuel + 1, n :: rest, c => do
    setCurrent q n
    if !startsSum (<- opOf n) || !(<- graph g).nodes.contains n then return <- seekUpdates g q fuel rest c
    let c := { c with tried := true }
    let found <- try
        pure (some (<- updateOfNode g n))
      catch e => if e.kind == .inconsistency then pure none else throw e
    match found with
    | none => seekUpdates g q fuel rest { c with unmade := c.unmade + 1 }
    | some none => seekUpdates g q fuel rest c
    | some (some (r, product)) =>
      let c <- try
          replaceAllValidateRemove g [(<- outOf n, r)] [.var product] "GemmOptimizer"
          pure { c with replaced := c.replaced + 1 }
        catch e =>
          if e.kind == .inconsistency then pure { c with refused := c.refused + 1 }
          else if e.kind == .replacementKept then pure { c with kept := c.kept + 1 }
          else throw e
      seekUpdates g q fuel (rest ++ (<- takeArrived q).reverse) c

def seekRounds (g : GraphId) (q : Option FeatureId) : Nat -> UpdateCounts -> M UpdateCounts
  | 0, _ => outOfFuel
  | fuel + 1, c => do
    let x <- graph g
    let order <- orderBetween x.inputs x.outputs
    let next <- seekUpdates g q 1000000 order.reverse { c with rounds := c.rounds + 1 }
    if next.replaced > c.replaced then seekRounds g q fuel next else pure next

def insertUpdates (p : PassId) (g : GraphId) : M PassReport := do
  let c <- withQueue g (some "GemmOptimizer") true false fun q => seekRounds g q 10000 {}
  let t <- timeOn g
  let time (b : Bool) := if b then .float 0 else 0
  let found := time (c.replaced + c.kept + c.refused > 0)
  return .tuple ([.pass p] ++ [c.rounds, c.replaced, c.kept, c.unmade, c.refused].map .ofNat
    ++ [time c.tried, found, found, .float 0, t, t, <- newDict (<- observerTimes g)])

def scaledDot22 : Offer := do
  let some ins <- inputsIf mulOp n | deny
  let some at_ := (<- ins.mapM fun v => do return (<- madeWith? v dot22Op).isSome).findIdx? id | deny
  let d := ins.getD at_ default
  let dt <- dtypeOf d
  let some [x, y] <- madeWith? d dot22Op | badValue
  let number v := asOneNumber v (some dt)
  let keeps v := do return (<- commonType [<- dtypeOf v, dt]) == dt
  let product a := do apply1 (.blas .dot22Scalar) [x, y, <- cast a dt]
  let scalars <- ins.mapM number
  let times p others := propose (ew "mul" .mul ((p :: others).map .var))
  if scalars.all (·.isNone) then
    let nested <- ins.mapM fun v => do
      let some below <- madeWith? v mulOp | return false
      return (<- below.mapM number).any (·.isSome)
    let some k := nested.findIdx? id | deny
    let below := (<- madeWith? (ins.getD k default) mulOp).getD []
    let good <- below.mapM fun v => do if (<- number v).isNone then return false else keeps v
    let some i := good.findIdx? id | deny
    let p <- product ((<- number (below.getD i default)).getD default)
    times p (((ins.eraseIdx (max at_ k)).eraseIdx (min at_ k)) ++ below.eraseIdx i)
  else
    let good <- (ins.zip scalars).zipIdx.mapM fun ((v, s), i) => do
      if i == at_ || s.isNone then return false else keeps v
    let some i := good.findIdx? id | deny
    let others := (ins.erase d).erase (ins.getD i default)
    let p <- product ((scalars.getD i none).getD default)
    if others.isEmpty then return .one p else times p others

/-! ## Other routines -/

def hasRoutines : M Bool := do return (<- settingText "blas__ldflags") != ""

def useLibrary (plain routine : Bool -> BlasOp) : Rule := fun _ n => do
  if !(<- hasRoutines) then return .none
  let d <- dtypeOf (<- outOf n)
  if d != .float32 && d != .float64 then return .none
  for inplace in [false, true] do
    if (<- opOf n) == .blas (plain inplace) then return <- propose (apply1 (.blas (routine inplace)) (<- insOf n))
  skip

def gemvOver : Offer := do
  let (.blas (.cGemv false), dest :: rest) <- readNode n | skip
  let dest <- if let some (.allocEmpty _, dims) := <- made? dest then
      if (<- clientsOf g dest).length > 1 then apply1 (.allocEmpty (<- dtypeOf dest)) dims else pure dest
    else pure dest
  propose (apply1 (.blas (.cGemv true)) (dest :: rest))

def printAlong : Offer := do
  let o <- opOf n
  if o == subOp || o == addOp then put (<- showValue {} n)
  skip

def blasRules : List LocalRule :=
  [ rule "local_dot_to_dot22" ["Dot"] dotToDot22,
    inplaceRule "local_inplace_gemm" [gemmOp] (exchange gemmOp (gemmOp true)),
    inplaceRule "local_inplace_gemv" [gemvOp] (exchange gemvOp (gemvOp true)),
    inplaceRule "local_inplace_ger" [gerOp] (exchange gerOp (gerOp true)),
    rule "local_gemm_to_gemv" [gemmOp] gemmToGemv,
    rule "local_gemm_to_ger" [gemmOp] gemmToGer,
    rule "local_dot22_to_ger_or_gemv" [dot22Op] dot22ToGerOrGemv,
    rule "local_dot22_to_dot22scalar" [mulOp] scaledDot22,
    rule "local_print_as_we_go_along" [subOp, addOp] printAlong ]

def blasLibraryRules : List LocalRule :=
  [ rule "use_c_ger" [gerOp, (gerOp true)] (useLibrary .ger .cGer),
    rule "make_c_ger_destructive" [.op (.blas (.cGer false))] (exchange (.blas (.cGer false)) (.blas (.cGer true))),
    rule "use_c_gemv" [gemvOp true, gemvOp] (useLibrary .gemv .cGemv),
    rule "make_c_gemv_destructive" [.op (.blas (.cGemv false))] gemvOver ]

def blasRoutineRules : List LocalRule :=
  [ rule "use_scipy_ger" [gerOp, (gerOp true)] (exchange gerOp (.blas (.scipyGer false))),
    rule "make_ger_destructive" [.op (.blas (.scipyGer false))]
      (exchange (.blas (.scipyGer false)) (.blas (.scipyGer true))) ]

end TensorGraph.Rules
