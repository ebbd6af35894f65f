import TensorGraph.Compile.Inputs
import TensorGraph.Rewrite.Shapes

/-! # Loops as operators -/

namespace TensorGraph

def loopAt (id : Nat) : M Loop := do return (<- get).loops.getD id default
def modifyLoop (id : Nat) (f : Loop -> Loop) : M Unit := modify fun s => { s with loops := s.loops.modify id f }

def loopOf? (n : NodeId) : M (Option (Nat × Loop)) := do
  let .scan id _ <- opOf n | pure none
  return some (id, <- loopAt id)

variable (l : Loop)

namespace Loop

def outputTypes : M (List Ty) := do
  let rows v := do
    match <- typeOf v with
    | .tensor d b _ => return .tensor d (false :: b) none
    | .scalar d => return .tensor d [false] none
    | .sparse _ d => return .tensor d [false, false, false] none
    | _ => noAttr
  let y := l.layout
  let firsts := (List.range y.outTaps.length).filterMap fun j =>
    if y.outTapCount j < y.nMitMotOuts then l.outputs[y.outTapCount j]? else none
  let begun := y.outTapCount firsts.length
  let kept := y.nMitSot + y.nSitSot + y.nNitSot
  let several <- firsts.mapM rows
  let one <- (LoopLayout.cut l.outputs begun kept).mapM rows
  let types := several ++ one ++ (<- (l.outputs.drop (begun + kept)).mapM typeOf)
  return if y.asWhile then types.dropLast else types

def same (a : Arena) (x y : Loop) : Bool :=
  x.layout == y.layout && x.truncate.isKey y.truncate && x.profile.isKey y.profile && x.destroys == y.destroys
    && x.inputs.length == y.inputs.length && x.outputs.length == y.outputs.length
    && (x.inputs.zip y.inputs).all (fun (i, j) => a.typeOf i == a.typeOf j)
    && a.equalComputations x.outputs y.outputs x.inputs y.inputs

end Loop

def newLoop : M Op := do
  let _ := (<- l.outputTypes)
  let mode <- if let .record m := <- findMode l.mode then cloneMode m [("allow_gc", l.allowGc)] ""
    else noAttr
  let a <- getArena
  for v in a.graphInputs l.outputs l.inputs do
    if !l.inputs.contains v && !a.isConstant v then fail .missingInput s!"ScanOp is missing an input: {<- varText v}"
  let loops := (<- get).loops
  let id := loops.size
  let cls := (loops.findIdx? fun x => x.same a l).elim id fun i => (loops.getD i default).cls
  modify fun s => { s with loops := s.loops.push { l with innerMode := mode, cls, compiled := none } }
  return .scan id cls

/-! ## Operands -/

variable (outer : VarId) (k : Nat) (inner : VarId)

def innerError : String := "When compiling the inner function of scan (the function called by scan in each of its iterations) "
  ++ "the following error has been encountered: The initial state ("

/-- How to make an initial state fit; the two messages spell one word differently. -/
def stateAdvice (both first : String) : String := "For example, if the inner function of scan returns a vector of size d and "
  ++ "scan uses the values of the previous time-step, then the initial state in scan should be a matrix of shape (1, d). The "
  ++ "first dimension of this matrix corresponds to the number of previous time-steps that scan uses in each of its "
  ++ "iterations. In order to solve this issue if the two " ++ both ++ " currently have the same dimensionality, you can "
  ++ "increase the dimensionality of the " ++ first ++ " in the initial state of scan by using dimshuffle or shape_padleft. "

def stateMismatch : M α := do
  let number v := do return (<- dtypeOf v).name ++ " and " ++ toString (<- ndimOf v) ++ " dimension(s)"
  failValue (innerError ++ "outputs_info in scan nomenclature)  " ++ (<- varText outer)
    ++ " (argument number " ++ toString k ++ s!") has dtype {<- number outer}"
    ++ ". The corresponding variable in the inner function of scan " ++ (<- varText inner) ++ " however has dtype "
    ++ (<- number inner) ++ ". This variable in the inner function of scan should have the same dtype and one fewer "
    ++ "dimension compared to its corresponding variable in the initial state (outputs_info in scan nomenclature). "
    ++ stateAdvice "variable" "varialbe")

def dtypeMismatch : M α := do
  failValue ("When compiling the inner function of scan the following error has been encountered: The initial state "
    ++ "(`outputs_info` in scan nomenclature) of variable " ++ (<- varText outer) ++ " (argument number " ++ toString k
    ++ ") has dtype " ++ (<- dtypeOf outer).name ++ ", while the result of the inner function (`fn`) has dtype "
    ++ (<- dtypeOf inner).name ++ ". This can happen if the inner function of scan results in an upcast or downcast.")

def ndimMismatch : M α := do
  failValue (innerError ++ "`outputs_info` in scan nomenclature) of variable "
    ++ (<- varText outer) ++ " (argument number " ++ toString k ++ ") has " ++ toString (<- ndimOf outer) ++ " dimension(s), "
    ++ "while the corresponding variable in the result of the inner function of scan (`fn`) has "
    ++ toString (<- ndimOf inner) ++ " dimension(s) (it should be one less than the initial state). "
    ++ stateAdvice "varialbe" "variable")

def checkSlices : M Unit := do
  let bs <- match (<- typeOf outer).bcast?, (<- typeOf inner).bcast? with
    | none, none => return
    | some a, some b => pure (a, b)
    | _, _ => noAttr
  let (a, b) := bs
  let size := min a.length b.length
  if size == 0 then return
  for ((x, y), n) in ((a.drop (a.length - size)).zip (b.drop (b.length - size))).zipIdx do
    if x != y then
      let spot (len : Nat) := toString ((n : Int) + size - len + 1)
      let shown t := if t then "True" else "False"
      failType ("The broadcast pattern of the output of scan (" ++ (<- typeOf outer).text ++ ") is inconsistent with the one "
        ++ "provided in `output_info` (" ++ (<- typeOf inner).text ++ "). The output on axis " ++ spot a.length ++ " is `"
        ++ shown x ++ "`, but it is `" ++ shown y ++ "` on axis " ++ spot b.length ++ " in `output_info`. This can happen if one "
        ++ "of the dimension is fixed to 1 in the input, while it is still variable in the output, or vice-verca. You have to "
        ++ "make them consistent, e.g. using theano.tensor.\x7bpatternbroadcast,unbroadcast,addbroadcast\x7d.")

def matchInner : M VarId := do
  let some d := (<- typeOf outer).dtype? | pure outer
  let want <- dtypeOf inner
  let v <- if d == want then pure outer else Tensor.cast outer want
  if (<- ndimOf v) == (<- ndimOf inner) then filterVariable (<- typeOf inner) v
  else filterVariable (.tensor want ((<- bcastOf outer).take 1 ++ (<- bcastOf inner)) none) v

def differsFrom (v : VarId) (d : DType) (ndim : Int) : M Bool := do
  return (<- dtypeOf v) != d || ((<- ndimOf v : Nat) : Int) != ndim

def checkedState (reads writes : Vars) : M VarId := do
  let v <- match reads with
    | x :: _ => matchInner outer x
    | [] => badIndex
  let d <- dtypeOf v
  let n := (<- ndimOf v : Nat)
  for x in reads do if <- differsFrom x d (n - 1) then stateMismatch v k x
  for x in writes do
    if (<- dtypeOf x) != d then dtypeMismatch v k x
    if ((<- ndimOf x : Nat) : Int) != n - 1 then ndimMismatch v k x
  pure v

def loopNode (o : Op) (id : Nat) (args : Values) : M NodeId := do
  let ins <- args.mapM asVariable
  let l <- loopAt id
  let y := l.layout
  let innerCount := (y.innerSeqs l.inputs).length + y.mitMotTaps.length + y.mitSotTaps.length
    + (y.innerSitSot l.inputs).length + (y.innerShared l.inputs).length + (y.innerOthers l.inputs).length
  check ((ins.length : Int) - (y.outerNitSot ins).length - 1 == innerCount)
  let steps <- asTensor (ins.headD default)
  let seqs <- ((y.innerSeqs l.inputs).zip (y.outerSeqs ins)).mapM fun (inner, outer) => do
    checkSlices outer inner
    matchInner outer inner
  let mut k := (y.outerSeqs ins).length
  let mut states := []
  let reads := LoopLayout.split (y.innerMitMot l.inputs) (y.mitMotTaps.map List.length)
  let writes := LoopLayout.split (y.innerMitMotOuts l.outputs) (y.mitMotOutTaps.map List.length)
  for ((outer, r), w) in ((y.outerMitMot ins).zip reads).zip writes do
    states := states ++ [<- checkedState outer k r w]
    k := k + 1
  k := (y.outerSeqs ins).length + (y.outerMitMot ins).length
  let reads := LoopLayout.split (y.innerMitSot l.inputs) (y.mitSotTaps.map List.length)
  for ((outer, r), w) in ((y.outerMitSot ins).zip reads).zip (y.innerMitSotOuts l.outputs) do
    states := states ++ [<- checkedState outer k r [w]]
    k := k + 1
  k := (y.outerSeqs ins).length + (y.outerMitMot ins).length + (y.outerMitSot ins).length
  for ((inner, outer), w) in ((y.innerSitSot l.inputs).zip (y.outerSitSot ins)).zip (y.innerSitSotOuts l.outputs) do
    let v <- matchInner outer inner
    states := states ++ [v]
    let n := (<- ndimOf v : Nat)
    if ((<- ndimOf inner : Nat) : Int) != n - 1 then stateMismatch v k inner
    if (<- dtypeOf w) != (<- dtypeOf v) then dtypeMismatch v k w
    if ((<- ndimOf w : Nat) : Int) != n - 1 then ndimMismatch v k w
    k := k + 1
  let mut shared := []
  for ((inner, w), outer) in ((y.innerShared l.inputs).zip (y.innerSharedOuts l.outputs)).zip (y.outerShared ins) do
    let v <- matchInner outer inner
    shared := shared ++ [v]
    if (<- typeOf v).dtype?.isSome then
      if (<- dtypeOf v) != (<- dtypeOf w) then dtypeMismatch v k w
      if (<- ndimOf v) != (<- ndimOf w) then ndimMismatch v k w
      if <- differsFrom inner (<- dtypeOf v) (<- ndimOf v : Nat) then stateMismatch v k inner
    k := k + 1
  let lengths <- (y.outerNitSot ins).mapM fun v => asTensor (.var v)
  let others <- ((y.innerOthers l.inputs).zip (y.outerOthers ins)).mapM fun (inner, outer) => do
    let v <- matchInner outer inner
    if (<- typeOf inner) != (<- typeOf v) then
      failValue s!"Argument {<- varText v} given to scan node does not match its correspondance {<- varText inner}"
    return v
  for v in y.outerNitSot ins do
    if !(<- dtypeOf v).isInteger || (<- ndimOf v) != 0 then
      failWith .value ["'For output %s you need to provide a scalar int !'", quoted (<- varText v)]
  let new := steps :: seqs ++ states ++ shared ++ lengths ++ others
  check (new.length == ins.length)
  newNode o new (<- l.outputTypes)

def applyLoop (ins : Vars) : M Vars := do applyAll (<- newLoop l) (valuesOf ins)

/-! ## A loop in parts -/

/-- The variables of a loop by kind. States with several taps have a list of inner variables each. -/
structure LoopParts where
  steps : VarId
  (outerSeqs innerSeqs : Vars)
  (mitMotTaps mitSotTaps : List (List Int))
  (innerMitMot innerMitSot : List Vars)
  (outerMitMot outerMitSot outerSitSot innerSitSot outerShared innerShared outerNitSot outerOthers : Vars)
  innerOthers : Vars
  outTaps : List (List Int)
  outerMitMotOuts : Vars
  innerMitMotOuts : List Vars
  (outerMitSotOuts innerMitSotOuts outerSitSotOuts innerSitSotOuts outerNitSotOuts innerNitSotOuts : Vars)
  (outerSharedOuts innerSharedOuts condition : Vars)
  loop : Loop

namespace LoopParts

def ofLoop (ins outs : Vars) : M LoopParts := do
  let (innerIns, innerOuts) <- reconstruct l.inputs l.outputs
  let y := l.layout
  return {
    steps := ins.headD default
    outerSeqs := y.outerSeqs ins
    innerSeqs := y.innerSeqs innerIns
    mitMotTaps := y.mitMotTaps
    mitSotTaps := y.mitSotTaps
    innerMitMot := LoopLayout.split (y.innerMitMot innerIns) (y.mitMotTaps.map List.length)
    innerMitSot := LoopLayout.split (y.innerMitSot innerIns) (y.mitSotTaps.map List.length)
    outerMitMot := y.outerMitMot ins
    outerMitSot := y.outerMitSot ins
    outerSitSot := y.outerSitSot ins
    innerSitSot := y.innerSitSot innerIns
    outerShared := y.outerShared ins
    innerShared := y.innerShared innerIns
    outerNitSot := y.outerNitSot ins
    outerOthers := y.outerOthers ins
    innerOthers := y.innerOthers innerIns
    outTaps := y.outTaps
    outerMitMotOuts := y.outerMitMotOuts outs
    innerMitMotOuts := LoopLayout.split (innerOuts.take y.nMitMotOuts) (y.outTaps.map List.length)
    outerMitSotOuts := y.outerMitSotOuts outs
    innerMitSotOuts := y.innerMitSotOuts innerOuts
    outerSitSotOuts := y.outerSitSotOuts outs
    innerSitSotOuts := y.innerSitSotOuts innerOuts
    outerNitSotOuts := y.outerNitSotOuts outs
    innerNitSotOuts := y.innerNitSotOuts innerOuts
    outerSharedOuts := y.outerSharedOuts outs
    innerSharedOuts := y.innerSharedOuts innerOuts
    condition := (y.condition? innerOuts).toList
    loop := l }

variable (p : LoopParts)

def innerInputs : Vars :=
  p.innerSeqs ++ p.innerMitMot.flatten ++ p.innerMitSot.flatten ++ p.innerSitSot ++ p.innerShared ++ p.innerOthers

def innerOutputs : Vars :=
  p.innerMitMotOuts.flatten ++ p.innerMitSotOuts ++ p.innerSitSotOuts ++ p.innerNitSotOuts ++ p.innerSharedOuts
    ++ p.condition

def outerInputs : Vars :=
  p.steps :: p.outerSeqs ++ p.outerMitMot ++ p.outerMitSot ++ p.outerSitSot ++ p.outerShared ++ p.outerNitSot
    ++ p.outerOthers

def outerOutputs : Vars :=
  p.outerMitMotOuts ++ p.outerMitSotOuts ++ p.outerSitSotOuts ++ p.outerNitSotOuts ++ p.outerSharedOuts

def layout : LoopLayout :=
  { nSeqs := p.outerSeqs.length
    taps := p.mitMotTaps ++ p.mitSotTaps ++ .replicate p.innerSitSot.length [-1]
    nMitMot := p.outerMitMot.length
    nMitMotOuts := (p.outTaps.map List.length).foldl (· + ·) 0
    outTaps := p.outTaps
    nMitSot := p.outerMitSot.length
    nSitSot := p.outerSitSot.length
    nShared := p.outerShared.length
    nNitSot := p.outerNitSot.length
    asWhile := p.loop.layout.asWhile }

def toLoop (innerOutputs : Vars) : Loop :=
  { p.loop with inputs := p.innerInputs, outputs := innerOutputs, layout := p.layout, strict := false, extras := [] }

end LoopParts

/-! ## The shapes of what a loop computes -/

/-- What is known about variables: those that may be used, those that may not, and equivalents of some of the
latter. -/
structure Validator where
  valid : Std.HashSet VarId := {}
  invalid : Std.HashSet VarId := {}
  equivalents : VarMap VarId := {}

namespace Validator

def start (valid invalid : Vars) (equivalents : VarPairs) : Validator :=
  { valid := .ofList (valid ++ equivalents.map (·.2)), invalid := .ofList (invalid ++ equivalents.map (·.1)),
    equivalents := .ofList equivalents }

variable (x : Validator) (v : VarId)

def isKnown : Bool := x.valid.contains v || x.invalid.contains v

def verdict : Option (VarId × Bool) :=
  if x.valid.contains v then some (v, true) else (x.equivalents[v]?).map (·, false)

def note (r : Option (VarId × Bool)) : Validator := match r with
  | none => { x with invalid := x.invalid.insert v }
  | some (_, true) => { x with valid := x.valid.insert v }
  | some (w, _) => { valid := x.valid.insert w, invalid := x.invalid.insert v, equivalents := x.equivalents.insert v w }

def standIn : VarId := ((x.verdict v).map (·.1)).getD v

def judge (n : NodeId) (ins : Vars) : M (Option (VarId × Bool)) := do
  if ins.any fun i => (x.verdict i).isNone then return none
  if ins.all x.valid.contains then return some (v, true)
  return some ((<- outsOf (<- cloneWithInputs n (ins.map x.standIn))).getD (<- varInfo v).index default, false)

def walk : Nat -> VarId -> Validator -> M Validator
  | 0, _, _ => outOfFuel
  | fuel + 1, v, x => do
    if x.isKnown v then return x
    let some n <- ownerOf v | return x.note v (some (v, true))
    let ins <- insOf n
    let x <- ins.reverse.foldlM (fun x i => walk fuel i x) x
    return x.note v (<- x.judge v n ins)

def check : M (Option (VarId × Bool) × Validator) := do
  let x <- walk ((<- getArena).nodes.size + 2) v x
  pure (x.verdict v, x)

end Validator

def learnShapes (f : FeatureId) : Nat -> Vars -> M Unit
  | 0, _ => outOfFuel
  | _, [] => return
  | fuel + 1, v :: rest => do
    if <- Shapes.knows f v then return <- learnShapes f fuel rest
    match <- ownerOf v with
    | none =>
      Shapes.ensureKnown f v
      learnShapes f fuel rest
    | some n =>
      let unknown <- (<- insOf n).filterM fun x => do return !(<- Shapes.knows f x)
      if unknown.isEmpty then
        Shapes.onImport f n
        learnShapes f fuel rest
      else learnShapes f fuel (unknown ++ v :: rest)

def shapesBetween (outs ins : Vars) (shapes : Shapes) : M (List (Option Vars)) := do
  for (v, s) in ins.zip shapes do
    let some l := s | pure ()
    check (some l.length == (<- typeOf v).ndim?)
  let g <- makeGraph [] [] false
  let f <- newFeature (.shapes {})
  Shapes.attach g f
  for (v, s) in ins.zip shapes do Shapes.setShape f v s
  outs.mapM fun o => do
    learnShapes f (4 * (<- getArena).weight + 100) [o]
    Shapes.shapeOf f o

variable (id : Nat) (n : NodeId)

def loopShapes (shapes : Shapes) : M Shapes := do
  let l <- loopAt id
  let y := l.layout
  let ins <- insOf n
  let outs <- outsOf n
  for (v, s) in ins.zip shapes do
    let some k := s | pure ()
    check (some k.length == (<- typeOf v).ndim?)
  let rest s : M (Option Values) := if let some k := s then pure (some (k.drop 1))
    else badType
  let seqs <- (y.outerSeqs shapes).mapM rest
  let states <- ((y.outerStates shapes).zip y.taps).mapM fun (s, taps) => do
    let r <- rest s
    return taps.map fun _ => r
  let inner := seqs ++ states.flatten ++ y.outerShared shapes ++ y.outerOthers shapes
  check (inner.length == l.inputs.length)
  let equivalents := (y.innerOthers l.inputs).zip (y.outerOthers ins)
  let results := if y.asWhile then l.outputs.dropLast else l.outputs
  let found <- shapesBetween results l.inputs inner
  let mut checker := Validator.start [] l.inputs equivalents
  let mut kept : Shapes := []
  let firstKept := y.nMitMotOuts + y.nMitSot + y.nSitSot
  for ((len, r), s) in ((y.outerNitSot ins).zip (y.outerNitSotOuts outs)).zip (found.drop firstKept) do
    match s with
    | none => kept := kept ++ [none]
    | some dims =>
      check ((<- ndimOf r) == 1 + dims.length)
      let mut lengths : Values := [len]
      for (d, i) in dims.zipIdx do
        let (verdict, next) <- checker.check d
        checker := next
        match verdict with
        | some (v, _) => lengths := lengths ++ [.var v]
        | none =>
          if (<- bcastOf r).getD (i + 1) false then lengths := lengths ++ [1]
          else lengths := lengths ++ [.var (<- apply1 (.shapeI (i + 1)) [r])]
      kept := kept ++ [some lengths]
  let all := y.outerStates shapes ++ kept ++ y.outerShared shapes
  if !y.asWhile then return all
  (outs.zip all).mapM fun (o, s) => do
    let some k := s | pure none
    return some ((<- apply1 (.shapeI 0) [o]) :: k.drop 1)

def loopConnections : M Links := do
  let l <- loopAt id
  let inner <- connectionsBetween l.inputs l.outputs
  return l.layout.connections l.inputs.length (<- insOf n).length (<- outsOf n).length inner

end TensorGraph
