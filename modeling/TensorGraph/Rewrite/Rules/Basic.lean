import TensorGraph.Compile.Inputs
import TensorGraph.Rewrite.Shapes

/-! # Looking at nodes -/

namespace TensorGraph

variable (name : String) (tracks : List Track) (run : Rule)

abbrev Offer := M Proposal
abbrev Rule := GraphId -> NodeId -> Offer

instance : Coe (NodeId -> Offer) Rule := ⟨fun f _ => f⟩

def rule : LocalRule := { name, tracks := some tracks, run }
def anyRule : LocalRule := { name, tracks := none, run }

def inplaceRule : LocalRule :=
  { name, tracks := some tracks, inplace := true, run }

namespace Rules

open Tensor

def noGraph : GraphId := ⟨1000000000⟩
def elemwiseClass : Track := .cls "Elemwise"
def skip : Offer := pure .none
def deny : Offer := pure .no
def propose (x : M VarId) : Offer := do return .one (<- x)
def proposeAll (x : M Vars) : Offer := do return .all (<- x)

variable (v : VarId) (o : Op) (n : NodeId) (k : Float) (s : ScalarOp) (g : GraphId) (ins : Vars) (r : VarId) (a b : VarId)

def likeOutput : Offer := propose do patternBroadcast r (<- bcastOf (<- outOf n))

def fitOutput : Offer := do
  if (<- typeOf r) == (<- typeOf (<- outOf n)) then return .one r else likeOutput n r

def clientsOf (v : VarId) : M (List (Client × Nat)) := do
  if g == noGraph then noAttr
  let some l := (<- graph g).clients[v]? | badKey
  pure l

def scalarOf? : Op -> Option ScalarOp
  | .elemwise s .. => some s
  | _ => none

def kindOf? : Option ScalarKind := (scalarOf? o).map (·.kind)
def isPlain : Bool := if let .elemwise t [] _ := o then t == s else false

def madeByKind? (k : ScalarKind) : M (Option Vars) := do
  let some (o, ins) <- made? v | pure none
  return if kindOf? o == some k then some ins else none

def madeByPlain? : M (Option Vars) := do
  let some (o, ins) <- made? v | pure none
  return if isPlain o s then some ins else none

def madeWith? : M (Option Vars) := do
  let some (p, ins) <- made? v | pure none
  return if p == o then some ins else none

def inputsIf : M (Option Vars) := do
  let (p, ins) <- readNode n
  return if p == o then some ins else none

def itemOf (x : VarId) (slices : Values) : M VarId := do
  let .var v <- getItem 100 x (.tuple slices) | badType
  pure v

def isTensorConstant : M Bool := do return (<- isConstant v) && (<- typeOf v).isTensor
def isKnown : M Bool := isConstantNumber v k true true
def isNumber : M Bool := isConstantNumber v k
def extractedIs (only : Bool := true) : M Bool := isConstantNumber v k true only
def sameType : M Bool := do return (<- typeOf a) == (<- typeOf b)
def sameBcast : M Bool := do return (<- bcastOf a) == (<- bcastOf b)
def tolerate (what : String) (v : VarId) : M Unit :=
  setTag v "values_eq_approx" (.api s!"tensor.type.values_eq_approx_remove_{what}")

def reapply : M Vars := applyAll o (valuesOf ins)

def broadcastLike (value template : VarId) (d : Option DType := none) : M VarId := do
  if <- sameType value template then return value
  if g == noGraph then noAttr
  if !(<- graph g).vars.contains template then
    cannot "broadcast_like currently requires the template Variable to be in the fgraph already"
  let d <- if let some d := d then pure d else dtypeOf template
  let value <- cast value d
  if <- sameType value template then return value
  let dims : Values <- match <- Shapes.of? g with
    | some f => do pure ((<- Shapes.shapeOf f template).getD [] |>.map .var)
    | none => dimsOf template
  let r <- alloc value dims
  let bs <- bcastOf template
  let pairs := ((<- bcastOf r).zip bs).zipIdx
  let r <- if (<- bcastOf r) == bs then pure r
    else unbroadcast r (pairs.filterMap fun ((a, b), i) => if a && !b then some i else none)
  if (<- bcastOf r) != bs then
    fail .assertion
      s!"rval.type.broadcastable is {tupleText ((<- bcastOf r).map boolText)} but template.broadcastable is{tupleText (bs.map boolText)}"
  pure r

def splitConstants : M (List (VarId × Value) × Vars) := do
  let mut consts := []
  let mut rest := []
  for v in ins do
    if let some c <- valueOf? v true true then consts := consts ++ [(v, c)]
    else rest := rest ++ [v]
  pure (consts, rest)

def fillChain (out : VarId) (ins : Vars) : M VarId := ins.foldlM (fun r i => fill (.var i) r) out

/-- The indices of a template with their known values in place of variables. -/
inductive KnownIndex
  | pos (v : Value)
  | slice (start stop step : Value)

def knownIndices (idx : List IndexEntry) (ins : Vars) (only : Bool) : M (List KnownIndex) := do
  let known v := do
    let some c <- valueOf? v true only | return v
    return c
  let part v := if let some v := v then known v else pure .null
  (pairIndices idx ins).mapM fun
    | .pos v => do return .pos (<- known v)
    | .slice a b c => do return .slice (<- part a) (<- part b) (<- part c)

def knownInt? : Value -> Option Int
  | .array a => if a.size == 1 then match a.item with | .int i => some i | _ => none else none
  | v => v.int?

end Rules

end TensorGraph

/-! ## Choices -/

namespace TensorGraph.Rules

variable (g : GraphId) (n : NodeId)

/-- A choice: its operator, condition, and branches. -/
structure ChoiceNode where
  n : Nat
  (view device : Bool)
  name : Option String
  cond : VarId
  (ts fs : Vars)

def choice? (n : NodeId) : M (Option ChoiceNode) := do
  let .ifElse k view device name <- opOf n | pure none
  let some (cond, ts, fs) := Choice.split k (<- insOf n) | pure none
  return some { n := k, view, device, name, cond, ts, fs }

def sameCondition (onTrue : Bool) : Rule := fun _ n => do
  let some x <- choice? n | deny
  let inner v := do
    let some m <- ownerOf v | return v
    let some y <- choice? m | return v
    if y.cond != x.cond then return v
    return (if onTrue then y.ts else y.fs).getD (<- varInfo v).index v
  let branch := if onTrue then x.ts else x.fs
  let new <- branch.mapM inner
  if new == branch then return .no
  let ins := if onTrue then x.cond :: new ++ x.fs else x.cond :: x.ts ++ new
  proposeAll (applyAll (<- opOf n) (valuesOf ins))

def chosenTwice : Offer := do
  let some x <- choice? n | deny
  let pairs := x.ts.zip x.fs
  let kept := pairs.eraseDups
  if kept.length == pairs.length then return .no
  let new <- applyAll (.ifElse kept.length x.view x.device x.name) (valuesOf (x.cond :: kept.map (·.1) ++ kept.map (·.2)))
  return .all (pairs.map fun p => new.getD (kept.findIdx (· == p)) default)

def choiceInplace : Offer := do
  let some x <- choice? n | deny
  let small <- (<- outsOf n).allM fun o => do return (<- typeOf o) matches .tensor _ [] _
  if x.view || ((<- graph g).nodes.toList.length >= 500 && small) then return .no
  proposeAll (applyAll (.ifElse x.n true x.device x.name) (valuesOf (<- insOf n)))

def joined (x y : ChoiceNode) : M Vars :=
  let name c := (c.name.filter (!·.isEmpty)).getD "?"
  Choice.among x.cond (some s!"{name x}&{name y}") (valuesOf (x.ts ++ y.ts)) (valuesOf (x.fs ++ y.fs))

def choiceInputs (n : NodeId) : M Nodes := do
  (((<- (<- insOf n).mapM ownerOf).filterMap id).eraseDups).filterM fun m => do return (<- choice? m).isSome

def joinChoices : Offer := do
  if (<- choice? n).isSome then return .no
  let first :: rest@(_ :: _) <- choiceInputs n | deny
  let some x <- choice? first | deny
  for m in rest do
    let some y <- choice? m | pure ()
    let a <- getArena
    if y.cond == x.cond && !a.needs m first && !a.needs first m then
      let new <- joined x y
      let old := (<- outsOf first) ++ (<- outsOf m)
      return .all ((<- substituteValues (valuesOf (<- outsOf n)) (old.zip (valuesOf new))).filterMap Value.var?)
  skip

def throughOperator : Offer := do
  let [_] <- choiceInputs n | deny
  if (<- opOf n) matches .dot | .reshape .. | .shape | .specifyShape | .maxAndArgmax _ | .subtensor _ | .incSubtensor ..
    | .rebroadcast _ | .alloc | .elemwise .. | .dimShuffle .. then badType
  deny

def mergeChoices : GlobalRule where
  name := "CondMerge"
  cls := "CondMerge"
  require := fun _ => noAttr
  run := fun _ g => do
    let nodes <- (<- graphToposort g).filterM fun n => do return (<- choice? n).isSome
    let first :: rest@(_ :: _) := nodes | pure false
    let some x <- choice? first | pure .null
    for m in rest do
      let some y <- choice? m | pure ()
      if y.cond == x.cond && !(<- getArena).needs m first then
        putLine "here"
        let new <- joined x y
        let copies <- new.mapM fun v => do return ((<- substituteValues [.var v] []).headD .null).var?.getD default
        let _ <- replaceAllValidate g (((<- outsOf first) ++ (<- outsOf m)).zip copies) "cond_merge"
    pure .null

def choiceRules : List LocalRule :=
  let only := [.cls "IfElse"]
  [ rule "cond_make_inplace" only choiceInplace, rule "cond_merge_ifs_true" only (sameCondition true),
    rule "cond_merge_ifs_false" only (sameCondition false), rule "cond_remove_identical" only chosenTwice,
    rule "cond_merge_random_op" only joinChoices,
    rule "ifelse_lift_single_if_through_acceptable_ops" ["Elemwise"] throughOperator ]

end TensorGraph.Rules
