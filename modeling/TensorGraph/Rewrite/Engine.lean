import TensorGraph.Graph.Change
import TensorGraph.Script.Signature

/-!
# Running passes

A pass asks its rules for replacements of nodes. Each is made and then checked, and taken back where an observer of the
graph refuses it.
-/

/-! ## Merging equal computations -/

namespace TensorGraph.Merge

private def state (f : FeatureId) : M MergeState := do
  let .merge s <- feature f | return {}
  pure s

private def modifyState (f : FeatureId) (h : MergeState -> MergeState) : M Unit := do
  setFeature f (.merge (h (<- state f)))

def inheritName (src dst : VarId) : M Unit := do
  match <- nameOf src with
  | some "" | none => pure ()
  | some n => setName dst (some n)

variable (g : GraphId) (f : FeatureId) (n : NodeId) (a b : Value)

def processConstant (c : VarId) : M Unit := do
  let s <- state f
  if s.seenConstants.contains c then return
  let a <- getArena
  match s.constants.find? fun d => a.sameConstants c d with
  | some d =>
    inheritName c d
    modifyState f fun s => { s with scheduled := [[(c, d)]] :: s.scheduled }
  | none =>
    modifyState f fun s => { s with constants := c :: s.constants, seenConstants := s.seenConstants.insert c () }

def processNode : M Unit := do
  let s <- state f
  if s.seenNodes.contains n then return
  let ins <- insOf n
  let candidates <- match ins with
    | [] => pure s.noInputNodes.toList
    | first :: _ =>
      let x <- graph g
      let a := x.clients.getD first []
      let b := x.clients.getD (ins.getLastD first) []
      let clients := if a.length < b.length then a else b
      check (!clients.isEmpty)
      pure (clients.filterMap fun (c, _) => match c with
        | .node m => if s.seenNodes.contains m then some m else none
        | .output => none)
  let op <- opOf n
  let outs <- outsOf n
  let mut found := []
  for m in candidates do
    if m != n && (<- insOf m) == ins && op == (<- opOf m) && !s.blacklist.contains (some n, some m) then
      let pairs := outs.zip (<- outsOf m)
      for (o, c) in pairs do inheritName o c
      found := found ++ [pairs]
  if !found.isEmpty then modifyState f fun s => { s with scheduled := found :: s.scheduled }
  else
    modifyState f fun s => { s with seenNodes := s.seenNodes.insert n (),
                                    noInputNodes := if ins.isEmpty then s.noInputNodes.insert n else s.noInputNodes }

def onImport : M Unit := do
  for c in <- insOf n do if <- isConstant c then processConstant f c
  processNode g f n

def onPrune : M Unit := do
  let ins <- insOf n
  modifyState f fun s => { s with seenNodes := s.seenNodes.erase n,
                                  noInputNodes := if ins.isEmpty then s.noInputNodes.erase n else s.noInputNodes }
  for c in ins do
    if (<- isConstant c) && ((<- graph g).clients.getD c []).length <= 1 then
      modifyState f fun s => { s with constants := s.constants.erase c, seenConstants := s.seenConstants.erase c }

def observe (e : Event) : M Unit := do
  match e with
  | .attached _ =>
    check (<- ability? g "merge_feature").isNone
    lend g ["merge_feature"] f
    setFeature f (.merge {})
    for n in <- graphToposort g do onImport g f n
  | .imported n _ => onImport g f n
  | .pruned n _ => onPrune g f n
  | .changed c _ _ new _ =>
    match c with
    | .node n =>
      if (<- state f).seenNodes.contains n then
        modifyState f fun s => { s with seenNodes := s.seenNodes.erase n }
        processNode g f n
    | .output => pure ()
    if <- isConstant new then processConstant f new
  | _ => pure ()

def bareInputs : M Vars := do
  (<- insOf n).mapM fun i => do
    let some (.assert _, x :: _) <- made? i | return i
    return x

def mayMerge (v w : VarId) : M Bool := do
  let (some n, some m) := (<- ownerOf v, <- ownerOf w) | pure true
  if !(((<- bareInputs n).zip (<- bareInputs m)).all fun (x, y) => x == y) then return false
  if (<- ability? g "destroy_handler").isSome then
    let x <- graph g
    let destroying <- (x.clients.getD v [] ++ x.clients.getD w []).filterM fun (c, i) => do
      match c with
      | .node k => return (<- destroysOf (<- opOf k)).any fun (_, l) => l.contains i
      | .output => return false
    return destroying.length <= 1
  pure true

/-- Counts of a run of the merge pass. -/
structure Counts where
  failures : Nat := 0
  merged : Nat := 0
  constants : Nat := 0

def tryPairs (g : GraphId) (f : FeatureId) : Bool -> List VarPairs -> Counts -> M Counts
  | _, [], k => pure k
  | success, pairs :: rest, k => do
    match pairs with
    | [] => tryPairs g f success rest k
    | (v, w) :: _ =>
      let x <- graph g
      if !x.vars.contains v || !x.vars.contains w || !(<- mayMerge g v w) then tryPairs g f success rest k
      else
        let tv <- typeOf v
        let pairs <- if pairs.length == 1 && tv != (<- typeOf w) then do
            let some _ <- attempt (filterVariable tv w) | pure [(w, v)]
            pure pairs
          else pure pairs
        let (v, w) := pairs.headD (v, w)
        let ok <- try
            if <- pairs.allM fun p => isConstant p.1 then
              for (old, new) in pairs do replaceVar g old new "MergeOptimizer"
            else
              let _ <- replaceAllValidate g pairs "MergeOptimizer"
            pure true
          catch e =>
            if e.kind == .inconsistency then
              let refused := (<- ownerOf v, <- ownerOf w)
              modifyState f fun s => { s with blacklist := refused :: s.blacklist }
              pure false
            else throw e
        let k := if ok then k else { k with failures := k.failures + 1 }
        if success && ok then
          let one := if <- isConstant v then 1 else 0
          return { k with merged := k.merged + pairs.length, constants := k.constants + one }
        tryPairs g f false rest k

def workOff (g : GraphId) (f : FeatureId) : Nat -> Counts -> M Counts
  | 0, _ => outOfFuel
  | fuel + 1, k => do
    let entry :: rest := (<- state f).scheduled | pure k
    modifyState f fun s => { s with scheduled := rest }
    workOff g f fuel (<- tryPairs g f true entry k)

def addCounts : M Value :=
  match a, b with
  | .null, v | v, .null => pure v
  | .int x, .int y => pure (x + y)
  | a, b => match a.float?, b.float? with
    | some x, some y => pure (.float (x + y))
    | _, _ => badType

def joinCounts : M Value := do
  let (.dict a, .dict b) := (a, b) | noAttr
  newDict (<- (<- cellPairs b).foldlM (fun out (k, v) => do
    let some w := lookupKey k out | return out ++ [(k, v)]
    let sum <- addCounts w v
    return out.map fun (x, y) => if x.isKey k then (x, sum) else (x, y)) (<- cellPairs a))

def joinReports (a b : PassReport) : M PassReport := do
  let (.tuple xs, .tuple ys) := (a, b) | badType
  return .tuple (<- (xs.zip ys).mapM fun (x, y) => if x matches .dict _ then joinCounts x y else addCounts x y)

def run : M PassReport := do
  let some f <- ability? g "merge_feature" | noAttr
  let k <- workOff g f 1000000 {}
  modifyState f fun s => { s with blacklist := [] }
  let t <- timeOn g
  return .tuple [k.failures, .float 0, t, t, <- newDict [], k.merged, k.constants]

end TensorGraph.Merge

/-! ## Running passes -/

namespace TensorGraph

/-- A local rule of the library: the operators it looks at (all, if absent), whether it needs the
memory observer, and what it proposes for a node. -/
structure LocalRule where
  name : String
  tracks : Option (List Track)
  inplace : Bool := false
  label : Option String := none
  run : GraphId -> NodeId -> M Proposal

/-- A whole-graph pass of the library: what it needs, and what it does. -/
structure GlobalRule where
  (name cls : String)
  require : GraphId -> M Unit := fun _ => pure ()
  run : PassId -> GraphId -> M PassReport

/-- The rules and passes of the library, by name. -/
structure RuleBook where
  rules : Std.HashMap String LocalRule
  globals : Std.HashMap String GlobalRule
  canonize : Canonizer -> GraphId -> NodeId -> M Proposal
  fuse : PassId -> PassId -> GraphId -> M PassReport

variable (p : PassId)

instance : Inhabited LocalRule := ⟨{ name := "", tracks := none, run := fun _ _ => pure .none }⟩
instance : Inhabited GlobalRule := ⟨{ name := "", cls := "", run := fun _ _ => pure .null }⟩
def Proposal.one (v : VarId) : Proposal := .outputs [some v]
def Proposal.all (vs : Vars) : Proposal := .outputs (vs.map some)
def runRule (g : GraphId) (n : NodeId) : M Proposal := M.ask fun k => k.runRule p g n
def requirePass (g : GraphId) : M Unit := M.ask fun k => k.requirePass p g
def applyPass (g : GraphId) : M PassReport := M.ask fun k => k.applyPass p g

variable (book : RuleBook) (p : PassId) (g : GraphId) (rule : PassId) (f : FeatureId) (s : EquilibriumState) (ps : List PassId)

def optimize : M PassReport := do
  requirePass p g
  applyPass p g

def Proposal.ofValue (v : Value) : M Proposal := do
  match v with
  | .null => pure .none
  | .bool false => pure .no
  | .list _ | .tuple _ => return .outputs ((<- itemsOf v).map Value.var?)
  | .dict c =>
    let ps <- cellPairs c
    let gone <- if let some l := lookupKey "remove" ps then itemsOf l else pure []
    return .pairs (ps.filterMap fun | (.var a, .var b) => some (a, b) | _ => .none)
      (gone.filterMap fun | .node n => some n | _ => .none)
  | v => return .wrong v

/-! ## Texts -/

def patternText (s : Session) : Nat -> Value -> String
  | 0, _ => "..."
  | fuel + 1, v =>
    let text := s.valueText 60 false
    let whole : Values -> String
      | op :: args => s!"{text op}({commaList (args.map (patternText s fuel))})"
      | [] => "[]"
    match v with
    | .tuple (op :: args) => whole (op :: args)
    | .list c => if let .seq xs := s.cells.getD c.idx default then whole xs.toList else "..."
    | .dict c =>
      match s.cells.getD c.idx default with
      | .map ps =>
        let part k v := (lookupKey k ps.toList).getD v
        patternText s fuel (part "pattern" .null) ++ " subject to " ++ text (part "constraint" "no conditions")
      | _ => "..."
    | v => text v

def Session.passText (s : Session) : Nat -> PassId -> String
  | 0, _ => "..."
  | fuel + 1, p =>
    let x := s.passes.getD p.idx default
    let op o := o.text s.opNames
    if let some l := x.label then l else
    match x.body with
    | .rule n | .global n _ => n
    | .localFn .. => "<FromFunctionLocalOptimizer instance>"
    | .opSub a b _ => s!"{op a} -> {op b}"
    | .opRemove o => op o ++ "(x) -> x"
    | .pattern i o .. => s!"{patternText s 40 i} -> {patternText s 40 o}"
    | .group ps .. => "LocalOptGroup(" ++ .intercalate "," (ps.map (s.passText fuel)) ++ ")"
    | .canonizer c => x.name.getD s!"Canonizer({op c.main}, {op c.inverse}, {op c.reciprocal})"
    | .merge => "MergeOptimizer"
    | .topo .. => "<TopoOptimizer instance>"
    | .seq .. => s.valueText 20 false p
    | _ => s.valueText 20 true p

def passText : M String := fun _ s => .ok (s.passText 20 p) s

/-! ## What a rule looks at -/

def patternItems (v : Value) : M Values := do
  let v <- if let .dict c := v then do pure ((lookupKey "pattern" (<- cellPairs c)).getD .null) else pure v
  if v matches .list _ | .tuple _ then itemsOf v else pure []

def patternHead (v : Value) : M (List Track) := do
  if let .op o :: _ <- patternItems v then return [o] else return []

def tracksAt (book : RuleBook) : Nat -> PassId -> M (Option (List Track))
  | 0, _ => outOfFuel
  | fuel + 1, p => do
    let all ps := ps.flatMapM fun q => do return (<- tracksAt book fuel q).getD []
    match (<- pass p).body with
    | .rule n => return (book.rules.getD n default).tracks
    | .localFn _ ts _ => pure ts
    | .opSub a .. => return some [a]
    | .opRemove o => return some [o]
    | .pattern i _ _ _ ts _ =>
      if !ts.isEmpty then return some ts
      return some (<- patternHead i)
    | .canonizer c => return some (c.ops.map .op)
    | .group ps .. => return some (<- all ps)
    | .metaRule _ ps _ => return some (<- all (ps.map (·.1)))
    | _ => pure none

def tracksOf : M (Option (List Track)) := tracksAt book 20 p

/-- Rules filed by what they look at. -/
structure RuleIndex where
  always : List PassId := []
  byClass : Std.HashMap String (List PassId) := ∅
  byOp : List (Op × List PassId) := []
  order : List PassId := []

def RuleIndex.add (x : RuleIndex) (p : PassId) (ts : Option (List Track)) : RuleIndex :=
  match ts with
  | none => { x with always := x.always ++ [p] }
  | some ts => ts.foldl (fun x t => match t with
      | .cls c => { x with byClass := x.byClass.insert c (x.byClass.getD c [] ++ [p]) }
      | .op o => { x with byOp := alistAppend o p x.byOp }) x

def RuleIndex.forOp (x : RuleIndex) (o : Op) : List PassId :=
  x.byClass.getD o.family [] ++ (x.byOp.lookup o).getD []

def indexRules : M RuleIndex := do
  let mut x : RuleIndex := {}
  let mut keys : List (Track × List PassId) := []
  for p in ps do
    let ts <- tracksOf book p
    x := x.add p ts
    for t in ts.getD [] do keys := alistAppend t p keys
  return { x with order := (x.always ++ (keys.flatMap (·.2))).eraseDups }

/-! ## Patterns -/

abbrev PatternBinding := List (String × VarId)

structure PatternContext where
  graph : GraphId
  allowMultiple : Bool
  skip : Value

def numbersEqual (pattern : Value) (c : VarId) : M Bool := do
  let some d <- constant? c | pure false
  let (some a, some b) := (<- numericArray? pattern, <- numericArray? d) | pure false
  return b.data.all fun e => e == a.item

def matchPattern (x : PatternContext) : Nat -> Value -> VarId -> Bool -> PatternBinding -> M (Option PatternBinding)
  | 0, _, _, _, _ => outOfFuel
  | fuel + 1, p, v, multiple, u => do
    let retry := do
      if x.skip.isNull then return none
      let .var w <- callValue x.skip [v] [] | return none
      matchPattern x fuel p w multiple u
    let structured items := do
      match <- made? v, items with
      | none, _ => return none
      | some (o, ins), head :: args =>
        let same := if let .op q := head then o == q else false
        let clients := ((<- graph x.graph).clients.getD v []).length
        if !same || (!multiple && clients > 1) || args.length != ins.length then retry
        else (args.zip ins).foldlM (fun u (p, v) => do
          if let some u := u then matchPattern x fuel p v x.allowMultiple u else return none) (some u)
      | _, [] => return none
    match p with
    | .tuple _ | .list _ => structured (<- itemsOf p)
    | .dict c =>
      let ps <- cellPairs c
      match lookupKey "pattern" ps with
      | none => do fail .key s!"\"Malformed pattern: {<- textOf p} (expected key 'pattern')\""
      | some inner =>
        let ok <- if let some f := lookupKey "constraint" ps then do truthOf (<- callValue f [v] [])
          else pure true
        if ok then
          let multiple <- if let some b := lookupKey "allow_multiple_clients" ps then truthOf b
            else pure multiple
          matchPattern x fuel inner v multiple u
        else retry
    | .str s =>
      let some w := u.lookup s | return some (u ++ [(s, v)])
      if w == v then return some u else retry
    | .int _ | .float _ | .bool _ => if (<- isConstant v) && (<- numbersEqual p v) then return some u else retry
    | .var c =>
      let a <- getArena
      if a.isConstant c && a.isConstant v && a.sameConstants c v then return some u else retry
    | _ => retry

def buildPattern (u : PatternBinding) : Nat -> Value -> M Value
  | 0, _ => outOfFuel
  | fuel + 1, p => do
    match p with
    | .tuple _ | .list _ =>
      let f :: args <- itemsOf p | badIndex
      callValue f (<- args.mapM (buildPattern u fuel)) []
    | .str s =>
      if let some v := u.lookup s then return v
      else newRecord "FreeVariable" [("name", s)]
    | .int _ | .float _ | .bool _ => pure p
    | .var v => cloneVar v
    | _ => noAttr

def patternOn (x : PatternContext) (input output : Value) (n : NodeId) : M Proposal := do
  let [.op o] <- patternHead input | pure .no
  if !(o == (<- opOf n)) then return .no
  let some u <- matchPattern x 400 input (<- defaultOutputOf n) true [] | pure .no
  match <- buildPattern u 400 output with
  | .var v => return .one v
  | v => return .wrong v

def patternRule (x : PatternContext) (input output getNodes : Value) (n : NodeId) : M Proposal := do
  if getNodes.isNull then patternOn x input output n
  else
    for m in <- itemsOf (<- callValue getNodes [x.graph, n] []) do
      let .node m := m | pure ()
      let .outputs vs <- patternOn x input output m | pure ()
      let outs <- outsOf m
      check (outs.length == vs.length)
      return .pairs ((outs.zip vs).filterMap fun (a, b) => b.map fun b => (a, b)) []
    patternOn x input output n

/-! ## Groups -/

def groupRule (group : PassId) (counted : Bool) (g : GraphId) (x : RuleIndex) (all : Bool) : Nat -> NodeId -> Proposal -> M Proposal
  | 0, _, _ => outOfFuel
  | fuel + 1, n, repl => do
    let o <- opOf n
    match <- firstProposal (x.forOp o ++ x.always) n with
    | .none => pure repl
    | p =>
      if !all then return p
      let vs := proposed p
      let v :: _ := vs | pure p
      let some m <- ownerOf v | pure p
      if vs.length > 1 then check ((<- vs.mapM ownerOf).all (· == some m))
      groupRule group counted g x all fuel m p
where
  proposed : Proposal -> Vars
    | .outputs vs => vs.filterMap id
    | .pairs ps _ => ps.map (·.2)
    | _ => []
  note (p : PassId) (applied created : Nat) : M Unit := if counted then modifyPass group fun q =>
      let (t, a, c) := (q.tally.lookup p).getD (0, 0, 0)
      { q with tally := alistSet p (t + 1, a + applied, c + created) q.tally }
    else pure ()
  firstProposal (ps : List PassId) (n : NodeId) : M Proposal := do
    for p in ps do
      match <- runRule p g n with
      | .none | .no | .outputs [] | .pairs [] [] => note p 0 0
      | r =>
        let a <- getArena
        let some new := a.toposortBeyond ((<- graph g).vars).contains (proposed r) | outOfFuel
        note p 1 (new.flatMap a.outputs).length
        return r
    pure .none

def faultValue (e : Fault) : M Value := newRecord e.kind.name [("text", e.message)]

def ruleProposal (n : NodeId) : M Proposal := do
  match (<- pass p).body with
  | .rule name =>
    let some r := book.rules[name]? | raise (.named "Unsupported")
    r.run g n
  | .localFn f .. => do Proposal.ofValue (<- callValue f [g, n] [])
  | .opSub a b transfer =>
    if !(a == (<- opOf n)) then return .no
    let ins <- insOf n
    let m <- M.ask fun k => k.makeNode b (valuesOf ins) []
    let outs <- outsOf m
    if transfer then
      let t := (<- nodeInfo n).tag
      modifyNode m fun x => { x with tag := t }
      for (o, w) in (<- outsOf n).zip outs do
        let t := (<- varInfo o).tag
        modifyVar w fun x => { x with tag := t }
    return .all outs
  | .opRemove o =>
    if !(o == (<- opOf n)) then return .no
    return .all (<- insOf n)
  | .pattern i o multiple skip _ getNodes => patternRule { graph := g, allowMultiple := multiple, skip } i o getNodes n
  | .group ps all counted _ =>
    if ps.isEmpty then return .none
    groupRule p counted g (<- indexRules book ps) all 200 n .none
  | .canonizer c => book.canonize c g n
  | _ => noAttr

/-! ## Processing nodes -/

def onRuleFailure (h : OnFailure) (e : Fault) (rule : PassId) (n : NodeId) (pairs : List (VarId × Option VarId)) :
    M Unit := do
  let warn := do if e.isA .assertion || (<- settingText "on_opt_error") == "raise" then throw e
  match h with
  | .raise => throw e
  | .warn => warn
  | .warnInplace => if e.kind == .inconsistency then pure () else warn
  | .ignore => pure ()
  | .call f =>
    let ps <- newList (pairs.map fun (a, b) => .tuple [a, .ofOption .var b])
    let _ <- callValue f [<- faultValue e, .null, ps, rule, n] []

def processNode (h : OnFailure) (n : NodeId) : M Bool := do
  let outs <- outsOf n
  let proposal <- try
      pure (some (<- runRule rule g n))
    catch e =>
      onRuleFailure h e rule n (outs.map fun o => (o, none))
      pure none
  let (old, new, gone) <- match proposal with
    | none | some .none | some .no => return false
    | some (.wrong v) =>
      failType s!"Optimizer {<- passText rule} gave wrong type of replacement. Expected list or tuple. Got {<- textOf v}"
    | some (.outputs vs) => pure (outs, vs, [])
    | some (.pairs ps gone) => pure (ps.map (·.1), ps.map fun p => some p.2, gone)
  if old.length != new.length then failValue s!"Optimizer {<- passText rule} gave wrong number of replacements"
  for (o, w) in old.zip new do
    if w.isNone && !((<- graph g).clients.getD o []).isEmpty then
      failValue "A local optimizer tried to remove a Variable that is used"
  let pairs := (old.zip new).filterMap fun (o, w) => w.bind fun w => if o == w then none else some (o, w)
  if pairs.isEmpty then return false
  try
    replaceAllValidateRemove g pairs (gone.map .node) (<- passText rule)
    pure true
  catch e =>
    onRuleFailure h e rule n (pairs.map fun (a, b) => (a, some b))
    pure false

def withQueue (name : Option String) (onImport onChange : Bool) (act : Option FeatureId -> M α) : M α := do
  if !onImport then act none
  else
    let f <- newFeature (.queue name none onImport onChange [])
    attachFeature g f
    ensuring (act (some f)) (removeFeature g f)

def setCurrent (f : Option FeatureId) (n : NodeId) : M Unit := do
  let some f := f | pure ()
  let .queue name _ a b l <- feature f | pure ()
  setFeature f (.queue name (some n) a b l)

def takeArrived (f : Option FeatureId) : M Nodes := do
  let some f := f | pure []
  let .queue name c a b l <- feature f | pure []
  setFeature f (.queue name c a b [])
  pure l

def observeQueue (e : Event) : M Unit := do
  match <- feature f, e with
  | .queue name c true b l, .imported n _ => if c != some n then setFeature f (.queue name c true b (n :: l))
  | .queue name c a true l, .changed (.node n) _ .. =>
    if c != some n then setFeature f (.queue name c a true (n :: l))
  | .changeTracker _ k, .imported .. => setFeature f (.changeTracker true (k + 1))
  | .changeTracker _ k, .changed .. => setFeature f (.changeTracker true k)
  | _, _ => pure ()

def inGraph (n : NodeId) : M Bool := do return (<- graph g).nodes.contains n

def topoLoop (g : GraphId) (rule : PassId) (h : OnFailure) (f : Option FeatureId) (outToIn : Bool) :
    Nat -> Nodes -> Nat -> M Nat
  | _, [], k => pure k
  | 0, _, _ => outOfFuel
  | fuel + 1, n :: rest, k => do
    if !(<- inGraph g n) then return <- topoLoop g rule h f outToIn fuel rest k
    setCurrent f n
    let changed <- processNode g rule h n
    let new <- takeArrived f
    topoLoop g rule h f outToIn fuel (if outToIn then new ++ rest else rest ++ new.reverse) (k + changed.toNat)

def loopFuel : Nat := 10000000

def runTopo (order : String) (ignoreNew : Bool) (h : OnFailure) : M PassReport := do
  let x <- graph g
  let before := x.nodes.size
  let outToIn := order == "out_to_in"
  let q <- orderBetween x.inputs x.outputs
  let k <- withQueue g (<- pass p).name (!ignoreNew) false fun f =>
    topoLoop g rule h f outToIn loopFuel (if outToIn then q.reverse else q) 0
  return .tuple [p, k, before, .ofNat (<- graph g).nodes.size, .float 0, .float 0, .float 0, rule]

def ruleKey : M (Option Op) := do
  match (<- pass p).body with
  | .opSub a .. => return some a
  | .opRemove o => return some o
  | .pattern i .. =>
    let [.op o] <- patternHead i | pure none
    return some o
  | _ => pure none

def opKeyLoop (g : GraphId) (rule : PassId) (h : OnFailure) (f : Option FeatureId) (o : Op) :
    Nat -> Nodes -> M Unit
  | _, [] => pure ()
  | 0, _ => outOfFuel
  | fuel + 1, n :: rest => do
    if !(<- inGraph g n) then return <- opKeyLoop g rule h f o fuel rest
    setCurrent f n
    let _ <- processNode g rule h n
    opKeyLoop g rule h f o fuel ((<- (<- takeArrived f).filterM fun m => do return (<- opOf m) == o) ++ rest)

def runOpKey (ignoreNew : Bool) (h : OnFailure) : M PassReport := do
  let (some o, some finder) := (<- ruleKey rule, <- ability? g "get_nodes") | noAttr
  let q <- finderQuery finder o
  withQueue g (<- pass p).name (!ignoreNew) false fun f => opKeyLoop g rule h f o loopFuel q.reverse
  pure .null

/-! ## Equilibrium -/

/-- Counts of an equilibrium: how often each rule succeeded in each round and in all, and how many nodes
it brought. -/
structure EquilibriumState where
  total : List (PassId × Nat) := []
  round : List (PassId × Nat) := []
  created : List (PassId × Nat) := []
  tried : List PassId := []
  changed : Bool := false
  abort : Option PassId := none

def bumpCount (k : Nat) (l : List (PassId × Nat)) : List (PassId × Nat) :=
  alistSet p ((l.lookup p).getD 0 + k) l

def tracker : M (Bool × Nat) := do
  let .changeTracker c k <- feature f | pure (false, 0)
  pure (c, k)

def resetTracker : M Unit := do
  let (_, k) <- tracker f
  setFeature f (.changeTracker false k)

def EquilibriumState.note (p : PassId) (new : Nat) : EquilibriumState :=
  { s with round := bumpCount p 1 s.round, total := bumpCount p 1 s.total, created := bumpCount p new s.created,
           changed := true }

def EquilibriumState.limit (p : PassId) (maxUse : Float) : EquilibriumState :=
  if (((s.total.lookup p).getD 0).toFloat : Float) > maxUse then { s with abort := some p } else s

def runCounted (t : FeatureId) (ps : List PassId) (maxUse : Option Float) (s : EquilibriumState) :
    M (EquilibriumState × List PassReport) := do
  let mut s := s
  let mut reports := []
  for p in ps do
    resetTracker t
    let (_, before) <- tracker t
    reports := reports ++ [<- applyPass p g]
    let (changed, after) <- tracker t
    if changed then
      s := s.note p (after - before)
      let some m := maxUse | pure ()
      s := s.limit p m
  pure (s, reports)

structure EquilibriumContext where
  graph : GraphId
  tracker : FeatureId
  spec : Equilibrium
  index : RuleIndex
  maxUse : Float

def rulesOn (x : EquilibriumContext) (n : NodeId) :
    List PassId -> EquilibriumState -> List PassReport -> M (EquilibriumState × List PassReport)
  | [], s, r => pure (s, r)
  | p :: ps, s, r => do
    let (_, before) <- tracker x.tracker
    let s := if s.tried.contains p then s else { s with tried := p :: s.tried }
    if !(<- processNode x.graph p x.spec.onFailure n) then return <- rulesOn x n ps s r
    let (_, after) <- tracker x.tracker
    let (s, more) <- runCounted x.graph x.tracker x.spec.cleanup none (s.note p (after - before))
    let (s, r) := (s.limit p x.maxUse, r ++ more)
    if !(<- inGraph x.graph n) then return (s, r)
    rulesOn x n ps s r

def equilibriumLoop (x : EquilibriumContext) (f : Option FeatureId) :
    Nat -> Nodes -> EquilibriumState -> List PassReport -> M (EquilibriumState × List PassReport)
  | _, [], s, r => pure (s, r)
  | 0, _, _, _ => outOfFuel
  | fuel + 1, n :: rest, s, r => do
    if !(<- inGraph x.graph n) then return <- equilibriumLoop x f fuel rest s r
    setCurrent f n
    let (s, r) <- rulesOn x n (x.index.always ++ x.index.forOp (<- opOf n)) s r
    equilibriumLoop x f fuel ((<- takeArrived f) ++ rest) s r

/-- The reports of a round. -/
structure RoundReport where
  counts : List (PassId × Nat)
  size : Nat
  (globals finals cleanups : List PassReport)

def joinCleanups (k : Nat) (rs : List PassReport) : M (List PassReport) :=
  (List.range k).mapM fun i =>
    match rs.zipIdx.filterMap fun (r, j) => if j % k == i then some r else none with
    | r :: more => more.foldlM Merge.joinReports r
    | [] => pure .null

def rounds (x : EquilibriumContext) (globals : List PassId) (name : Option String) :
    Nat -> EquilibriumState -> Nat -> List RoundReport -> M (EquilibriumState × Nat × List RoundReport)
  | 0, _, _, _ => outOfFuel
  | fuel + 1, s, most, acc => do
    let ratio := x.spec.maxUseRatio.getD 8
    let g := x.graph
    let s := { s with round := [], changed := false }
    let (s, gs) <- runCounted g x.tracker globals (some (most.toFloat * ratio)) s
    let (s, cs) <- runCounted g x.tracker x.spec.cleanup none s
    let y <- graph g
    let q <- orderBetween y.inputs y.outputs
    let most := max most q.length
    let x := { x with maxUse := most.toFloat * ratio }
    let (s, cs) <- withQueue g name (!x.spec.ignoreNewTrees) x.spec.tracksOnChange fun f =>
      equilibriumLoop x f loopFuel q.reverse s cs
    let (s, fs) <- runCounted g x.tracker x.spec.final (some x.maxUse) s
    let (s, more) <- runCounted g x.tracker x.spec.cleanup none s
    let report := ⟨s.round, q.length, gs, fs, <- joinCleanups x.spec.cleanup.length (cs ++ more)⟩
    if s.changed && s.abort.isNone then rounds x globals name fuel s most (acc ++ [report])
    else pure (s, most, acc ++ [report])

def runEquilibrium (e : Equilibrium) : M PassReport := do
  let t <- newFeature (.changeTracker false 0)
  attachFeature g t
  let isGlobal q := do return !(<- pass q).body.isLocal
  let globals <- e.rules.filterM isGlobal
  let index <- indexRules book (<- e.rules.filterM fun q => do return !(<- isGlobal q))
  let start := (<- graph g).nodes.size
  let (s, most, reports) <- rounds ⟨g, t, e, index, 0⟩ globals (<- pass p).name 100000 {} start []
  if let some q := s.abort then
    if (<- settingText "on_opt_error") == "raise" then
      let y <- pass q
      fail .assertion ("EquilibriumOptimizer max'ed out by '" ++ (y.name.getD (y.label.getD ""))
        ++ "'. You can safely raise the current threshold of " ++ braced "config.optdb__max_use_ratio:f"
        ++ " with the theano flag 'optdb__max_use_ratio'.")
  removeFeature g t
  let order := (globals ++ index.order ++ e.final ++ e.cleanup).eraseDups
  let zeros := newList (reports.map fun _ => .float 0)
  let counts l := newDict (l.map fun (q, k) => (q, k))
  let parts f := do newList (<- reports.mapM fun r => newList (f r))
  let time q := if index.order.contains q && !s.tried.contains q then 0 else .float 0
  return .tuple [p, <- zeros, <- newList (<- reports.mapM (counts ·.counts)),
    .tuple [start, (<- graph g).nodes.size, most], <- zeros, <- newList (reports.map (.ofNat ·.size)),
    <- newDict (order.map fun q => (.pass q, time q)), <- zeros, <- counts (order.map fun q => (q, (s.created.lookup q).getD 0)),
    <- parts (·.globals), <- parts (·.finals), <- parts (·.cleanups)]

def runSeq (h : OnFailure) : M PassReport := do
  let before := (<- graph g).nodes.size
  let known := (<- graph g).told.length
  let mut parts := []
  let mut sizes : List (Nat × Nat) := []
  for q in ps do
    let b := (<- graph g).nodes.size
    let r <- try
        pure (some (<- optimize q g))
      catch e =>
        if e.isA .assertion then throw e
        match h with
        | .raise => throw e
        | .call f =>
          let _ <- callValue f [<- faultValue e, p, q] []
        | _ =>
          -- a failure is reported with the text of the pass, which a bare function lacks
          let x <- pass q
          if x.body matches .globalFn .. && x.label.isNone then noAttr
          if (<- settingText "on_opt_error") == "raise" then throw e
        pure none
    let some r := r | pure ()
    parts := parts ++ [r]
    sizes := sizes ++ [(b, (<- graph g).nodes.size)]
  let time <- timeOn g
  let zeros := parts.map fun _ => .float 0
  return .tuple [p, <- newList zeros, time, .float 0, before, .ofNat (<- graph g).nodes.size, <- newList parts,
    <- newList (if time.isNull then [] else time :: zeros), <- newList (sizes.map fun (a, b) => .tuple [a, b]),
    <- newDict ((<- observerTimes g).drop known)]

def attachMemoryObserver : M Unit := do
  let check <- if (<- settingText "cycle_detection") == "fast" then pure CycleCheck.fast else pure .regular
  attachFeature g (<- newFeature (.memory { check }))

def passRequirements : M Unit := do
  match (<- pass p).body with
  | .rule n => if (book.rules.getD n default).inplace then attachMemoryObserver g
  | .localFn _ _ inplace | .globalFn _ inplace => if inplace then attachMemoryObserver g
  | .group ps .. => for q in ps do requirePass q g
  | .global n _ => (book.globals.getD n default).require g
  | .merge => if (<- ability? g "merge_feature").isNone then attachFeature g (<- newFeature (.merge {}))
  | .topo r .. => requirePass r g
  | .opKey r .. =>
    requirePass r g
    attachFeature g (<- newFeature (.nodeFinder none []))
  | .equilibrium e =>
    let sorted <- e.rules.mapM fun q => do return (q, (<- pass q).body.isLocal)
    let part b := sorted.filterMap fun (q, l) => if l == b then some q else none
    for q in (<- indexRules book (part true)).order ++ part false ++ e.final ++ e.cleanup do requirePass q g
  | .addFeature f => attachFeature g f
  | _ => pure ()

def passApply : M PassReport := do
  let x <- pass p
  match x.body with
  | .merge => Merge.run g
  | .topo r order ignoreNew h => runTopo p g r order ignoreNew h
  | .opKey r ignoreNew h => runOpKey p g r ignoreNew h
  | .equilibrium e => runEquilibrium book p g e
  | .seq ps h => runSeq p g ps h
  | .global n _ =>
    let some r := book.globals[n]? | raise (.named "Unsupported")
    r.run p g
  | .globalFn f _ => callValue f [g] []
  | .fusion r => book.fuse p r g
  | .addFeature _ => pure .null
  | .printGraph header =>
    putLine s!"PrintCurrentFunctionGraph: {header}"
    callValue (.api "printing.debugprint") [<- listOf (<- graph g).outputs] []
  | _ => noAttr

end TensorGraph
