import TensorGraph.Rewrite.Engine

/-! # Modes -/

namespace TensorGraph

variable (d : DbId) (name : String) (x : Database)

def database : M Database := fun _ s => .ok (s.databases.getD d.idx default) s

def modifyDatabase (f : Database -> Database) : M Unit :=
  modify fun s => { s with databases := s.databases.modify d.idx f }

def newDatabase : M DbId := do
  let s <- get
  set { s with databases := s.databases.push x }
  return ⟨s.databases.size⟩

namespace DbEntry

def toValue : DbEntry -> Value
  | .pass p => p
  | .db d => d

def ofValue? : Value -> Option DbEntry
  | .pass p => some (.pass p)
  | .database d => some (.db d)
  | _ => none

def setName (e : DbEntry) (s : String) : M Unit :=
  match e with
  | .pass p => modifyPass p fun x => { x with name := some s }
  | .db d => modifyDatabase d fun x => { x with name := some s }

def className (e : DbEntry) : M String := do
  let s <- get
  match e with
  | .pass p => return s.passClass p
  | .db d => return s.databaseClass d

end DbEntry

namespace Database

variable (word : String)

def has : Bool := x.table.any (·.1 == word)
def at_ : List DbEntry := (x.table.lookup word).getD []

def file (e : DbEntry) : Database :=
  let l := x.at_ word
  { x with table := alistSet word (if l.contains e then l else l ++ [e]) x.table }

end Database

variable (e : DbEntry)

def refuseName (t : String) : M Unit := do
  if (<- database d).names.contains t then
    failWith .value ["'The tag of the object collides with a name.'", <- reprOf e.toValue, quoted t]

variable (tags : List String) (table : CellId) (r : RecordId) (v : Value)

/-- Words that are asked for are known from then on. -/
def askWords : M Database := do
  for t in tags do
    if !(<- database d).has t then modifyDatabase d fun x => { x with table := x.table ++ [(t, [])] }
  database d

def addTags : M Unit := do
  let [e] := (<- askWords d [name]).at_ name | unmet
  for t in tags do
    refuseName d e t
    modifyDatabase d fun x => x.file t e

def removeTags : M Unit := do
  let [e] := (<- askWords d [name]).at_ name | unmet
  for t in tags do
    refuseName d e t
    if !((<- askWords d [t]).at_ t).contains e then badKey
    modifyDatabase d fun x => { x with table := alistSet t ((x.at_ t).erase e) x.table }

def registerBasic (bare : Bool := false) : M Unit := do
  let x <- database d
  if x.has name then
    failWith .value ["'The name of the object cannot be an existing tag or the name of another existing object.'",
      <- reprOf e.toValue, quoted name]
  let tags := if bare then tags else tags ++ x.name.toList
  e.setName name
  let cls <- e.className
  modifyDatabase d fun x => { x.file name e with names := if x.names.contains name then x.names else x.names ++ [name] }
  modifyDatabase d fun x => x.file cls e
  addTags d name tags

def Database.lastPosition : Float :=
  match x.positions with
  | [] => 0
  | (_, p) :: r => (r.foldl (fun m q => if q.2 > m then q.2 else m) p) + 1

def registerEntry (position : Option Float) (tags : List String)
    (bare : Bool := false) (final : Bool := false) (cleanup : Bool := false) : M Unit := do
  registerBasic d name e tags bare
  match (<- database d).kind with
  | .equilibrium .. =>
    modifyDatabase d fun x =>
      { x with final := alistSet name final x.final, cleanup := alistSet name cleanup x.cleanup }
  | .sequence _ | .localGroup .. =>
    modifyDatabase d fun x => { x with positions := alistSet name (position.getD x.lastPosition) x.positions }
  | _ => pure ()

/-- Passes by their positions, and then by their names. -/
def inOrder (l : List (Float × String × PassId)) : List PassId :=
  (l.mergeSort fun (a, n, _) (b, m, _) => a < b || (a == b && (n < m || n == m))).map (·.2.2)

mutual

def selectEntries : Nat -> DbId -> Query -> M (List DbEntry)
  | 0, _, _ => outOfFuel
  | fuel + 1, d, q => do
    let x <- askWords d (q.including ++ q.requiring ++ q.excluding)
    let union := q.including.foldl (fun l t => (x.at_ t).foldl (fun l e => if l.contains e then l else l ++ [e]) l) []
    let kept := q.requiring.foldl (fun l t => l.filter fun e => (x.at_ t).contains e) union
    let kept := q.excluding.foldl (fun l t => l.filter fun e => !(x.at_ t).contains e) kept
    let mut passes := []
    let mut replaced := []
    for e in kept do
      match e with
      | .pass _ => passes := passes ++ [e]
      | .db sub =>
        let name := (<- database sub).name
        let p <- queryPass fuel sub ((name.bind (q.subqueries.lookup ·)).getD { q with extra := [] })
        if name.isSome then modifyPass p fun x => { x with name }
        replaced := replaced ++ [.pass p]
    return passes ++ replaced

def queryPass : Nat -> DbId -> (q : Query) -> (cutoff : Float := q.cutoff) -> M PassId
  | 0, _, _, _ => outOfFuel
  | fuel + 1, d, q, cutoff => do
    let x <- database d
    let passesOf es := es.filterMap fun
      | .pass p => some p
      | .db _ => none
    let placed := do (passesOf (<- selectEntries fuel d q)).mapM fun p => do
      let n := (<- pass p).name.getD ""
      let some at_ := x.positions.lookup n | badKey
      return (at_, n, p)
    match x.kind with
    | .plain => noAttr
    | .equilibrium ignoreNew onChange =>
      let ps := passesOf (<- selectEntries fuel d q)
      let is table p := do
        return ((<- pass p).name.bind fun n => table.lookup n).getD false
      let finals <- ps.filterM (is x.final)
      let cleanups <- ps.filterM (is x.cleanup)
      let rest := ps.filter fun p => !finals.contains p && !cleanups.contains p
      let ratio <- settingFloat "optdb__max_use_ratio"
      let e :=
        { rules := rest, onFailure := .warnInplace, ignoreNewTrees := ignoreNew, tracksOnChange := onChange,
          maxUseRatio := some ratio, final := finals, cleanup := cleanups }
      newPass { body := .equilibrium e }
    | .sequence h =>
      let all := (<- placed) ++ q.extra.map fun (p, at_) => (at_, "<class", p)
      newPass { body := .seq (inOrder (all.filter (·.1 < cutoff))) h }
    | .localGroup all profile toDevice => newPass { body := .group (inOrder (<- placed)) all profile toDevice }
    | .topo inner order ignoreNew h => newPass { body := .topo (<- queryPass fuel inner q cutoff) order ignoreNew h }
    | .proxy inner => queryPass fuel inner q cutoff

end

def defaultCutoff : M Float := settingFloat "optdb__position_cutoff"
def queryFuel : Nat := 50

/-! ## Selections of passes -/

def queryValue (including requiring excluding : Values) (subqueries cutoff : Value) (extra : Values) :
    M Value := do
  newRecord "Query" [("include", <- newOrderedSet (dedupKeys including)), ("require", <- newOrderedSet (dedupKeys requiring)),
    ("exclude", <- newOrderedSet (dedupKeys excluding)), ("subquery", subqueries), ("position_cutoff", cutoff),
    ("extra_optimizations", <- newList extra)]
where
  dedupKeys (l : Values) : Values := l.foldl (fun acc v => if acc.any (·.isKey v) then acc else acc ++ [v]) []

def wordsQuery (including excluding : List String) (requiring : List String := []) (cutoff : Float := floatInf) : M Value := do
  queryValue (valuesOf including) (valuesOf requiring) (valuesOf excluding) (<- newDict []) (.float cutoff) []

def wordsIn : M (List String) := do return (<- itemsOf v).filterMap Value.str?

def queryOf : Nat -> Value -> M Query
  | 0, _ => outOfFuel
  | fuel + 1, v => do
    let .record r := v | badType
    let subs <- match <- field r "subquery" with
      | .dict c => (<- cellPairs c).filterMapM fun (k, q) => do
        let .str s := k | return none
        return some (s, <- queryOf fuel q)
      | _ => pure []
    let given := ((<- field r "position_cutoff").float?).getD 0
    let cutoff <- if given == 0 then defaultCutoff else pure given
    let extra <- (<- itemsOf (<- field r "extra_optimizations")).mapM fun e => do
      let [.pass p, at_] <- itemsOf e | badType
      return (p, (at_.float?).getD 0)
    return .mk (<- wordsIn (<- field r "include")) (<- wordsIn (<- field r "require")) (<- wordsIn (<- field r "exclude"))
      subs cutoff extra

def extendQuery (part : String) (more : Values) : M Value := do
  let get n := do
    let l <- itemsOf (<- field r n)
    return if n == part then l ++ more else l
  queryValue (<- get "include") (<- get "require") (<- get "exclude") (<- field r "subquery") (<- field r "position_cutoff")
    (<- get "extra_optimizations")

def recordClass? : M (Option String) := do
  let .record r := v | pure none
  return some (<- record r).cls

def Param.form (p : Param) (v : Value) : M Value := do
  let invalid v := do failValue s!"Invalid value ({<- textOf v}) for configuration variable '{p.name}'."
  match p.kind with
  | .choice os =>
    if v.str?.any os.contains then return v
    failValue ("Invalid value ('" ++ (<- textOf v) ++ "') for configuration variable '" ++ p.name
      ++ "'. Valid options are " ++ braced (commaList (os.map fun s => s!"'{s}'")))
  | .bool =>
    match v with
    | .bool false | .int 0 | .str "false" | .str "False" | .str "0" => pure false
    | .bool true | .int 1 | .str "true" | .str "True" | .str "1" => pure true
    | .float x => if x == 0 then return false else if x == 1 then return true else invalid v
    | .list _ | .dict _ | .set _ => badType
    | _ => invalid v
  | .text => textOf v
  | .int => return (<- whole v)
  | .positive =>
    let i <- whole v
    if i > 0 then return i else invalid i
  | .natural =>
    let i <- whole v
    if i >= 0 then return i else invalid i
  | .float =>
    match v with
    | .float x => return .float x
    | .int i => return .float (floatOfInt i)
    | .bool b => return .float (if b then 1 else 0)
    | .str s => if let some x := readFloat? s then return .float x else badValue
    | _ => badType
  | _ => pure v
where
  whole (v : Value) : M Int := do
    match v with
    | .int i => pure i
    | .bool b => return if b then 1 else 0
    | .float x => pure x.toInt64.toInt
    | .str s => if let some i := s.toInt? then return i else badValue
    | _ => badType

def changeSettings (flags : Table Value) : M Unit := do
  let ps <- flags.mapM fun (k, v) => if let some p := parameter? k then pure (p, v) else badKey
  for (p, v) in ps do
    if !p.mutable then
      fail .generic "Can't change the value of \x7bself.name\x7d config parameter after initialization!"
    setSetting p.name (<- p.form v)

def mainDatabase : DbId := ⟨0⟩

def linkerTable : CellId := ⟨0⟩
def optimizerTable : CellId := ⟨1⟩
def modeTable : CellId := ⟨2⟩
def defaultMode : CellId := ⟨3⟩

/-! ## Linkers -/

def orderedLinker (allowGc : Value) (schedule : Value := .null) : M Value := do
  let gc <- if allowGc.isNull then setting "allow_gc" else pure allowGc
  newRecord "PerformLinker" [("fgraph", .null), ("allow_gc", gc), ("schedule", schedule)]

/-- What a virtual machine is asked to do besides evaluating. -/
structure MachineRequest where
  allowGc : Value := .null
  useLoop : Value := false
  callback : Value := .null
  callbackInput : Value := .null
  lazy : Value := .null
  schedule : Value := .null
  thunks : Value := .null
  partialEval : Value := .null

def machineLinker (r : MachineRequest) : M Value := do
  let gc <- if r.allowGc.isNull then setting "allow_gc" else pure r.allowGc
  let thunks <- if r.thunks.isNull then do pure (.bool ((<- settingText "cxx") != "")) else pure r.thunks
  newRecord "VMLinker" [("fgraph", .null), ("allow_gc", gc), ("use_cloop", r.useLoop), ("callback", r.callback),
    ("callback_input", r.callbackInput), ("lazy", r.lazy), ("schedule", r.schedule), ("c_thunks", thunks),
    ("allow_partial_eval", r.partialEval)]

def wrapLinker (linkers wrapper : Value) : M Value :=
  newRecord "WrapLinker" [("fgraph", .null), ("linkers", linkers), ("wrapper", wrapper)]

def copyRecord : M RecordId := do
  let x <- record r
  let .record c <- newRecord x.cls x.fields | badType
  pure c

def cloneLinker (linker : Value) (allowGc : Value := .null) : M Value := do
  let .record r := linker | noAttr
  let c <- copyRecord r
  if !allowGc.isNull then setField c "allow_gc" allowGc
  pure c

def acceptGraph (linker g : Value) : M Value := do
  let .record r := linker | noAttr
  let c <- if let (.graph a, .graph b) := (<- field r "fgraph", g) then
      if a == b then return linker
      copyRecord r
    else pure r
  setField c "fgraph" g
  pure c

/-! ## Modes -/

def lookUp (x : Value) : M Value := do
  match x with
  | .str _ | .null =>
    let some v := lookupKey x (<- cellPairs table) | badKey
    pure v
  | v => pure v

def newMode (cls : String) (linker optimizer : Value) (extra : Table Value := []) : M Value := do
  let provided <- if linker.isNull then setting "linker" else pure linker
  let optimizer <- match optimizer with
    | .str "default" => setting "optimizer"
    | o => pure o
  let bound <- lookUp linkerTable provided
  let chosen <- lookUp optimizerTable optimizer
  let shown := if (<- recordClass? chosen) == some "Query" then chosen else optimizer
  newRecord cls ([("provided_linker", provided), ("provided_optimizer", shown), ("linker", bound), ("_optimizer", chosen)] ++ extra)

def modeClasses : List String := ["Mode", "MonitorMode", "NanGuardMode", "DebugMode"]

variable (mode : RecordId)

def modePass : M Value := do
  let o <- field mode "_optimizer"
  if (<- recordClass? o) == some "Query" then queryPass queryFuel mainDatabase (<- queryOf 50 o)
  else pure o

def monitorMode (pre post optimizer : Value) : M Value := do
  let inner <- newRecord "OpWiseCLinker" [("fgraph", .null), ("allow_gc", true)]
  let fs := [("pre_func", pre), ("post_func", post)]
  newMode "MonitorMode" (<- wrapLinker (<- newList [inner]) (<- newRecord "Monitor" fs)) optimizer fs

def guardMode (nan inf big optimizer : Value) : M Value := do
  let given v name := if v.isNull then settingFlag name else truthOf v
  let nan <- given nan "NanGuardMode__nan_is_error"
  let inf <- given inf "NanGuardMode__inf_is_error"
  let big <- given big "NanGuardMode__big_is_error"
  check (nan || inf || big)
  let guard <- newRecord "NumberGuard" [("nan", nan), ("inf", inf), ("big", big)]
  newMode "NanGuardMode" (<- machineLinker { callback := guard, callbackInput := guard }) optimizer

def checkingMode (optimizer : Value) (given : List (String × Value × Value)) (linker : Value) : M Value := do
  let given := given.map fun (name, default, v) => (name, if v.isNull then default else v)
  let flag name := truthOf ((given.lookup name).getD .null)
  let linker <- if linker.isNull then newRecord "_DummyLinker" [("fgraph", .null), ("finite", <- flag "check_isfinite")]
    else pure linker
  if (<- recordClass? linker) != some "_DummyLinker" then
    failWith .generic ["'DebugMode can only use its own linker! You should not provide one.'", <- reprOf linker]
  let mode <- newMode "DebugMode" linker optimizer given
  if !(<- flag "check_c_code") && !(<- flag "check_py_code") then
    failValue "DebugMode has to check at least one of c and py code"
  pure mode

def cloneMode (linkOptions : Table Value) (optimizer : Value) : M Value := do
  let optimizer <- match optimizer with
    | .str "" => field mode "provided_optimizer"
    | o => pure o
  let x <- record mode
  match x.cls with
  | "MonitorMode" => monitorMode (<- field mode "pre_func") (<- field mode "post_func") optimizer
  | "NanGuardMode" => do
    let _ <- cloneLinker (<- field mode "linker")
    guardMode .null .null .null optimizer
  | "DebugMode" =>
    let kept := x.fields.filter fun (k, _) =>
      !(["provided_linker", "provided_optimizer", "linker", "_optimizer"].contains k)
    newMode x.cls (<- field mode "provided_linker") optimizer kept
  | cls =>
    for (k, _) in linkOptions do if k != "allow_gc" then badType
    newMode cls (<- cloneLinker (<- field mode "linker") ((linkOptions.lookup "allow_gc").getD .null)) optimizer

def extendMode (part : String) (more : Values) : M Value := do
  let _ <- lookUp linkerTable (<- field mode "provided_linker")
  let .record q <- lookUp optimizerTable (<- field mode "provided_optimizer") | noAttr
  if (<- record q).cls != "Query" then noAttr
  cloneMode mode [] (<- extendQuery q part more)

def findMode (x : Value) : M Value := do
  match x with
  | .null =>
    let name <- settingText "mode"
    let kept <- cellItems defaultMode
    let wanted <- if let some m := lookupKey name (<- cellPairs modeTable) then do pure ((<- recordClass? m).getD "")
      else pure name
    if let [m] := kept then if (<- recordClass? m) == some wanted then return m
    let mut m <- named name
    for (setting, part) in [("optimizer_excluding", "exclude"), ("optimizer_including", "include"),
        ("optimizer_requiring", "require")] do
      let words <- settingText setting
      if words != "" then
        if let .record r := m then m <- extendMode r part (valuesOf (words.splitOn ":"))
        else noAttr
    setCell defaultMode (.seq #[m])
    pure m
  | .str name => named name
  | v => pure v
where
  named (name : String) : M Value := do
    match name with
    | "Mode" => newMode "Mode" (<- setting "linker") (<- setting "optimizer")
    | "DebugMode" => M.ask fun k => k.call (.api "compile.debugmode.DebugMode") [] []
    | "NanGuardMode" => guardMode true true true (<- setting "optimizer")
    | name =>
      let some m := lookupKey name (<- cellPairs modeTable) | fail .generic s!"No predefined mode exist for string: {name}"
      pure m

def fileUnder (kind : String) (name value : Value) : M Unit := do
  let pairs <- cellPairs table
  if (lookupKey name pairs).isSome then failValue s!"{kind} name already taken: {<- textOf name}"
  setCell table (.map (pairs ++ [(name, value)]).toArray)

def openTables : M Unit := do
  for _ in List.range 3 do let _ <- newCell (.map #[])
  let _ <- newCell (.seq #[])
  let c cls gc := newRecord cls [("fgraph", .null), ("allow_gc", gc)]
  let vm gc loop := machineLinker { allowGc := gc, useLoop := loop }
  let linkers := [("py", orderedLinker true), ("c", c "CLinker" true),
    ("c|py", c "OpWiseCLinker" true), ("c|py_nogc", c "OpWiseCLinker" false), ("vm", vm true false),
    ("cvm", vm true true), ("vm_nogc", vm false false), ("cvm_nogc", vm false true), ("jax", c "JAXLinker" true)]
  setCell linkerTable (.map (<- linkers.mapM fun (n, l) => do return (n, <- l)).toArray)
  let without := ["cxx_only"]
  let none <- wordsQuery [] without
  let compile <- wordsQuery ["fast_compile", "fast_compile_gpu"] without
  let run <- wordsQuery ["fast_run"] without
  let optimizers : Pairs := [(.null, none), ("None", none), ("merge", <- wordsQuery ["merge"] without),
    ("o4", run), ("o3", <- wordsQuery ["fast_run"] (without ++ ["inplace"])),
    ("o2", <- wordsQuery ["fast_compile", "fast_compile_gpu", "fusion"] without), ("o1", compile),
    ("unsafe", <- wordsQuery ["fast_run", "unsafe"] (without ++ ["inplace"])), ("fast_compile", compile),
    ("fast_run", run), ("fast_run_stable", <- wordsQuery ["fast_run"] without ["stable"]),
    ("stabilize", <- wordsQuery ["fast_run"] without [] 1.5000001)]
  setCell optimizerTable (.map optimizers.toArray)
  let fastCompile <- newMode "Mode" (<- machineLinker { thunks := false }) "fast_compile"
  let fastRun <- newMode "Mode" "vm" "fast_run"
  let jax <- newMode "Mode" (<- c "JAXLinker" true) (<- wordsQuery ["fast_run"] ["cxx_only", "BlasOpt"])
  setCell modeTable (.map #[("FAST_COMPILE", fastCompile), ("FAST_RUN", fastRun), ("JAX", jax)])

end TensorGraph
