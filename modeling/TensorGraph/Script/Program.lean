import TensorGraph.Catalog.CText
import TensorGraph.Catalog.Collections
import TensorGraph.Catalog.Functions
import TensorGraph.Catalog.Loops
import TensorGraph.Catalog.Net
import TensorGraph.Catalog.Sparse
import TensorGraph.Catalog.Unify

/-!
# Programs

A program is a list of steps, each a call by name. The answer to a step shows its value.
-/

namespace TensorGraph

def allEntries : List (Table ApiEntry) :=
  [builtinEntries, tensorTypeEntries, tensorComparisonEntries, elementwiseEntries, tensorFunctionEntries,
    tensorOpEntries, variableEntries, scalarEntries, graphFunctionEntries, passEntries,
    registryEntries, functionEntries, productEntries, gradientEntries,
    printingEntries, ruleToolEntries, loopEntries, sparseEntries, unifyEntries,
    convEntries, poolEntries, netEntries,
    sequenceEntries, linalgEntries, randomEntries, textEntries, collectionEntries, deviceEntries]

def allAttributes : List (Table (Value -> M Value)) := [typeAttributes, opAttributes, variableAttributes, graphAttributes,
  passAttributes, functionAttributes, sparseAttributes, deviceAttributes]

def allMethods : List (Table Callable) :=
  [textMethods, typeMethods, arrayMethods, tensorMethods, variableMethods, scalarMethods, opMethods,
  graphMethods, passMethods, functionMethods, printingMethods, loopMethods, sparseMethods, unifyMethods, convMethods,
  randomMethods,
  orderedSetMethods, mappingMethods, assocListMethods, scheduleMethods, deviceMethods]

def Table.index (ts : List (Table α)) : Std.HashMap String α :=
  ts.foldl (fun m t => t.foldl (fun m (k, v) => m.insertIfNew k v) m) ∅

def catalog : Catalog := ⟨Table.index allEntries, Table.index allAttributes, Table.index allMethods⟩

def tellObservers (g : GraphId) (e : Event) : M Unit := do
  let tell f := do
    match <- feature f with
    | .merge _ => Merge.observe g f e
    | .queue .. | .changeTracker .. => observeQueue f e
    | .shapes _ => Shapes.observe g f e
    | _ => observe g f e
  match e with
  | .attached f | .detached f => tell f
  | _ =>
    for f in (<- graph g).features do
      tell f
      let heard := !(e matches .validate)
        || (<- feature f) matches .replaceValidate .. | .noOutputFromInplace .. | .memory _ | .supervisor _
      if heard && (<- graph g).told.lookup f == some false then
        modifyGraph g fun x => { x with told := alistSet f true x.told }

def kit : Nat -> Kit
  | 0 => .empty
  | depth + 1 =>
    let k := kit depth
    { notify := fun g e => (tellObservers g e).toBase k,
      makeNode := fun o args kw => (opNode o args kw).toBase k,
      prepare := fun n => (opPrepare n).toBase k,
      perform := fun n args => (opPerform n args).toBase k,
      pullback := fun o ins outs gs => (opPullback o ins outs gs).toBase k,
      pushforward := fun o ins ds => (opPushforward o ins ds).toBase k,
      connections := fun n => (opConnections? n).toBase k,
      inferShape := fun g n shapes => (opShapes g n shapes).toBase k,
      attr := fun v name => (catalog.attr v name).toBase k,
      call := fun v args kw => (catalog.call v args kw).toBase k,
      requirePass := fun p g => (passRequirements ruleBook p g).toBase k,
      applyPass := fun p g => (passApply ruleBook p g).toBase k,
      runRule := fun p g n => (ruleProposal ruleBook p g n).toBase k,
      patternBroadcast := fun v bs => (Tensor.patternBroadcast v bs).toBase k,
      stack := fun xs => (stackVar xs).toBase k,
      toSparse := fun f d x => (SparseExpr.convert f d x).toBase k }
where
  stackVar (xs : Values) : M VarId := do
    let .var v <- Tensor.stack xs 0 | badType
    pure v

def maxDepth : Nat := 400
def topKit : Kit := kit maxDepth

inductive Json
  | null
  | bool (b : Bool)
  | int (i : Int)
  | float (x : Float)
  | str (s : String)
  | list (xs : List Json)
  | obj (xs : List (String × Json))

namespace Json

/-! ## Reading -/

def skipBlanks : List Char -> List Char
  | c :: r => if c == ' ' || c == '\n' || c == '\t' || c == '\r' then skipBlanks r else c :: r
  | [] => []

def hexValue (c : Char) : Option Nat :=
  if '0' <= c && c <= '9' then some (c.toNat - '0'.toNat)
  else if 'a' <= c && c <= 'f' then some (c.toNat - 'a'.toNat + 10)
  else if 'A' <= c && c <= 'F' then some (c.toNat - 'A'.toNat + 10)
  else none

def hexUnit : List Char -> Option (Nat × List Char)
  | a :: b :: c :: d :: r => do
    let a <- hexValue a
    let b <- hexValue b
    return (((a * 16 + b) * 16 + (<- hexValue c)) * 16 + (<- hexValue d), r)
  | _ => none

def readString : Nat -> List Char -> List Char -> Option (String × List Char)
  | 0, _, _ => none
  | fuel + 1, acc, cs =>
    match cs with
    | '"' :: r => some (String.ofList acc.reverse, r)
    | '\\' :: 'n' :: r => readString fuel ('\n' :: acc) r
    | '\\' :: 't' :: r => readString fuel ('\t' :: acc) r
    | '\\' :: 'r' :: r => readString fuel ('\r' :: acc) r
    | '\\' :: 'b' :: r => readString fuel ('\x08' :: acc) r
    | '\\' :: 'f' :: r => readString fuel ('\x0c' :: acc) r
    | '\\' :: 'u' :: r =>
      match hexUnit r with
      | none => none
      | some (u, r) =>
        if 0xD800 <= u && u < 0xDC00 then
          match r with
          | '\\' :: 'u' :: r' =>
            match hexUnit r' with
            | some (l, r'') => readString fuel (Char.ofNat (0x10000 + (u - 0xD800) * 1024 + (l - 0xDC00)) :: acc) r''
            | none => none
          | _ => readString fuel ('?' :: acc) r
        else readString fuel (Char.ofNat u :: acc) r
    | '\\' :: c :: r | c :: r => readString fuel (c :: acc) r
    | [] => none

def numberOf (s : String) : Option Json :=
  if s.any fun c => c == '.' || c == 'e' || c == 'E' then (readFloat? s).map .float
  else s.toInt?.map .int

mutual

def readValue : Nat -> List Char -> Option (Json × List Char)
  | 0, _ => none
  | fuel + 1, cs =>
    match skipBlanks cs with
    | '"' :: r => (readString (r.length + 1) [] r).map fun (s, r) => (.str s, r)
    | '[' :: r =>
      match skipBlanks r with
      | ']' :: r => some (.list [], r)
      | r => readItems fuel [] r
    | '\x7b' :: r =>
      match skipBlanks r with
      | '\x7d' :: r => some (.obj [], r)
      | r => readMembers fuel [] r
    | 't' :: 'r' :: 'u' :: 'e' :: r => some (.bool true, r)
    | 'f' :: 'a' :: 'l' :: 's' :: 'e' :: r => some (.bool false, r)
    | 'n' :: 'u' :: 'l' :: 'l' :: r => some (.null, r)
    | r =>
      let isPart c := c.isDigit || c == '-' || c == '+' || c == '.' || c == 'e' || c == 'E'
      let digits := r.takeWhile isPart
      (numberOf (.ofList digits)).map fun n => (n, r.drop digits.length)

def readItems : Nat -> List Json -> List Char -> Option (Json × List Char)
  | 0, _, _ => none
  | fuel + 1, acc, cs =>
    match readValue fuel cs with
    | none => none
    | some (x, r) =>
      match skipBlanks r with
      | ',' :: r => readItems fuel (x :: acc) r
      | ']' :: r => some (.list (x :: acc).reverse, r)
      | _ => none

def readMembers : Nat -> Table Json -> List Char -> Option (Json × List Char)
  | 0, _, _ => none
  | fuel + 1, acc, cs =>
    match skipBlanks cs with
    | '"' :: r =>
      match readString (r.length + 1) [] r with
      | none => none
      | some (k, r) =>
        match skipBlanks r with
        | ':' :: r =>
          match readValue fuel r with
          | none => none
          | some (x, r) =>
            match skipBlanks r with
            | ',' :: r => readMembers fuel ((k, x) :: acc) r
            | '\x7d' :: r => some (.obj ((k, x) :: acc).reverse, r)
            | _ => none
        | _ => none
    | _ => none

end

def parse? (s : String) : Option Json :=
  let cs := s.toList
  if let some (v, r) := readValue (cs.length + 1) cs then if (skipBlanks r).isEmpty then some v else none else none

/-! ## Writing -/

def hexDigit (n : Nat) : Char := "0123456789abcdef".toList.getD n '0'

def escape (c : Char) : String :=
  if c == '"' then "\\\""
  else if c == '\\' then "\\\\"
  else if c == '\n' then "\\n"
  else if c == '\t' then "\\t"
  else if c == '\r' then "\\r"
  else if c.toNat < 32 || c.toNat == 127 then
    "\\u00" ++ .ofList [hexDigit (c.toNat / 16), hexDigit (c.toNat % 16)]
  else c.toString

def quote (s : String) : String := s!"\"{String.join (s.toList.map escape)}\""

mutual

def render : Json -> String
  | null => "null"
  | bool b => if b then "true" else "false"
  | int i => toString i
  | float x => floatLiteral x
  | str s => quote s
  | list xs => "[" ++ .intercalate "," (renderItems xs) ++ "]"
  | obj xs => "\x7b" ++ .intercalate "," (renderMembers xs) ++ "\x7d"

def renderItems : List Json -> List String
  | [] => []
  | x :: xs => x.render :: renderItems xs

def renderMembers : Table Json -> List String
  | [] => []
  | (k, x) :: xs => s!"{quote k}:{x.render}" :: renderMembers xs

end

def member? (k : String) : Json -> Option Json
  | obj xs => xs.lookup k
  | _ => none

/-! ## Programs -/

mutual

def toExpr : Json -> Expr
  | null => .null
  | bool b => .bool b
  | int i => .int i
  | float x => .float x
  | str s => if s.startsWith "$" then .ref (s.drop 1).toString else .str s
  | list xs => .list (toExprs xs)
  | obj xs =>
    match callOf xs none [] with
    | (some (h, args), kw) => .call h args kw
    | (none, kw) => .call "" [] kw

def toExprs : List Json -> List Expr
  | [] => []
  | x :: xs => toExpr x :: toExprs xs

def callOf : Table Json -> Option (String × List Expr) -> Table Expr ->
    Option (String × List Expr) × Table Expr
  | [], h, kw => (h, kw)
  | (k, x) :: r, h, kw =>
    if k == "kw" then
      if let .obj ys := x then callOf r h (toKw ys) else callOf r h kw
    else
      match x with
      | .list ys => callOf r (some (k, toExprs ys)) kw
      | y => callOf r (some (k, [toExpr y])) kw

def toKw : Table Json -> Table Expr
  | [] => []
  | (k, x) :: xs => (k, toExpr x) :: toKw xs

end

end Json

/-! ## Answers -/

def withoutAddresses (s : String) : String :=
  match s.splitOn " at 0x" with
  | [] => ""
  | first :: rest => rest.foldl (fun acc part =>
      acc ++ .ofList (part.toList.dropWhile fun c => c.isDigit || ('a' <= c && c <= 'f'))) first

def DType.shownDigits : DType -> Nat
  | .float16 => 3
  | .float32 | .complex64 => 5
  | _ => 9

def intEntry (i : Int) : Json := if i.natAbs < .pow 2 53 then .int i else .str (toString i)
def floatEntry (digits : Nat) (x : Float) : Json := .str (generalText digits x)

def elemEntry (d : DType) : Elem -> Json
  | .int i => if d == .bool then .bool (i != 0) else intEntry i
  | .flt x => floatEntry d.shownDigits x
  | .cpx re im => .list [floatEntry d.shownDigits re, floatEntry d.shownDigits im]

def arrayEntry (d : DType) (shape : List Nat) (data : List Elem) : Json :=
  .obj [("dtype", .str d.name), ("shape", .list (shape.map fun (n : Nat) => .int n)),
    ("data", .list (data.map (elemEntry d)))]

def faultEntry (e : Fault) : Json :=
  if let some m := e.shown? then .obj [("error", .str e.kind.name), ("message", .str (withoutAddresses m))]
  else .obj [("error", .str e.kind.name)]

def matrixEntry (m : SparseMatrix) : Json :=
  let s := m.sorted
  let nats (xs : Array Nat) := .list (xs.toList.map fun (n : Nat) => .int n)
  .obj [("format", .str s.format.name), ("shape", .list [.int s.rows, .int s.cols]),
    ("data", arrayEntry s.dtype [s.data.size] s.data.toList),
    ("indices", nats s.indices), ("indptr", nats s.indptr)]

def unknownClasses : List String := ["FreeVariable", "BoundVariable", "OrVariable", "NotVariable"]

def mappingClasses : List String :=
  ["OrderedUpdates", "frozendict", "FrozenOrderedDict", "DefaultOrderedDict", "OrderedDict"]

mutual

def entryOf (c : Catalog) : Nat -> Value -> M Json
  | 0, _ => pure .null
  | fuel + 1, v => do
    match v with
    | .null => pure .null
    | .bool b => return .bool b
    | .str s => return .str (withoutAddresses s)
    | .int i => return intEntry i
    | .float x => return .obj [("float", floatEntry 9 x)]
    | .complex re im => return .obj [("complex", .list [floatEntry 9 re, floatEntry 9 im])]
    | .array a => return arrayEntry a.dtype a.shape a.data.toList
    | .number d e => return arrayEntry d [] [e]
    | .objects shape xs =>
      return .obj [("dtype", .str "object"), ("shape", .list (shape.map fun (n : Nat) => .int n)),
        ("data", .list (<- entriesOf c fuel xs))]
    | .sparse m => return matrixEntry m
    | .var x =>
      let base := [("var", .str (withoutAddresses (<- typeText x))), ("is", .str (withoutAddresses (<- varText x)))]
      let some d <- constant? x | return .obj base
      return .obj (base ++ [("data", <- entryOf c fuel d)])
    | .node n =>
      return .obj [("apply", .str (withoutAddresses (<- opText (<- opOf n)))),
        ("in", .list (<- entriesOf c fuel (valuesOf (<- insOf n)))),
        ("out", .list (<- entriesOf c fuel (valuesOf (<- outsOf n))))]
    | .op o => return .obj [("op", .str (withoutAddresses (<- opText o)))]
    | .type t => return .obj [("type", .str t.text)]
    | .graph g =>
      let x <- graph g
      if x.disowned then return .obj [("fgraph", .null), ("graph", .null)]
      return .obj [("fgraph", .list (<- x.inputs.mapM fun v => do return .str (withoutAddresses (<- varText v)))),
        ("graph", .str (withoutAddresses (<- showGraph g)))]
    | .function _ => return .obj [("function", .str (withoutAddresses (<- showValue { types := true } v)))]
    | .list cell => return .list (<- entriesOf c fuel (<- cellItems cell))
    | .tuple xs => return .obj [("tuple", .list (<- entriesOf c fuel xs))]
    | .set cell =>
      let es <- entriesOf c fuel (<- cellItems cell)
      return .obj [("set", .list (es.mergeSort fun a b => decide (a.render <= b.render)))]
    | .orderedSet cell => return .obj [("oset", .list (<- entriesOf c fuel (<- cellItems cell)))]
    | .dict cell => return .obj [("dict", .list (<- pairEntries c fuel (<- cellPairs cell)))]
    | .slice a b s => return .obj [("slice", .list [<- entryOf c fuel a, <- entryOf c fuel b, <- entryOf c fuel s])]
    | .dtype n => return .obj [("npdtype", .str n)]
    | .cls n => return .obj [("class", .str n)]
    | .api path =>
      let some (.cls n _) := c.entries[path]? | return .obj [("obj", .str "function")]
      return .obj [("class", .str n)]
    | .record r =>
      let x <- record r
      if unknownClasses.contains x.cls then
        let name := (x.fields.lookup "name").getD .null
        let rest := x.fields.filter fun (k, _) => k != "name" && k != "asked"
        return .obj [("uvar", .str x.cls), ("name", <- entryOf c fuel name),
          ("value", .list (<- entriesOf c fuel (rest.map (·.2))))]
      if mappingClasses.contains x.cls then
        let some (.dict cell) := x.fields.lookup "items" | return .obj [("obj", .str x.cls)]
        return .obj [("dict", .list (<- pairEntries c fuel (<- cellPairs cell)))]
      return .obj [("obj", .str x.cls)]
    | v => return .obj [("obj", .str (<- classNameOf v))]

def entriesOf (c : Catalog) : Nat -> Values -> M (List Json)
  | 0, _ | _, [] => pure []
  | fuel + 1, v :: vs => do return (<- entryOf c fuel v) :: (<- entriesOf c (fuel + 1) vs)

def pairEntries (c : Catalog) : Nat -> Pairs -> M (List Json)
  | 0, _ | _, [] => pure []
  | fuel + 1, (k, v) :: ps => do
    return (.list [<- entryOf c fuel k, <- entryOf c fuel v]) :: (<- pairEntries c (fuel + 1) ps)

end

/-! ## Programs -/

structure Program where
  flags : Table Json := []
  clock : Option Float := none
  steps : Table Expr := []

def Program.ofJson? (j : Json) : Option Program := do
  let flags := if let some (.obj fs) := j.member? "flags" then fs else []
  let clock := match j.member? "clock" with
    | some (.int i) => some (floatOfInt i)
    | some (.float x) => some x
    | _ => none
  match j.member? "steps" with
  | some (.list steps) =>
    let steps <- steps.mapM fun
      | .list [.str name, e] => some (name, e.toExpr)
      | _ => none
    return { flags, clock, steps }
  | _ => none

def flagValue : Json -> Value
  | .bool b => b
  | .int i => i
  | .float x => .float x
  | .str s => s
  | _ => .null

def Session.initial (clock : Option Float) : Session := { library.1 with clock }

def runStep (name : String) (e : Expr) : M Json := do
  M.modify fun s => { s with printed := "" }
  let entry <- try
      let v <- evalExpr catalog [] e
      let entry <- entryOf catalog 200 v
      if !name.isEmpty then M.modify fun s => { s with bindings := (name, v) :: alistErase name s.bindings }
      pure entry
    catch e =>
      M.modify fun s => { s with bindings := alistErase name s.bindings }
      pure (faultEntry e)
  match (<- get).printed with
  | "" => pure entry
  | t => return .obj [("value", entry), ("stdout", .str (withoutAddresses t))]

def Program.run (p : Program) : Json :=
  let all : M Json := do
    let flags := p.flags.map fun (k, v) => (k, flagValue v)
    let refused <- try
        changeSettings flags
        pure none
      catch e => pure (some e)
    match refused with
    | some e => return faultEntry e
    | none =>
      return .obj [("results", .list (<- p.steps.mapM fun (n, e) => runStep n e))]
  match all topKit (.initial p.clock) with
  | .ok j _ => j
  | .error e _ => faultEntry e

def answerLine (line : String) : String :=
  match Json.parse? line with
  | none => (Json.obj [("error", .str "ValueError")]).render
  | some j =>
    if let some p := Program.ofJson? j then p.run.render
    else (Json.obj [("error", .str "ValueError")]).render

end TensorGraph
