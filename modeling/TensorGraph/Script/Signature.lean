import TensorGraph.Tensor.Product

/-! # Parameters of functions -/

namespace TensorGraph

inductive FormalKind
  | plain | rest | named
deriving DecidableEq

structure Formal where
  name : String
  kind : FormalKind := .plain
  default : Option Value := none
  nameOnly : Bool := false

variable (path : String) (v : Value) (s : String) (os : List Op) (o : Op) (name params : String) (run : Values -> M Value)

def atomValue : Value :=
  match s with
  | "None" => .null
  | "True" => true
  | "False" => false
  | "()" | "[]" => .tuple []
  | s =>
    if s.startsWith "'" then ((s.drop 1).dropEnd 1).toString
    else if let some i := s.toInt? then i else if let some x := readFloat? s then .float x else s

def topParts : List String :=
  let (parts, last, _) := s.toList.foldl (fun (parts, cur, depth) c =>
    if c == ',' && depth == 0 then (parts ++ [cur], "", depth)
    else (parts, cur.push c, if c == '(' then depth + 1 else if c == ')' then depth - 1 else depth)) (([] : List String), "", (0 : Int))
  (parts ++ [last]).map (·.trimAscii.toString)

def defaultValue : Value :=
  if s.startsWith "(" && s != "()" then
    .tuple (((topParts ((s.drop 1).dropEnd 1).toString).filter (!·.isEmpty)).map atomValue)
  else atomValue s

def parseFormals : List Formal :=
  ((topParts s).foldl (fun (acc, only) p =>
    if p.isEmpty then (acc, only)
    else if p == "*" then (acc, true)
    else if p.startsWith "**" then (acc ++ [{ name := (p.drop 2).toString, kind := .named }], only)
    else if p.startsWith "*" then (acc ++ [{ name := (p.drop 1).toString, kind := .rest }], true)
    else match p.splitOn "=" with
      | [n] => (acc ++ [{ name := n, nameOnly := only }], only)
      | n :: d => (acc ++ [{ name := n, default := some (defaultValue (.intercalate "=" d)), nameOnly := only }], only)
      | [] => (acc, only)) (([] : List Formal), false)).1

def bindArgs (ps : List Formal) (args : Values) (kw : Table Value) : Option Values :=
  let positional := ps.filter fun p => p.kind == .plain && !p.nameOnly
  let given := positional.zip args
  let surplus := args.drop positional.length
  let others := kw.filter fun (k, _) => !ps.any fun p => p.kind == .plain && p.name == k
  let has k := ps.any (·.kind == k)
  if (!surplus.isEmpty && !has .rest) || (!others.isEmpty && !has .named) then none
  else if given.any fun (p, _) => (kw.lookup p.name).isSome then none
  else
    ps.mapM fun p =>
      match p.kind with
      | .rest => some (.tuple surplus)
      | .named => some (.tuple (others.map fun (k, v) => .tuple [k, v]))
      | .plain => (given.find? (·.1.name == p.name)).map (·.2) <|> kw.lookup p.name <|> p.default

/-- Something that can be called: its parameters and what it does with them. -/
structure Callable where
  params : String
  run : Values -> M Value

def Callable.call (c : Callable) (args : Values) (kw : Table Value) : M Value :=
  if let some vs := bindArgs (parseFormals c.params) args kw then c.run vs else badType

/-- A name that programs know. -/
inductive ApiEntry
  | value (v : M Value)
  | fn (c : Callable)
  | cls (name : String) (c : Callable)
  | raw (run : Values -> Table Value -> M Value)

def Value.pairs : Value -> Table Value
  | .tuple xs => xs.filterMap fun
    | .tuple [.str k, v] => some (k, v)
    | _ => none
  | _ => []

abbrev ApiRow := String × ApiEntry
abbrev MethodRow := String × Callable
def under (t : Table α) : Table α := t.map fun (n, e) => (path ++ "." ++ n, e)
def fn : ApiRow := (name, .fn ⟨params, run⟩)

def cls : ApiRow := (path, .cls ((path.splitOn ".").getLastD path) ⟨params, run⟩)

def val : ApiRow := (path, .value (pure v))

/-- A class of a single operator. -/
def opClass : ApiRow := cls path "" fun _ => return o

def opEntry : ApiRow := val path o
def opClasses : Table ApiEntry := os.map fun o => opClass o.className o

/-- The name of the operator of a class: the words of the class in small letters. -/
def nameFor : String :=
  o.className.foldl (fun s c => (if c.isUpper && s != "" then s.push '_' else s).push c.toLower) ""

def opsAndClasses : Table ApiEntry := opClasses os ++ os.map fun o => opEntry (nameFor o) o
def meth : MethodRow := (name, ⟨params, run⟩)

/-! ## Typed arguments -/

/-- What arguments are read as. -/
class Arg (α : Type) where
  read : Value -> M α

/-- What functions give back. -/
class Answer (α : Type) where
  write : α -> M Value

@[default_instance low] instance : Arg Value := ⟨pure⟩

@[default_instance] instance : Answer Value := ⟨pure⟩

instance : Answer Unit := ⟨fun _ => pure .null⟩
instance [Coe α Value] : Answer α := ⟨fun a => pure a⟩
instance [Answer α] : Answer (List α) := ⟨fun l => do newList (<- l.mapM Answer.write)⟩
instance [Answer α] : Answer (Option α) := ⟨fun | some a => Answer.write a | _ => pure .null⟩
def varArg : M VarId := if let .var x := v then pure x else noAttr
def strArg : M String := if let .str s := v then pure s else badType
def oneOf (words : List String) (refuse : M String := unmet) : M String :=
  if let .str s := v then if words.contains s then pure s else refuse else refuse

def graphArg : M GraphId := if let .graph g := v then pure g else noAttr
instance : Arg VarId := ⟨varArg⟩
instance : Arg NodeId := ⟨fun | .node n => pure n | _ => noAttr⟩
instance : Arg GraphId := ⟨graphArg⟩
instance : Arg PassId := ⟨fun | .pass p => pure p | _ => noAttr⟩
instance : Arg DbId := ⟨fun | .database d => pure d | _ => unmet⟩
instance : Arg RecordId := ⟨fun | .record r => pure r | _ => noAttr⟩
instance : Arg FuncId := ⟨fun | .function f => pure f | _ => noAttr⟩
instance : Arg FeatureId := ⟨fun | .feature f => pure f | _ => noAttr⟩
instance : Arg Op := ⟨fun | .op o => pure o | _ => noAttr⟩
instance : Arg Ty := ⟨fun | .type t => pure t | _ => noAttr⟩
instance : Arg Int := ⟨intArg⟩
instance : Arg Nat := ⟨fun v => Int.toNat <$> intArg v⟩
instance : Arg String := ⟨strArg⟩
instance : Arg Bool := ⟨truthOf⟩
instance : Arg NdArray := ⟨arrayOf⟩
instance [Arg α] : Arg (List α) := ⟨fun v => do (<- iterate v).mapM Arg.read⟩

instance [Arg α] [Arg β] : Arg (α × β) :=
  ⟨fun v => do if let [a, b] := <- iterate v then return (<- Arg.read a, <- Arg.read b) else badValue⟩

instance [Arg α] : Arg (Option α) := ⟨fun v => if v.isNull then pure none else some <$> Arg.read v⟩
instance : Arg (Option DType) := ⟨dtypeArg⟩
instance : Arg DType := ⟨fun v => do if let some d <- dtypeArg v then return d else badType⟩
def arg [Arg α] (v : Value) : M α := Arg.read v
def varsArg : Value -> M Vars := arg

section

variable [Arg α] [Arg β] [Arg γ] [Arg δ] [Arg ε] [Arg ζ] [Arg η] [Answer θ]

def of0 (f : M θ) : Values -> M Value
  | [] => do Answer.write (<- f)
  | _ => badType

def ofFirst (f : α -> Values -> M Value) : Values -> M Value
  | a :: l => do f (<- arg a) l
  | [] => badType

def of1 (f : α -> M θ) := ofFirst fun a => of0 (f a)
def of2 (f : α -> β -> M θ) := ofFirst fun a => of1 (f a)
def of3 (f : α -> β -> γ -> M θ) := ofFirst fun a => of2 (f a)
def of4 (f : α -> β -> γ -> δ -> M θ) := ofFirst fun a => of3 (f a)
def of5 (f : α -> β -> γ -> δ -> ε -> M θ) := ofFirst fun a => of4 (f a)
def of6 (f : α -> β -> γ -> δ -> ε -> ζ -> M θ) := ofFirst fun a => of5 (f a)
def of7 (f : α -> β -> γ -> δ -> ε -> ζ -> η -> M θ) := ofFirst fun a => of6 (f a)

/-! ## Entries by the number of their arguments -/

variable (name params : String)

def fn1 (f : α -> M θ) := fn name params (of1 f)
def fn2 (f : α -> β -> M θ) := fn name params (of2 f)
def fn3 (f : α -> β -> γ -> M θ) := fn name params (of3 f)
def fn4 (f : α -> β -> γ -> δ -> M θ) := fn name params (of4 f)
def fn5 (f : α -> β -> γ -> δ -> ε -> M θ) := fn name params (of5 f)
def cls1 (f : α -> M θ) := cls name params (of1 f)
def cls2 (f : α -> β -> M θ) := cls name params (of2 f)
def cls3 (f : α -> β -> γ -> M θ) := cls name params (of3 f)
def meth1 (f : α -> M θ) := meth name params (of1 f)
def meth2 (f : α -> β -> M θ) := meth name params (of2 f)
def meth3 (f : α -> β -> γ -> M θ) := meth name params (of3 f)
def meth4 (f : α -> β -> γ -> δ -> M θ) := meth name params (of4 f)

end

/-! ## What programs can name -/

structure Catalog where
  entries : Std.HashMap String ApiEntry
  attributes : Std.HashMap String (Value -> M Value)
  methods : Std.HashMap String Callable

def attr_ [Arg α] [Answer β] (name : String) (read : α -> M β) : String × (Value -> M Value) :=
  (name, fun v => do Answer.write (<- read (<- arg v)))

def PassBody.isLocal : PassBody -> Bool
  | .rule _ | .localFn .. | .opSub .. | .opRemove _ | .pattern .. | .group .. | .canonizer .. | .metaRule .. => true
  | _ => false

variable (c : Catalog) (path : String) (v : Value) (name : String)

def kindsOf : M (List String) := do
  let cls <- classNameOf v
  match v with
  | .bool _ => pure ["bool", "int"]
  | .array _ | .number .. | .objects .. => pure ["array"]
  | .sparse _ => pure ["matrix"]
  | .dtype _ => pure ["dtype"]
  | .var x =>
    let i <- varInfo x
    let family := match i.type with
      | .tensor .. => "tensor"
      | .scalar _ => "scalar"
      | .sparse .. => "sparse"
      | _ => "other"
    let role := match i.role with
      | .constant _ => ["constant"]
      | .shared _ => ["shared"]
      | .plain => []
    return [cls, family] ++ role ++ ["var"]
  | .node _ => pure ["node"]
  | .op o => return [o.className, o.family] ++ (match o with
      | .scalar _ => ["scalarOp"]
      | .reduce _ => ["reduction"]
      | _ => []) ++ ["op"]
  | .type t => pure [t.className, "type"]
  | .graph _ => pure ["graph"]
  | .function _ => pure ["function"]
  | .feature _ => pure [cls, "feature"]
  | .pass p => pure [cls, if (<- pass p).body.isLocal then "localPass" else "globalPass", "pass"]
  | .database _ => pure [cls, "db"]
  | .record _ => pure [cls, "record"]
  | .tag _ => pure ["tag"]
  | _ => pure [cls]

/-- Names of a part of the library that are also known under another path. -/
def pathAliases : Table String :=
  parts "tensor" "tensor." ["basic"] ++ [("tensor.basic.", "compile.")]
  ++ parts "tensor" "tensor." ["elemwise", "subtensor", "extra_ops", "type", "type_other", "var", "sort", "inplace", "opt",
    "sharedvar", "io"]
  ++ parts "scalar" "scalar." ["basic", "basic_scipy", "sharedvar"]
  ++ [("ifelse.", "graph.basic."), ("gradient.", ""), ("tensor.", ""), ("compile.", ""), ("scan.", ""), ("scan.basic.", "")]
  ++ parts "compile" "compile." ["function.types", "function", "io", "ops", "mode", "builders"]
  ++ parts "compile" "" ["sharedvalue"]
  ++ parts "compile" "compile." ["debugmode", "monitormode", "nanguardmode", "profiling"]
  ++ parts "tensor.nnet" "tensor.nnet." ["nnet", "sigm", "bn", "abstract_conv", "neighbours", "conv3d2d", "ctc", "conv"]
  ++ parts "sparse" "sparse." ["basic", "type", "sharedvar"] ++ parts "typed_list" "typed_list." ["basic", "type", "opt"]
  ++ [("graph.", ""), ("printing.", ""), ("scan.utils.", "graph.basic."),
    ("sandbox.linalg.", "sandbox.linalg.ops."), ("ifelse.", ""), ("updates.", ""), ("sandbox.multinomial.", "sandbox.")]
  ++ parts "link" "link." ["utils", "basic", "vm"] ++ [("raise_op.", "")]
where
  parts (whole target : String) (names : List String) : Table String :=
    names.map fun n => (s!"{whole}.{n}.", target)

namespace Catalog

def find? : Option ApiRow :=
  match c.entries[path]? with
  | some e => some (path, e)
  | none =>
    pathAliases.findSome? fun (a, b) =>
      if path.startsWith a then
        let p := b ++ (path.drop a.length).toString
        (c.entries[p]?).map fun e => (p, e)
      else none

def attribute? : M (Option (Value -> M Value)) := do
  return (<- kindsOf v).findSome? fun k => c.attributes[k ++ "." ++ name]?

def method? : M (Option Callable) := do
  return (<- kindsOf v).findSome? fun k => c.methods[k ++ "." ++ name]?

def valueOf : ApiEntry -> M Value
  | .value v => v
  | _ => pure (.api path)

end Catalog

def ownAttribute? : M (Option Value) := do
  match v with
  | .var x => return (<- varInfo x).attrs.lookup name
  | .record r => return (<- record r).fields.lookup name
  | .feature f =>
    let .plain l <- feature f | pure none
    return l.lookup name
  | .graph g => return (<- graph g).attrs.lookup name
  | .function f => return ((<- get).functions.getD f.idx default).attrs.lookup name
  | .tag (.var x) => tagOf x name
  | .tag (.node n) =>
    match <- nodeTag n name with
    | some (.tuple xs) => return some (<- newList xs)
    | r => pure r
  | _ => pure none

def Catalog.attr : M Value := do
  if let some x <- ownAttribute? v name then return x
  if let some read <- c.attribute? v name then return <- read v
  if (<- c.method? v name).isSome then return .method v name
  match v with
  | .api path =>
    let some (p, e) := c.find? s!"{path}.{name}" | noAttr
    Catalog.valueOf p e
  | .op o =>
    let some x := o.params.lookup name | noAttr
    pure x.toValue
  | .record _ =>
    if (<- c.method? v "__getattr__").isNone then noAttr
    callMethod v "__getattr__" [name]
  | _ => noAttr

def Catalog.resolve : M Value := do
  if let some (p, e) := c.find? path then return <- Catalog.valueOf p e
  let parts := path.splitOn "."
  let split := (List.range parts.length).reverse.findSome? fun k =>
    (c.find? (.intercalate "." (parts.take k))).map fun e => (k, e)
  let some (k, p, e) := split
    | if c.entries.keys.any (·.startsWith (path ++ ".")) then newRecord "module" [] else raise .undefined
  let base <- Catalog.valueOf p e
  (parts.drop k).foldlM (fun v name => do
    try c.attr v name
    catch _ => raise .undefined) base

/-! ## Evaluating expressions -/

def makeVariable (t : Ty) (name : Value) : M VarId := do
  match name with
  | .null => newVar t
  | .str s => newVar t (some s)
  | v => failType s!"('name must be a string', {<- reprOf v})"

mutual

def evalExpr (c : Catalog) (scope : Table Value) : Expr -> M Value
  | .null => pure .null
  | .bool b => pure b
  | .int i => pure i
  | .float x => return .float x
  | .str s => pure s
  | .ref name => do
    let some v := scope.lookup name <|> (<- get).bindings.lookup name | raise .undefined
    pure v
  | .list xs => do newList (<- evalAll c scope xs)
  | .call head args kw => do
    if head == "lambda" then
      let [.list names, body] := args | badType
      return .lambda (names.filterMap fun
        | .str s => some s
        | _ => none) body scope
    else if head == "get" then
      let [.str path] := args | badType
      c.resolve path
    else
      let vs <- evalAll c scope args
      let ks <- evalKw c scope kw
      if head.startsWith "." then
        let v :: vs := vs | badType
        callMethod v (head.drop 1).toString vs ks
      else if head.startsWith "@" then
        let [v] := vs | badType
        attrOf v (head.drop 1).toString
      else callValue (<- c.resolve head) vs ks

def evalAll (c : Catalog) (scope : Table Value) : List Expr -> M Values
  | [] => pure []
  | e :: es => do return (<- evalExpr c scope e) :: (<- evalAll c scope es)

def evalKw (c : Catalog) (scope : Table Value) : Table Expr -> M Kw
  | [] => pure []
  | (k, e) :: es => do return (k, <- evalExpr c scope e) :: (<- evalKw c scope es)

end

def Catalog.callMethod (self : Value) (name : String) (args : Values) (kw : Kw) : M Value := do
  if let some f <- ownAttribute? self name then return <- callValue f args kw
  if let some m <- c.method? self name then
    let some vs := bindArgs (parseFormals m.params) args kw | badType
    return <- m.run (self :: vs)
  if let some read <- c.attribute? self name then return <- callValue (<- read self) args kw
  let .api _ := self | noAttr
  callValue (<- c.attr self name) args kw

def Catalog.call (args : Values) (kw : Kw) : M Value := do
  match v with
  | .api path =>
    match c.entries[path]? with
    | some (.fn f) | some (.cls _ f) => f.call args kw
    | some (.raw run) => run args kw
    | some (.value v) => do callValue (<- v) args kw
    | none => badType
  | .method self name => c.callMethod self name args kw
  | .lambda params body scope =>
    if !kw.isEmpty then badType
    evalExpr c (params.zip args ++ scope) body
  | .type t =>
    let some [name] := bindArgs [{ name := "name", default := some .null }] args kw | badType
    makeVariable t name
  | v =>
    if (<- c.method? v "__call__").isSome then c.callMethod v "__call__" args kw
    else if let .op o := v then callOp o args kw else badType

end TensorGraph
