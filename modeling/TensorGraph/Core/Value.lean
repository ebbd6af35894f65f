import TensorGraph.Op.Basic

/-!
# Values

`Value` is what a step of a program computes and what a variable holds at run time: numbers, arrays,
sequences, and references to the things a session owns (variables, nodes, graphs, functions,
mutable collections). Everything that can change after it was made is reached through a reference.
-/

namespace TensorGraph

/-- Things with names, in order. -/
abbrev Table (α : Type) := List (String × α)

/-- An expression of a step of a program. -/
inductive Expr
  | null
  | bool (b : Bool)
  | int (i : Int)
  | float (x : Float)
  | str (s : String)
  | ref (name : String)
  | list (xs : List Expr)
  | call (head : String) (args : List Expr) (kw : List (String × Expr))

/-- A variable of the session's arena. -/
structure VarId where
  idx : Nat
deriving DecidableEq, Hashable, Inhabited

abbrev Vars := List VarId
abbrev VarPairs := List (VarId × VarId)

/-- An application node of the session's arena. -/
structure NodeId where
  idx : Nat
deriving DecidableEq, Hashable, Inhabited

abbrev Nodes := List NodeId

/-- A function graph. -/
structure GraphId where
  idx : Nat
deriving DecidableEq, Inhabited

/-- A compiled function. -/
structure FuncId where
  idx : Nat
deriving DecidableEq

/-- An observer of a function graph. -/
structure FeatureId where
  idx : Nat
deriving DecidableEq

/-- A rewriting pass. -/
structure PassId where
  idx : Nat
deriving DecidableEq

/-- A database of rewriting passes. -/
structure DbId where
  idx : Nat
deriving DecidableEq

/-- A mutable collection: list, dictionary or set. -/
structure CellId where
  idx : Nat
deriving DecidableEq

/-- A record with named fields. -/
structure RecordId where
  idx : Nat
deriving DecidableEq, Inhabited

/-- Storage shared between a variable and the functions that read or update it. -/
structure BoxId where
  idx : Nat
deriving DecidableEq

/-- A sparse matrix in compressed form: `indptr` delimits, for each row (or column), the stored
elements in `data` and their column (or row) numbers in `indices`. -/
structure SparseMatrix where
  format : SparseFormat
  dtype : DType
  (rows cols : Nat)
  data : Array Elem
  (indices indptr : Array Nat)

/-- Whose annotations a tag holds. -/
inductive TagOwner
  | var (v : VarId)
  | node (n : NodeId)
deriving DecidableEq

inductive Value
  | null
  | bool (b : Bool)
  | int (i : Int)
  | float (x : Float)
  | complex (re im : Float)
  | str (s : String)
  | bytes (b : List Nat)
  | tuple (xs : List Value)
  | list (c : CellId)
  | dict (c : CellId)
  | set (c : CellId)
  | orderedSet (c : CellId)
  | slice (start stop step : Value)
  | ellipsis
  | array (a : NdArray)
  /-- an array whose elements are arbitrary values -/
  | objects (shape : List Nat) (xs : List Value)
  /-- a single element that knows its type -/
  | number (d : DType) (e : Elem)
  | sparse (m : SparseMatrix)
  | dtype (name : String)
  | var (v : VarId)
  | node (n : NodeId)
  | op (o : Op)
  | type (t : Ty)
  | graph (g : GraphId)
  | function (f : FuncId)
  | feature (f : FeatureId)
  | pass (p : PassId)
  | database (d : DbId)
  | record (r : RecordId)
  | tag (t : TagOwner)
  /-- a caller's function: its parameters, its body, and the arguments in scope where it was made -/
  | lambda (params : List String) (body : Expr) (scope : List (String × Value))
  /-- something of the library, by its name -/
  | api (path : String)
  | method (self : Value) (name : String)
  /-- a class, by its name -/
  | cls (name : String)
deriving Inhabited

abbrev Values := List Value
abbrev Pairs := List (Value × Value)
def valuesOf [c : Coe α Value] (l : List α) : Values := l.map c.coe

namespace Value

def ofNat (n : Nat) : Value := .int n

/-- The index that keeps a whole axis. -/
def whole : Value := .slice .null .null .null

instance : OfNat Value n := ⟨.ofNat n⟩
instance : Coe Nat Value := ⟨ofNat⟩
instance : Coe Int Value := ⟨.int⟩
instance : Coe Bool Value := ⟨.bool⟩
instance : Coe String Value := ⟨.str⟩
instance : Coe NdArray Value := ⟨.array⟩
instance : Coe VarId Value := ⟨.var⟩
instance : Coe NodeId Value := ⟨.node⟩
instance : Coe Op Value := ⟨.op⟩
instance : Coe Ty Value := ⟨.type⟩
instance : Coe GraphId Value := ⟨.graph⟩
instance : Coe FuncId Value := ⟨.function⟩
instance : Coe PassId Value := ⟨.pass⟩
instance : Coe FeatureId Value := ⟨.feature⟩
instance : Coe DbId Value := ⟨.database⟩
instance : Coe RecordId Value := ⟨.record⟩

def ofTest (b : Bool) : Value := .number .bool (.int b.toInt)
def ofBools (bs : List Bool) : Value := .tuple (bs.map .bool)
def ofOption (f : α -> Value) : Option α -> Value
  | some a => f a
  | none => .null
def ofName (s : Option String) : Value := ofOption .str s

def isNull : Value -> Bool
  | .null => true
  | _ => false

def var? : Value -> Option VarId
  | .var v => some v
  | _ => none

def str? : Value -> Option String
  | .str s => some s
  | _ => none

def int? : Value -> Option Int
  | .int i => some i
  | .bool b => some (if b then 1 else 0)
  | .number d e => if d.isDiscrete then some e.toInt else none
  | _ => none

def float? : Value -> Option Float
  | .int i => some (floatOfInt i)
  | .bool b => some (if b then 1 else 0)
  | .float x => some x
  | .number _ e => some e.toFloat
  | _ => none

def type? : Value -> Option Ty
  | .type t => some t
  | _ => none

end Value

mutual

/-- A literal as a value, for literals without lists. -/
def Lit.toValue : Lit -> Value
  | .none => .null
  | .bool b => b
  | .int i => i
  | .float x => .float x
  | .str s => s
  | .tuple xs | .list xs => .tuple (Lit.toValues xs)
  | .word s => s
  | .named _ v => v.toValue

def Lit.toValues : List Lit -> Values
  | [] => []
  | x :: xs => x.toValue :: Lit.toValues xs

end

def Value.toLit : Value -> Lit
  | .bool b => .bool b
  | .int i => .int i
  | .float x => .float x
  | .str s => .str s
  | _ => .none

end TensorGraph
