/-!
# Faults

Every way in which building, rewriting or running an expression can fail. A fault has a kind, the
name under which callers know it, and a message when the library itself states the reason; a fault
that comes from arithmetic, from an argument list that does not fit or from a broken internal
condition carries no message.
-/

namespace TensorGraph

/-- Kinds of faults, by the name a caller sees. -/
inductive FaultKind
  | type | value | index | key | attr | assertion | notImplemented | zeroDivision | overflow
  | runtime | generic | memory | recursion | undefined | linAlg
  | missingInput | inconsistency | unusedInput | testValue | alreadyThere | replacementKept
  | notScalarConstant | emptyConstant | shape | complex | integerDivision | advancedIndexing
  | disconnectedInput | nullTypeGrad | gradient | badOptimization | badDestroyMap | badViewMap
  | badThunkOutput | stochasticOrder | invalidValue | aliasedMemory | methodNotDefined | protocol
  | unboundName | unboundLocal | axis
  | named (s : String)
deriving BEq

def FaultKind.names : List (FaultKind × String) :=
  [ (type, "TypeError"), (value, "ValueError"), (index, "IndexError"), (key, "KeyError"), (attr, "AttributeError"),
    (assertion, "AssertionError"), (notImplemented, "NotImplementedError"), (zeroDivision, "ZeroDivisionError"),
    (overflow, "OverflowError"), (runtime, "RuntimeError"), (generic, "Exception"), (memory, "MemoryError"),
    (recursion, "RecursionError"), (undefined, "Undefined"), (linAlg, "LinAlgError"),
    (missingInput, "MissingInputError"), (inconsistency, "InconsistencyError"), (unusedInput, "UnusedInputError"),
    (testValue, "TestValueError"), (alreadyThere, "AlreadyThere"), (replacementKept, "ReplacementDidNotRemoveError"),
    (notScalarConstant, "NotScalarConstantError"), (emptyConstant, "EmptyConstantError"), (shape, "ShapeError"),
    (complex, "ComplexError"), (integerDivision, "IntegerDivisionError"), (advancedIndexing, "AdvancedIndexingError"),
    (disconnectedInput, "DisconnectedInputError"), (nullTypeGrad, "NullTypeGradError"), (gradient, "GradientError"),
    (badOptimization, "BadOptimization"), (badDestroyMap, "BadDestroyMap"), (badViewMap, "BadViewMap"),
    (badThunkOutput, "BadThunkOutput"), (stochasticOrder, "StochasticOrder"), (invalidValue, "InvalidValueError"),
    (aliasedMemory, "AliasedMemoryError"), (methodNotDefined, "MethodNotDefined"), (protocol, "ProtocolError"),
    (unboundName, "NameError"), (unboundLocal, "UnboundLocalError"), (axis, "AxisError") ]

def FaultKind.name : FaultKind -> String
  | named s => s
  | k => (names.lookup k).getD ""

def FaultKind.ofName (s : String) : FaultKind := ((names.find? (·.2 == s)).map (·.1)).getD (named s)
abbrev Checked := Except FaultKind

/-- A failure: its kind, its text, and whether the library states the text as its reason. -/
structure Fault where
  kind : FaultKind
  message : String := ""
  told : Bool := false

namespace Fault

variable (f : Fault) (k : FaultKind)

def told' (m : String) : Fault := ⟨k, m, true⟩
def plain (m : String := "") : Fault := ⟨k, m, false⟩

def isA : Bool :=
  f.kind == k ||
  match k with
  | .generic => true
  | .type => f.kind == .advancedIndexing || f.kind == .nullTypeGrad
  | .value => f.kind == .disconnectedInput || f.kind == .axis
  | .index => f.kind == .axis
  | .notImplemented => f.kind == .complex
  | .notScalarConstant => f.kind == .emptyConstant
  | .runtime => f.kind == .recursion || f.kind == .notImplemented || f.kind == .complex
  | _ => false

def digitRun (cs : List Char) : Nat :=
  (cs.foldl (fun (best, cur) c =>
    let cur := if c.isDigit then cur + 1 else 0
    (max best cur, cur)) (0, 0)).1

def listsInBraces : Bool -> List Char -> Bool
  | _, [] => false
  | true, ',' :: ' ' :: _ => true
  | _, '\x7b' :: cs => listsInBraces true cs
  | _, '\x7d' :: cs => listsInBraces false cs
  | b, _ :: cs => listsInBraces b cs

def shown? : Option String :=
  if !f.told then none else
  let line := ((f.message.splitOn "\n").headD "").toList
  let blank c := c == ' ' || c == '\t' || c == '\r' || c == '\x0c' || c == '\x0b'
  let line := (line.reverse.dropWhile blank).reverse
  if digitRun line >= 12 || listsInBraces false line then none else some (.ofList line)

end Fault

end TensorGraph
