import TensorGraph.Catalog.Variable

/-! # Unification by name -/

namespace TensorGraph.Unify

/-- A pattern over plain values. Unknowns are numbers; `self` is the value that a pattern was read from. -/
inductive Pattern (α : Type) where
  | plain (a : α)
  | unknown (i : Nat)
  /-- matches a list, and makes the inner pattern one of its members -/
  | memberOf (self : α) (p : Pattern α)
  /-- a result to be computed from patterns -/
  | compute (self : α) (args : List (Pattern α))
  | list (fixed : Bool) (ps : List (Pattern α))
  | table (ps : List (α × Pattern α))

/-- Choices for an unknown; only those given as sets can be intersected and joined. -/
inductive Choices (α : Type) where
  | list (ps : List (Pattern α))
  | set (ps : List (Pattern α))

def Choices.members : Choices α -> List (Pattern α)
  | .list ps | .set ps => ps

/-- What an unknown may stand for. -/
inductive Range (α : Type) where
  | free
  | bound (p : Pattern α)
  | oneOf (c : Choices α)
  | noneOf (c : Choices α)

/-- How values are compared: by value, and by class and value. -/
structure Comparison (α : Type) where
  (equal same : α -> α -> Bool)

/-- What can go wrong: choices that are no set, or that have no first member, or a member that no set can hold. -/
inductive Misfit
  | noSet | noOrder | unhashable

/-- The unknowns and what is known of them: for an unknown, the best one of its pool, and the pool. -/
structure Unifier (α : Type) where
  ranges : Array (Range α) := #[]
  links : List (Nat × Nat × List Nat) := []

variable (c : Comparison α) (u : Unifier α) (i : Nat)

namespace Unifier

def range : Range α := u.ranges.getD i .free
def best : Nat := ((u.links.lookup i).map (·.1)).getD i
def pool : List Nat := ((u.links.lookup i).map (·.2)).getD []
def add (r : Range α) : Nat × Unifier α := (u.ranges.size, { u with ranges := u.ranges.push r })

def merge (top : Nat) (vars : List Nat) : Unifier α :=
  let start := (vars ++ [top]).eraseDups
  let all := (start ++ start.flatMap u.pool).eraseDups
  { u with links := all.map (fun i => (i, top, all)) ++ u.links.filter fun (i, _) => !all.contains i }

def mergeNew (r : Range α) (vars : List Nat) : Unifier α :=
  let (i, u) := u.add r
  u.merge i vars

end Unifier

mutual

def Pattern.equal (c : Comparison α) : Pattern α -> Pattern α -> Bool
  | .plain a, .plain b => c.equal a b
  | .unknown i, .unknown j => i == j
  | .memberOf a _, .memberOf b _ | .compute a _, .compute b _ => c.equal a b
  | .list f ps, .list g qs => f == g && Pattern.equalAll c ps qs
  | .table ps, .table qs => ps.length == qs.length && Pattern.equalTable c ps qs
  | _, _ => false

def Pattern.equalAll (c : Comparison α) : List (Pattern α) -> List (Pattern α) -> Bool
  | [], [] => true
  | p :: ps, q :: qs => p.equal c q && Pattern.equalAll c ps qs
  | _, _ => false

def Pattern.equalTable (c : Comparison α) : List (α × Pattern α) -> List (α × Pattern α) -> Bool
  | [], _ => true
  | (k, p) :: ps, qs =>
    (match qs.find? fun (l, _) => c.equal k l with
      | some (_, q) => p.equal c q
      | none => false) && Pattern.equalTable c ps qs

end

def Pattern.unknown? : Pattern α -> Option Nat
  | .unknown i => some i
  | _ => none

def Pattern.isHashable : Pattern α -> Bool
  | .list fixed _ => fixed
  | .table _ => false
  | _ => true

def Choices.has (choices : Choices α) (p : Pattern α) : Except Misfit Bool :=
  match choices with
  | .list ps => .ok (ps.any (·.equal c p))
  | .set ps => if p.isHashable then .ok (ps.any (·.equal c p)) else .error .unhashable

def Choices.narrowed : Choices α -> Except Misfit (Option (Range α))
  | .list [] | .set [] => .ok none
  | .list [p] => .ok (some (.bound p))
  | .set [_] => .error .noOrder
  | c => .ok (some (.oneOf c))

def Choices.inter : Choices α -> Choices α -> Except Misfit (Choices α)
  | .set ps, qs => .ok (.set (ps.filter fun p => qs.members.any (·.equal c p)))
  | .list _, _ => .error .noSet

def Choices.union : Choices α -> Choices α -> Except Misfit (Choices α)
  | .set ps, qs => .ok (.set (ps ++ qs.members.filter fun q => !ps.any (·.equal c q)))
  | .list _, _ => .error .noSet

def limitBoth (i j : Nat) (u : Unifier α) (r : Except Misfit (Option (Range α))) :
    Except Misfit (Option (Unifier α)) := do
  if let some r <- r then return some (u.mergeNew r [i, j]) else return none

def settle (p : Pattern α) (u : Unifier α) : Except Misfit (Option (Unifier α)) := do
  match u.range i with
  | .free => return some (u.mergeNew (.bound p) [i])
  | .bound q => return if q.equal c p then some u else none
  | .oneOf choices => return if <- choices.has c p then some (u.mergeNew (.bound p) [i]) else none
  | .noneOf choices => return if <- choices.has c p then none else some (u.mergeNew (.bound p) [i])

mutual

/-- Unifies two patterns, given what is known. -/
def walk (c : Comparison α) : Nat -> Pattern α -> Pattern α -> Unifier α -> Except Misfit (Option (Unifier α))
  | 0, _, _, _ => pure none
  | fuel + 1, a, b, u =>
    let resolve i other :=
      if u.best i != i then walk c fuel other (.unknown (u.best i)) u
      else match other with
        | .unknown j => walkUnknowns c fuel i j u
        | p => settle c i p u
    match a, b with
    | .unknown i, b => resolve i b
    | a, .unknown i => resolve i a
    | .table ps, .table qs =>
      walkAll c fuel (ps.filterMap fun (k, p) => (qs.find? fun (l, _) => c.equal l k).map fun (_, q) => (p, q)) u
    | .list _ ps, .list _ qs => if ps.length != qs.length then return none else walkAll c fuel (ps.zip qs) u
    | .memberOf _ p, .list _ qs | .list _ qs, .memberOf _ p =>
      let (i, u) := u.add (.oneOf (.list qs))
      walk c fuel p (.unknown i) u
    | .plain x, .plain y => return if c.same x y then some u else none
    | a, b => return if a.equal c b then some u else none

/-- Unifies two unknowns, the first of which is the best of its pool. -/
def walkUnknowns (c : Comparison α) : Nat -> Nat -> Nat -> Unifier α -> Except Misfit (Option (Unifier α))
  | 0, _, _, _ => pure none
  | fuel + 1, i, j, u =>
    let without o n : Choices α := .list (o.members.filter fun p => !n.members.any (·.equal c p))
    match u.range i, u.range j with
    | .oneOf o, .noneOf n | .noneOf n, .oneOf o => limitBoth i j u (without o n).narrowed
    | .noneOf m, .noneOf n => limitBoth i j u do return some (.noneOf (<- m.union c n))
    | .oneOf m, .oneOf n => limitBoth i j u do (<- m.inter c n).narrowed
    | .bound p, _ => walk c fuel (.unknown j) p u
    | _, .bound p => walk c fuel (.unknown i) p u
    | .free, _ => return some (u.merge (u.best j) [i])
    | _, .free => return some (u.merge (u.best i) [j])

def walkAll (c : Comparison α) : Nat -> List (Pattern α × Pattern α) -> Unifier α -> Except Misfit (Option (Unifier α))
  | 0, _, _ => pure none
  | _, [], u => return some u
  | fuel + 1, (p, q) :: rest, u => do
    let some u <- walk c fuel p q u | pure none
    walkAll c fuel rest u

end

mutual

def merged (c : Comparison α) (u : Unifier α) : Nat -> Pattern α -> Pattern α -> Pattern α
  | 0, a, _ => a
  | fuel + 1, a, b =>
    let resolve i other :=
      if u.best i != i then merged c u fuel other (.unknown (u.best i))
      else match u.range i, other with
        | _, .compute f args => .compute f (mergedAll c u fuel (args.zip args))
        | .bound p, _ => p
        | _, .unknown j => if let .bound p := u.range j then p else .unknown i
        | _, _ => .unknown i
    match a, b with
    | .unknown i, b => resolve i b
    | a, .unknown i => resolve i a
    | .compute f args, _ | _, .compute f args => .compute f (mergedAll c u fuel (args.zip args))
    | .table ps, .table qs =>
      let left := ps.map fun (k, p) => (k, p, ((qs.find? fun (l, _) => c.equal l k).map (·.2)).getD p)
      let all := left ++ ((qs.filter fun (k, _) => !ps.any fun (l, _) => c.equal l k).map fun (k, q) => (k, q, q))
      .table ((all.map (·.1)).zip (mergedAll c u fuel (all.map (·.2))))
    | .list _ ps, .list _ qs => .list false (mergedAll c u fuel (ps.zip qs))
    | .memberOf .., .list _ qs | .list _ qs, .memberOf .. => .list false (mergedAll c u fuel (qs.zip qs))
    | a, _ => a

def mergedAll (c : Comparison α) (u : Unifier α) : Nat -> List (Pattern α × Pattern α) -> List (Pattern α)
  | 0, _ | _, [] => []
  | fuel + 1, (p, q) :: rest => merged c u fuel p q :: mergedAll c u fuel rest

end

end TensorGraph.Unify

namespace TensorGraph

open Unify

def valueComparison : Comparison Value :=
  let cls := fun
    | .bool _ => 1
    | .int _ => 2
    | .float _ => 3
    | .complex .. => 4
    | .str _ => 5
    | .null => 6
    | _ => 0
  { equal := Value.isKey, same := fun a b => cls a == cls b && a.isKey b }

/-- The unknowns met so far, by number. -/
structure Reading where
  known : List RecordId := []
  unifier : Unifier Value := {}

mutual

def readPattern : Nat -> Value -> Reading -> M (Pattern Value × Reading)
  | 0, _, _ => outOfFuel
  | fuel + 1, v, s => do
    match v with
    | .tuple xs => return (<- readPatterns fuel xs s).map (.list true) id
    | .list c => return (<- readPatterns fuel (<- cellItems c) s).map (.list false) id
    | .dict c =>
      let pairs <- cellPairs c
      return (<- readPatterns fuel (pairs.map (·.2)) s).map (fun ps => .table ((pairs.map (·.1)).zip ps)) id
    | .record r =>
      let x <- record r
      let part n := (x.fields.lookup n).getD .null
      match x.cls with
      | "VariableInList" => return (<- readPattern fuel (part "variable") s).map (.memberOf v) id
      | "FVar" =>
        let .tuple args := part "args" | pure (.plain v, s)
        return (<- readPatterns fuel args s).map (.compute v) id
      | "FreeVariable" | "BoundVariable" | "OrVariable" | "NotVariable" =>
        match s.known.idxOf? r with
        | some i => pure (.unknown i, s)
        | none =>
          let (i, u) := s.unifier.add .free
          let s := { known := s.known ++ [r], unifier := u }
          let (range, s) <- match x.cls with
            | "BoundVariable" => do pure ((<- readPattern fuel (part "value") s).map Range.bound id)
            | "OrVariable" => do pure ((<- readChoices fuel (part "options") s).map Range.oneOf id)
            | "NotVariable" => do pure ((<- readChoices fuel (part "not_options") s).map Range.noneOf id)
            | _ => pure (Range.free, s)
          pure (.unknown i, { s with unifier := { s.unifier with ranges := s.unifier.ranges.set! i range } })
      | _ => pure (.plain v, s)
    | v => pure (.plain v, s)

def readPatterns : Nat -> Values -> Reading -> M (List (Pattern Value) × Reading)
  | 0, _, _ => outOfFuel
  | _, [], s => pure ([], s)
  | fuel + 1, v :: vs, s => do
    let (p, s) <- readPattern fuel v s
    let (ps, s) <- readPatterns fuel vs s
    pure (p :: ps, s)

def readChoices : Nat -> Value -> Reading -> M (Choices Value × Reading)
  | 0, _, _ => outOfFuel
  | fuel + 1, v, s => do
    let (ps, s) <- readPatterns fuel (<- iterate v) s
    let .set _ := v | pure (.list ps, s)
    pure (.set ps, s)

end

mutual

def writePattern (known : List RecordId) : Nat -> Pattern Value -> M Value
  | 0, _ => outOfFuel
  | fuel + 1, p => do
    match p with
    | .plain a => pure a
    | .unknown i => pure (known.getD i default)
    | .memberOf self _ => pure self
    | .compute (.record r) args => callValue (<- field r "fn") (<- writePatterns known fuel args) []
    | .compute self _ => pure self
    | .list true ps => return .tuple (<- writePatterns known fuel ps)
    | .list false ps => newList (<- writePatterns known fuel ps)
    | .table ps => newDict ((ps.map (·.1)).zip (<- writePatterns known fuel (ps.map (·.2))))

def writePatterns (known : List RecordId) : Nat -> List (Pattern Value) -> M Values
  | 0, _ => outOfFuel
  | _, [] => pure []
  | fuel + 1, p :: ps => do return (<- writePattern known fuel p) :: (<- writePatterns known fuel ps)

end

def patternDepth : Nat := 10000

variable (known : List RecordId) (u : Unifier Value)

def nameUnknowns : M (List RecordId) := do
  let mut out := known
  for i in (List.range u.ranges.size).drop known.length do
    let choices c now := do
      let xs <- writePatterns now patternDepth c.members
      match c with
      | .list _ => newList xs
      | .set _ => newSet xs
    let now := out
    let made <- match u.range i with
      | .free => newRecord "FreeVariable" [("name", "?")]
      | .bound p => do newRecord "BoundVariable" [("name", "?"), ("value", <- writePattern now patternDepth p)]
      | .oneOf c => do newRecord "OrVariable" [("name", "?"), ("options", <- choices c now)]
      | .noneOf c => do newRecord "NotVariable" [("name", "?"), ("not_options", <- choices c now)]
    let .record r := made | pure ()
    out := out ++ [r]
  pure out

def writeUnifier (inplace : Value) : M Value := do
  let at_ i : Value := known.getD i default
  let pairs <- u.links.mapM fun (i, best, pool) => do return (at_ i, .tuple [at_ best, <- newSet (pool.map at_)])
  newRecord "Unification" [("unif", <- newDict pairs), ("inplace", inplace)]

def readUnifier (v : Value) (s : Reading) : M Reading := do
  let .record r := v | noAttr
  let .dict c <- field r "unif" | noAttr
  let mut s := s
  let mut links := []
  for (k, e) in <- cellPairs c do
    let .tuple [best, pool] := e | pure ()
    let (ps, t) <- readPatterns patternDepth ([k, best] ++ (<- iterate pool)) s
    s := t
    if let i :: b :: rest := ps.filterMap (·.unknown?) then links := links ++ [(i, b, rest)]
  return { s with unifier := { s.unifier with links } }

def mergeValues (a b u : Value) : M Value := do
  let s <- readUnifier u {}
  let (p, s) <- readPattern patternDepth a s
  let (q, s) <- readPattern patternDepth b s
  writePattern s.known patternDepth (merged valueComparison s.unifier patternDepth p q)

def unifyValues (a b : Value) : M Value := do
  let (p, s) <- readPattern patternDepth a {}
  let (q, s) <- readPattern patternDepth b s
  match walk valueComparison patternDepth p q s.unifier with
  | .error .noSet => noAttr
  | .error _ => badType
  | .ok none => return .tuple [.null, false]
  | .ok (some u) =>
    let known <- nameUnknowns s.known u
    let common <- writePattern known patternDepth (merged valueComparison u patternDepth p q)
    return .tuple [common, <- writeUnifier known u false]

def unknownOf (cls : String) (name : Value) (rest : Table Value) : M Value := do
  let all := (<- get).records
  let asked x := x.cls == cls && x.fields.any fun (k, v) => k == "asked" && v.isKey name
  if let some i := (List.range all.size).find? fun i => asked (all.getD i default) then return .record ⟨i⟩
  else newRecord cls ([("name", name)] ++ rest ++ [("asked", name)])

def keyword (name : String) (truth : Bool) : ApiRow :=
  (("graph.unify." ++ name), .value (newRecord "Keyword" [("text", s!"<{name}>"), ("name", name), ("nonzero", truth)]))

def unifyEntries : Table ApiEntry := under "graph.unify" [
  fn "Var" "name, *args" fun
    | [n, .tuple []] => unknownOf "FreeVariable" n []
    | _ => badType,
  fn "OrV" "name, *args" fun
    | [n, .tuple [o]] => unknownOf "OrVariable" n [("options", o)]
    | _ => badType,
  fn "NV" "name, *args" fun
    | [n, .tuple [o]] => unknownOf "NotVariable" n [("not_options", o)]
    | _ => badType,
  cls1 "VariableInList" "variable" fun v => newRecord "VariableInList" [("variable", v)],
  cls2 "FVar" "fn, *args" fun f a => newRecord "FVar" [("fn", f), ("args", a)],
  cls1 "Unification" "inplace=False" (writeUnifier [] {}),
  fn2 "unify" "a, b" unifyValues,
  fn3 "unify_merge" "a, b, U" mergeValues,
  fn2 "unify_build" "x, U" fun x u => mergeValues x x u,
  fn1 "type_guard" "type1" fun t => return .method (.tuple [t]) "guarded" ]
  ++ [
  keyword "ANY_TYPE" true, keyword "FAILURE" false, keyword "ABORT" false, keyword "RETRY" false, keyword "FALL_THROUGH" true ]

def unifyMethods : Table Callable := [
  meth2 "Unification.__getitem__" "v" fun r v => do
    let .dict c <- field r "unif" | noAttr
    let some (.tuple (best :: _)) := lookupKey v (<- cellPairs c) | pure v
    return best,
  meth3 "Unification.merge" "new_best, *vars" fun r top vars => do
    let s <- readUnifier (.record r) {}
    let (ps, s) <- readPatterns patternDepth (top :: vars) s
    let t :: rest := ps.filterMap (·.unknown?) | badType
    let inplace <- field r "inplace"
    let .record q <- writeUnifier s.known (s.unifier.merge t rest) inplace | badType
    if !(<- truthOf inplace) then return .record q
    setField r "unif" (<- field q "unif")
    return .record r,
  meth "tuple.guarded" "f" fun _ => badKey ]

end TensorGraph
