import TensorGraph.Core.Session

/-!
# Gradients flowing backwards

Over any graph of variables and nodes: which uses of a variable lead to the cost, and the sum of the terms that come back
from them.
-/

namespace TensorGraph.Flow

variable {V N G : Type} [BEq V] [Hashable V] [BEq N] [Hashable N]

/-- How variables and nodes hang together. -/
structure Dataflow (V N : Type) where
  maker : V -> Option (N × Nat)
  (inputs outputs : N -> List V)
  pattern : N -> M (List (List Bool))

/-- For each variable, the nodes that use it, and at which inputs. -/
structure Uses (V N : Type) [BEq V] [Hashable V] where
  seen : Std.HashSet V := ∅
  of : Std.HashMap V (List (N × List Nat)) := ∅

def connects (p : List (List Bool)) (i o : Nat) : Bool := (p.getD i []).getD o false

def addUse (n : N) (i : Nat) : List (N × List Nat) -> List (N × List Nat)
  | [] => [(n, [i])]
  | (k, is) :: rest =>
    if k == n then (k, if is.contains i then is else is ++ [i]) :: rest else (k, is) :: addUse n i rest

def Uses.add (u : Uses V N) (v : V) (n : N) (i : Nat) : Uses V N :=
  { u with of := u.of.insert v (addUse n i (u.of.getD v [])) }

/-- The walk back from a variable: each use from which its gradient flows is noted. -/
def Dataflow.follow (d : Dataflow V N) (blocked : V -> Bool) : Nat -> V -> Uses V N -> M (Uses V N)
  | 0, _, _ => outOfFuel
  | fuel + 1, v, u => do
    if u.seen.contains v then return u
    let u := { u with seen := u.seen.insert v }
    if blocked v then return u
    let some (n, o) := d.maker v | return u
    let p <- d.pattern n
    (d.inputs n).zipIdx.foldlM (fun u (x, i) =>
      if connects p i o then d.follow blocked fuel x (u.add x n i) else pure u) u

/-- The walk forward from a variable along the uses that were noted. -/
def Dataflow.mark (d : Dataflow V N) (u : Uses V N) : Nat -> V -> Std.HashSet V -> M (Std.HashSet V)
  | 0, _, _ => outOfFuel
  | fuel + 1, v, s => do
    if s.contains v then return s
    let some nodes := u.of[v]? | pure s
    nodes.foldlM (fun s (n, is) => do
      let p <- d.pattern n
      is.foldlM (fun s i =>
        (d.outputs n).zipIdx.foldlM (fun s (y, o) => if connects p i o then d.mark u fuel y s else pure s) s) s)
      (s.insert v)

def Dataflow.uses (d : Dataflow V N) (fuel : Nat) (outputs wrt : List V) (blocked : V -> Bool) :
    M (Std.HashMap V (List (N × List Nat))) := do
  let u <- outputs.foldlM (fun u v => d.follow blocked fuel v u) {}
  let marked <- wrt.foldlM (fun s v => d.mark u fuel v s) ∅
  return u.of.filter fun v _ => marked.contains v

/-- How terms are made and gathered. -/
structure Backprop (V N G : Type) where
  uses : V -> Option (List (N × List Nat))
  outputs : N -> List V
  terms : N -> List G -> M (List G)
  gather : V -> List (N × G) -> M G
  absent : V -> M G

/-- What is known already. -/
structure Memo (V N G : Type) [BEq V] [Hashable V] [BEq N] [Hashable N] where
  grads : Std.HashMap V G := ∅
  terms : Std.HashMap N (List G) := ∅

mutual

def Backprop.gradient (b : Backprop V N G) : Nat -> V -> Memo V N G -> M (G × Memo V N G)
  | 0, _, _ => outOfFuel
  | fuel + 1, v, s => do
    match s.grads[v]? with
    | some g => pure (g, s)
    | none =>
      let (g, s) <- match b.uses v with
        | none => do pure (<- b.absent v, s)
        | some nodes =>
          let (ts, s) <- nodes.foldlM (fun (acc, s) (n, is) => do
            let (ts, s) <- b.termsOf fuel n s
            return (acc ++ is.filterMap fun i => ts[i]?.map fun t => (n, t), s)) ([], s)
          do pure (<- b.gather v ts, s)
      pure (g, { s with grads := s.grads.insert v g })

def Backprop.termsOf (b : Backprop V N G) : Nat -> N -> Memo V N G -> M (List G × Memo V N G)
  | 0, _, _ => outOfFuel
  | fuel + 1, n, s => do
    match s.terms[n]? with
    | some ts => pure (ts, s)
    | none =>
      let (gs, s) <- (b.outputs n).foldlM (fun (acc, s) v => do
        let (g, s) <- b.gradient fuel v s
        return (acc ++ [g], s)) ([], s)
      let ts <- b.terms n gs
      pure (ts, { s with terms := s.terms.insert n ts })

end

def Backprop.gradients (b : Backprop V N G) (fuel : Nat) (vs : List V) (known : Memo V N G) :
    M (List G × Memo V N G) :=
  vs.foldlM (fun (acc, s) v => do
    let (g, s) <- b.gradient fuel v s
    return (acc ++ [g], s)) ([], known)

end TensorGraph.Flow
