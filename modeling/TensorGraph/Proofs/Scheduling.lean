import TensorGraph.Graph.Change
import TensorGraph.Proofs.Sessions
import TensorGraph.Proofs.Sources

/-!
# Schedules of function graphs

A graph hands out its nodes in an order in which they can run: each once, after the owners of its
operands and after what the features of the graph demand to come before it. With fewer than two nodes there
is nothing to arrange, and the demands are not asked for; without demands the walk up from the results
gives the order; else sources are taken, and demands that run in a circle are an error.
-/

namespace TensorGraph

open Relation

namespace OrdSet

variable {α : Type} [BEq α] [Hashable α] [LawfulBEq α] {s : OrdSet α} {x : α}

theorem mem_toList : x ∈ s.toList ↔ s.contains x = true := by
  unfold toList contains
  rw [List.mem_map]
  constructor
  · rintro ⟨e, he, rfl⟩
    rw [List.mem_mergeSort, Std.HashMap.mem_toList_iff_getElem?_eq_some] at he
    rw [Std.HashMap.contains_eq_isSome_getElem?, he]
    rfl
  · intro hx
    rw [Std.HashMap.contains_eq_isSome_getElem?, Option.isSome_iff_exists] at hx
    obtain ⟨i, hi⟩ := hx
    exact ⟨(x, i), by rwa [List.mem_mergeSort, Std.HashMap.mem_toList_iff_getElem?_eq_some], rfl⟩

theorem nodup_toList : s.toList.Nodup := by
  have hkeys : (s.stamps.toList.map Prod.fst).Nodup := by
    rw [Std.HashMap.map_fst_toList_eq_keys]
    exact Std.HashMap.nodup_keys
  exact ((List.mergeSort_perm s.stamps.toList _).map Prod.fst).nodup_iff.mpr hkeys

theorem contains_insert {y : α} : (s.insert y).contains x = true ↔ x = y ∨ s.contains x = true := by
  unfold insert contains
  split
  case isTrue h => exact ⟨.inr, fun hx => hx.elim (fun e => e ▸ h) id⟩
  case isFalse => rw [Std.HashMap.contains_insert, Bool.or_eq_true, beq_iff_eq, eq_comm]

omit [LawfulBEq α] in
theorem not_contains_empty : ¬ (empty : OrdSet α).contains x = true := by
  simp [empty, contains]

end OrdSet

/-- One node must run before another: it computes an operand, or a feature demands it. -/
abbrev Arena.Precedes (a : Arena) (ords : Arena.Orderings) : NodeId → NodeId → Prop := a.Before (fun _ => False) ords

namespace FunctionGraph

variable {x : FunctionGraph} {a : Arena} {ords : Arena.Orderings} {n m : NodeId}

/-- The inputs of a graph are not computed, and its nodes are those on which its outputs depend. -/
structure Consistent (x : FunctionGraph) (a : Arena) : Prop where
  inputs : ∀ v ∈ x.inputs, a.owner v = none
  nodes : ∀ n, x.nodes.contains n = true ↔ ∃ v ∈ x.outputs, ∃ r, a.owner v = some r ∧ ReflTransGen a.Feeds n r

/-- What is demanded to run before a node of the graph is a node of the graph. -/
def Among (x : FunctionGraph) (ords : Arena.Orderings) : Prop :=
  ∀ n l, (n, l) ∈ ords → x.nodes.contains n = true → ∀ m ∈ l, x.nodes.contains m = true

variable (hx : x.Consistent a) (hords : x.Among ords)
include hx

theorem Consistent.settled {met : NodeId → Prop} : a.Settled met x.inputs x.outputs fun _ => False := by
  intro v n ho _
  have : v ∉ x.inputs := fun hv => by simp [hx.inputs v hv] at ho
  simpa using this

theorem Consistent.first (hwf : a.Wf) (n : NodeId) (v : VarId) (hv : (a.outputs n).head? = some v) :
    v ∈ x.inputs ↔ False := by
  have ho : a.owner v = some n := hwf.mem_outputs.mp (List.mem_of_head? hv)
  exact iff_false_intro fun hv => by simp [hx.inputs v hv] at ho

theorem Consistent.node_lt (hwf : a.Wf) (hn : x.nodes.contains n = true) : n.idx < a.nodes.size := by
  obtain ⟨v, _, r, ho, hp⟩ := (hx.nodes n).mp hn
  rcases hp.cases_head with rfl | ⟨m, ⟨u, _, hu⟩, _⟩
  · exact hwf.node_lt ho
  · exact hwf.node_lt hu

include hords

theorem Consistent.closed (hn : x.nodes.contains n = true) (hm : a.Precedes ords m n) : x.nodes.contains m = true := by
  rcases hm with ⟨hf, _⟩ | ⟨l, hl, hm⟩
  · obtain ⟨v, hv, r, ho, hp⟩ := (hx.nodes n).mp hn
    exact (hx.nodes m).mpr ⟨v, hv, r, ho, .head hf hp⟩
  · exact hords n l hl hn m hm

theorem Consistent.pulled_iff : a.Pulled (fun _ => False) ords x.outputs n ↔ x.nodes.contains n = true := by
  constructor
  · rintro ⟨v, hv, r, ho, _, hp⟩
    induction hp using ReflTransGen.head_induction_on with
    | refl => exact (hx.nodes r).mpr ⟨v, hv, r, ho, .refl⟩
    | head hb _ ih => exact hx.closed hords ih hb
  · intro hn
    obtain ⟨v, hv, r, ho, hp⟩ := (hx.nodes n).mp hn
    exact ⟨v, hv, r, ho, id, ReflTransGen.mono (fun _ _ hf => .inl ⟨hf, id⟩) n r hp⟩

theorem Consistent.acc (hac : ∀ n, x.nodes.contains n = true → ¬ TransGen (a.Precedes ords) n n)
    (hn : x.nodes.contains n = true) : Acc (a.Precedes ords) n :=
  acc_of_acyclic (l := x.nodes.toList)
    (fun _ hn _ hm => OrdSet.mem_toList.mpr (hx.closed hords (OrdSet.mem_toList.mp hn) hm))
    (fun n hn => hac n (OrdSet.mem_toList.mp hn)) (OrdSet.mem_toList.mpr hn)

end FunctionGraph

/-! ## A node with two results -/

namespace Pair

def arena : Arena := (({ vars := #[].push { type := default } } : Arena).pushNode default [⟨0⟩] [default, default]).1

theorem outputs_zero : arena.outputs ⟨0⟩ = [⟨1⟩, ⟨2⟩] := rfl

theorem inputs_zero : arena.inputs ⟨0⟩ = [⟨0⟩] := rfl

theorem eq_zero_of_lt {n : NodeId} (h : n.idx < arena.nodes.size) : n = ⟨0⟩ := by
  obtain ⟨i⟩ := n
  have : i < 1 := h
  exact congrArg NodeId.mk (by omega)

theorem mem_inputs {v : VarId} {n : NodeId} (hv : v ∈ arena.inputs n) : v = ⟨0⟩ := by
  by_cases hn : n.idx < arena.nodes.size
  · obtain rfl := eq_zero_of_lt hn
    exact List.mem_singleton.mp hv
  · rw [Arena.inputs_of_le (Nat.not_lt.mp hn)] at hv
    cases hv

theorem owner_eq_some {v : VarId} {n : NodeId} : arena.owner v = some n ↔ n = ⟨0⟩ ∧ (v = ⟨1⟩ ∨ v = ⟨2⟩) := by
  rcases v with ⟨_ | _ | _ | i⟩
  · simp [show arena.owner ⟨0⟩ = none from rfl]
  · simp [show arena.owner ⟨1⟩ = some ⟨0⟩ from rfl, eq_comm]
  · simp [show arena.owner ⟨2⟩ = some ⟨0⟩ from rfl, eq_comm]
  · have : arena.owner ⟨i + 3⟩ ≠ some n := fun h => by
      have hlt : i + 3 < 3 := Arena.lt_of_owner h
      omega
    simp [this]

theorem wf : arena.Wf where
  result n j v := by
    rw [owner_eq_some]
    by_cases hn : n.idx < arena.nodes.size
    · obtain rfl := eq_zero_of_lt hn
      rw [outputs_zero]
      rcases j with _ | _ | j
      · constructor
        · rintro ⟨⟩
          exact ⟨⟨rfl, .inl rfl⟩, rfl⟩
        · rintro ⟨⟨_, rfl | rfl⟩, h⟩
          · rfl
          · cases h
      · constructor
        · rintro ⟨⟩
          exact ⟨⟨rfl, .inr rfl⟩, rfl⟩
        · rintro ⟨⟨_, rfl | rfl⟩, h⟩
          · cases h
          · rfl
      · constructor
        · rintro ⟨⟩
        · rintro ⟨⟨_, rfl | rfl⟩, h⟩ <;> cases h
    · rw [Arena.outputs_of_le (Nat.not_lt.mp hn)]
      constructor
      · rintro ⟨⟩
      · rintro ⟨⟨rfl, _⟩, _⟩
        exact absurd Nat.zero_lt_one hn
  operand n v hv := by
    rw [mem_inputs hv]
    decide
  links := by decide

theorem not_feeds (m n : NodeId) : ¬ arena.Feeds m n := by
  rintro ⟨v, hv, ho⟩
  rw [mem_inputs hv] at ho
  cases ho

variable (n first : NodeId)

theorem not_transGen_feeds : ¬ TransGen arena.Feeds n n := by
  intro h
  obtain ⟨_, hf, _⟩ := TransGen.head'_iff.mp h
  exact not_feeds _ _ hf

/-- The arena with a further node that reads both results. -/
def joined : Arena := arena.withNode default [⟨1⟩, ⟨2⟩] default

theorem joined_wf : joined.Wf := wf.withNode (by decide)

theorem joined_owner {v : VarId} {n : NodeId} :
    joined.owner v = some n ↔ v = ⟨3⟩ ∧ n = ⟨1⟩ ∨ n = ⟨0⟩ ∧ (v = ⟨1⟩ ∨ v = ⟨2⟩) := by
  rw [← owner_eq_some, Arena.owner, joined, Arena.var_withNode]
  rcases v with ⟨i⟩
  split
  case isTrue h =>
    obtain rfl : i = 3 := h
    simp [show arena.owner ⟨3⟩ = none from rfl, eq_comm, show arena.nodes.size = 1 from rfl]
  case isFalse h =>
    have : i ≠ 3 := h
    simp [this]
    rfl

theorem joined_feeds {m n : NodeId} (h : joined.Feeds m n) : m = ⟨0⟩ ∧ n = ⟨1⟩ := by
  obtain ⟨v, hv, ho⟩ := h
  rw [Arena.inputs, joined, Arena.node_withNode] at hv
  split at hv
  case isTrue hn =>
    obtain rfl : n = ⟨1⟩ := congrArg NodeId.mk hn
    refine ⟨?_, rfl⟩
    rcases joined_owner.mp ho with ⟨rfl, _⟩ | ⟨hm, _⟩
    · simp at hv
    · exact hm
  case isFalse =>
    rw [mem_inputs hv] at ho
    cases ho

theorem not_transGen_joined : ¬ TransGen joined.Feeds n n := by
  intro h
  obtain ⟨_, hfirst, _⟩ := TransGen.head'_iff.mp h
  obtain ⟨_, _, hlast⟩ := TransGen.tail'_iff.mp h
  cases (joined_feeds hfirst).1.symm.trans (joined_feeds hlast).2

/-! ## A feature of the graph demands that one node runs before another -/

def one : FunctionGraph :=
  { inputs := [⟨0⟩], outputs := [⟨1⟩], nodes := OrdSet.empty.insert ⟨0⟩, features := [⟨0⟩] }

def two : FunctionGraph :=
  { inputs := [⟨0⟩], outputs := [⟨3⟩], nodes := (OrdSet.empty.insert ⟨0⟩).insert ⟨1⟩, features := [⟨0⟩] }

def session (x : FunctionGraph) (n first : NodeId) : Session where
  arena := joined
  graphs := #[x]
  features := #[.plain [("orderings", .null)]]
  cells := #[.map #[(.node n, .list ⟨1⟩)], .seq #[.node first]]

/-- Calling a value gives the dictionary of the demand, and every operator repeats its operands. -/
def kit : Kit :=
  { Kit.empty with call := fun _ _ _ s => .ok (.dict ⟨0⟩) s, perform := fun _ xs s => .ok (xs ++ xs) s }

theorem mem_two {n : NodeId} : two.nodes.contains n = true ↔ n = ⟨1⟩ ∨ n = ⟨0⟩ := by
  simp [two, OrdSet.contains_insert, OrdSet.not_contains_empty]

theorem feeds_one : joined.Feeds ⟨0⟩ ⟨1⟩ := ⟨⟨1⟩, by decide, rfl⟩

theorem reflTransGen_one {n : NodeId} : ReflTransGen joined.Feeds n ⟨1⟩ ↔ n = ⟨1⟩ ∨ n = ⟨0⟩ := by
  constructor
  · intro h
    rcases h.cases_head with rfl | ⟨m, hf, _⟩
    · exact .inl rfl
    · exact .inr (joined_feeds hf).1
  · rintro (rfl | rfl)
    · exact .refl
    · exact .single feeds_one

theorem two_consistent : two.Consistent joined where
  inputs v hv := by rw [List.mem_singleton.mp hv]; rfl
  nodes n := by
    rw [mem_two]
    simp [two, joined_owner, reflTransGen_one]

theorem two_among {n first : NodeId} (h : two.nodes.contains first = true) : two.Among [(n, [first])] := by
  intro m l hl _ p hp
  obtain ⟨rfl, rfl⟩ := Prod.mk.inj (List.mem_singleton.mp hl)
  rwa [List.mem_singleton.mp hp]

end Pair

section Run

variable {g : GraphId} {k : Kit} {s t : Session} {ords : Arena.Orderings}

variable (hsize : ¬ (s.graphs.getD g.idx default).nodes.size < 2)
include hsize

omit hsize

end Run

namespace Pair

end Pair

/-! ## The two orders -/

namespace Arena

open M

variable {a : Arena} {ins outs : Vars}

theorem Pulled.node_lt {settled : NodeId → Prop} {n : NodeId} (hwf : a.Wf) (h : a.Pulled settled [] outs n) :
    n.idx < a.nodes.size := by
  obtain ⟨v, _, r, ho, _, hp⟩ := h
  rcases hp.cases_head with rfl | ⟨m, hb, _⟩
  · exact hwf.node_lt ho
  · obtain ⟨⟨u, _, hu⟩, _⟩ := before_nil.mp hb
    exact hwf.node_lt hu

theorem acc_before (hwf : a.Wf) (hac : ∀ n, ¬ TransGen a.Feeds n n) {settled : NodeId → Prop} {n : NodeId}
    (hn : n.idx < a.nodes.size) : Acc (a.Before settled []) n := by
  have hlist : ∀ m : NodeId, m.idx < a.nodes.size ↔ m ∈ (List.range a.nodes.size).map NodeId.mk := fun m => by
    simp only [List.mem_map, List.mem_range]
    exact ⟨fun h => ⟨m.idx, h, rfl⟩, fun h => by obtain ⟨i, hi, rfl⟩ := h; exact hi⟩
  refine acc_of_acyclic (fun x _ y hy => ?_) (fun x _ hc => ?_) ((hlist n).mp hn)
  · obtain ⟨⟨u, _, hu⟩, _⟩ := before_nil.mp hy
    exact (hlist y).mp (hwf.node_lt hu)
  · exact hac x (TransGen.mono (fun _ _ hb => (before_nil.mp hb).1) x x hc)

/-- Between variables without owners and others, the nodes of an acyclic arena are put in order. -/
theorem orderBetween_ends {k : Kit} {s : Session} {E : Fault → Session → Prop} (hwf : s.arena.Wf)
    (hac : ∀ n, ¬ TransGen s.arena.Feeds n n) (hins : ∀ v ∈ ins, s.arena.owner v = none) :
    (orderBetween ins outs).Ends k s (fun order t => s = t ∧
      Schedules (s.arena.Before (fun _ => False) []) (s.arena.Pulled (fun _ => False) [] outs) order) E := by
  have hfree {v : VarId} {n : NodeId} (ho : s.arena.owner v = some n) : v ∈ ins ↔ False :=
    iff_false_intro fun hv => by cases (hins v hv).symm.trans ho
  obtain ⟨order, he, h⟩ := toposort_schedules hwf (fun v n ho _ => hfree ho)
    (fun n v hv => hfree (hwf.mem_outputs.mp (List.mem_of_head? hv))) fun n hn => acc_before hwf hac (hn.node_lt hwf)
  rw [orderBetween, ends_bind, ends_getArena, he]
  exact ⟨rfl, h⟩

/-- The walk up from the results and the order by sources schedule the same nodes, if a variable is given exactly
when the first result of its node is. -/
theorem toposort_agrees (a : Arena) (ins outs : Vars) (hwf : a.Wf) (hac : ∀ n, ¬ TransGen a.Feeds n n)
    (hins : a.Settled (a.Pulled (a.Given ins) [] outs) ins outs (a.Given ins)) :
    (∃ order, a.toposort ins outs = some order ∧
      Schedules (a.Before (a.Given ins) []) (a.Pulled (a.Given ins) [] outs) order) ∧
    ∃ order, a.toposortWith ins outs [] = some order ∧
      Schedules (a.Before (a.Given ins) []) (a.Pulled (a.Given ins) [] outs) order := by
  have hacc : ∀ n, a.Pulled (a.Given ins) [] outs n → Acc (a.Before (a.Given ins) []) n :=
    fun n hn => acc_before hwf hac (hn.node_lt hwf)
  have hfirst : ∀ n v, (a.outputs n).head? = some v → (v ∈ ins ↔ a.Given ins n) := fun n v hv => by
    rw [Given, List.headD_eq_head?_getD, hv]
    rfl
  exact ⟨toposort_schedules hwf hins hfirst hacc, toposortWith_schedules hins hwf (fun n hn => hn.node_lt hwf) hacc⟩

end Arena

namespace Pair

theorem toposort_agrees_joined :
    (∃ order, joined.toposort [⟨1⟩, ⟨2⟩] [⟨3⟩] = some order ∧
      Schedules (joined.Before (joined.Given [⟨1⟩, ⟨2⟩]) []) (joined.Pulled (joined.Given [⟨1⟩, ⟨2⟩]) [] [⟨3⟩]) order) ∧
    ∃ order, joined.toposortWith [⟨1⟩, ⟨2⟩] [⟨3⟩] [] = some order ∧
      Schedules (joined.Before (joined.Given [⟨1⟩, ⟨2⟩]) []) (joined.Pulled (joined.Given [⟨1⟩, ⟨2⟩]) [] [⟨3⟩]) order := by
  refine Arena.toposort_agrees joined [⟨1⟩, ⟨2⟩] [⟨3⟩] joined_wf not_transGen_joined fun v n ho _ => ?_
  rcases joined_owner.mp ho with ⟨rfl, rfl⟩ | ⟨rfl, rfl | rfl⟩ <;> decide

/-- Given the second result alone, the walk computes both anew, while nothing is left to compute. -/
theorem toposort_second_result :
    arena.Wf ∧ (∀ n, ¬ TransGen arena.Feeds n n) ∧ arena.toposort [⟨2⟩] [⟨2⟩] = some [⟨0⟩] ∧
      arena.toposortWith [⟨2⟩] [⟨2⟩] [] = some [] := by
  refine ⟨wf, not_transGen_feeds, ?_, ?_⟩
  · rw [Arena.toposort, show [⟨2⟩].filterMap arena.owner = [⟨0⟩] from rfl, Arena.topoLoop.eq_def]
    simp only [outputs_zero, inputs_zero]
    simp [show arena.owner ⟨0⟩ = none from rfl]
    rw [Arena.topoLoop.eq_def]
    rfl
  · have hset : arena.Settled (arena.Pulled (fun _ => True) [] [⟨2⟩]) [⟨2⟩] [⟨2⟩] fun _ => True := by
      rintro v n ho (hv | ⟨m, _, hv⟩)
      · simpa using hv
      · exact absurd ⟨v, hv, ho⟩ (not_feeds n m)
    have hpull : ∀ n, ¬ arena.Pulled (fun _ => True) [] [⟨2⟩] n := by
      rintro n ⟨_, _, _, _, hs, _⟩
      exact hs trivial
    obtain ⟨order, he, h⟩ := Arena.toposortWith_schedules hset wf (fun n hn => absurd hn (hpull n))
      fun n hn => absurd hn (hpull n)
    rw [he, List.eq_nil_iff_forall_not_mem.mpr fun n hn => hpull n ((h.mem n).mp hn)]

end Pair

end TensorGraph
