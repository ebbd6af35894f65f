import Mathlib.Algebra.BigOperators.Group.Finset.Basic
import Mathlib.Algebra.Order.BigOperators.Group.Finset
import TensorGraph.Graph.Basic
import TensorGraph.Proofs.Tables

/-!
# Well-formed arenas

In a well-formed arena the owner of a variable is the node that lists it among its results, at the
place that the variable names. An arena grows when variables and nodes are added to it and what was
there keeps its type, owner, operator, operands and results; names and annotations may change.
-/

namespace TensorGraph

namespace Arena

variable {a b c : Arena} {n m : NodeId} {v : VarId}

/-- One node computes an operand of another. -/
def Feeds (a : Arena) (m n : NodeId) : Prop := ∃ v ∈ a.inputs n, a.owner v = some m

/-! ## Well-formedness -/

/-- The results of nodes name their owner and their place in it, and `links` bounds the number of
nodes, operands and results. -/
structure Wf (a : Arena) : Prop where
  result : ∀ n j v, (a.outputs n)[j]? = some v ↔ a.owner v = some n ∧ (a.var v).index = j
  operand : ∀ n, ∀ v ∈ a.inputs n, v.idx < a.vars.size
  links : ∑ i ∈ Finset.range a.nodes.size, (2 + (a.inputs ⟨i⟩).length + (a.outputs ⟨i⟩).length) ≤ a.links

theorem node_of_le (h : a.nodes.size ≤ n.idx) : a.node n = default := by simp [node, Array.getD, Nat.not_lt.mpr h]

theorem inputs_of_le (h : a.nodes.size ≤ n.idx) : a.inputs n = [] := by rw [inputs, node_of_le h]; rfl

theorem outputs_of_le (h : a.nodes.size ≤ n.idx) : a.outputs n = [] := by rw [outputs, node_of_le h]; rfl

theorem lt_of_owner (h : a.owner v = some n) : v.idx < a.vars.size := by
  by_contra hv
  have hd : a.var v = default := by simp [var, Array.getD, hv]
  rw [owner, hd] at h
  cases h

namespace Wf

theorem mem_outputs (h : a.Wf) : v ∈ a.outputs n ↔ a.owner v = some n := by
  constructor
  · intro hv
    obtain ⟨j, hj⟩ := List.getElem?_of_mem hv
    exact ((h.result n j v).mp hj).1
  · intro hv
    exact List.mem_of_getElem? ((h.result n _ v).mpr ⟨hv, rfl⟩)

theorem node_lt (h : a.Wf) (hv : a.owner v = some n) : n.idx < a.nodes.size := by
  by_contra hn
  have := h.mem_outputs.mpr hv
  rw [outputs_of_le (Nat.not_lt.mp hn)] at this
  cases this

theorem two_mul_size_lt (h : a.Wf) : 2 * a.nodes.size < a.weight := by
  have hle : ∑ _i ∈ Finset.range a.nodes.size, 2 ≤ a.links := (Finset.sum_le_sum fun i _ => by omega).trans h.links
  rw [Finset.sum_const, Finset.card_range, Nat.nsmul_eq_mul] at hle
  unfold Arena.weight
  omega

end Wf

/-! ## Depth -/

open Classical in
/-- The number of nodes that feed a node, directly or not. -/
noncomputable def depth (a : Arena) (n : NodeId) : Nat :=
  ((Finset.range a.nodes.size).filter fun i => Relation.TransGen a.Feeds ⟨i⟩ n).card

open Classical in
theorem depth_le (a : Arena) (n : NodeId) : a.depth n ≤ a.nodes.size :=
  (Finset.card_filter_le _ _).trans (Finset.card_range _).le

theorem depth_lt_depth (h : a.Wf) (hv : v ∈ a.inputs n) (ho : a.owner v = some m) (hm : ¬ Relation.TransGen a.Feeds m m) :
    a.depth m < a.depth n := by
  classical
  have hf : a.Feeds m n := ⟨v, hv, ho⟩
  refine Finset.card_lt_card ⟨fun i hi => ?_, fun hsub => hm ?_⟩
  · obtain ⟨hi, hlt⟩ := Finset.mem_filter.mp hi
    exact Finset.mem_filter.mpr ⟨hi, hlt.tail hf⟩
  · exact (Finset.mem_filter.mp (hsub (Finset.mem_filter.mpr ⟨Finset.mem_range.mpr (h.node_lt ho), .single hf⟩))).2

/-! ## Growth -/

/-- What an arena keeps when variables and nodes are added to it. -/
structure Grows (a b : Arena) : Prop where
  vars_le : a.vars.size ≤ b.vars.size
  nodes_le : a.nodes.size ≤ b.nodes.size
  links_le : a.links ≤ b.links
  var : ∀ v, v.idx < a.vars.size → (b.var v).owner = (a.var v).owner ∧ (b.var v).index = (a.var v).index ∧
    (b.var v).type = (a.var v).type ∧ (b.var v).role = (a.var v).role
  node : ∀ n, n.idx < a.nodes.size → b.op n = a.op n ∧ b.inputs n = a.inputs n ∧ b.outputs n = a.outputs n
  fresh : ∀ v n, b.owner v = some n → n.idx < a.nodes.size → v.idx < a.vars.size

namespace Grows

theorem refl (a : Arena) : a.Grows a :=
  ⟨le_rfl, le_rfl, le_rfl, fun _ _ => ⟨rfl, rfl, rfl, rfl⟩, fun _ _ => ⟨rfl, rfl, rfl⟩, fun _ _ h _ => lt_of_owner h⟩

theorem owner (h : a.Grows b) (hv : v.idx < a.vars.size) : b.owner v = a.owner v := (h.var v hv).1
theorem typeOf (h : a.Grows b) (hv : v.idx < a.vars.size) : b.typeOf v = a.typeOf v := (h.var v hv).2.2.1
theorem inputs (h : a.Grows b) (hn : n.idx < a.nodes.size) : b.inputs n = a.inputs n := (h.node n hn).2.1
theorem outputs (h : a.Grows b) (hn : n.idx < a.nodes.size) : b.outputs n = a.outputs n := (h.node n hn).2.2
theorem op (h : a.Grows b) (hn : n.idx < a.nodes.size) : b.op n = a.op n := (h.node n hn).1

theorem trans (h : a.Grows b) (h' : b.Grows c) : a.Grows c where
  vars_le := h.vars_le.trans h'.vars_le
  nodes_le := h.nodes_le.trans h'.nodes_le
  links_le := h.links_le.trans h'.links_le
  var v hv := by
    obtain ⟨h1, h2, h3, h4⟩ := h.var v hv
    obtain ⟨h1', h2', h3', h4'⟩ := h'.var v (lt_of_lt_of_le hv h.vars_le)
    exact ⟨h1'.trans h1, h2'.trans h2, h3'.trans h3, h4'.trans h4⟩
  node n hn := by
    obtain ⟨h1, h2, h3⟩ := h.node n hn
    obtain ⟨h1', h2', h3'⟩ := h'.node n (lt_of_lt_of_le hn h.nodes_le)
    exact ⟨h1'.trans h1, h2'.trans h2, h3'.trans h3⟩
  fresh v n hv hn := by
    have hb := h'.fresh v n hv (lt_of_lt_of_le hn h.nodes_le)
    exact h.fresh v n ((h'.owner hb).symm.trans hv) hn

end Grows

/-- What an arena holds stays exactly as it is when more is added. -/
structure Extends (a b : Arena) : Prop where
  vars_le : a.vars.size ≤ b.vars.size
  nodes_le : a.nodes.size ≤ b.nodes.size
  var : ∀ v, v.idx < a.vars.size → b.var v = a.var v
  node : ∀ n, n.idx < a.nodes.size → b.node n = a.node n

namespace Extends

theorem refl (a : Arena) : a.Extends a := ⟨le_rfl, le_rfl, fun _ _ => rfl, fun _ _ => rfl⟩

theorem trans (h : a.Extends b) (h' : b.Extends c) : a.Extends c where
  vars_le := h.vars_le.trans h'.vars_le
  nodes_le := h.nodes_le.trans h'.nodes_le
  var v hv := (h'.var v (hv.trans_le h.vars_le)).trans (h.var v hv)
  node n hn := (h'.node n (hn.trans_le h.nodes_le)).trans (h.node n hn)

theorem owner (h : a.Extends b) (hv : v.idx < a.vars.size) : b.owner v = a.owner v := congrArg Variable.owner (h.var v hv)
theorem typeOf (h : a.Extends b) (hv : v.idx < a.vars.size) : b.typeOf v = a.typeOf v := congrArg Variable.type (h.var v hv)
theorem op (h : a.Extends b) (hn : n.idx < a.nodes.size) : b.op n = a.op n := congrArg Node.op (h.node n hn)
theorem inputs (h : a.Extends b) (hn : n.idx < a.nodes.size) : b.inputs n = a.inputs n := congrArg (·.inputs.toList) (h.node n hn)
theorem outputs (h : a.Extends b) (hn : n.idx < a.nodes.size) : b.outputs n = a.outputs n := congrArg (·.outputs.toList) (h.node n hn)

end Extends

/-- One arena is another with one more node, on the operands `ins`, and its `k` results. -/
structure Adds (a b : Arena) (ins : Vars) (k : Nat) : Prop extends a.Extends b where
  inputs_new : b.inputs ⟨a.nodes.size⟩ = ins
  outputs_new : b.outputs ⟨a.nodes.size⟩ = (List.range k).map fun i => ⟨a.vars.size + i⟩
  result : ∀ i < k, b.owner ⟨a.vars.size + i⟩ = some ⟨a.nodes.size⟩ ∧ (b.var ⟨a.vars.size + i⟩).index = i
  vars_eq : b.vars.size = a.vars.size + k
  nodes_eq : b.nodes.size = a.nodes.size + 1
  links_eq : b.links = a.links + 2 + ins.length + k

variable {ins : Vars} {i k : Nat}

theorem Adds.output (hb : a.Adds b ins k) (hi : i < k) :
    (b.outputs ⟨a.nodes.size⟩)[i]? = some ⟨a.vars.size + i⟩ := by
  rw [hb.outputs_new, List.getElem?_map, List.getElem?_range hi, Option.map_some]

theorem Adds.new (hb : a.Adds b ins k) (ho : b.owner v = some n) (hv : a.vars.size ≤ v.idx) :
    ∃ i < k, v = ⟨a.vars.size + i⟩ ∧ n = ⟨a.nodes.size⟩ := by
  obtain ⟨i, hi⟩ := Nat.exists_eq_add_of_le hv
  obtain rfl : v = ⟨a.vars.size + i⟩ := congrArg VarId.mk hi
  have hk : i < k := by have := lt_of_owner ho; rw [hb.vars_eq] at this; omega
  exact ⟨i, hk, rfl, Option.some.inj (ho.symm.trans (hb.result i hk).1)⟩

theorem Adds.grows (hb : a.Adds b ins k) : a.Grows b where
  vars_le := hb.vars_le
  nodes_le := hb.nodes_le
  links_le := by rw [hb.links_eq]; omega
  var v hv := by rw [hb.var v hv]; exact ⟨rfl, rfl, rfl, rfl⟩
  node n hn := by rw [Arena.op, hb.node n hn]; exact ⟨rfl, hb.inputs hn, hb.outputs hn⟩
  fresh v n ho hn := by
    by_contra hv
    obtain ⟨_, _, _, rfl⟩ := hb.new ho (Nat.not_lt.mp hv)
    exact lt_irrefl _ hn

theorem Adds.wf (hb : a.Adds b ins k) (h : a.Wf) (hins : ∀ v ∈ ins, v.idx < a.vars.size) : b.Wf where
  result n j v := by
    constructor
    · intro hv
      have hn : n.idx < b.nodes.size := by
        by_contra hn
        rw [outputs_of_le (Nat.not_lt.mp hn)] at hv
        cases hv
      rcases Nat.lt_succ_iff_lt_or_eq.mp (hb.nodes_eq ▸ hn) with hn | hn
      · rw [hb.outputs hn] at hv
        have hr := (h.result n j v).mp hv
        rw [Arena.owner, hb.var v (lt_of_owner hr.1)]
        exact hr
      · obtain rfl : n = ⟨a.nodes.size⟩ := congrArg NodeId.mk hn
        rw [hb.outputs_new, List.getElem?_map, Option.map_eq_some_iff] at hv
        obtain ⟨i, hi, rfl⟩ := hv
        obtain ⟨hj, rfl⟩ := List.getElem?_eq_some_iff.mp hi
        rw [List.getElem_range]
        exact hb.result j (by simpa using hj)
    · rintro ⟨ho, rfl⟩
      by_cases hv : v.idx < a.vars.size
      · rw [hb.owner hv] at ho
        rw [hb.outputs (h.node_lt ho), hb.var v hv]
        exact (h.result n _ v).mpr ⟨ho, rfl⟩
      · obtain ⟨i, hk, rfl, rfl⟩ := hb.new ho (Nat.not_lt.mp hv)
        rw [(hb.result i hk).2]
        exact hb.output hk
  operand n v hv := by
    refine lt_of_lt_of_le ?_ hb.vars_le
    by_cases hn : n.idx < a.nodes.size
    · rw [hb.inputs hn] at hv
      exact h.operand n v hv
    · have hn' : n.idx < b.nodes.size := by
        by_contra hn
        rw [inputs_of_le (Nat.not_lt.mp hn)] at hv
        cases hv
      obtain rfl : n = ⟨a.nodes.size⟩ := congrArg NodeId.mk (by have := hb.nodes_eq; omega)
      exact hins v (hb.inputs_new ▸ hv)
  links := by
    rw [hb.nodes_eq, hb.links_eq, Finset.sum_range_succ, hb.inputs_new, hb.outputs_new, List.length_map, List.length_range]
    have hold : ∀ i ∈ Finset.range a.nodes.size, 2 + (b.inputs ⟨i⟩).length + (b.outputs ⟨i⟩).length
        = 2 + (a.inputs ⟨i⟩).length + (a.outputs ⟨i⟩).length := fun i hi => by
      have hi := Finset.mem_range.mp hi
      rw [hb.inputs hi, hb.outputs hi]
    rw [Finset.sum_congr rfl hold]
    have := h.links
    omega

end Arena

end TensorGraph
