import TensorGraph.Proofs.Gradient
import TensorGraph.Proofs.Scheduling

/-!
# What an output is connected with

The connections between the inputs and the outputs of a graph are found node after node, each after those
that compute its operands. An input is connected with an output exactly if a path of edges leads from the
one to the other, where every edge is one that the pattern of its node allows.
-/

namespace TensorGraph

open M Relation

namespace Flow

variable {V N : Type} {d : Dataflow V N} {pat : N → List (List Bool)} {blocked : V → Bool} {c v w : V}
  {e : Edge N}

theorem Reaches.tail (h : Reaches d pat blocked w v) (hl : Link d pat blocked e w c) : Reaches d pat blocked c v := by
  obtain ⟨es, hp⟩ := h
  induction hp with
  | nil => exact .step hl .refl
  | cons hl' _ ih => exact .step hl' ih

/-- Paths by their last edge. -/
theorem reaches_iff_last :
    Reaches d pat blocked c v ↔ c = v ∨ ∃ e w, Link d pat blocked e w c ∧ Reaches d pat blocked w v := by
  constructor
  · rintro ⟨es, hp⟩
    induction hp with
    | nil => exact .inl rfl
    | cons hl _ ih =>
      rcases ih with rfl | ⟨e, w, hl', hr⟩
      · exact .inr ⟨_, _, hl, .refl⟩
      · exact .inr ⟨e, w, hl', .step hl hr⟩
  · rintro (rfl | ⟨e, w, hl, hr⟩)
    · exact .refl
    · exact hr.tail hl

end Flow

section Marks

open Classical

variable {V : Type} {ins : List V} {P Q : V → Prop}

/-- Which of the inputs satisfy a condition. -/
noncomputable def marks (ins : List V) (P : V → Prop) : List Bool := ins.map fun v => decide (P v)

theorem marks_congr (h : ∀ v ∈ ins, P v ↔ Q v) : marks ins P = marks ins Q :=
  List.map_congr_left fun v hv => decide_eq_decide.mpr (h v hv)

theorem zipWith_marks : List.zipWith (· || ·) (marks ins P) (marks ins Q) = marks ins fun v => P v ∨ Q v := by
  unfold marks
  rw [List.zipWith_map, List.zipWith_self]
  refine List.map_congr_left fun v _ => ?_
  by_cases hP : P v <;> simp [hP]

theorem getD_marks {i : Nat} {v : V} (hv : ins[i]? = some v) : (marks ins P).getD i false = true ↔ P v := by
  rw [marks, List.getD_eq_getElem?_getD, List.getElem?_map, hv, Option.map_some, Option.getD_some, decide_eq_true_iff]

end Marks

namespace Connector

variable {V : Type} {ins outs : List V} {R : V → V → Prop} {known : List (V × List Bool)} {done : V → Prop}
  {c : Connector V} {o : Nat} {y : V}

theorem short_eq_false {known : V → Bool} (hlen : c.pattern.length = c.inputs.length)
    (hrow : ∀ row ∈ c.pattern, row.length = c.outputs.length) : c.short known = false := by
  unfold short
  rw [List.any_eq_false]
  intro p hp
  have hi : p.2 < c.pattern.length := hlen ▸ (List.getElem?_eq_some_iff.mp (List.mem_zipIdx_iff_getElem?.mp hp)).1
  rw [List.getD_eq_getElem?_getD, List.getElem?_eq_getElem hi, Option.getD_some, hrow _ (List.getElem_mem hi)]
  simp

variable [BEq V]

/-- The variables that are done are known, and what is known of a variable is by which inputs it is reached. -/
def Told (ins : List V) (R : V → V → Prop) (done : V → Prop) (known : List (V × List Bool)) : Prop :=
  ∀ y, known.lookup y = some (marks ins (R y)) ∨ known.lookup y = none ∧ ¬ done y

section Node

variable (h : Told ins R done known) (hin : ∀ w ∈ c.inputs, done w ∨ ∀ v ∈ ins, ¬ R w v)
include h

/-- An input that is not known is not reached, so that it has nothing to add. -/
theorem join_marks {P : V → Prop} {p : V × List Bool} (hp : done p.1 ∨ ∀ v ∈ ins, ¬ R p.1 v) :
    join known o (marks ins P) p = marks ins fun v => P v ∨ p.2.getD o false = true ∧ R p.1 v := by
  unfold join
  split
  case isTrue hr =>
    rcases h p.1 with hl | ⟨hl, hd⟩
    · rw [hl, Option.elim_some, zipWith_marks]
      exact marks_congr fun v _ => by rw [hr, eq_self, true_and]
    · rw [hl, Option.elim_none]
      exact marks_congr fun v hv => by simp [hp.resolve_left hd v hv]
  case isFalse hr => exact marks_congr fun v _ => (or_iff_left fun hv => hr hv.1).symm

theorem foldl_join {P : V → Prop} {ps : List (V × List Bool)} (hps : ∀ p ∈ ps, done p.1 ∨ ∀ v ∈ ins, ¬ R p.1 v) :
    ps.foldl (join known o) (marks ins P) = marks ins fun v => P v ∨ ∃ p ∈ ps, p.2.getD o false = true ∧ R p.1 v := by
  induction ps generalizing P with
  | nil => simp
  | cons p ps ih =>
    obtain ⟨hp, hps⟩ := List.forall_mem_cons.mp hps
    rw [List.foldl_cons, join_marks h hp, ih hps]
    exact marks_congr fun v _ => by rw [List.exists_mem_cons_iff, or_assoc]

include hin

theorem row_eq : c.row ins.length known o =
    marks ins fun v => ∃ i w, c.inputs[i]? = some w ∧ Flow.connects c.pattern i o = true ∧ R w v := by
  have hstart : List.replicate ins.length false = marks ins fun _ => False := by simp [marks]
  rw [row, hstart, foldl_join h fun p hp => hin p.1 (List.of_mem_zip hp).1]
  refine marks_congr fun v _ => ?_
  simp only [false_or, List.mem_iff_getElem?, List.getElem?_zip_eq_some]
  constructor
  · rintro ⟨p, ⟨i, hw, hr⟩, ho, hR⟩
    exact ⟨i, p.1, hw, by rwa [Flow.connects, List.getD_eq_getElem?_getD (l := c.pattern), hr], hR⟩
  · rintro ⟨i, w, hw, ho, hR⟩
    rw [Flow.connects, List.getD_eq_getElem?_getD (l := c.pattern)] at ho
    cases hr : c.pattern[i]? with
    | none => rw [hr] at ho; cases ho
    | some r => exact ⟨(w, r), ⟨i, hw, hr⟩, by rwa [hr] at ho, hR⟩

end Node

theorem forall₂_table {nodes : List (Connector V)} (h : Told ins R done (nodes.foldl (extend ins.length) (start ins)))
    (hout : ∀ y ∈ outs, done y ∨ ∀ v ∈ ins, ¬ R y v) :
    List.Forall₂ (fun v row => List.Forall₂ (fun y b => b = true ↔ R y v) outs row) ins (table nodes ins outs) := by
  unfold table
  rw [List.forall₂_map_right_iff, List.forall₂_iff_get]
  refine ⟨List.length_range.symm, fun i hi _ => ?_⟩
  rw [List.forall₂_map_right_iff, List.forall₂_same]
  intro y hy
  have hv : ins[i]? = some (ins.get ⟨i, hi⟩) := List.getElem?_eq_getElem hi
  simp only [List.get_eq_getElem, List.getElem_range]
  rcases h y with hl | ⟨hl, hd⟩
  · rw [hl]
    exact getD_marks hv
  · rw [hl]
    simpa using (hout y hy).resolve_left hd _ (List.get_mem ins ⟨i, hi⟩)

variable [LawfulBEq V]

theorem told_start (hd : ins.Nodup) (hR : ∀ y ∈ ins, ∀ v, R y v ↔ y = v) : Told ins R (· ∈ ins) (start ins) := by
  intro y
  rcases lookup_zipIdx (x := y) (l := ins) (f := fun i => (List.range ins.length).map (· == i)) with
    ⟨i, hi, hl⟩ | ⟨hy, hl⟩
  · left
    rw [start, hl, Option.some_inj]
    refine List.ext_getElem (by simp [marks]) fun j _ _ => ?_
    obtain ⟨_, rfl⟩ := List.getElem?_eq_some_iff.mp hi
    rw [Bool.eq_iff_iff]
    simpa [marks, hR _ (List.getElem_mem _), hd.getElem_inj_iff] using eq_comm
  · exact .inr ⟨hl, hy⟩

/-- A node makes its outputs known. -/
theorem Told.extend (h : Told ins R done known) (hin : ∀ w ∈ c.inputs, done w ∨ ∀ v ∈ ins, ¬ R w v)
    (hout : ∀ o y, c.outputs[o]? = some y → ∀ v ∈ ins,
      (R y v ↔ ∃ i w, c.inputs[i]? = some w ∧ Flow.connects c.pattern i o = true ∧ R w v)) :
    Told ins R (fun y => done y ∨ y ∈ c.outputs) (c.extend ins.length known) := by
  intro y
  rw [Connector.extend, List.lookup_append]
  rcases lookup_zipIdx (x := y) (l := c.outputs) (f := c.row ins.length known) with ⟨o, ho, hl⟩ | ⟨hy, hl⟩
  · left
    rw [hl, Option.some_or, row_eq h hin]
    exact congrArg some (marks_congr fun v hv => (hout o y ho v hv).symm)
  · rw [hl, Option.none_or]
    exact (h y).imp_right fun hn => ⟨hn.1, not_or.mpr ⟨hn.2, hy⟩⟩

end Connector

namespace Arena

variable {a : Arena} {pat : NodeId → Links} {ins outs : Vars} {n : NodeId} {y v : VarId} {o : Nat}

/-- A path along the patterns leads from a variable to another. -/
def Joins (a : Arena) (pat : NodeId → Links) (y v : VarId) : Prop :=
  Flow.Reaches (Gradient.dataflow a) pat (fun _ => false) y v

theorem joins_of_owner_none (hwf : a.Wf) (hy : a.owner y = none) : a.Joins pat y v ↔ y = v := by
  rw [Joins, Flow.reaches_iff_last]
  refine or_iff_left ?_
  rintro ⟨e, w, hl, _⟩
  have : a.owner y = some e.node := hwf.mem_outputs.mp (List.mem_of_getElem? hl.target)
  rw [hy] at this
  cases this

theorem joins_output (hwf : a.Wf) (hy : (a.outputs n)[o]? = some y) (hv : a.owner v = none) :
    a.Joins pat y v ↔ ∃ i w, (a.inputs n)[i]? = some w ∧ Flow.connects (pat n) i o = true ∧ a.Joins pat w v := by
  have hmaker := (Gradient.dataflow_wired hwf n o y).mp hy
  rw [Joins, Flow.reaches_iff_last]
  constructor
  · rintro (rfl | ⟨e, w, hl, hr⟩)
    · rw [hwf.mem_outputs.mp (List.mem_of_getElem? hy)] at hv
      cases hv
    · obtain ⟨rfl, rfl⟩ := Prod.mk.inj (Option.some.inj ((hl.maker (Gradient.dataflow_wired hwf)).symm.trans hmaker))
      exact ⟨e.input, w, hl.source, hl.joined, hr⟩
  · rintro ⟨i, w, hw, hc, hr⟩
    exact .inr ⟨⟨n, i, o⟩, w, ⟨hw, hy, hc, rfl⟩, hr⟩

/-- A node as far as connections go. -/
def connector (a : Arena) (pat : NodeId → Links) (n : NodeId) : Connector VarId := ⟨a.inputs n, a.outputs n, pat n⟩

/-- An input, or computed by one of the nodes. -/
def Found (a : Arena) (ins : Vars) (ns : List NodeId) (y : VarId) : Prop := y ∈ ins ∨ ∃ n ∈ ns, a.owner y = some n

theorem found_or_not_joins (hwf : a.Wf) {ns : List NodeId} (hy : ∀ n, a.owner y = some n → n ∈ ns) :
    a.Found ins ns y ∨ ∀ v ∈ ins, ¬ a.Joins pat y v := by
  cases ho : a.owner y with
  | some n => exact .inl (.inr ⟨n, hy n ho, ho⟩)
  | none =>
    refine or_iff_not_imp_left.mpr fun hf v hv hj => hf (.inl ?_)
    rwa [(joins_of_owner_none hwf ho).mp hj]

/-- By induction on the nodes that are still to come: each finds its operands among what is known. -/
theorem told_connectors (hwf : a.Wf) (hins : ∀ v ∈ ins, a.owner v = none) {order : List NodeId}
    (hs : Schedules (a.Before (fun _ => False) []) (a.Pulled (fun _ => False) [] outs) order)
    (xs ys : List NodeId) (hxy : order = xs ++ ys) {known : List (VarId × List Bool)}
    (h : Connector.Told ins (a.Joins pat) (a.Found ins xs) known) :
    Connector.Told ins (a.Joins pat) (a.Found ins order)
      ((ys.map (a.connector pat)).foldl (Connector.extend ins.length) known) := by
  induction ys generalizing xs known with
  | nil => rwa [hxy, List.append_nil]
  | cons n ys ih =>
    refine ih (xs ++ [n]) (by simp [hxy]) ?_
    refine fun y => (h.extend (c := a.connector pat n) (fun w hw => ?_) (fun o y hy v hv => ?_) y).imp_right fun hl => ?_
    · exact found_or_not_joins hwf fun m hm => hs.after xs n ys hxy m (before_nil.mpr ⟨⟨w, hw, hm⟩, id⟩)
    · exact joins_output hwf hy (hins v hv)
    · refine ⟨hl.1, fun hf => hl.2 ?_⟩
      rcases hf with hy | ⟨m, hm, ho⟩
      · exact .inl (.inl hy)
      · rcases List.mem_append.mp hm with hm | hm
        · exact .inl (.inr ⟨m, hm, ho⟩)
        · obtain rfl := List.mem_singleton.mp hm
          exact .inr (hwf.mem_outputs.mpr ho)

end Arena

/-- The operators behind some variables say which inputs are connected with which outputs; those that say nothing
connect all. -/
structure Patterned (k : Kit) (s₀ : Session) (outs : Vars) (pat : NodeId → Links) : Prop where
  connections : ∀ s n, s₀.Later s → s₀.arena.Pulled (fun _ => False) [] outs n → (connections? n).Ends k s
    (fun p t => s.Later t ∧ pat n =
      p.getD (List.replicate (s₀.arena.inputs n).length (List.replicate (s₀.arena.outputs n).length true))) fun _ _ => False
  rows : ∀ n, s₀.arena.Pulled (fun _ => False) [] outs n → (pat n).length = (s₀.arena.inputs n).length ∧
    ∀ row ∈ pat n, row.length = (s₀.arena.outputs n).length

/-- An input is connected with an output exactly if a path along the patterns of the nodes leads from it there. -/
theorem connectionsBetween_joins (k : Kit) (s : Session) (pat : NodeId → Links) (ins outs : Vars) (hwf : s.arena.Wf)
    (hac : ∀ n, ¬ TransGen s.arena.Feeds n n) (hpat : Patterned k s outs pat) (hd : ins.Nodup)
    (hins : ∀ v ∈ ins, s.arena.owner v = none) :
    (connectionsBetween ins outs).Ends k s (fun table t => s.Later t ∧ List.Forall₂ (fun v row =>
      List.Forall₂ (fun y b => b = true ↔ s.arena.Joins pat y v) outs row) ins table) fun _ _ => False := by
  unfold connectionsBetween
  rw [ends_bind, ends_getArena, ends_bind]
  refine (Arena.orderBetween_ends hwf hac hins).imp ?_
  rintro order _ ⟨rfl, hs⟩
  rw [ends_bind]
  refine (mapM_later (R := fun n c _ => s.arena.connector pat n = c) (fun _ _ _ _ h _ => h) fun n hn t ht => ?_).imp
    fun nodes t ht => ?_
  · have hn := (hs.mem n).mp hn
    rw [ends_bind, ends_tryCatch]
    refine (hpat.connections t n ht hn).mono (fun p u hp => ?_) fun _ _ h => h.elim
    rw [← hp.2]
    have hshort : ¬ (s.arena.connector pat n).short (fun v => ins.contains v || (s.arena.owner v).isSome) = true :=
      Bool.eq_false_iff.mp (Connector.short_eq_false (hpat.rows n hn).1 (hpat.rows n hn).2)
    change (if (s.arena.connector pat n).short _ = true then _ else Pure.pure (s.arena.connector pat n) : M _).Ends k u _ _
    rw [if_neg hshort]
    exact ⟨hp.1, rfl⟩
  · have hnodes : List.Forall₂ Eq (order.map (s.arena.connector pat)) nodes :=
      List.forall₂_map_left_iff.mpr ht.2
    rw [List.forall₂_eq_eq_eq] at hnodes
    rw [ends_pure, ← hnodes]
    refine ⟨ht.1, Connector.forall₂_table (Arena.told_connectors hwf hins hs [] _ rfl ?_) fun y hy => ?_⟩
    · have := Connector.told_start (R := s.arena.Joins pat) hd fun y hy v => Arena.joins_of_owner_none hwf (hins y hy)
      exact fun y => (this y).imp_right fun h => ⟨h.1, fun hf => h.2 (hf.resolve_right (by simp))⟩
    · exact Arena.found_or_not_joins hwf fun n hn => (hs.mem n).mpr ⟨y, hy, n, hn, id, .refl⟩

namespace Pair

/-- The first node hands on its operand as its first result, and the second node uses its second operand alone. -/
def pattern (n : NodeId) : Links := if n.idx = 0 then [[true, false]] else [[false], [true]]

def patterned : Kit := { Kit.empty with connections := fun n s => .ok (some (pattern n)) s }

theorem not_joins : ¬ joined.Joins pattern ⟨3⟩ ⟨0⟩ := by
  intro h
  obtain ⟨_ | _ | i, w, hw, hc, hj⟩ := (Arena.joins_output (n := ⟨1⟩) (o := 0) joined_wf rfl rfl).mp h
  · cases hc
  · obtain rfl : ⟨2⟩ = w := Option.some.inj hw
    obtain ⟨_ | i, _, hw, hc, _⟩ := (Arena.joins_output (n := ⟨0⟩) (o := 1) joined_wf rfl rfl).mp hj
    · cases hc
    · cases hw
  · cases hw

theorem joins_first : joined.Joins pattern ⟨1⟩ ⟨0⟩ :=
  (Arena.joins_output (n := ⟨0⟩) (o := 0) joined_wf rfl rfl).mpr ⟨0, ⟨0⟩, rfl, rfl, .refl⟩

theorem connectionsBetween_joins_pair : (connectionsBetween [⟨0⟩] [⟨3⟩, ⟨1⟩]).Ends patterned { arena := joined }
    (fun table _ => table = [[false, true]]) fun _ _ => False := by
  refine (connectionsBetween_joins patterned { arena := joined } pattern [⟨0⟩] [⟨3⟩, ⟨1⟩] joined_wf not_transGen_joined
    ⟨fun s n _ _ => ⟨.refl s, rfl⟩, ?_⟩ (List.nodup_singleton _) ?_).imp fun table t h => ?_
  · rintro ⟨_ | _ | i⟩ hn
    · decide
    · decide
    · have : i + 2 < 2 := hn.node_lt joined_wf
      omega
  · intro v hv
    rw [List.mem_singleton.mp hv]
    rfl
  · obtain ⟨-, h⟩ := h
    cases h with
    | cons h h' =>
      cases h'
      cases h with
      | cons h h' =>
        cases h' with
        | cons h' h'' =>
          cases h''
          rw [Bool.eq_false_iff.mpr fun hb => not_joins (h.mp hb), h'.mpr joins_first]

end Pair

end TensorGraph
