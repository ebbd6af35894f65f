import Mathlib.Data.List.Perm.Subperm
import Mathlib.Logic.Relation
import Mathlib.Order.WellFoundedSet
import TensorGraph.Proofs.Arena

/-!
# Orders by dependence

`Schedules needs items order` says that a list holds the given items, each once and after all that it
needs. Two algorithms give such orders. The first walks up from the results: a node waits on a stack
below the owners of its operands until all of them are finished. The second lists all items and
takes sources, round after round, until none is left; it notices a cycle by the items that were never
taken. Both build the order newest first, and `Layered` is the invariant that they share.
-/

namespace TensorGraph

open Relation

section Schedules

variable {α : Type} {needs : α → α → Prop} {items : α → Prop} {l order : List α} {x y : α}

/-- Newest first: each item is new and comes after all that it needs. -/
def Layered (needs : α → α → Prop) : List α → Prop
  | [] => True
  | x :: older => x ∉ older ∧ (∀ y, needs y x → y ∈ older) ∧ Layered needs older

/-- An order of all the items, each once and after all that it needs. -/
structure Schedules (needs : α → α → Prop) (items : α → Prop) (order : List α) : Prop where
  nodup : order.Nodup
  mem : ∀ x, x ∈ order ↔ items x
  after : ∀ xs x ys, order = xs ++ x :: ys → ∀ y, needs y x → y ∈ xs

namespace Layered

theorem nodup (h : Layered needs l) : l.Nodup := by
  induction l with
  | nil => exact List.nodup_nil
  | cons x older ih => exact List.nodup_cons.mpr ⟨h.1, ih h.2.2⟩

theorem mem_older {newer older : List α} (h : Layered needs (newer ++ x :: older)) (hy : needs y x) :
    y ∈ older := by
  induction newer with
  | nil => exact h.2.1 y hy
  | cons _ _ ih => exact ih h.2.2

theorem closed (h : Layered needs l) (hx : x ∈ l) (hy : needs y x) : y ∈ l := by
  obtain ⟨newer, older, rfl⟩ := List.append_of_mem hx
  exact List.mem_append_right _ (List.mem_cons_of_mem _ (h.mem_older hy))

theorem acc (h : Layered needs l) (hx : x ∈ l) : Acc needs x := by
  induction l generalizing x with
  | nil => cases hx
  | cons z older ih =>
    rcases List.mem_cons.mp hx with rfl | hx
    · exact ⟨_, fun y hy => ih h.2.2 (h.2.1 y hy)⟩
    · exact ih h.2.2 hx

theorem schedules (h : Layered needs l) (hl : ∀ x, x ∈ l ↔ items x) : Schedules needs items l.reverse where
  nodup := List.nodup_reverse.mpr h.nodup
  mem x := List.mem_reverse.trans (hl x)
  after xs x ys hs y hy := by
    have hl : l = ys.reverse ++ x :: xs.reverse := by
      rw [← List.reverse_reverse l, hs]
      simp
    rw [hl] at h
    exact List.mem_reverse.mp (h.mem_older hy)

end Layered

theorem Schedules.after_transGen (h : Schedules needs items order) {xs ys : List α} (hs : order = xs ++ x :: ys)
    (hy : TransGen needs y x) : y ∈ xs := by
  induction hy generalizing xs ys with
  | single hn => exact h.after xs _ ys hs y hn
  | tail _ hn ih =>
    obtain ⟨us, vs, rfl⟩ := List.append_of_mem (h.after xs _ ys hs _ hn)
    exact List.mem_append_left _ (ih (by rw [hs, List.append_assoc, List.cons_append]))

theorem Schedules.not_transGen (h : Schedules needs items order) (hx : items x) : ¬ TransGen needs x x := by
  intro hc
  obtain ⟨xs, ys, hs⟩ := List.append_of_mem ((h.mem x).mpr hx)
  have hmem : x ∈ xs := h.after_transGen hs hc
  have hd := h.nodup
  rw [hs, List.nodup_append] at hd
  exact hd.2.2 x hmem x (List.mem_cons_self ..) rfl

theorem not_transGen_of_acc (h : Acc needs x) : ¬ TransGen needs x x := by
  have irrefl : ∀ z, Acc (TransGen needs) z → ¬ TransGen needs z z := by
    intro z hz
    induction hz with
    | intro z _ ih => exact fun hz => ih z hz hz
  exact irrefl x h.transGen

/-- A dependence without cycles is well-founded on a finite set of items that it does not leave. -/
theorem acc_of_acyclic (hs : ∀ x ∈ l, ∀ y, needs y x → y ∈ l) (h : ∀ x ∈ l, ¬ TransGen needs x x) (hx : x ∈ l) :
    Acc needs x := by
  let within y x := needs y x ∧ x ∈ l
  have hirrefl : ∀ x, ¬ TransGen within x x := by
    intro x hc
    have hmem : x ∈ l := by
      obtain ⟨_, _, hlast⟩ := TransGen.tail'_iff.mp hc
      exact hlast.2
    exact h x hmem (TransGen.mono (fun _ _ => And.left) x x hc)
  have hwf : {x | x ∈ l}.WellFoundedOn (TransGen within) := by
    have : IsStrictOrder α (TransGen within) := { irrefl := hirrefl, trans := fun _ _ _ => TransGen.trans }
    exact l.finite_toSet.wellFoundedOn
  refine hwf.induction (P := fun x => Acc needs x) hx fun z hz ih => ⟨z, fun y hy => ?_⟩
  exact ih y (hs z hz y hy) (.single ⟨hy, hz⟩)

end Schedules

namespace Arena

variable {a : Arena} {settled : NodeId → Prop} {ords : Orderings}

/-- One node must come before another: it computes an operand and is not settled, or it is demanded. -/
def Before (a : Arena) (settled : NodeId → Prop) (ords : Orderings) (m n : NodeId) : Prop :=
  (a.Feeds m n ∧ ¬ settled m) ∨ ∃ l, (n, l) ∈ ords ∧ m ∈ l

/-- The nodes that some of the variables depend on, up to those that are settled. -/
def Pulled (a : Arena) (settled : NodeId → Prop) (ords : Orderings) (outs : Vars) (n : NodeId) : Prop :=
  ∃ v ∈ outs, ∃ r, a.owner v = some r ∧ ¬ settled r ∧ ReflTransGen (a.Before settled ords) n r

/-- A variable that is asked for, or read by a node that is met, is given exactly when its node is settled. -/
def Settled (a : Arena) (met : NodeId → Prop) (ins outs : Vars) (settled : NodeId → Prop) : Prop :=
  ∀ v n, a.owner v = some n → (v ∈ outs ∨ ∃ m, met m ∧ v ∈ a.inputs m) → (v ∈ ins ↔ settled n)

/-- The first result of a node is given. -/
def Given (a : Arena) (ins : Vars) (n : NodeId) : Prop := (a.outputs n).headD default ∈ ins

instance {ins : Vars} {n : NodeId} : Decidable (a.Given ins n) := inferInstanceAs (Decidable (_ ∈ _))

theorem feeds_iff_mem {m n : NodeId} : a.Feeds m n ↔ m ∈ (a.inputs n).filterMap a.owner := by
  simp only [Feeds, List.mem_filterMap]

@[simp] theorem before_nil {m n : NodeId} : a.Before settled [] m n ↔ a.Feeds m n ∧ ¬ settled m := by
  simp [Before]

/-- What comes before a node that is pulled is pulled. -/
theorem Pulled.before {outs : Vars} {m n : NodeId} (h : a.Pulled settled ords outs n) (hb : a.Before settled ords m n) :
    a.Pulled settled ords outs m := by
  obtain ⟨v, hv, r, ho, hs, hp⟩ := h
  exact ⟨v, hv, r, ho, hs, .head hb hp⟩

/-! ## The walk up from the results -/

section Walk

variable {met : NodeId → Prop} {given : VarId → Bool} {known known' : Std.HashSet VarId} {order new ns : List NodeId}
  {n : NodeId}

/-- A variable that the walk looks at: an operand of a node that it meets, or the first result of a node. -/
def Seen (a : Arena) (met : NodeId → Prop) (v : VarId) : Prop :=
  (∃ n, met n ∧ v ∈ a.inputs n) ∨ ∃ n, (a.outputs n).head? = some v

/-- The variables at hand are the results of settled nodes and of those in the order. -/
def Marks (a : Arena) (met : NodeId → Prop) (given : VarId → Bool) (settled : NodeId → Prop) (known : Std.HashSet VarId)
    (order : List NodeId) : Prop :=
  ∀ v n, a.owner v = some n → a.Seen met v → ((known.contains v || given v) = true ↔ settled n ∨ n ∈ order)

/-- The walk leaves the nodes `ns` behind: it goes on with the rest of its stack and with an order that
`new` extends, having waited at most once for each new node. -/
structure Visited (a : Arena) (met : NodeId → Prop) (given : VarId → Bool) (settled : NodeId → Prop) (ns : List NodeId)
    (known : Std.HashSet VarId) (order : List NodeId) (new : List NodeId) (known' : Std.HashSet VarId) : Prop where
  marks : a.Marks met given settled known' (new ++ order)
  layered : Layered (a.Before settled []) (new ++ order)
  pulled : ∀ x ∈ new, ∃ n ∈ ns, ¬ settled n ∧ ReflTransGen (a.Before settled []) x n
  done : ∀ n ∈ ns, settled n ∨ n ∈ new ++ order
  run : ∃ w ≤ new.length, ∀ fuel todo, a.topoLoop given (fuel + w) (ns ++ todo) known order =
    a.topoLoop given fuel todo known' (new ++ order)

theorem Marks.head (h : a.Marks met given settled known order) (hwf : a.Wf) (hn : ∃ v, a.owner v = some n) :
    (known.contains ((a.outputs n).headD default) || given ((a.outputs n).headD default)) = true ↔
      settled n ∨ n ∈ order := by
  obtain ⟨v, hv⟩ := hn
  cases ho : a.outputs n with
  | nil => exact absurd (hwf.mem_outputs.mpr hv) (by simp [ho])
  | cons u us => exact h u n (hwf.mem_outputs.mp (by simp [ho])) (.inr ⟨n, by simp [ho]⟩)

theorem Marks.ready (h : a.Marks met given settled known order) (hn : met n) :
    ((a.inputs n).all fun v => known.contains v || given v || (a.owner v).isNone) = true ↔
      ∀ m, a.Feeds m n → settled m ∨ m ∈ order := by
  rw [List.all_eq_true]
  constructor
  · rintro hall m ⟨v, hv, hm⟩
    have := hall v hv
    rw [hm, Option.isNone_some, Bool.or_false] at this
    exact (h v m hm (.inl ⟨n, hn, hv⟩)).mp this
  · intro hall v hv
    cases ho : a.owner v with
    | none => simp
    | some m => simpa using (h v m ho (.inl ⟨n, hn, hv⟩)).mpr (hall m ⟨v, hv, ho⟩)

theorem contains_insertAll (vs : Vars) (v : VarId) :
    (vs.foldl (·.insert ·) known).contains v = true ↔ v ∈ vs ∨ known.contains v = true := by
  induction vs generalizing known with
  | nil => simp
  | cons u us ih =>
    rw [List.foldl_cons, ih, Std.HashSet.contains_insert, Bool.or_eq_true, beq_iff_eq, List.mem_cons, eq_comm]
    exact or_left_comm.trans (or_assoc.symm)

theorem Marks.finish (h : a.Marks met given settled known order) (hwf : a.Wf) :
    a.Marks met given settled ((a.outputs n).foldl (·.insert ·) known) (n :: order) := by
  intro v m hm hseen
  have hv : v ∈ a.outputs n ↔ m = n := by rw [hwf.mem_outputs, hm, Option.some.injEq]
  rw [Bool.or_eq_true, contains_insertAll, hv, or_assoc, ← Bool.or_eq_true, h v m hm hseen, List.mem_cons]
  exact or_left_comm

/-! ## The three steps of the walk -/

section Steps

variable (hwf : a.Wf) (h : a.Marks met given settled known order) (hn : ∃ v, a.owner v = some n) (fuel : Nat)
  (todo : List NodeId)
include hwf h hn

theorem topoLoop_skip (hd : settled n ∨ n ∈ order) :
    a.topoLoop given fuel (n :: todo) known order = a.topoLoop given fuel todo known order := by
  rw [topoLoop.eq_def]
  exact if_pos ((h.head hwf hn).mpr hd)

theorem topoLoop_finish (hmet : met n) (hd : ¬ (settled n ∨ n ∈ order)) (hr : ∀ m, a.Feeds m n → settled m ∨ m ∈ order) :
    a.topoLoop given fuel (n :: todo) known order =
      a.topoLoop given fuel todo ((a.outputs n).foldl (·.insert ·) known) (n :: order) := by
  rw [topoLoop.eq_def]
  exact (if_neg (mt (h.head hwf hn).mp hd)).trans (if_pos ((h.ready hmet).mpr hr))

theorem topoLoop_wait (hmet : met n) (hd : ¬ (settled n ∨ n ∈ order)) (hr : ¬ ∀ m, a.Feeds m n → settled m ∨ m ∈ order) :
    a.topoLoop given (fuel + 1) (n :: todo) known order =
      a.topoLoop given fuel (((a.inputs n).filterMap a.owner).reverse ++ n :: todo) known order := by
  rw [topoLoop.eq_def]
  exact (if_neg (mt (h.head hwf hn).mp hd)).trans (if_neg (mt (h.ready hmet).mp hr))

end Steps

theorem visit_done (h : a.Marks met given settled known order) (hl : Layered (a.Before settled []) order)
    (hwf : a.Wf) (hn : ∃ v, a.owner v = some n) (hd : settled n ∨ n ∈ order) :
    a.Visited met given settled [n] known order [] known where
  marks := h
  layered := hl
  pulled _ hx := absurd hx List.not_mem_nil
  done m hm := by rwa [List.mem_singleton.mp hm]
  run := ⟨0, le_rfl, fun fuel todo => topoLoop_skip hwf h hn fuel todo hd⟩

/-- A node that is neither settled nor in the order joins it once everything before it is there. -/
theorem visit_ready (h : a.Marks met given settled known order) (hl : Layered (a.Before settled []) order)
    (hwf : a.Wf) (hn : ∃ v, a.owner v = some n) (hmet : met n) (hd : ¬ (settled n ∨ n ∈ order))
    (hr : ∀ m, a.Feeds m n → settled m ∨ m ∈ order) :
    a.Visited met given settled [n] known order [n] ((a.outputs n).foldl (·.insert ·) known) where
  marks := h.finish hwf
  layered := by
    refine ⟨(not_or.mp hd).2, fun m hm => ?_, hl⟩
    obtain ⟨hf, hm⟩ := before_nil.mp hm
    exact (hr m hf).resolve_left hm
  pulled x hx := ⟨n, List.mem_singleton_self n, (not_or.mp hd).1, by rw [List.mem_singleton.mp hx]⟩
  done m hm := .inr (List.mem_append_left _ hm)
  run := ⟨0, Nat.zero_le _, fun fuel todo => topoLoop_finish hwf h hn fuel todo hmet hd hr⟩

theorem Visited.nil (h : a.Marks met given settled known order) (hl : Layered (a.Before settled []) order) :
    a.Visited met given settled [] known order [] known where
  marks := h
  layered := hl
  pulled _ hx := absurd hx List.not_mem_nil
  done _ hm := absurd hm List.not_mem_nil
  run := ⟨0, le_rfl, fun _ _ => rfl⟩

theorem Visited.append {ms new' : List NodeId} {known'' : Std.HashSet VarId}
    (h : a.Visited met given settled ns known order new known')
    (h' : a.Visited met given settled ms known' (new ++ order) new' known'') :
    a.Visited met given settled (ns ++ ms) known order (new' ++ new) known'' where
  marks := by rw [List.append_assoc]; exact h'.marks
  layered := by rw [List.append_assoc]; exact h'.layered
  pulled x hx := by
    rcases List.mem_append.mp hx with hx | hx
    · obtain ⟨n, hn, hp⟩ := h'.pulled x hx
      exact ⟨n, List.mem_append_right _ hn, hp⟩
    · obtain ⟨n, hn, hp⟩ := h.pulled x hx
      exact ⟨n, List.mem_append_left _ hn, hp⟩
  done n hn := by
    rw [List.append_assoc]
    rcases List.mem_append.mp hn with hn | hn
    · exact (h.done n hn).imp_right (List.mem_append_right _)
    · exact h'.done n hn
  run := by
    obtain ⟨w, hw, hrun⟩ := h.run
    obtain ⟨w', hw', hrun'⟩ := h'.run
    refine ⟨w' + w, ?_, fun fuel todo => ?_⟩
    · rw [List.length_append]
      exact Nat.add_le_add hw' hw
    · rw [← Nat.add_assoc, List.append_assoc, hrun, hrun', List.append_assoc]

/-- Every node of a list can be visited, whatever the walk has found before. -/
def Visitable (a : Arena) (met : NodeId → Prop) (given : VarId → Bool) (settled : NodeId → Prop) (ns : List NodeId) : Prop :=
  ∀ known order, a.Marks met given settled known order → Layered (a.Before settled []) order →
    ∃ new known', a.Visited met given settled ns known order new known'

theorem visitable_list (h : ∀ n ∈ ns, a.Visitable met given settled [n]) : a.Visitable met given settled ns := by
  induction ns with
  | nil => exact fun known order hm hl => ⟨[], known, .nil hm hl⟩
  | cons n ns ih =>
    intro known order hm hl
    obtain ⟨new, known', hv⟩ := h n (List.mem_cons_self ..) known order hm hl
    obtain ⟨new', known'', hv'⟩ := ih (fun m hm => h m (List.mem_cons_of_mem _ hm)) known' _ hv.marks hv.layered
    exact ⟨_, _, hv.append hv'⟩

/-- A node that has waited for the owners of its operands is not among the nodes found meanwhile: it
would come before itself. -/
theorem Visited.not_mem_new (hacc : Acc (a.Before settled []) n)
    (h : a.Visited met given settled ((a.inputs n).filterMap a.owner).reverse known order new known') : n ∉ new := by
  intro hn
  obtain ⟨m, hm, hsm, hp⟩ := h.pulled n hn
  have hf : a.Before settled [] m n := before_nil.mpr ⟨feeds_iff_mem.mpr (List.mem_reverse.mp hm), hsm⟩
  exact not_transGen_of_acc hacc (TransGen.tail' hp hf)

/-- A node that had to wait joins the order after the nodes that were found meanwhile. -/
theorem visit_wait (h : a.Marks met given settled known order) (hwf : a.Wf) (hn : ∃ v, a.owner v = some n)
    (hmet : met n) (hacc : Acc (a.Before settled []) n) (hd : ¬ (settled n ∨ n ∈ order))
    (hr : ¬ ∀ m, a.Feeds m n → settled m ∨ m ∈ order)
    (hv : a.Visited met given settled ((a.inputs n).filterMap a.owner).reverse known order new known') :
    a.Visited met given settled [n] known order (n :: new) ((a.outputs n).foldl (·.insert ·) known') := by
  have hd' : ¬ (settled n ∨ n ∈ new ++ order) := by
    rw [List.mem_append]
    exact fun h => hd (h.imp_right fun h => h.resolve_left (hv.not_mem_new hacc))
  have hr' : ∀ m, a.Feeds m n → settled m ∨ m ∈ new ++ order := fun m hm =>
    hv.done m (List.mem_reverse.mpr (feeds_iff_mem.mp hm))
  have hready := visit_ready hv.marks hv.layered hwf hn hmet hd' hr'
  obtain ⟨w, hw, hrun⟩ := hv.run
  refine ⟨hready.marks, hready.layered, fun x hx => ?_, hready.done, w + 1, Nat.succ_le_succ hw, fun fuel todo => ?_⟩
  · rcases List.mem_cons.mp hx with rfl | hx
    · exact ⟨x, List.mem_singleton_self x, (not_or.mp hd).1, .refl⟩
    · obtain ⟨m, hm, hsm, hp⟩ := hv.pulled x hx
      have hf : a.Before settled [] m n := before_nil.mpr ⟨feeds_iff_mem.mpr (List.mem_reverse.mp hm), hsm⟩
      exact ⟨n, List.mem_singleton_self n, (not_or.mp hd).1, hp.tail hf⟩
  · calc a.topoLoop given (fuel + w + 1) (n :: todo) known order
      _ = a.topoLoop given (fuel + w) (((a.inputs n).filterMap a.owner).reverse ++ n :: todo) known order :=
        topoLoop_wait hwf h hn _ _ hmet hd hr
      _ = a.topoLoop given fuel (n :: todo) known' (new ++ order) := hrun fuel (n :: todo)
      _ = _ := topoLoop_finish hwf hv.marks hn fuel todo hmet hd' hr'

theorem visitable_of_settled (hwf : a.Wf) (hn : ∃ v, a.owner v = some n) (hs : settled n) :
    a.Visitable met given settled [n] :=
  fun _ _ hm hl => ⟨[], _, visit_done hm hl hwf hn (.inl hs)⟩

-- By induction on what comes before a node: the owners of its operands are visited first.
theorem visitable_of_acc (hwf : a.Wf) (hclosed : ∀ m n, met n → a.Before settled [] m n → met m)
    (hacc : Acc (a.Before settled []) n) (hmet : met n) (hn : ∃ v, a.owner v = some n) :
    a.Visitable met given settled [n] := by
  induction hacc with
  | intro n hpred ih =>
    intro known order hm hl
    by_cases hd : settled n ∨ n ∈ order
    · exact ⟨[], known, visit_done hm hl hwf hn hd⟩
    by_cases hr : ∀ m, a.Feeds m n → settled m ∨ m ∈ order
    · exact ⟨[n], _, visit_ready hm hl hwf hn hmet hd hr⟩
    have hlist : a.Visitable met given settled ((a.inputs n).filterMap a.owner).reverse := by
      refine visitable_list fun m hm => ?_
      have hf : a.Feeds m n := feeds_iff_mem.mpr (List.mem_reverse.mp hm)
      have hom : ∃ v, a.owner v = some m := hf.imp fun _ => And.right
      by_cases hsm : settled m
      · exact visitable_of_settled hwf hom hsm
      · have hb : a.Before settled [] m n := before_nil.mpr ⟨hf, hsm⟩
        exact ih m hb (hclosed m n hmet hb) hom
    obtain ⟨new, known', hv⟩ := hlist known order hm hl
    exact ⟨_, _, visit_wait hm hwf hn hmet ⟨n, hpred⟩ hd hr hv⟩

theorem Wf.length_le (hwf : a.Wf) (hd : ns.Nodup) (h : ∀ n ∈ ns, ∃ v, a.owner v = some n) :
    ns.length ≤ a.nodes.size := by
  have hsub : ns ⊆ (List.range a.nodes.size).map NodeId.mk := by
    intro n hn
    obtain ⟨v, hv⟩ := h n hn
    exact List.mem_map.mpr ⟨n.idx, List.mem_range.mpr (hwf.node_lt hv), rfl⟩
  simpa using (hd.subperm hsub).length_le

/-- The number of nodes is fuel enough: the walk waits once for each node that it adds. -/
theorem topoLoop_schedules (hwf : a.Wf) {roots : List NodeId} (hm : a.Marks met given settled known [])
    (hclosed : ∀ m n, met n → a.Before settled [] m n → met m)
    (hroots : ∀ r ∈ roots, (∃ v, a.owner v = some r) ∧ (¬ settled r → met r ∧ Acc (a.Before settled []) r)) :
    ∃ order, a.topoLoop given a.nodes.size roots known [] = some order ∧ Schedules (a.Before settled [])
      (fun n => ∃ r ∈ roots, ¬ settled r ∧ ReflTransGen (a.Before settled []) n r) order := by
  have hvis : a.Visitable met given settled roots := by
    refine visitable_list fun r hr => ?_
    obtain ⟨hown, hacc⟩ := hroots r hr
    by_cases hs : settled r
    · exact visitable_of_settled hwf hown hs
    · exact visitable_of_acc hwf hclosed (hacc hs).2 (hacc hs).1 hown
  obtain ⟨new, known', hv⟩ := hvis known [] hm trivial
  obtain ⟨w, hw, hrun⟩ := hv.run
  have hlayered : Layered (a.Before settled []) new := by simpa using hv.layered
  have howned : ∀ n ∈ new, ∃ v, a.owner v = some n := by
    intro n hn
    obtain ⟨r, hr, _, hp⟩ := hv.pulled n hn
    rcases hp.cases_head with rfl | ⟨m, hb, _⟩
    · exact (hroots _ hr).1
    · exact (before_nil.mp hb).1.imp fun _ => And.right
  have hlen : new.length ≤ a.nodes.size := hwf.length_le hlayered.nodup howned
  have heq : a.topoLoop given a.nodes.size roots known [] = some new.reverse := by
    have := hrun (a.nodes.size - w) []
    rw [Nat.sub_add_cancel (hw.trans hlen), List.append_nil, List.append_nil] at this
    rw [this, topoLoop.eq_def]
  refine ⟨_, heq, hlayered.schedules fun n => ⟨hv.pulled n, ?_⟩⟩
  rintro ⟨r, hr, hs, hp⟩
  have hmem : r ∈ new := by simpa using (hv.done r hr).resolve_left hs
  induction hp using ReflTransGen.head_induction_on with
  | refl => exact hmem
  | head hb _ ih => exact hlayered.closed ih hb

end Walk

/-- The walk looks only at the first result of a node to see whether the node is settled. -/
theorem toposort_schedules (hwf : a.Wf) {ins outs : Vars} (hins : a.Settled (a.Pulled settled [] outs) ins outs settled)
    (hfirst : ∀ n v, (a.outputs n).head? = some v → (v ∈ ins ↔ settled n))
    (hacc : ∀ n, a.Pulled settled [] outs n → Acc (a.Before settled []) n) :
    ∃ order, a.toposort ins outs = some order ∧ Schedules (a.Before settled []) (a.Pulled settled [] outs) order := by
  have hm : a.Marks (a.Pulled settled [] outs) (fun _ => false) settled (.ofList ins) [] := by
    intro v n ho hseen
    have : v ∈ ins ↔ settled n := by
      rcases hseen with hv | ⟨m, hv⟩
      · exact hins v n ho (.inr hv)
      · have hm : a.owner v = some m := hwf.mem_outputs.mp (List.mem_of_head? hv)
        obtain rfl : m = n := Option.some.inj (hm.symm.trans ho)
        exact hfirst m v hv
    simp [this]
  have hroots : ∀ r ∈ outs.filterMap a.owner,
      (∃ v, a.owner v = some r) ∧ (¬ settled r → a.Pulled settled [] outs r ∧ Acc (a.Before settled []) r) := by
    intro r hr
    obtain ⟨v, hv, ho⟩ := List.mem_filterMap.mp hr
    refine ⟨⟨v, ho⟩, fun hs => ?_⟩
    have hpull : a.Pulled settled [] outs r := ⟨v, hv, r, ho, hs, .refl⟩
    exact ⟨hpull, hacc r hpull⟩
  obtain ⟨order, he, h⟩ := topoLoop_schedules hwf hm (fun _ _ => Pulled.before) hroots
  refine ⟨order, he, h.nodup, fun n => (h.mem n).trans ?_, h.after⟩
  simp only [List.mem_filterMap, Pulled]
  constructor
  · rintro ⟨r, ⟨v, hv, hr⟩, hp⟩
    exact ⟨v, hv, r, hr, hp⟩
  · rintro ⟨v, hv, r, hr, hp⟩
    exact ⟨r, ⟨v, hv, hr⟩, hp⟩

end Arena

end TensorGraph
