import TensorGraph.Loop.Op
import TensorGraph.Proofs.Cloning

/-!
# Which variables may be used

A validator is told of variables that may be used, of others that may not, and of equivalents for some of these. It settles a
variable after the ones it is computed from and notes the answer among the marks it started with. What it holds is right at
every moment, so its answers do not depend on what it was asked before.
-/

namespace TensorGraph

open M
open Relation (TransGen)

namespace Validator

/-- Marks on the variables of an acyclic graph: those that may be used, those that may not, and for some of the latter
one that may be used instead. -/
structure Marks (a : Arena) where
  valid : Vars
  invalid : Vars
  equivalents : VarPairs
  wf : a.Wf
  acyclic : ∀ n, ¬ TransGen a.Feeds n n
  single : (equivalents.map (·.1)).Nodup
  apart : ∀ v ∈ valid ++ equivalents.map (·.2), v ∉ invalid ++ equivalents.map (·.1)
  inside : ∀ p ∈ equivalents, p.2.idx < a.vars.size

namespace Marks

variable {a : Arena} (m : Marks a)

def Usable (v : VarId) : Prop := v ∈ m.valid ++ m.equivalents.map (·.2)
def Barred (v : VarId) : Prop := v ∈ m.invalid ++ m.equivalents.map (·.1)

/-- A variable that may be used: marked so, or computed without the variables that may not be used. -/
inductive Good : VarId → Prop
  | usable {v} (h : m.Usable v) : Good v
  | leaf {v} (hb : ¬ m.Barred v) (ho : a.owner v = none) : Good v
  | result {v n} (hb : ¬ m.Barred v) (ho : a.owner v = some n) (h : ∀ x ∈ a.inputs n, Good x) : Good v

/-- A variable that may be used once equivalents stand for some of what it is computed from. -/
inductive Replaceable : VarId → Prop
  | given {v e} (h : (v, e) ∈ m.equivalents) : Replaceable v
  | result {v n x} (hu : ¬ m.Usable v) (hb : ¬ m.Barred v) (ho : a.owner v = some n)
      (h : ∀ x ∈ a.inputs n, ¬ m.Good x → Replaceable x) (hx : x ∈ a.inputs n) (hg : ¬ m.Good x) : Replaceable v

/-- In the arena `b`, one variable is another with the equivalents substituted: a rebuilt variable stands at the same
place of a node of the same operator, whose operands are the substituted ones. -/
inductive Replaced (b : Arena) : VarId → VarId → Prop
  | good {v} (h : m.Good v) : Replaced b v v
  | given {v e} (h : (v, e) ∈ m.equivalents) : Replaced b v e
  | result {v e n p} (f : VarId → VarId) (hb : ¬ m.Barred v) (hr : m.Replaceable v) (ho : a.owner v = some n)
      (he : b.owner e = some p) (hi : (b.var e).index = (a.var v).index) (hop : b.op p = a.op n)
      (hins : b.inputs p = (a.inputs n).map f) (h : ∀ x ∈ a.inputs n, Replaced b x (f x)) : Replaced b v e

variable {m} {b c : Arena} {v e : VarId} {n : NodeId}

theorem barred_of_mem (h : (v, e) ∈ m.equivalents) : m.Barred v :=
  List.mem_append_right _ (List.mem_map.mpr ⟨_, h, rfl⟩)

theorem not_good (h : m.Barred v) : ¬ m.Good v
  | .usable hu => m.apart v hu h
  | .leaf hb _ | .result hb _ _ => hb h

theorem not_replaceable (h : m.Barred v) (he : ∀ e, (v, e) ∉ m.equivalents) : ¬ m.Replaceable v
  | .given hm => he _ hm
  | .result _ hb _ _ _ _ => hb h

theorem good_iff (hu : ¬ m.Usable v) (hb : ¬ m.Barred v) (ho : a.owner v = some n) :
    m.Good v ↔ ∀ x ∈ a.inputs n, m.Good x := by
  refine ⟨fun h => ?_, .result hb ho⟩
  cases h with
  | usable h => exact absurd h hu
  | leaf _ ho' => cases ho.symm.trans ho'
  | result _ ho' h =>
    cases ho.symm.trans ho'
    exact h

theorem replaceable_iff (hu : ¬ m.Usable v) (hb : ¬ m.Barred v) (ho : a.owner v = some n) :
    m.Replaceable v ↔ (∀ x ∈ a.inputs n, ¬ m.Good x → m.Replaceable x) ∧ ∃ x ∈ a.inputs n, ¬ m.Good x := by
  refine ⟨fun h => ?_, fun ⟨h, _, hx, hg⟩ => .result hu hb ho h hx hg⟩
  cases h with
  | given h => exact absurd (barred_of_mem h) hb
  | result _ _ ho' h hx hg =>
    cases ho.symm.trans ho'
    exact ⟨h, _, hx, hg⟩

theorem Replaceable.not_good : m.Replaceable v → ¬ m.Good v
  | .given h => Marks.not_good (barred_of_mem h)
  | .result hu hb ho _ hx hg => fun h => hg ((good_iff hu hb ho).mp h _ hx)

theorem Replaced.mono (h : m.Replaced b v e) (hb : b.Wf) (hc : b.Extends c) : m.Replaced c v e := by
  induction h with
  | good h => exact .good h
  | given h => exact .given h
  | result f hv hr ho he hi hop hins _ ih =>
    have hlt := Arena.lt_of_owner he
    have hp := hb.node_lt he
    exact .result f hv hr ho ((hc.owner hlt).trans he) (by rw [hc.var _ hlt, hi]) ((hc.op hp).trans hop)
      ((hc.inputs hp).trans hins) ih

/-- What a validator may answer on a variable when the arena has become `b`. -/
def Answer (m : Marks a) (b : Arena) (v : VarId) : Option (VarId × Bool) → Prop
  | some (e, true) => e = v ∧ m.Good v
  | some (e, false) => m.Replaceable v ∧ m.Replaced b v e ∧ e.idx < b.vars.size ∧ (a.typeOf v == b.typeOf e) = true
  | none => ¬ m.Good v ∧ ¬ m.Replaceable v

variable {r : Option (VarId × Bool)}

theorem Answer.mono (h : m.Answer b v r) (hb : b.Wf) (hc : b.Extends c) : m.Answer c v r := by
  match r, h with
  | some (e, true), h => exact h
  | some (e, false), ⟨hr, he, hlt, ht⟩ =>
    exact ⟨hr, he.mono hb hc, hlt.trans_le hc.vars_le, (hc.typeOf hlt).symm ▸ ht⟩
  | none, h => exact h

/-- What an answer offers stands for the variable. -/
theorem Answer.offer (h : m.Answer b v r) (hr : r.isSome = true) (hv : v.idx < a.vars.size) (hb : a.Extends b) :
    m.Replaced b v ((r.map (·.1)).getD v) ∧ ((r.map (·.1)).getD v).idx < b.vars.size ∧
      (a.typeOf v == b.typeOf ((r.map (·.1)).getD v)) = true ∧ (¬ m.Good v → m.Replaceable v) := by
  match r, h with
  | some (_, true), ⟨rfl, hg⟩ => exact ⟨.good hg, hv.trans_le hb.vars_le, (hb.typeOf hv).symm ▸ Ty.beq_self _, absurd hg⟩
  | some (e, false), ⟨hr, he, hlt, ht⟩ => exact ⟨he, hlt, ht, fun _ => hr⟩

end Marks

/-! ## Notes -/

section Note

variable {x : Validator} {v w : VarId} {r : Option (VarId × Bool)}

theorem isKnown_note_of_isKnown (h : x.isKnown w = true) : (x.note v r).isKnown w = true := by
  rcases r with _ | ⟨e, _ | _⟩ <;> grind [note, isKnown]

theorem isKnown_note_self : (x.note v r).isKnown v = true := by
  rcases r with _ | ⟨e, _ | _⟩ <;> grind [note, isKnown]

theorem note_of_ne (hw : w ≠ v) (hr : r ≠ some (w, false)) :
    (x.note v r).isKnown w = x.isKnown w ∧ (x.note v r).verdict w = x.verdict w := by
  rcases r with _ | ⟨e, _ | _⟩ <;> grind [note, isKnown, verdict]

theorem equivalents_note (h : (x.note v r).isKnown w = false) : (x.note v r).equivalents[w]? = x.equivalents[w]? := by
  rcases r with _ | ⟨e, _ | _⟩ <;> grind [note, isKnown]

theorem verdict_note (hx : x.isKnown v = false → x.equivalents[v]? = none) (hr : ∀ e, r = some (e, true) → e = v)
    (hne : r ≠ some (v, false)) :
    (x.note v r).verdict v = r ∨ x.isKnown v = true ∧ (x.note v r).verdict v = x.verdict v := by
  rcases r with _ | ⟨e, _ | _⟩ <;> grind [note, isKnown, verdict]

end Note

/-! ## One more verdict -/

/-- What a validator holds about the variables of the graph it started on. -/
structure Judged {s : Session} (m : Marks s.arena) (x : Validator) (t : Session) : Prop where
  frame : t = { s with arena := t.arena }
  old : s.arena.Extends t.arena
  wf : t.arena.Wf
  marked : ∀ v, m.Usable v ∨ m.Barred v → x.isKnown v = true
  unknown : ∀ v, x.isKnown v = false → x.equivalents[v]? = none
  verdict : ∀ v, v.idx < s.arena.vars.size → x.isKnown v = true → m.Answer t.arena v (x.verdict v)

section

variable {k : Kit} {s t : Session} {m : Marks s.arena} {x y : Validator} {v : VarId} {n : NodeId}

theorem judged_start (ht : ∀ p ∈ m.equivalents, (s.arena.typeOf p.1 == s.arena.typeOf p.2) = true) :
    Judged m (start m.valid m.invalid m.equivalents) s where
  frame := rfl
  old := .refl _
  wf := m.wf
  marked v hv := by simpa [isKnown, start, Marks.Usable, Marks.Barred] using hv
  unknown v hv := by
    refine Std.HashMap.getElem?_ofList_of_contains_eq_false (Bool.eq_false_iff.mpr fun h => ?_)
    have := List.mem_append_right m.invalid (List.contains_iff_mem.mp h)
    simp_all [isKnown, start]
  verdict v hlt hv := by
    by_cases hu : m.Usable v
    · rw [Validator.verdict, if_pos (by simpa [start, Marks.Usable] using hu)]
      exact ⟨rfl, .usable hu⟩
    have hb : m.Barred v := (by simpa [isKnown, start, Marks.Usable, Marks.Barred] using hv : m.Usable v ∨ m.Barred v).resolve_left hu
    rw [Validator.verdict, if_neg (by simpa [start, Marks.Usable] using hu), start]
    by_cases he : ∃ e, (v, e) ∈ m.equivalents
    · obtain ⟨e, he⟩ := he
      have hne : m.equivalents.Pairwise fun p q => (p.1 == q.1) = false :=
        (List.pairwise_map.mp m.single).imp beq_eq_false_iff_ne.mpr
      rw [Std.HashMap.getElem?_ofList_of_mem (beq_self_eq_true v) hne he]
      exact ⟨.given he, .given he, m.inside _ he, ht _ he⟩
    · rw [Std.HashMap.getElem?_ofList_of_contains_eq_false (by simpa using he)]
      exact ⟨Marks.not_good hb, Marks.not_replaceable hb fun e h => he ⟨e, h⟩⟩

theorem Judged.grow {u : Session} (h : Judged m x t) (hu : u = { t with arena := u.arena }) (hext : t.arena.Extends u.arena)
    (hwf : u.arena.Wf) : Judged m x u :=
  { h with
    frame := by rw [hu, h.frame]
    old := h.old.trans hext
    wf := hwf
    verdict := fun v hv hk => (h.verdict v hv hk).mono h.wf hext }

/-- A right answer may be noted. -/
theorem Judged.note {r : Option (VarId × Bool)} (h : Judged m x t) (hr : m.Answer t.arena v r)
    (hnew : ∀ e, r = some (e, false) → s.arena.vars.size ≤ e.idx) : Judged m (x.note v r) t :=
  { h with
    marked := fun w hw => isKnown_note_of_isKnown (h.marked w hw)
    unknown := fun w hw => (equivalents_note hw).trans
      (h.unknown w (Bool.eq_false_iff.mpr fun hx => Bool.eq_false_iff.mp hw (isKnown_note_of_isKnown hx)))
    verdict := fun w hw hk => by
      have hne : r ≠ some (w, false) := fun hr => absurd (hnew w hr) (Nat.not_le.mpr hw)
      by_cases hwv : w = v
      · subst hwv
        rcases verdict_note (h.unknown w) (fun e he => (he ▸ hr).1) hne with he | ⟨hk, he⟩ <;> rw [he]
        · exact hr
        · exact h.verdict w hw hk
      · obtain ⟨hkw, hvw⟩ := note_of_ne (x := x) hwv hne
        rw [hvw]
        exact h.verdict w hw (hkw ▸ hk) }

/-- A node copied on what stands for its operands has, at the place of the variable, what stands for the variable. -/
theorem Judged.rebuild (h : Judged m x t) (hb : ¬ m.Barred v) (hr : m.Replaceable v) (ho : s.arena.owner v = some n)
    (hops : ∀ i ∈ s.arena.inputs n, m.Replaced t.arena i (x.standIn i) ∧ (x.standIn i).idx < t.arena.vars.size) :
    Judged m (x.note v (some (⟨t.arena.vars.size + (s.arena.var v).index⟩, false)))
      { t with arena := (t.arena.pushCopy n ((s.arena.inputs n).map x.standIn)).1 } := by
  have hn := m.wf.node_lt ho
  have hout : (t.arena.outputs n)[(s.arena.var v).index]? = some v :=
    h.old.outputs hn ▸ (m.wf.result n _ v).mpr ⟨ho, rfl⟩
  have hlen := (List.getElem?_eq_some_iff.mp hout).1
  have hadd : t.arena.Adds (t.arena.pushCopy n ((s.arena.inputs n).map x.standIn)).1 _ _ := Arena.adds_pushCopy
  refine (h.grow rfl hadd.toExtends (hadd.wf h.wf fun w hw => ?_)).note ⟨hr, ?_, ?_, ?_⟩ fun e he => ?_
  · obtain ⟨i, hi, rfl⟩ := List.mem_map.mp hw
    exact (hops i hi).2
  · refine .result x.standIn hb hr ho (hadd.result _ hlen).1 (hadd.result _ hlen).2 ?_ hadd.inputs_new fun i hi =>
      (hops i hi).1.mono h.wf hadd.toExtends
    rw [Arena.op, Arena.node_pushCopy, if_pos rfl]
    exact h.old.op hn
  · exact hadd.vars_eq ▸ Nat.add_lt_add_left hlen _
  · show (_ == ((t.arena.pushCopy n _).1.var _).type) = true
    rw [Arena.var_pushCopy _ hout, h.old.var v (Arena.lt_of_owner ho)]
    exact Ty.beq_self _
  · cases he
    exact h.old.vars_le.trans (Nat.le_add_right _ _)

/-- A variable of a node is judged by what is held about the operands. -/
theorem judge_ends (h : Judged m x t) (hu : ¬ m.Usable v) (hb : ¬ m.Barred v) (ho : s.arena.owner v = some n)
    (hin : ∀ i ∈ s.arena.inputs n, x.isKnown i = true) :
    (x.judge v n (s.arena.inputs n)).Ends k t (fun r u => Judged m (x.note v r) u) fun _ _ => False := by
  have hans : ∀ i ∈ s.arena.inputs n, m.Answer t.arena i (x.verdict i) := fun i hi => h.verdict i (m.wf.operand n i hi) (hin i hi)
  unfold judge
  split_ifs with hnone hall
  · obtain ⟨i, hi, hn⟩ := List.any_eq_true.mp hnone
    have hi' := hans i hi
    rw [Option.isNone_iff_eq_none.mp hn] at hi'
    refine h.note ⟨fun hg => ?_, fun hr => ?_⟩ nofun
    · exact hi'.1 ((Marks.good_iff hu hb ho).mp hg i hi)
    · exact hi'.2 (((Marks.replaceable_iff hu hb ho).mp hr).1 i hi hi'.1)
  · refine h.note ⟨rfl, (Marks.good_iff hu hb ho).mpr fun i hi => ?_⟩ nofun
    have hi' := hans i hi
    rw [Validator.verdict, if_pos (List.all_eq_true.mp hall i hi)] at hi'
    exact hi'.2
  · have hsome : ∀ i ∈ s.arena.inputs n, (x.verdict i).isSome = true := by
      simpa [Option.isSome_iff_ne_none] using hnone
    have hoffer := fun i hi => (hans i hi).offer (hsome i hi) (m.wf.operand n i hi) h.old
    have hr : m.Replaceable v := by
      refine (Marks.replaceable_iff hu hb ho).mpr ⟨fun i hi => (hoffer i hi).2.2.2, ?_⟩
      obtain ⟨i, hi, hnot⟩ : ∃ i ∈ s.arena.inputs n, x.valid.contains i = false := by simpa using hall
      have hi' := hans i hi
      have hs := hsome i hi
      rw [Validator.verdict, if_neg (by simp [hnot])] at hi' hs
      obtain ⟨e, he⟩ := Option.isSome_iff_exists.mp ((Option.isSome_map ..).symm.trans hs)
      rw [he] at hi'
      exact ⟨i, hi, hi'.1.not_good⟩
    have hlt := Arena.lt_of_owner ho
    have hn := m.wf.node_lt ho
    have hlen : (s.arena.var v).index < (t.arena.outputs n).length :=
      h.old.outputs hn ▸ (List.getElem?_eq_some_iff.mp ((m.wf.result n _ v).mpr ⟨ho, rfl⟩)).1
    rw [ends_bind]
    refine cloneWithInputs_ends ?_ ?_
    · rw [h.old.inputs hn, List.forall₂_map_right_iff, List.forall₂_same]
      intro i hi
      rw [h.old.typeOf (m.wf.operand n i hi)]
      exact (hoffer i hi).2.2.1
    · have hadd : t.arena.Adds (t.arena.pushCopy n ((s.arena.inputs n).map x.standIn)).1 _ _ := Arena.adds_pushCopy
      simp only [ends_bind, ends_outsOf, ends_varInfo, ends_pure, hadd.var v (hlt.trans_le h.old.vars_le), h.old.var v hlt,
        List.getD_eq_getElem?_getD, hadd.output hlen, Option.getD_some]
      exact h.rebuild hb hr ho fun i hi => ⟨(hoffer i hi).1, (hoffer i hi).2.1⟩

/-! ## Runs -/

theorem ends_ownerOf {Q : Option NodeId → Session → Prop} {E : Fault → Session → Prop} :
    (ownerOf v).Ends k t Q E ↔ Q (t.arena.owner v) t := Iff.rfl

theorem walk_ends {fuel : Nat} (h : Judged m x t) (hv : v.idx < s.arena.vars.size) (hf : s.arena.height v < fuel) :
    (walk fuel v x).Ends k t
      (fun y u => Judged m y u ∧ (∀ w, x.isKnown w = true → y.isKnown w = true) ∧ y.isKnown v = true) fun _ _ => False := by
  induction fuel generalizing x t v with
  | zero => cases hf
  | succ fuel ih =>
    unfold walk
    split_ifs with hk
    · exact ⟨h, fun _ => id, hk⟩
    obtain ⟨hu, hb⟩ : ¬ m.Usable v ∧ ¬ m.Barred v := by simpa [hk] using mt (h.marked v)
    rw [ends_bind, ends_ownerOf, h.old.owner hv]
    cases ho : s.arena.owner v with
    | none => exact ⟨h.note (r := some (v, true)) ⟨rfl, .leaf hb ho⟩ nofun, fun _ => isKnown_note_of_isKnown, isKnown_note_self⟩
    | some n =>
      simp only [ends_bind, ends_insOf, h.old.inputs (m.wf.node_lt ho)]
      refine Ends.imp (Ends.foldlM (L := fun x y : Validator => ∀ w, x.isKnown w = true → y.isKnown w = true)
        (P := fun i (y : Validator) => y.isKnown i = true)
        (fun _ _ => id) (fun _ _ _ h h' w hw => h' w (h w hw)) (fun i _ _ hi h => h i hi) h fun i hi y u hy => ?_)
        fun y u hyu => ?_
      · have hi := List.mem_reverse.mp hi
        have hle := Arena.height_le_depth m.wf hi fun p _ => m.acyclic p
        rw [Arena.height_of_owner ho] at hf
        exact ih hy (m.wf.operand n i hi) (by omega)
      · obtain ⟨hy, hxy, hin⟩ := hyu
        refine (judge_ends hy hu hb ho fun i hi => hin i (List.mem_reverse.mpr hi)).imp fun r u hr => ?_
        exact ⟨hr, fun w hw => isKnown_note_of_isKnown (hxy w hw), isKnown_note_self⟩

theorem check_ends (h : Judged m x t) (hv : v.idx < s.arena.vars.size) :
    (x.check v).Ends k t (fun r u => Judged m r.2 u ∧ m.Answer u.arena v r.1) fun _ _ => False := by
  simp only [check, ends_bind, ends_getArena, ends_pure]
  have hf : s.arena.height v < t.arena.nodes.size + 2 := by
    have := s.arena.height_le v
    have := h.old.nodes_le
    omega
  exact (walk_ends h hv hf).imp fun y u hy => ⟨hy.1, hy.1.verdict v hv hy.2.2⟩

end

/-- Whatever was checked before, a check tells the good variables, the replaceable ones and the rest apart, and offers for
a replaceable one the variable with the equivalents substituted, where these have the types of what they stand for. It fails
on none, and only adds to the arena. -/
theorem check_classifies (k : Kit) (s : Session) (m : Marks s.arena) (before : Vars) (v : VarId)
    (ht : ∀ p ∈ m.equivalents, (s.arena.typeOf p.1 == s.arena.typeOf p.2) = true)
    (hb : ∀ u ∈ before, u.idx < s.arena.vars.size) (hv : v.idx < s.arena.vars.size) :
    (before.foldlM (fun x u => (·.2) <$> check x u) (start m.valid m.invalid m.equivalents) >>= (check · v)).Ends k s
      (fun r t => (∀ e, r.1 = some (e, true) ↔ e = v ∧ m.Good v) ∧ ((∃ e, r.1 = some (e, false)) ↔ m.Replaceable v) ∧
        (∀ e, r.1 = some (e, false) → m.Replaced t.arena v e ∧ (s.arena.typeOf v == t.arena.typeOf e) = true) ∧
        (r.1 = none ↔ ¬ m.Good v ∧ ¬ m.Replaceable v) ∧ s.arena.Extends t.arena ∧ t = { s with arena := t.arena })
      fun _ _ => False := by
  rw [ends_bind]
  refine (Ends.foldlM_keeps (J := Judged m) (judged_start ht) fun u hu x t hx => ?_).imp fun x t hx => ?_
  · rw [← bind_pure_comp, ends_bind]
    exact (check_ends hx (hb u hu)).imp fun r t hr => hr.1
  · refine (check_ends hx hv).imp fun r t hrt => ?_
    obtain ⟨hj, hr⟩ := hrt
    have hne := fun hr : m.Replaceable v => hr.not_good
    obtain ⟨_ | ⟨e, _ | _⟩, y⟩ := r
    · exact ⟨by simp [hr.1], by simp [hr.2], by simp, by simp [hr.1, hr.2], hj.old, hj.frame⟩
    · obtain ⟨hrep, he, _, ht⟩ := hr
      exact ⟨by simp [hne hrep], by simp [hrep], by simp [he, ht], by simp [hrep], hj.old, hj.frame⟩
    · obtain ⟨rfl, hg⟩ := hr
      exact ⟨by simp [hg, eq_comm], by simpa using mt hne (not_not.mpr hg), by simp, by simp [hg], hj.old, hj.frame⟩

/-- The first result of a node gives way to the node's operand. -/
def sample : Marks Pair.joined where
  valid := []
  invalid := []
  equivalents := [(⟨1⟩, ⟨0⟩)]
  wf := Pair.joined_wf
  acyclic := Pair.not_transGen_joined
  single := by simp
  apart := by decide
  inside := by decide

theorem check_classifies_sample :
    sample.Replaceable ⟨3⟩ ∧ ([⟨2⟩, ⟨1⟩].foldlM (fun x u => (·.2) <$> check x u) (start [] [] [(⟨1⟩, ⟨0⟩)]) >>= (check · ⟨3⟩)).Ends
      Pair.kit { arena := Pair.joined } (fun r t => ∃ e, r.1 = some (e, false) ∧ sample.Replaced t.arena ⟨3⟩ e) fun _ _ => False := by
  have hgood : sample.Good ⟨2⟩ := .result (n := ⟨0⟩) (by simp [Marks.Barred, sample]) rfl fun x hx => by
    obtain rfl := List.mem_singleton.mp hx
    exact .usable (by simp [Marks.Usable, sample])
  have hr : sample.Replaceable ⟨3⟩ := by
    refine .result (n := ⟨1⟩) (x := ⟨1⟩) (by simp [Marks.Usable, sample]) (by simp [Marks.Barred, sample]) rfl (fun x hx hg => ?_)
      (.head _) (Marks.not_good (by simp [Marks.Barred, sample]))
    obtain rfl | rfl : x = ⟨1⟩ ∨ x = ⟨2⟩ := List.mem_pair.mp hx
    · exact .given (List.mem_singleton.mpr rfl)
    · exact absurd hgood hg
  refine ⟨hr, (check_classifies Pair.kit { arena := Pair.joined } sample [⟨2⟩, ⟨1⟩] ⟨3⟩ (by decide) (by decide)
    (by decide)).imp fun r t h => ?_⟩
  obtain ⟨e, he⟩ := h.2.1.mpr hr
  exact ⟨e, he, (h.2.2.1 e he).1⟩

/-! ## An equivalent of another type -/

def spare : Arena := { Pair.joined with vars := Pair.joined.vars.push { type := .generic } }

/-- A node's operand has an equivalent that the node does not take. -/
def mistyped : Marks spare where
  valid := []
  invalid := []
  equivalents := [(⟨0⟩, ⟨4⟩)]
  wf := Pair.joined_wf.push rfl
  acyclic n h := by
    refine Pair.not_transGen_joined n (h.lift id ?_)
    rintro m p ⟨v, hv, ho⟩
    exact ⟨v, hv, (Arena.Extends.push.owner (Pair.joined_wf.operand p v hv)).symm.trans ho⟩
  single := by simp
  apart := by decide
  inside := by decide

theorem check_mistyped : mistyped.Replaceable ⟨1⟩ ∧ ((start [] [] [(⟨0⟩, ⟨4⟩)]).check ⟨1⟩).Ends .empty { arena := spare }
    (fun _ _ => False) fun e _ => e.kind = .type := by
  refine ⟨.result (n := ⟨0⟩) (x := ⟨0⟩) (by simp [Marks.Usable, mistyped]) (by simp [Marks.Barred, mistyped]) rfl
    (fun x hx _ => ?_) (.head _) (Marks.not_good (by simp [Marks.Barred, mistyped])), ?_⟩
  · obtain rfl := List.mem_singleton.mp hx
    exact .given (e := ⟨4⟩) (List.mem_singleton.mpr rfl)
  · generalize hx : start [] [] [(⟨0⟩, ⟨4⟩)] = x
    have hv : x.verdict ⟨0⟩ = some (⟨4⟩, false) ∧ x.valid.contains ⟨0⟩ = false := by simp [← hx, verdict, start]
    have hk : x.isKnown ⟨0⟩ = true ∧ x.isKnown ⟨1⟩ = false := by simp [← hx, isKnown, start]
    have hjudge : (x.judge ⟨1⟩ ⟨0⟩ [⟨0⟩]).Ends .empty { arena := spare } (fun _ _ => False) fun e _ => e.kind = .type := by
      simp only [judge, standIn, hv, List.any_cons, List.any_nil, List.all_cons, List.map_cons, List.map_nil]
      rfl
    simp only [check, ends_bind, ends_getArena]
    rw [walk, hk.2, if_neg Bool.false_ne_true, ends_bind, ends_ownerOf, show spare.owner ⟨1⟩ = some ⟨0⟩ from rfl]
    simp only [ends_bind, ends_insOf, show spare.inputs ⟨0⟩ = [⟨0⟩] from rfl, List.reverse_singleton, List.foldlM_cons,
      List.foldlM_nil, walk, hk.1, if_true, ends_pure]
    exact hjudge.imp fun _ _ h => h.elim

end Validator

end TensorGraph
