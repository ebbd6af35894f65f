import TensorGraph.Proofs.Copying
import TensorGraph.Proofs.Scheduling

/-!
# Substitution

Expressions are copied twice, the first time with placeholders for what is replaced, the second time with the substitutes for the
placeholders. This is simultaneous substitution.
-/

namespace TensorGraph

open M

variable {k : Kit} {s t : Session} {R : VarId → Prop} {v w : VarId}

/-- A variable to replace, its placeholder and its substitute. -/
structure Swap where
  old : VarId
  held : VarId
  new : VarId

namespace Swap

variable (z : Swap)

def pair : VarId × VarId := (z.old, z.new)

def hold : VarId × VarId := (z.old, z.held)

def release : VarId × VarId := (z.held, z.new)

end Swap

/-- A placeholder is new, has no owner and is of the type of what it stands for. -/
structure Held (s t : Session) (z : Swap) : Prop where
  new : s.arena.vars.size ≤ z.held.idx
  bound : z.held.idx < t.arena.vars.size
  leaf : t.arena.owner z.held = none
  type : t.arena.typeOf z.held = s.arena.typeOf z.old

theorem fresh_ends {E : Fault → Session → Prop} {a : Arena} {pairs : List (VarId × VarId)} (h : t.Copyable k (a.Grown t.arena R))
    (hpairs : ∀ p ∈ pairs, a.Grown t.arena R p.1) :
    ((pairs.map fun p => (p.1, Value.var p.2)).mapM fun p => do return (Value.var p.1, Value.var (<- freshOf p.1)) : M _).Ends k t
      (fun held t' => t' = { t with arena := t'.arena } ∧ t.arena.Extends t'.arena ∧ t'.Copyable k (a.Grown t'.arena R) ∧
        ∃ Z : List Swap, pairs = Z.map Swap.pair ∧ held = Z.map (fun z => (Value.var z.old, Value.var z.held)) ∧
          (Z.map Swap.held).Nodup ∧ ∀ z ∈ Z, Held t t' z) E := by
  induction pairs generalizing t with
  | nil => exact ⟨rfl, .refl _, h, [], rfl, rfl, .nil, fun _ hz => absurd hz List.not_mem_nil⟩
  | cons p pairs ih =>
    simp only [List.map_cons, List.mapM_cons, ends_bind, freshOf, ends_typeOf, ends_pure]
    have hp := hpairs p List.mem_cons_self
    set x : Variable := { type := t.arena.typeOf p.1 }
    set b : Arena := { t.arena with vars := t.arena.vars.push x } with hb
    have hext : t.arena.Extends b := .push
    have hvar : b.var ⟨t.arena.vars.size⟩ = x := by rw [hb, Arena.var_push, if_pos rfl]
    have hsize : b.vars.size = t.arena.vars.size + 1 := by simp [hb]
    refine (ih (h.push (x := x) rfl (fun _ h => by cases h) (h.typed _ hp).2) fun q hq =>
      (hpairs q (List.mem_cons_of_mem _ hq)).mono hext).imp ?_
    rintro held t' ⟨hframe, hext', hcopy, Z, rfl, rfl, hnodup, hheld⟩
    change b.Extends t'.arena at hext'
    refine ⟨hframe, hext.trans hext', hcopy, ⟨p.1, ⟨t.arena.vars.size⟩, p.2⟩ :: Z, rfl, rfl, ?_, ?_⟩
    · refine List.nodup_cons.mpr ⟨fun hmem => ?_, hnodup⟩
      obtain ⟨z, hz, heq⟩ := List.mem_map.mp hmem
      have : b.vars.size ≤ z.held.idx := (hheld z hz).new
      rw [heq, hsize] at this
      exact absurd this (Nat.not_succ_le_self _)
    · have hlt : t.arena.vars.size < b.vars.size := by omega
      refine List.forall_mem_cons.mpr ⟨⟨le_rfl, hlt.trans_le hext'.vars_le, ?_, ?_⟩, fun z hz => ?_⟩
      · exact (hext'.owner hlt).trans (congrArg Variable.owner hvar)
      · exact (hext'.typeOf hlt).trans (congrArg Variable.type hvar : b.typeOf _ = x.type)
      · obtain ⟨hnew, hbound, hleaf, htype⟩ := hheld z hz
        have hz' := (hpairs z.pair (List.mem_cons_of_mem _ (List.mem_map_of_mem hz))).1
        exact ⟨hext.vars_le.trans hnew, hbound, hleaf, htype.trans (hext.typeOf hz')⟩

/-- What holds once there are placeholders. -/
structure Swapping (k : Kit) (s : Session) (R : VarId → Prop) (Z : List Swap) (t : Session) : Prop where
  before : s.Copyable k R
  after : t.Copyable k (s.arena.Grown t.arena R)
  old : s.arena.Extends t.arena
  nodup : (Z.map Swap.old).Nodup
  nodup_held : (Z.map Swap.held).Nodup
  held : ∀ z ∈ Z, Held s t z
  typed : ∀ z ∈ Z, R z.old ∧ R z.new ∧ (s.arena.typeOf z.old == s.arena.typeOf z.new) = true

namespace Swapping

variable {Z : List Swap} {z : Swap} {u : Session} (h : Swapping k s R Z t)

include h

theorem not_held (hv : R v) (hz : z ∈ Z) : z.held ≠ v := by
  rintro rfl
  exact absurd (h.before.typed _ hv).1 (Nat.not_lt.mpr (h.held z hz).new)

theorem lookup_pair (hz : z ∈ Z) : (Z.map Swap.pair).lookup z.old = some z.new :=
  lookup_of_mem (by rw [List.map_map]; exact h.nodup) (List.mem_map_of_mem (f := Swap.pair) hz)

theorem lookup_hold (hz : z ∈ Z) : (Z.map Swap.hold).lookup z.old = some z.held :=
  lookup_of_mem (by rw [List.map_map]; exact h.nodup) (List.mem_map_of_mem (f := Swap.hold) hz)

theorem lookup_release (hz : z ∈ Z) : (Z.map Swap.release).lookup z.held = some z.new :=
  lookup_of_mem (by rw [List.map_map]; exact h.nodup_held) (List.mem_map_of_mem (f := Swap.release) hz)

/-- First the placeholders are put in. -/
theorem plan_hold : Plan k t (s.arena.Grown t.arena R) (fun v => ∃ z ∈ Z, z.held = v) (Z.map Swap.hold) where
  copyable := h.after
  nodup := by rw [List.map_map]; exact h.nodup
  key := List.forall_mem_map.mpr fun z hz => (h.before.typed _ (h.typed z hz).1).1.trans_le h.old.vars_le
  substitute := List.forall_mem_map.mpr fun z hz => by
    obtain ⟨hlt, hself⟩ := h.before.typed _ (h.typed z hz).1
    refine ⟨⟨(h.held z hz).bound, fun hlt => absurd hlt (Nat.not_lt.mpr (h.held z hz).new)⟩, ?_⟩
    rw [show t.arena.typeOf z.hold.1 = _ from h.old.typeOf hlt, show t.arena.typeOf z.hold.2 = _ from (h.held z hz).type]
    exact hself
  closed := by
    rintro v n ⟨z, hz, rfl⟩ ho
    cases (h.held z hz).leaf.symm.trans ho
  part := by
    rintro v ⟨z, hz, rfl⟩
    exact ⟨(h.held z hz).bound, fun hlt => absurd hlt (Nat.not_lt.mpr (h.held z hz).new)⟩

/-- Then the substitutes for the placeholders. -/
theorem plan_release (hu : u.Copyable k (t.arena.Grown u.arena (s.arena.Grown t.arena R))) (hext : t.arena.Extends u.arena) :
    Plan k u (t.arena.Grown u.arena (s.arena.Grown t.arena R)) R (Z.map Swap.release) := by
  have hold := h.old.trans hext
  have hR : ∀ v, R v → t.arena.Grown u.arena (s.arena.Grown t.arena R) v := fun v hv =>
    ⟨(h.before.typed v hv).1.trans_le hold.vars_le, fun hlt => ⟨hlt, fun _ => hv⟩⟩
  refine ⟨hu, by rw [List.map_map]; exact h.nodup_held, List.forall_mem_map.mpr fun z hz => (h.held z hz).bound.trans_le hext.vars_le,
    List.forall_mem_map.mpr fun z hz => ?_, hold.closed h.before.wf h.before.closed fun v hv => (h.before.typed v hv).1, hR⟩
  obtain ⟨-, hnew, htype⟩ := h.typed z hz
  refine ⟨hR _ hnew, ?_⟩
  rw [show u.arena.typeOf z.release.1 = _ from (hext.typeOf (h.held z hz).bound).trans (h.held z hz).type,
    show u.arena.typeOf z.release.2 = _ from hold.typeOf (h.before.typed _ hnew).1]
  exact htype

theorem means_hold {α : Type} {ρ : Interpretation α} {q : α} {val : VarId → α} (hval : ∀ y, R y → s.arena.Means ρ [] y (val y)) (hv : R v)
    (hq : s.arena.Means ρ (Z.map Swap.pair) v q) : t.arena.Means (ρ.put (Z.map Swap.release) val) (Z.map Swap.hold) v q := by
  have hno : ∀ v, (Z.map Swap.pair).lookup v = none → (Z.map Swap.hold).lookup v = none := fun v hv => lookup_eq_none fun y hy => by
    obtain ⟨z, hz, heq⟩ := List.mem_map.mp hy
    cases heq
    cases hv.symm.trans (h.lookup_pair hz)
  refine hq.carry (R := R) rfl h.old h.before.wf (fun v n hv ho x hx => h.before.operand hv ho hx) ?_ ?_ (fun v _ _ hv _ => hno v hv) hv
  · intro v y q hv hy hq
    obtain ⟨z, hz, heq⟩ := List.mem_map.mp (mem_of_lookup hy)
    cases heq
    refine .replaced (h.lookup_hold hz) ?_
    have hleaf : (ρ.put (Z.map Swap.release) val).leaf z.held = q := by
      rw [Interpretation.leaf_put, h.lookup_release hz]
      exact (hval _ (h.typed z hz).2.1).unique hq
    exact hleaf ▸ .leaf rfl (h.held z hz).leaf
  · intro v hv hnone ho
    have hleaf : (ρ.put (Z.map Swap.release) val).leaf v = ρ.leaf v := by
      have hfree : (Z.map Swap.release).lookup v = none := lookup_eq_none fun y hy => by
        obtain ⟨z, hz, heq⟩ := List.mem_map.mp hy
        exact h.not_held hv hz (congrArg Prod.fst heq)
      rw [Interpretation.leaf_put, hfree]
      rfl
    exact hleaf ▸ .leaf (hno v hnone) ((h.old.owner (h.before.typed v hv).1).trans ho)

theorem means_release {α : Type} {ρ : Interpretation α} {q : α} {val : VarId → α} (hval : ∀ y, R y → s.arena.Means ρ [] y (val y))
    (hwf : u.arena.Wf) (hext : t.arena.Extends u.arena) (hq : u.arena.Means (ρ.put (Z.map Swap.release) val) [] w q) :
    u.arena.Means ρ (Z.map Swap.release) w q := by
  refine hq.release hwf fun x y hy => ?_
  obtain ⟨z, hz, heq⟩ := List.mem_map.mp (mem_of_lookup hy)
  cases heq
  have hnew := (h.typed z hz).2.1
  exact ⟨(hext.owner (h.held z hz).bound).trans (h.held z hz).leaf,
    (hval _ hnew).extend (h.old.trans hext) h.before.wf (h.before.typed _ hnew).1⟩

end Swapping

theorem Pair.joined_copyable (k : Kit) : { arena := joined : Session }.Copyable k (·.idx < 4) where
  wf := joined_wf
  typed v hv := ⟨hv, (by decide : ∀ i < 4, (joined.typeOf ⟨i⟩ == joined.typeOf ⟨i⟩) = true) v.idx hv⟩
  closed v n _ _ x hx := (List.mem_append.mp hx).elim (joined_wf.operand n x) fun hx => Arena.lt_of_owner (joined_wf.mem_outputs.mp hx)
  acyclic _ n _ _ := not_transGen_joined n
  update v _ hv _ hs := by
    rw [show joined.isShared v = false from (by decide : ∀ i < 4, joined.isShared ⟨i⟩ = false) v.idx hv] at hs
    cases hs

/-- Substitution is simultaneous: where every type equals itself, no node depends on itself and the default updates
of shared variables have their types, it ends, leaves what was there as it was, and each result stands, under every
interpretation, for its original with the variables met on the way down replaced by the values of the original substitutes. -/
theorem substitute_simultaneous {outs : Vars} {pairs : List (VarId × VarId)} (hs : s.Copyable k R) (houts : ∀ o ∈ outs, R o)
    (hnodup : (pairs.map Prod.fst).Nodup)
    (hpairs : ∀ p ∈ pairs, R p.1 ∧ R p.2 ∧ (s.arena.typeOf p.1 == s.arena.typeOf p.2) = true) :
    (substitute outs pairs).Ends k s (fun res t => t = { s with arena := t.arena } ∧ s.arena.Extends t.arena ∧
      List.Forall₂ (fun o r => ∀ (α : Type) (ρ : Interpretation α), ∃ q, (∀ p, s.arena.Means ρ pairs o p ↔ p = q) ∧
        ∀ p, t.arena.Means ρ [] r p ↔ p = q) outs res) fun _ _ => False := by
  unfold substitute substituteValues
  simp only [ends_bind, ends_pure]
  have hself := hs.grown_self
  refine (fresh_ends (a := s.arena) (hself.symm ▸ hs) fun p hp => hself.symm ▸ (hpairs p hp).1).imp ?_
  rintro held t₁ ⟨hframe, hold, hcopy, Z, rfl, rfl, hnodup_held, hheld⟩
  have h : Swapping k s R Z t₁ := ⟨hs, hcopy, hold, by rwa [List.map_map] at hnodup, hnodup_held, hheld, List.forall_mem_map.mp hpairs⟩
  have hfirst := rebuild_ends h.plan_hold
    (List.forall_mem_map.mpr fun z hz => ⟨fun h' => h.not_held (h.typed z hz).1 h'.choose_spec.1 h'.choose_spec.2, z, hz, rfl⟩)
    fun o ho => ⟨(hs.typed o (houts o ho)).1.trans_le hold.vars_le, fun _ => houts o ho⟩
  rw [List.map_map] at hfirst
  refine hfirst.imp ?_
  rintro ⟨_, mid, _⟩ t₂ ⟨c, ws, hc, rfl, hws⟩
  have hsecond := rebuild_ends (h.plan_release hc.region hc.old)
    (List.forall_mem_map.mpr fun z hz => ⟨fun hv => h.not_held hv hz rfl, (h.typed z hz).2.1⟩)
    fun w hw => (exists_of_forall₂ hws hw).choose_spec.inside
  rw [List.map_map] at hsecond
  simp only [List.zip_map', List.map_map]
  refine hsecond.imp ?_
  rintro ⟨_, res, _⟩ t₃ ⟨d, rs, hd, rfl, hrs⟩
  refine ⟨by rw [hd.frame, hc.frame, hframe], (hold.trans hc.old).trans hd.old, ?_⟩
  have hfilter : (rs.map Value.var).filterMap Value.var? = rs := by simp [List.filterMap_map, Function.comp_def, Value.var?]
  rw [hfilter]
  refine forall₂_comp ((List.forall₂_and_left _ _).mpr ⟨houts, hws⟩) hrs ?_
  rintro o w r ⟨ho, hw⟩ hr α ρ
  obtain ⟨q, hq⟩ := hs.exists_means ρ _ (fun x y hy => (hpairs _ (mem_of_lookup hy)).2.1) ho
  obtain ⟨val, hval⟩ := hs.exists_values ρ
  have hmean := hr.means (h.means_release hval hc.region.wf hc.old (hw.means (h.means_hold hval ho hq)))
  exact ⟨q, fun p => ⟨fun hp => hp.unique hq, fun h => h ▸ hq⟩, fun p => ⟨fun hp => hp.unique hmean, fun h => h ▸ hmean⟩⟩

theorem Pair.substitute_simultaneous_joined : (substitute [⟨3⟩] [(⟨1⟩, ⟨3⟩), (⟨0⟩, ⟨2⟩)]).Ends kit { arena := joined }
    (fun res t => List.Forall₂ (fun o r => ∀ (α : Type) (ρ : Interpretation α) (q : α),
      joined.Means ρ [(⟨1⟩, ⟨3⟩), (⟨0⟩, ⟨2⟩)] o q ↔ t.arena.Means ρ [] r q) [⟨3⟩] res) fun _ _ => False := by
  refine (substitute_simultaneous (joined_copyable kit) (by decide) (by decide) (by decide)).imp fun res t h => ?_
  refine h.2.2.imp fun o r h α ρ q => ?_
  obtain ⟨p, ho, hr⟩ := h α ρ
  exact (ho q).trans (hr q).symm

/-! ## A default update of another type -/

/-- A shared number whose default update is a matrix. -/
def mistyped : Session where
  arena := { vars := #[{ type := .tensor .float64 [] none, role := .shared ⟨0⟩, attrs := [("default_update", .var ⟨1⟩)] },
    { type := .tensor .float64 [false, false] none }] }

theorem substitute_mistyped : (substitute [⟨0⟩] []).Ends .empty mistyped (fun _ _ => False) fun e _ => e.kind = .type := by
  have hcopy {Q : VarId × CopyState → Session → Prop} {n : Nat} :
      (copyVariable {} (n + 1) ⟨0⟩ {}).Ends .empty mistyped Q fun e _ => e.kind = .type := by
    unfold copyVariable
    simp only [CopyState.find?, Std.HashMap.getElem?_empty, ends_bind, ends_varInfo]
    rfl
  have hrebuild : (rebuild {} [.var ⟨0⟩] [] [] []).Ends .empty mistyped (fun _ _ => False) fun e _ => e.kind = .type := by
    simp only [rebuild, copyReplacements, copyUpdates, List.forIn_nil, List.forIn_cons, outputVariable?, copyExpression,
      ends_bind, ends_pure]
    exact hcopy
  unfold substitute substituteValues
  simp only [ends_bind, List.map_nil, List.mapM_nil, ends_pure]
  exact hrebuild.imp fun _ _ h => h.elim

end TensorGraph
