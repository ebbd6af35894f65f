import TensorGraph.Proofs.Copying
import TensorGraph.Proofs.Scheduling

/-!
# Clones of graphs

The part of an arena between inputs and outputs is cloned by noting its inputs, then its nodes in an order by dependence, each copied
on what is noted for its operands, and last the outputs. The notes are one to one; they lead from each node to a new one of the same
operator, and from its operands and results to those of the new node. So a clone has the values of what it was made of.
-/

namespace TensorGraph

open M
open Relation (TransGen)

/-! ## Types equal themselves -/

theorem Lit.same_self (x : Lit) : x.same x = true := by
  refine @Lit.rec (fun x => x.same x = true) (fun xs => sameAll xs xs = true) ?_ ?_ ?_ (fun a => ?_) ?_ ?_ ?_ ?_ ?_ ?_ ?_ x
  case refine_4 => cases h : a == a <;> simp [same, h, bne]
  all_goals simp +contextual [same, sameAll]

instance : ReflBEq Lit := ⟨Lit.same_self _⟩

deriving instance ReflBEq for BuildSpec, CDataSpec

theorem Ty.beq_self (t : Ty) : (t == t) = true := by
  change (t.same t && t.same t) = true
  cases t <;> simp [same]

/-! ## Notes -/

namespace CloneMap

variable {m m' m'' : CloneMap} {u v w x : VarId} {vs ws : Vars} {n k : NodeId}

def var? (m : CloneMap) (v : VarId) : Option VarId := m.vars[v]?
def node? (m : CloneMap) (n : NodeId) : Option NodeId := m.nodes[n]?
def var (m : CloneMap) (v : VarId) : VarId := (m.var? v).getD v

theorem var?_eq (h : (m.var? v).isSome = true) : m.var? v = some (m.var v) := by
  obtain ⟨w, hw⟩ := Option.isSome_iff_exists.mp h
  simp [var, hw]

theorem var_eq (h : m.var? v = some w) : m.var v = w := by
  simp [var, h]

theorem getD_vars : m.vars.getD v v = m.var v := Std.HashMap.getD_eq_getD_getElem?

theorem contains_vars : m.vars.contains v = (m.var? v).isSome := Std.HashMap.contains_eq_isSome_getElem?

theorem var?_note : (m.note u w).var? v = (m.var? v).or (if v == u then some w else none) := vars_note

theorem var?_notes : (m.notes vs ws).var? v = (m.var? v).or ((vs.zip ws).lookup v) := vars_notes

theorem node?_note : (m.note u w).node? n = m.node? n := by
  unfold note
  split <;> rfl

theorem node?_notes : (m.notes vs ws).node? n = m.node? n := congrArg (·[n]?) (m.nodes_notes vs ws)

theorem node?_insert {n' : NodeId} : node? { m with nodes := m.nodes.insert n n' } k = if n == k then some n' else m.node? k :=
  Std.HashMap.getElem?_insert

/-- What is noted stays. -/
structure Gains (m m' : CloneMap) : Prop where
  vars : ∀ v w, m.var? v = some w → m'.var? v = some w
  nodes : ∀ n n', m.node? n = some n' → m'.node? n = some n'

theorem Gains.refl (m : CloneMap) : m.Gains m := ⟨fun _ _ => id, fun _ _ => id⟩

theorem Gains.trans (h : m.Gains m') (h' : m'.Gains m'') : m.Gains m'' :=
  ⟨fun v w hv => h'.vars v w (h.vars v w hv), fun n n' hn => h'.nodes n n' (h.nodes n n' hn)⟩

theorem Gains.isSome (h : m.Gains m') (hv : (m.var? v).isSome = true) : (m'.var? v).isSome = true := by
  obtain ⟨w, hw⟩ := Option.isSome_iff_exists.mp hv
  rw [h.vars v w hw]
  rfl

theorem Gains.note (m : CloneMap) (v w : VarId) : m.Gains (m.note v w) where
  vars u x hu := by rw [var?_note, hu, Option.some_or]
  nodes n n' hn := node?_note.trans hn

theorem of_note (h : (m.note v w).var? u = some x) : m.var? u = some x ∨ m.var? v = none ∧ u = v ∧ x = w := by
  rw [var?_note, Option.or_eq_some_iff] at h
  refine h.imp_right fun h => ?_
  obtain ⟨he, hw⟩ := Option.ite_none_right_eq_some.mp h.2
  obtain rfl : u = v := eq_of_beq he
  exact ⟨h.1, rfl, (Option.some.inj hw).symm⟩

theorem isSome_note : ((m.note v w).var? v).isSome = true := by
  rw [var?_note]
  simp

end CloneMap

/-- The part of an arena between inputs without an owner and outputs, and what of it is to be copied besides the nodes. -/
structure Region (a : Arena) where
  (ins outs : Vars)
  (copyInputs copyOrphans : Bool)
  wf : a.Wf
  acyclic : ∀ n, ¬ TransGen a.Feeds n n
  given : ∀ v ∈ ins, v.idx < a.vars.size ∧ a.owner v = none
  asked : ∀ v ∈ outs, v.idx < a.vars.size

theorem Arena.Wf.nodup_outputs {a : Arena} (h : a.Wf) (n : NodeId) : (a.outputs n).Nodup :=
  List.nodup_iff_getElem?_ne_getElem?.mpr fun i j hij hj he => by
    have hi := List.getElem?_eq_getElem (hij.trans hj)
    have hi' := (h.result n i _).mp hi
    have hj' := (h.result n j _).mp (he ▸ hi)
    omega

theorem Arena.Pulled.owned {a : Arena} {outs : Vars} {settled : NodeId → Prop} {n : NodeId} (h : a.Pulled settled [] outs n) :
    ∃ v, a.owner v = some n := by
  obtain ⟨v, _, p, ho, _, hp⟩ := h
  rcases hp.cases_head with rfl | ⟨_, hb, _⟩
  · exact ⟨v, ho⟩
  · obtain ⟨⟨u, _, hu⟩, _⟩ := before_nil.mp hb
    exact ⟨u, hu⟩

namespace Region

variable {a b c : Arena} (r : Region a)

/-- A node on which the outputs depend. -/
def Holds (n : NodeId) : Prop := a.Pulled (fun _ => False) [] r.outs n

def Reads (v : VarId) : Prop := ∃ n, r.Holds n ∧ v ∈ a.inputs n

/-- A variable that stands for itself in a clone: an input, or another variable without an owner that a node reads. An output that
no node reads is copied in any case. -/
def Kept (v : VarId) : Prop := a.owner v = none ∧ if v ∈ r.ins then r.copyInputs = false else r.copyOrphans = false ∧ r.Reads v

/-- What may be noted for a variable: itself if it is kept, else a new variable like it, without an owner or in the same place of the
new node. -/
inductive Copy (m : CloneMap) (b : Arena) : VarId → VarId → Prop
  | kept {v} : r.Kept v → v.idx < a.vars.size → Copy m b v v
  | leaf {v w} : ¬ r.Kept v → a.owner v = none → a.vars.size ≤ w.idx → w.idx < b.vars.size →
      b.var w = { (a.var v).copied with owner := none, index := 0 } → Copy m b v w
  | result {v w n n'} : a.owner v = some n → m.node? n = some n' → a.vars.size ≤ w.idx →
      b.var w = { (a.var v).copied with owner := some n' } → Copy m b v w

/-- What may be noted for a node: a new one of the same operator on what is noted for the operands. -/
structure Twin (a : Arena) (m : CloneMap) (b : Arena) (n n' : NodeId) : Prop where
  new : a.nodes.size ≤ n'.idx
  bound : n'.idx < b.nodes.size
  op : b.op n' = a.op n
  inputs : List.Forall₂ (fun x y => m.var? x = some y) (a.inputs n) (b.inputs n')
  outputs : List.Forall₂ (fun x y => m.var? x = some y) (a.outputs n) (b.outputs n')

/-- A clone, as far as the nodes that are done. -/
structure Cloning (done : NodeId → Prop) (m : CloneMap) (b : Arena) : Prop where
  old : a.Extends b
  wf : b.Wf
  nodes : ∀ n, (m.node? n).isSome = true ↔ done n
  twin : ∀ n n', m.node? n = some n' → Twin a m b n n'
  copy : ∀ v w, m.var? v = some w → r.Copy m b v w
  inj : ∀ u v w, m.var? u = some w → m.var? v = some w → u = v

variable {r} {m m' : CloneMap} {n n' : NodeId} {u v w : VarId} {done : NodeId → Prop}

theorem Copy.bound (h : r.Copy m b v w) (hab : a.Extends b) : w.idx < b.vars.size := by
  cases h with
  | kept _ hv => exact hv.trans_le hab.vars_le
  | leaf _ _ _ hw _ => exact hw
  | result _ _ _ hvar => exact Arena.lt_of_owner (congrArg Variable.owner hvar)

theorem Copy.typeOf (h : r.Copy m b v w) (hab : a.Extends b) : b.typeOf w = a.typeOf v := by
  cases h with
  | kept _ hv => exact hab.typeOf hv
  | leaf _ _ _ _ hvar => rw [Arena.typeOf, hvar]; rfl
  | result _ _ _ hvar => rw [Arena.typeOf, hvar]; rfl

theorem Copy.mono (h : r.Copy m b v w) (hm : m.Gains m') (hbc : b.Extends c) : r.Copy m' c v w := by
  cases h with
  | kept hk hv => exact .kept hk hv
  | leaf hk ho hnew hw hvar => exact .leaf hk ho hnew (hw.trans_le hbc.vars_le) ((hbc.var w hw).trans hvar)
  | result ho hn hnew hvar =>
    exact .result ho (hm.nodes _ _ hn) hnew ((hbc.var w (Arena.lt_of_owner (congrArg Variable.owner hvar))).trans hvar)

theorem Twin.mono (h : Twin a m b n n') (hm : m.Gains m') (hbc : b.Extends c) : Twin a m' c n n' where
  new := h.new
  bound := h.bound.trans_le hbc.nodes_le
  op := (hbc.op h.bound).trans h.op
  inputs := hbc.inputs h.bound ▸ h.inputs.imp fun x y => hm.vars x y
  outputs := hbc.outputs h.bound ▸ h.outputs.imp fun x y => hm.vars x y

theorem isSome_of_forall₂ {l l' : Vars} (h : List.Forall₂ (fun x y => m.var? x = some y) l l') (hv : v ∈ l) :
    (m.var? v).isSome = true := by
  induction h with
  | nil => cases hv
  | cons hxy _ ih =>
    rcases List.mem_cons.mp hv with rfl | hv
    · rw [hxy]; rfl
    · exact ih hv

theorem eq_map_of_forall₂ {l l' : Vars} (h : List.Forall₂ (fun x y => m.var? x = some y) l l') : l' = l.map m.var := by
  rw [← List.forall₂_eq_eq_eq, List.forall₂_map_right_iff]
  exact h.flip.imp fun y x hx => (CloneMap.var_eq hx).symm

namespace Cloning

/-- The operands and results of the nodes that are done are noted. -/
theorem known (h : r.Cloning done m b) (hn : done n) (hv : v ∈ a.inputs n ++ a.outputs n) : (m.var? v).isSome = true := by
  obtain ⟨n', hn'⟩ := Option.isSome_iff_exists.mp ((h.nodes n).mpr hn)
  rcases List.mem_append.mp hv with hv | hv
  · exact isSome_of_forall₂ (h.twin n n' hn').inputs hv
  · exact isSome_of_forall₂ (h.twin n n' hn').outputs hv

/-- What is added keeps the notes, and a new note is not one that was made before. -/
theorem grow {D : NodeId → Prop} (h : r.Cloning done m b) (hm : m.Gains m') (hbc : b.Extends c) (hc : c.Wf)
    (hnodes : ∀ n, (m'.node? n).isSome = true ↔ D n)
    (htwin : ∀ n n', m'.node? n = some n' → m.node? n = some n' ∨ Twin a m' c n n')
    (hcopy : ∀ v w, m'.var? v = some w → m.var? v = some w ∨ r.Copy m' c v w ∧ (∀ u, m.var? u ≠ some w) ∧
      ∀ u, m'.var? u = some w → m.var? u = some w ∨ u = v) : r.Cloning D m' c where
  old := h.old.trans hbc
  wf := hc
  nodes := hnodes
  twin n n' hn := (htwin n n' hn).elim (fun hn => (h.twin n n' hn).mono hm hbc) id
  copy v w hv := (hcopy v w hv).elim (fun hv => (h.copy v w hv).mono hm hbc) And.left
  inj u v w hu hv := by
    rcases hcopy v w hv with hv' | ⟨-, hnew, hone⟩
    · rcases hcopy u w hu with hu' | ⟨-, hnew, -⟩
      · exact h.inj u v w hu' hv'
      · exact absurd hv' (hnew v)
    · exact (hone u hu).resolve_left (hnew u)

/-- A variable without an owner is noted. -/
theorem note (h : r.Cloning done m b) (hbc : b.Extends c) (hc : c.Wf) (hcopy : r.Copy (m.note v w) c v w)
    (hnew : m.var? v = none → ∀ u, m.var? u ≠ some w) : r.Cloning done (m.note v w) c := by
  refine h.grow (.note m v w) hbc hc (fun n => by rw [CloneMap.node?_note, h.nodes])
    (fun n n' hn => .inl (CloneMap.node?_note.symm.trans hn)) fun u x hu => ?_
  refine (CloneMap.of_note hu).imp_right ?_
  rintro ⟨hnone, rfl, rfl⟩
  exact ⟨hcopy, hnew hnone, fun y hy => (CloneMap.of_note hy).imp_right fun h => h.2.1⟩

/-- The results of a node have no copies before it has. -/
theorem unknown (h : r.Cloning done m b) (hn : ¬ done n) (hv : v ∈ a.outputs n) : m.var? v = none := by
  have ho := r.wf.mem_outputs.mp hv
  cases hv : m.var? v with
  | none => rfl
  | some w =>
    cases h.copy v w hv with
    | kept hk _ => cases hk.1.symm.trans ho
    | leaf _ ho' _ _ _ => cases ho'.symm.trans ho
    | result ho' hn' _ _ =>
      cases ho'.symm.trans ho
      exact absurd ((h.nodes n).mp (by rw [hn']; rfl)) hn

section Node

variable (h : r.Cloning done m b) (hn : ¬ done n) (hlt : n.idx < a.nodes.size) {ws : Vars}
  (hm : m' = CloneMap.notes { m with nodes := m.nodes.insert n ⟨b.nodes.size⟩ } (a.outputs n)
    ((b.pushCopy n ws).1.outputs ⟨b.nodes.size⟩))

include h hlt

theorem adds : b.Adds (b.pushCopy n ws).1 ws (a.outputs n).length := h.old.outputs hlt ▸ Arena.adds_pushCopy

include hm

omit h hlt in
theorem node?_notes {k : NodeId} : m'.node? k = if n == k then some ⟨b.nodes.size⟩ else m.node? k := by
  rw [hm, CloneMap.node?_notes, CloneMap.node?_insert]

include hn in
omit hlt in
theorem gains : m.Gains m' := by
  refine ⟨fun v w hv => ?_, fun k k' hk => ?_⟩
  · rw [hm, CloneMap.var?_notes]
    exact Option.or_eq_some_iff.mpr (.inl hv)
  · rw [node?_notes hm, if_neg, hk]
    exact fun he => hn ((h.nodes n).mp (by rw [eq_of_beq he, hk]; rfl))

/-- What is new are the results of the copy, in their order. -/
theorem of_notes (hv : m'.var? v = some w) : m.var? v = some w ∨ ∃ i, (a.outputs n)[i]? = some v ∧ w = ⟨b.vars.size + i⟩ := by
  rw [hm, CloneMap.var?_notes, Option.or_eq_some_iff] at hv
  refine hv.imp_right fun hv => ?_
  obtain ⟨i, hi⟩ := List.getElem?_of_mem (mem_of_lookup hv.2)
  obtain ⟨hiv, hiw⟩ := List.getElem?_zip_eq_some.mp hi
  exact ⟨i, hiv, Option.some.inj (hiw.symm.trans ((h.adds hlt).output (List.getElem?_eq_some_iff.mp hiv).1))⟩

include hn in
theorem var?_output {i : Nat} (hv : (a.outputs n)[i]? = some v) : m'.var? v = some ⟨b.vars.size + i⟩ := by
  have hadd : b.Adds _ ws _ := h.adds hlt
  rw [hm, CloneMap.var?_notes]
  refine Option.or_eq_some_iff.mpr (.inr ⟨h.unknown hn (List.mem_of_getElem? hv), lookup_of_mem ?_ ?_⟩)
  · rw [List.map_fst_zip (by simp [hadd.outputs_new])]
    exact r.wf.nodup_outputs n
  · exact List.mem_of_getElem? (List.getElem?_zip_eq_some.mpr ⟨hv, hadd.output (List.getElem?_eq_some_iff.mp hv).1⟩)

include hn in
/-- A node whose operands are noted is copied, and its results are noted. -/
theorem node (hin : ∀ x ∈ a.inputs n, (m.var? x).isSome = true) (hws : ws = (a.inputs n).map m.var) :
    r.Cloning (fun k => done k ∨ k = n) m' (b.pushCopy n ws).1 := by
  have hadd : b.Adds _ ws _ := h.adds hlt
  have hgains := h.gains hn hm
  have hbound : ∀ v w, m.var? v = some w → w.idx < b.vars.size := fun v w hv => (h.copy v w hv).bound h.old
  have hmem : ∀ w ∈ ws, w.idx < b.vars.size := fun w hw => by
    obtain ⟨x, hx, rfl⟩ := List.mem_map.mp (hws ▸ hw)
    exact hbound x _ (CloneMap.var?_eq (hin x hx))
  refine h.grow hgains hadd.toExtends (hadd.wf h.wf hmem) (fun k => ?_) (fun k k' hk => ?_) fun v w hv => ?_
  · rw [node?_notes hm, ← h.nodes]
    by_cases he : n = k
    · simp [he]
    · simp [he, Ne.symm he]
  · rw [node?_notes hm] at hk
    split at hk
    case isFalse => exact .inl hk
    case isTrue he =>
      obtain rfl := eq_of_beq he
      obtain rfl := Option.some.inj hk
      refine .inr ⟨h.old.nodes_le, by rw [hadd.nodes_eq]; simp, ?_, ?_, ?_⟩
      · rw [Arena.op, Arena.node_pushCopy, if_pos rfl]
        exact h.old.op hlt
      · rw [hadd.inputs_new, hws, List.forall₂_map_right_iff, List.forall₂_same]
        exact fun x hx => hgains.vars x _ (CloneMap.var?_eq (hin x hx))
      · rw [hadd.outputs_new, List.forall₂_iff_get]
        refine ⟨by simp, fun i hi hi' => ?_⟩
        simpa using h.var?_output hn hlt hm (List.getElem?_eq_getElem hi)
  · refine (h.of_notes hlt hm hv).imp_right ?_
    rintro ⟨i, hi, rfl⟩
    obtain ⟨ho, hidx⟩ := (r.wf.result n i v).mp hi
    have hn' : m'.node? n = some ⟨b.nodes.size⟩ := by simp [node?_notes hm]
    refine ⟨.result ho hn' (h.old.vars_le.trans (Nat.le_add_right _ _)) ?_,
      fun u hu => absurd (hbound u _ hu) (by simp), fun u hu => ?_⟩
    · rw [Arena.var_pushCopy ws (h.old.outputs hlt ▸ hi), h.old.var v (Arena.lt_of_owner ho), ← hidx]
      rfl
    · refine (h.of_notes hlt hm hu).imp_right ?_
      rintro ⟨j, hj, he⟩
      obtain rfl : i = j := by simpa using he
      exact Option.some.inj (hj.symm.trans hi)

end Node

end Cloning

/-! ## Runs -/

variable {k : Kit} {s t : Session} {E : Fault → Session → Prop} {copy : Bool}

/-- A variable without an owner is noted, itself or a copy. -/
theorem leaf_ends (h : r.Cloning done m t.arena) (hv : v.idx < a.vars.size) (ho : a.owner v = none) (hk : r.Kept v ↔ copy = false) :
    (do return m.note v (<- if copy then cloneVar v else Pure.pure v) : M CloneMap).Ends k t (fun m' u =>
      (u = { t with arena := u.arena } ∧ r.Cloning done m' u.arena) ∧ m.Gains m' ∧ (m'.var? v).isSome = true) E := by
  cases copy with
  | false =>
    refine ⟨⟨rfl, h.note (.refl _) h.wf (.kept (hk.mpr rfl) hv) fun hnone u hu => ?_⟩, .note m v v, CloneMap.isSome_note⟩
    -- only the variable itself and new ones are noted
    cases h.copy u v hu with
    | kept _ _ => cases hnone.symm.trans hu
    | leaf _ _ hle _ _ => omega
    | result _ _ hle _ => omega
  | true =>
    simp only [if_true, cloneVar, ends_bind, ends_varInfo, ends_pure]
    refine ⟨⟨rfl, h.note .push (h.wf.push rfl) (.leaf (by simp [hk]) ho h.old.vars_le (by simp) ?_) fun _ u hu => ?_⟩,
      .note m v _, CloneMap.isSome_note⟩
    · rw [Arena.var_push, if_pos rfl, h.old.var v hv]
    · exact lt_irrefl _ ((h.copy u _ hu).bound h.old)

/-- Variables that are not noted yet are. -/
theorem covers_ends {vs : Vars} (h : r.Cloning done m t.arena)
    (hvs : ∀ v ∈ vs, v.idx < a.vars.size ∧ (m.var? v = none → a.owner v = none ∧ (r.Kept v ↔ copy = false))) :
    (vs.foldlM (CloneMap.cover copy) m).Ends k t (fun m' u =>
      (u = { t with arena := u.arena } ∧ r.Cloning done m' u.arena) ∧ m.Gains m' ∧ ∀ v ∈ vs, (m'.var? v).isSome = true) E := by
  refine (Ends.foldlM (J := fun m' u => (u = { t with arena := u.arena } ∧ r.Cloning done m' u.arena) ∧ m.Gains m') (L := CloneMap.Gains)
    (P := fun v m' => (m'.var? v).isSome = true) .refl (fun _ _ _ => .trans) (fun _ _ _ hv hm => hm.isSome hv)
    ⟨⟨rfl, h⟩, .refl m⟩ fun v hv m' u hu => ?_).imp fun m' u hu => ⟨hu.1.1, hu.1.2, hu.2.2⟩
  unfold CloneMap.cover
  rw [CloneMap.contains_vars]
  split
  case isTrue hsome => exact ⟨hu, .refl m', hsome⟩
  case isFalse hnone =>
    obtain ⟨hlt, hleaf⟩ := hvs v hv
    obtain ⟨ho, hk⟩ := hleaf (Option.not_isSome_iff_eq_none.mp fun hs => hnone (hu.2.isSome hs))
    refine (leaf_ends hu.1.2 hlt ho hk).imp fun m'' u' h' => ⟨⟨⟨?_, h'.1.2⟩, hu.2.trans h'.2.1⟩, h'.2⟩
    rw [h'.1.1, hu.1.1]

theorem addNode_ends (h : r.Cloning done m t.arena) (hn : ¬ done n) (hr : r.Holds n) (hins : ∀ v ∈ r.ins, (m.var? v).isSome = true)
    (hfeeds : ∀ p, a.Feeds p n → done p) :
    (CloneMap.addNode a r.copyOrphans m n).Ends k t (fun m' u =>
      u = { t with arena := u.arena } ∧ m.Gains m' ∧ r.Cloning (fun k => done k ∨ k = n) m' u.arena) E := by
  have hlt := hr.node_lt r.wf
  unfold CloneMap.addNode
  rw [ends_bind]
  refine (covers_ends h fun x hx => ⟨r.wf.operand n x hx, fun hnone => ?_⟩).imp ?_
  · -- an operand that is not noted has no owner, and is not an input
    have ho : a.owner x = none := Option.eq_none_iff_forall_ne_some.mpr fun p ho => by
      simpa [hnone] using h.known (hfeeds p ⟨x, hx, ho⟩) (List.mem_append_right _ (r.wf.mem_outputs.mpr ho))
    have hin : x ∉ r.ins := fun hx => by simpa [hnone] using hins x hx
    exact ⟨ho, by simp [Kept, ho, hin, show r.Reads x from ⟨n, hr, hx⟩]⟩
  · rintro m' u ⟨⟨hu, hm⟩, hgain, hin⟩
    rw [ends_bind]
    simp only [CloneMap.getD_vars]
    refine cloneWithInputs_ends ?_ ?_
    · rw [hm.old.inputs hlt, List.forall₂_map_right_iff, List.forall₂_same]
      intro x hx
      rw [(hm.copy x _ (CloneMap.var?_eq (hin x hx))).typeOf hm.old, hm.old.typeOf (r.wf.operand n x hx)]
      exact Ty.beq_self _
    · have hnode : m'.nodes.contains n = false := by
        rw [Std.HashMap.contains_eq_isSome_getElem?, Bool.eq_false_iff]
        exact fun hs => hn ((hm.nodes n).mp hs)
      simp only [ends_bind, ends_outsOf, ends_pure, hnode, Bool.false_eq_true, if_false]
      exact ⟨by rw [hu], hgain.trans (hm.gains hn rfl), hm.node hn hlt rfl hin rfl⟩

/-- The nodes are copied in their order. -/
theorem nodes_ends {order done todo : List NodeId} (hs : Schedules (a.Before (fun _ => False) []) r.Holds order)
    (hr : order = done ++ todo) (h : r.Cloning (· ∈ done) m t.arena)
    (hins : ∀ v ∈ r.ins, (m.var? v).isSome = true) :
    (todo.foldlM (CloneMap.addNode a r.copyOrphans) m).Ends k t (fun m' u =>
      u = { t with arena := u.arena } ∧ m.Gains m' ∧ r.Cloning r.Holds m' u.arena) E := by
  induction todo generalizing done m t with
  | nil =>
    rw [List.append_nil] at hr
    exact ⟨rfl, .refl m, { h with nodes := fun n => (h.nodes n).trans (by rw [← hr, hs.mem]) }⟩
  | cons n todo ih =>
    have hn : n ∉ done := fun hn => by
      have := hs.nodup
      rw [hr] at this
      exact (List.nodup_append.mp this).2.2 n hn n List.mem_cons_self rfl
    rw [List.foldlM_cons, ends_bind]
    refine (addNode_ends h hn ((hs.mem n).mp (by rw [hr]; simp)) hins fun p hp =>
      hs.after done n todo hr p (Arena.before_nil.mpr ⟨hp, id⟩)).imp ?_
    rintro m' u ⟨hu, hg, hc⟩
    have hc : r.Cloning (· ∈ done ++ [n]) m' u.arena := { hc with nodes := fun k => (hc.nodes k).trans (by simp) }
    refine (ih (by rw [hr, List.append_assoc]; rfl) hc fun v hv => hg.isSome (hins v hv)).imp fun m'' u' h' => ?_
    exact ⟨by rw [h'.1, hu], hg.trans h'.2.1, h'.2.2⟩

namespace Cloning

/-- Nodes with the same copy have the same results. -/
theorem nodes_inj (h : r.Cloning r.Holds m b) {p : NodeId} (hn : m.node? n = some n') (hp : m.node? p = some n') : n = p := by
  obtain ⟨v, ho⟩ : ∃ v, a.owner v = some n := Arena.Pulled.owned ((h.nodes n).mp (by rw [hn]; rfl))
  have hv := r.wf.mem_outputs.mpr ho
  have hmem : m.var v ∈ (a.outputs p).map m.var := by
    rw [← eq_map_of_forall₂ (h.twin p n' hp).outputs, eq_map_of_forall₂ (h.twin n n' hn).outputs]
    exact List.mem_map_of_mem hv
  obtain ⟨u, hu, huv⟩ := List.mem_map.mp hmem
  have hw := CloneMap.var?_eq (isSome_of_forall₂ (h.twin p n' hp).outputs hu)
  obtain rfl := h.inj u v _ hw (huv ▸ CloneMap.var?_eq (isSome_of_forall₂ (h.twin n n' hn).outputs hv))
  exact Option.some.inj (ho.symm.trans (r.wf.mem_outputs.mp hu))

/-- A variable and its copy have the same value when those without an owner have. -/
theorem value (h : r.Cloning done m b) {α : Type} {ρ ρ' : Interpretation α} (hρ : ρ'.result = ρ.result)
    (hleaf : ∀ v w, m.var? v = some w → a.owner v = none → ρ'.leaf w = ρ.leaf v) (hv : m.var? v = some w) :
    ∃ q, a.Means ρ [] v q ∧ b.Means ρ' [] w q := by
  induction hd : a.height v using Nat.strong_induction_on generalizing v w with
  | _ d ih =>
    cases h.copy v w hv with
    | kept hk hlt => exact ⟨_, .leaf rfl hk.1, hleaf v v hv hk.1 ▸ .leaf rfl ((h.old.owner hlt).trans hk.1)⟩
    | leaf _ ho _ _ hvar => exact ⟨_, .leaf rfl ho, hleaf v w hv ho ▸ .leaf rfl (congrArg Variable.owner hvar)⟩
    | @result _ n n' ho hn _ hvar =>
      have ht := h.twin n n' hn
      have hin : ∀ x ∈ a.inputs n, ∃ q, a.Means ρ [] x q ∧ b.Means ρ' [] (m.var x) q := fun x hx => by
        have hlt : a.height x < d := by
          have := Arena.height_le_depth r.wf hx fun p _ => r.acyclic p
          have := Arena.height_of_owner ho
          omega
        exact ih _ hlt (CloneMap.var?_eq (isSome_of_forall₂ ht.inputs hx)) rfl
      have : Nonempty α := ⟨ρ.leaf v⟩
      choose! val hval using hin
      refine ⟨_, .result val rfl ho fun x hx => (hval x hx).1, ?_⟩
      have hmeans := Arena.Means.result_map (T := []) rfl (congrArg Variable.owner hvar) (eq_map_of_forall₂ ht.inputs)
        fun x hx => (hval x hx).2
      rwa [hρ, ht.op, hvar] at hmeans

end Cloning

/-- A region is cloned without an error, and nothing else in the session changes. -/
theorem cloneGraph_clones (k : Kit) (s : Session) (r : Region s.arena) :
    (cloneGraph r.ins r.outs r.copyInputs r.copyOrphans).Ends k s (fun m t => t = { s with arena := t.arena } ∧
      r.Cloning r.Holds m t.arena ∧ (∀ n p n', m.node? n = some n' → m.node? p = some n' → n = p) ∧
      (∀ v, (v ∈ r.ins ∨ v ∈ r.outs ∨ ∃ n, r.Holds n ∧ v ∈ s.arena.inputs n ++ s.arena.outputs n) → (m.var? v).isSome = true) ∧
      ∀ (α : Type) (ρ ρ' : Interpretation α), ρ'.result = ρ.result →
        (∀ v w, m.var? v = some w → s.arena.owner v = none → ρ'.leaf w = ρ.leaf v) →
          ∀ v w, m.var? v = some w → ∃ q, s.arena.Means ρ [] v q ∧ t.arena.Means ρ' [] w q) fun _ _ => False := by
  simp only [cloneGraph, ends_bind, ends_getArena]
  refine (Arena.orderBetween_ends r.wf r.acyclic fun v hv => (r.given v hv).2).imp ?_
  rintro order _ ⟨rfl, hs⟩
  have hstart : r.Cloning (· ∈ []) {} s.arena := by
    refine ⟨.refl _, r.wf, fun n => ?_, fun n n' h => ?_, fun v w h => ?_, fun u v w h => ?_⟩ <;>
      simp [CloneMap.node?, CloneMap.var?] at *
  refine (Ends.foldlM (J := fun m t => t = { s with arena := t.arena } ∧ r.Cloning (· ∈ []) m t.arena) (L := CloneMap.Gains)
    (P := fun v m' => (m'.var? v).isSome = true) .refl (fun _ _ _ => .trans) (fun _ _ _ hv hm => hm.isSome hv)
    ⟨rfl, hstart⟩ fun v hv m t ht => ?_).imp ?_
  · obtain ⟨hlt, ho⟩ := r.given v hv
    refine (leaf_ends ht.2 hlt ho (by simp [Kept, ho, hv])).imp fun m' u h' => ⟨⟨?_, h'.1.2⟩, h'.2⟩
    rw [h'.1.1, ht.1]
  rintro m₁ t₁ ⟨⟨ht₁, h₁⟩, -, hins⟩
  refine (nodes_ends hs rfl h₁ hins).imp ?_
  rintro m₂ t₂ ⟨ht₂, hg, h₂⟩
  refine (covers_ends h₂ fun v hv => ⟨r.asked v hv, fun hnone => ?_⟩).imp ?_
  · -- an output that is not noted yet has no owner, and no node reads it
    have hno : ∀ n, r.Holds n → v ∉ s.arena.inputs n ++ s.arena.outputs n := fun n hn hv => by simpa [hnone] using h₂.known hn hv
    have ho : s.arena.owner v = none := Option.eq_none_iff_forall_ne_some.mpr fun n ho =>
      hno n ⟨v, hv, n, ho, id, .refl⟩ (List.mem_append_right _ (r.wf.mem_outputs.mpr ho))
    have hin : v ∉ r.ins := fun hv => by simpa [hnone] using hg.isSome (hins v hv)
    refine ⟨ho, iff_of_false (fun hk => ?_) (by simp)⟩
    have hread := hk.2
    rw [if_neg hin] at hread
    obtain ⟨-, n, hn, hv⟩ := hread
    exact hno n hn (List.mem_append_left _ hv)
  · rintro m t ⟨⟨ht, h⟩, hg', houts⟩
    refine ⟨by rw [ht, ht₂, ht₁], h, fun n p n' => h.nodes_inj, fun v hv => ?_, fun α ρ ρ' hρ hleaf v w => h.value hρ hleaf⟩
    rcases hv with hv | hv | ⟨n, hn, hv⟩
    · exact hg'.isSome (hg.isSome (hins v hv))
    · exact houts v hv
    · exact h.known hn hv

end Region

namespace Pair

/-- The two nodes, of which the first has two results and the second reads both, with the input kept. -/
def region : Region joined where
  ins := [⟨0⟩]
  outs := [⟨3⟩]
  copyInputs := false
  copyOrphans := true
  wf := joined_wf
  acyclic := not_transGen_joined
  given v hv := by rw [List.mem_singleton.mp hv]; exact ⟨by decide, rfl⟩
  asked v hv := by rw [List.mem_singleton.mp hv]; decide

theorem cloneGraph_clones_joined : (cloneGraph [⟨0⟩] [⟨3⟩] false true).Ends Kit.empty { arena := joined }
    (fun m t => joined.Extends t.arena ∧ m.var? ⟨0⟩ = some ⟨0⟩ ∧ ∃ w, m.var? ⟨3⟩ = some w ∧ 4 ≤ w.idx) fun _ _ => False := by
  refine (Region.cloneGraph_clones Kit.empty { arena := joined } region).imp ?_
  rintro m t ⟨-, h, -, hvars, -⟩
  obtain ⟨x, hx⟩ := Option.isSome_iff_exists.mp (hvars ⟨0⟩ (.inl List.mem_cons_self))
  obtain ⟨w, hw⟩ := Option.isSome_iff_exists.mp (hvars ⟨3⟩ (.inr (.inl List.mem_cons_self)))
  refine ⟨h.old, ?_, w, hw, ?_⟩
  · cases h.copy _ x hx with
    | kept _ _ => exact hx
    | leaf hk _ _ _ _ => exact absurd ⟨rfl, by simp [region]⟩ hk
    | result ho _ _ _ => cases ho
  · cases h.copy _ w hw with
    | kept hk _ => cases hk.1
    | leaf _ ho _ _ _ => cases ho
    | result _ _ hle _ => exact hle

end Pair

end TensorGraph
