import TensorGraph.Proofs.Copies

/-!
# Copying expressions

While expressions are copied, every entry of the table of copies stands, under every interpretation, for what it is a copy of. Each
step adds to the arena and to the table and keeps this, and so does copying as a whole, with the default updates that
are met on the way.
-/

namespace TensorGraph

open M

namespace CloneMap

variable {m : CloneMap} {u v w : VarId} {vs ws : Vars}

theorem vars_note : (m.note u w).vars[v]? = (m.vars[v]?).or (if v == u then some w else none) := by
  unfold note
  rw [Std.HashMap.contains_eq_isSome_getElem?]
  cases hu : m.vars[u]? with
  | some x => by_cases hv : v = u <;> simp [hv, hu]
  | none =>
    refine Std.HashMap.getElem?_insert.trans ?_
    by_cases hv : v = u
    · simp [hv, hu]
    · simp [hv, Ne.symm hv]

theorem vars_notes : (m.notes vs ws).vars[v]? = (m.vars[v]?).or ((vs.zip ws).lookup v) := by
  unfold notes
  induction vs.zip ws generalizing m with
  | nil => simp
  | cons p l ih =>
    rw [List.foldl_cons, ih, vars_note, List.lookup_cons, Option.or_assoc]
    cases v == p.1 <;> simp

theorem nodes_notes (m : CloneMap) (vs ws : Vars) : (m.notes vs ws).nodes = m.nodes := by
  unfold notes
  induction vs.zip ws generalizing m with
  | nil => rfl
  | cons p l ih =>
    refine (ih _).trans ?_
    change (m.note p.1 p.2).nodes = m.nodes
    unfold note
    split <;> rfl

end CloneMap

namespace CopyState

variable {c : CopyState} {u v w : VarId} {vs ws : Vars}

theorem find?_insert : find? { c with map := { c.map with vars := c.map.vars.insert u w } } v = if u == v then some w else c.find? v :=
  Std.HashMap.getElem?_insert

theorem find?_note : (c.note u w).find? v = (c.find? v).or (if v == u then some w else none) := CloneMap.vars_note

theorem find?_notes : (c.notes vs ws).find? v = (c.find? v).or ((vs.zip ws).lookup v) := CloneMap.vars_notes

theorem share_same (c : CopyState) (v : VarId) :
    (c.share v).map = c.map ∧ (c.share v).given = c.given ∧ (c.share v).updates = c.updates := by
  unfold share
  split <;> exact ⟨rfl, rfl, rfl⟩

/-- The updates that wait to be copied: each variable below a bound has one at most, and it is among the updates that are
known. -/
structure Queue (bound : Nat) (given updates : VarPairs) : Prop where
  once : (given.map Prod.fst).Nodup
  lt : ∀ p ∈ given, p.1.idx < bound
  known : ∀ p ∈ given, p.1 ∈ updates.map Prod.fst

namespace Queue

variable {bound : Nat} {given updates : VarPairs}

/-- The update of a variable that has none yet joins the queue. -/
theorem push (h : Queue bound given updates) (hv : v.idx < bound) (hno : (updates.lookup v).isSome = false) :
    Queue bound (given ++ [(v, w)]) (updates ++ [(v, w)]) := by
  have hnew : v ∉ updates.map Prod.fst := isSome_lookup.not.mp (Bool.eq_false_iff.mp hno)
  refine ⟨?_, fun p hp => ?_, fun p hp => ?_⟩
  · rw [List.map_append]
    refine h.once.append (List.nodup_singleton v) (List.disjoint_singleton.mpr fun hmem => ?_)
    obtain ⟨p, hp, rfl⟩ := List.mem_map.mp hmem
    exact hnew (h.known p hp)
  · rcases List.mem_append.mp hp with hp | hp
    · exact h.lt p hp
    · exact List.mem_singleton.mp hp ▸ hv
  · rw [List.map_append]
    rcases List.mem_append.mp hp with hp | hp
    · exact List.mem_append_left _ (h.known p hp)
    · exact List.mem_append_right _ (List.mem_map_of_mem hp)

theorem length_le (h : Queue bound given updates) : given.length ≤ bound := by
  have hidx : (given.map fun p => p.1.idx).Nodup := by
    rw [show (fun p : VarId × VarId => p.1.idx) = VarId.idx ∘ Prod.fst from rfl, ← List.map_map]
    exact h.once.map fun a b hab => by cases a; cases b; simpa using hab
  have hsub : (given.map fun p => p.1.idx) ⊆ List.range bound := fun i hi => by
    obtain ⟨p, hp, rfl⟩ := List.mem_map.mp hi
    exact List.mem_range.mpr (h.lt p hp)
  simpa using (List.subperm_of_subset hidx hsub).length_le

end Queue

/-- A table that keeps its entries and gains some for variables of a set. -/
structure Gains (P : VarId → Prop) (c d : CopyState) : Prop where
  keeps : ∀ {v w}, c.find? v = some w → d.find? v = some w
  gains : ∀ {v w}, d.find? v = some w → c.find? v = some w ∨ P v

namespace Gains

variable {P : VarId → Prop} {d e : CopyState}

theorem refl (P : VarId → Prop) (c : CopyState) : Gains P c c := ⟨id, .inl⟩

theorem trans (h : Gains P c d) (h' : Gains P d e) : Gains P c e :=
  ⟨fun hv => h'.keeps (h.keeps hv), fun hv => (h'.gains hv).elim h.gains .inr⟩

theorem isSome (h : Gains P c d) (hv : (c.find? v).isSome = true) : (d.find? v).isSome = true := by
  obtain ⟨w, hw⟩ := Option.isSome_iff_exists.mp hv
  rw [h.keeps hw]
  rfl

theorem notes (ws : Vars) (h : ∀ v ∈ vs, P v) : Gains P c (c.notes vs ws) := by
  refine ⟨fun hv => by rw [find?_notes, hv]; rfl, fun {v w} hw => ?_⟩
  rw [find?_notes] at hw
  cases hv : c.find? v with
  | some x => exact .inl (by rwa [hv] at hw)
  | none =>
    rw [hv, Option.none_or] at hw
    exact .inr (h v (List.of_mem_zip (mem_of_lookup hw)).1)

theorem of_map (h : Gains P c d) (hmap : e.map = d.map) : Gains P c e := by
  have hfind : ∀ v, e.find? v = d.find? v := fun v => congrArg (·.vars[v]?) hmap
  exact ⟨fun hv => (hfind _).trans (h.keeps hv), fun hv => h.gains ((hfind _).symm.trans hv)⟩

end Gains

end CopyState

/-! ## Copying -/

open CopyState (Gains)

/-- What is to be copied: variables of a session that can be copied, a table of substitutes of the same types among them, and
the part that is copied next. -/
structure Plan (k : Kit) (s : Session) (R P : VarId → Prop) (T : List (VarId × VarId)) : Prop where
  copyable : s.Copyable k R
  nodup : (T.map Prod.fst).Nodup
  key : ∀ p ∈ T, p.1.idx < s.arena.vars.size
  substitute : ∀ p ∈ T, R p.2 ∧ (s.arena.typeOf p.1 == s.arena.typeOf p.2) = true
  closed : s.arena.Closed P
  part : ∀ v, P v → R v

/-- One variable is a copy of another of an earlier session, with the replacements of a table. -/
structure Copied (s : Session) (R : VarId → Prop) (T : List (VarId × VarId)) (t : Session) (v w : VarId) : Prop where
  inside : s.arena.Grown t.arena R w
  type : v.idx < s.arena.vars.size → t.arena.typeOf w = s.arena.typeOf ((T.lookup v).getD v)
  means : ∀ {α : Type} {ρ : Interpretation α} {q : α}, s.arena.Means ρ T v q → t.arena.Means ρ [] w q

/-- An update that is still to be copied: a variable that can be copied, or a new constant. -/
def Pending (s : Session) (R : VarId → Prop) (t : Session) (u : VarId) : Prop :=
  s.arena.Grown t.arena R u ∧ (s.arena.vars.size ≤ u.idx → t.arena.owner u = none ∧ t.arena.isShared u = false)

/-- What holds while the expressions of a session are copied: only the arena has changed, and only by additions; the entries of
the table of copies are copies; with a node all its results are in the table, and in the part that is copied so is all
that has a substitute. -/
structure Copying (k : Kit) (s : Session) (R P : VarId → Prop) (T : List (VarId × VarId)) (c : CopyState) (t : Session) : Prop where
  frame : t = { s with arena := t.arena }
  old : s.arena.Extends t.arena
  region : t.Copyable k (s.arena.Grown t.arena R)
  entry : ∀ v w, c.find? v = some w → Copied s R T t v w
  node : ∀ n, c.map.nodes.contains n = true → ∀ v, s.arena.owner v = some n → (c.find? v).isSome = true
  keys : ∀ v, P v → c.find? v = none → T.lookup v = none
  given : ∀ p ∈ c.given, Pending s R t p.2
  queue : CopyState.Queue s.arena.vars.size c.given c.updates

variable {k : Kit} {s t : Session} {R P : VarId → Prop} {T : List (VarId × VarId)} {c : CopyState} {v w x y : VarId} {n : NodeId}

namespace Plan

theorem whole (h : Plan k s R P T) : Plan k s R R T := { h with closed := h.copyable.closed, part := fun _ => id }

theorem bound (h : Plan k s R P T) (hv : P v) : v.idx < s.arena.vars.size := (h.copyable.typed v (h.part v hv)).1

theorem lookup_new (h : Plan k s R P T) (hv : s.arena.vars.size ≤ v.idx) : T.lookup v = none :=
  lookup_eq_none fun _ hmem => absurd (h.key _ hmem) (Nat.not_lt.mpr hv)

end Plan

namespace Copying

theorem grow {b : Arena} (hc : Copying k s R P T c t) (hb : t.arena.Extends b)
    (hr : { t with arena := b }.Copyable k (s.arena.Grown b R)) : Copying k s R P T c { t with arena := b } where
  frame := by rw [hc.frame]
  old := hc.old.trans hb
  region := hr
  entry v w hw := by
    obtain ⟨hin, htype, hmeans⟩ := hc.entry v w hw
    exact ⟨hin.mono hb, fun hv => (hb.typeOf hin.1).trans (htype hv), fun h => (hmeans h).extend hb hc.region.wf hin.1⟩
  node := hc.node
  keys := hc.keys
  queue := hc.queue
  given p hp := by
    obtain ⟨hin, hnew⟩ := hc.given p hp
    refine ⟨hin.mono hb, fun hle => ?_⟩
    rw [Arena.owner, Arena.isShared, show Arena.var _ p.2 = _ from hb.var p.2 hin.1]
    exact hnew hle

theorem start (hp : Plan k s R P T) (hkeys : ∀ v, P v → T.lookup v = none) : Copying k s R P T {} s where
  frame := rfl
  old := .refl _
  region := hp.copyable.grown_self.symm ▸ hp.copyable
  entry v w hw := by simp [CopyState.find?] at hw
  node n hn := by simp at hn
  keys v hv _ := hkeys v hv
  given _ hp := absurd hp List.not_mem_nil
  queue := ⟨List.nodup_nil, fun _ hp => absurd hp List.not_mem_nil, fun _ hp => absurd hp List.not_mem_nil⟩

/-- Only copies and updates matter. -/
theorem change {d : CopyState} (hc : Copying k s R P T c t) (hmap : d.map = c.map)
    (hgiven : ∀ p ∈ d.given, p ∈ c.given ∨ Pending s R t p.2)
    (hqueue : CopyState.Queue s.arena.vars.size d.given d.updates) : Copying k s R P T d t := by
  have hfind : ∀ v, d.find? v = c.find? v := fun v => congrArg (·.vars[v]?) hmap
  refine { hc with
    entry := fun v w hw => hc.entry v w (hfind v ▸ hw), node := fun n hn v ho => ?_, keys := fun v hv hno => ?_, given := ?_
    queue := hqueue }
  · rw [hfind]
    exact hc.node n (hmap ▸ hn) v ho
  · exact hc.keys v hv (hfind v ▸ hno)
  · exact fun p hp => (hgiven p hp).elim (hc.given p) id

theorem notes (vs ws : Vars) (hc : Copying k s R P T c t)
    (h : ∀ v w, c.find? v = none → (vs.zip ws).lookup v = some w → Copied s R T t v w) : Copying k s R P T (c.notes vs ws) t := by
  refine { hc with entry := fun v w hw => ?_, node := fun n hn v ho => ?_, keys := fun v hv hno => ?_ }
  · rw [CopyState.find?_notes] at hw
    cases hv : c.find? v with
    | some x => rw [hv] at hw; exact hc.entry v w (hv.trans hw)
    | none => rw [hv] at hw; exact h v w hv hw
  · rw [CopyState.find?_notes, Option.isSome_or, hc.node n (c.map.nodes_notes vs ws ▸ hn) v ho, Bool.true_or]
  · rw [CopyState.find?_notes, Option.or_eq_none_iff] at hno
    exact hc.keys v hv hno.1

theorem noteLeaf (hc : Copying k s R P T c t) (hv : s.arena.Grown t.arena R v) (ho : t.arena.owner v = none)
    (hno : T.lookup v = none) : Copying k s R P T (c.note v v) t := by
  have hs : s.arena.owner v = none := by
    by_contra hs
    obtain ⟨n, hn⟩ := Option.ne_none_iff_exists'.mp hs
    exact hs ((hc.old.owner (Arena.lt_of_owner hn)).symm.trans ho)
  refine hc.notes [v] [v] fun u w _ hw => ?_
  obtain ⟨rfl, rfl⟩ := Prod.mk.inj (List.mem_singleton.mp (mem_of_lookup hw))
  refine ⟨hv, fun hlt => ?_, fun h => ?_⟩
  · rw [hno]
    exact hc.old.typeOf hlt
  · cases h with
    | replaced hy _ => cases hno.symm.trans hy
    | leaf _ _ => exact .leaf rfl ho
    | result _ _ ho' _ => cases hs.symm.trans ho'

section Node

variable {ins : Vars} (hp : Plan k s R P T) (hc : Copying k s R P T c t) (hv : P v) (ho : s.arena.owner v = some n)
  (hin : ∀ x ∈ s.arena.inputs n, (c.find? x).isSome = true) (hins : ins = (s.arena.inputs n).map fun x => (c.find? x).getD x)

include hc hin in
theorem operand (hx : x ∈ s.arena.inputs n) : Copied s R T t x ((c.find? x).getD x) := by
  obtain ⟨w, hw⟩ := Option.isSome_iff_exists.mp (hin x hx)
  rw [hw]
  exact hc.entry x w hw

include hp hc ho in
theorem adds_copy (ins : Vars) : t.arena.Adds (t.arena.pushCopy n ins).1 ins (s.arena.outputs n).length :=
  hc.old.outputs (hp.copyable.wf.node_lt ho) ▸ Arena.adds_pushCopy

include hp hc hv ho hin hins

/-- The results of the copy of a node are copies. -/
theorem copied_result {i : Nat} {o : VarId} (hoi : (s.arena.outputs n)[i]? = some o) (hno : c.find? o = none) :
    Copied s R T { t with arena := (t.arena.pushCopy n ins).1 } o ⟨t.arena.vars.size + i⟩ := by
  have hn := hp.copyable.wf.node_lt ho
  have hb := adds_copy hp hc ho ins
  obtain ⟨hoo, rfl⟩ := (hp.copyable.wf.result n i o).mp hoi
  have hlen := (List.getElem?_eq_some_iff.mp hoi).1
  have hvar := Arena.var_pushCopy ins ((hc.old.outputs hn).symm ▸ hoi)
  have hnone := hc.keys o (hp.closed v n hv ho o (List.mem_append_right _ (List.mem_of_getElem? hoi))) hno
  refine ⟨⟨hb.vars_eq ▸ Nat.add_lt_add_left hlen _, fun h => absurd h ?_⟩, fun hlt => ?_, fun h => ?_⟩
  · exact Nat.not_lt.mpr (hc.old.vars_le.trans (Nat.le_add_right _ _))
  · rw [Arena.typeOf, hvar, hnone]
    exact hc.old.typeOf hlt
  · cases h with
    | replaced hy _ => cases hnone.symm.trans hy
    | leaf _ ho' => cases hoo.symm.trans ho'
    | result val _ ho' h =>
      cases hoo.symm.trans ho'
      have hop : (t.arena.pushCopy n ins).1.op ⟨t.arena.nodes.size⟩ = s.arena.op n := by
        rw [← hc.old.op hn, Arena.op, Arena.node_pushCopy, if_pos rfl]
        rfl
      have hm := Arena.Means.result_map (T := []) rfl (hb.result _ hlen).1 (hb.inputs_new.trans hins) fun x hx =>
        ((hc.operand hin hx).means (h x hx)).extend hb.toExtends hc.region.wf (hc.operand hin hx).inside.1
      rwa [hop, hvar] at hm

/-- A node all of whose operands have copies is copied. -/
theorem addNode :
    Copying k s R P T ((c.notes (s.arena.outputs n) ((t.arena.pushCopy n ins).1.outputs ⟨t.arena.nodes.size⟩)).noteNode n
      ⟨t.arena.nodes.size⟩) { t with arena := (t.arena.pushCopy n ins).1 } := by
  have hlt := hp.bound hv
  have hb := adds_copy hp hc ho ins
  have hgrow : Copying k s R P T c { t with arena := (t.arena.pushCopy n ins).1 } := by
    refine hc.grow hb.toExtends (hc.region.copy hc.old.vars_le (v := v) ⟨hlt.trans_le hc.old.vars_le, fun _ => hp.part v hv⟩
      ((hc.old.owner hlt).trans ho) fun x hx => ?_)
    obtain ⟨y, hy, rfl⟩ := List.mem_map.mp (hins ▸ hx)
    exact (hc.operand hin hy).inside
  have hnotes := hgrow.notes (s.arena.outputs n) ((t.arena.pushCopy n ins).1.outputs ⟨t.arena.nodes.size⟩) fun o w hno hw => by
    obtain ⟨i, hi⟩ := List.getElem?_of_mem (mem_of_lookup hw)
    obtain ⟨hoi, hwi⟩ := List.getElem?_zip_eq_some.mp hi
    obtain rfl : _ = w := Option.some.inj ((hb.output (List.getElem?_eq_some_iff.mp hoi).1).symm.trans hwi)
    exact copied_result hp hc hv ho hin hins hoi hno
  refine { hnotes with node := fun m hm u hu => ?_ }
  rcases Bool.or_eq_true_iff.mp (Std.HashMap.contains_insert.symm.trans hm) with hnm | hm
  · obtain rfl := eq_of_beq hnm
    obtain ⟨i, hi⟩ := List.getElem?_of_mem (hp.copyable.wf.mem_outputs.mpr hu)
    have hmem := List.mem_of_getElem? (List.getElem?_zip_eq_some.mpr ⟨hi, hb.output (List.getElem?_eq_some_iff.mp hi).1⟩ : _ = some (u, _))
    show ((c.notes _ _).find? u).isSome = true
    rw [CopyState.find?_notes, Option.isSome_or, Bool.or_eq_true]
    refine .inr (Option.isSome_iff_ne_none.mpr fun hnone => ?_)
    simpa using List.lookup_eq_none_iff.mp hnone _ hmem
  · exact hnotes.node m hm u hu

end Node

/-- A substitute has been copied; its copy also stands for what it replaces. -/
theorem insert (hp : Plan k s R P T) (hc : Copying k s R P T c t) (hx : T.lookup x = some y) (hy : P y) (hno : T.lookup y = none)
    (hmeans : ∀ {α : Type} {ρ : Interpretation α} {q : α}, s.arena.Means ρ [] y q → s.arena.Means ρ T y q) (hw : c.find? y = some w) :
    Copying k s R P T { c with map := { c.map with vars := c.map.vars.insert x w } } t := by
  have hcopy := hc.entry y w hw
  refine { hc with entry := fun v w' hv => ?_, node := fun n hn v ho => ?_, keys := fun v hv hnone => ?_ }
  · rw [CopyState.find?_insert] at hv
    by_cases hxv : x = v
    · subst hxv
      obtain rfl : w = w' := by simpa using hv
      refine ⟨hcopy.inside, fun _ => ?_, fun h => ?_⟩
      · rw [hcopy.type (hp.bound hy), hno, hx]
        rfl
      · cases h with
        | replaced hx' h =>
          cases hx.symm.trans hx'
          exact hcopy.means (hmeans h)
        | leaf hx' _ => cases hx.symm.trans hx'
        | result _ hx' _ _ => cases hx.symm.trans hx'
    · exact hc.entry v w' (by simpa [hxv] using hv)
  · rw [CopyState.find?_insert]
    split
    · rfl
    · exact hc.node n hn v ho
  · rw [CopyState.find?_insert] at hnone
    split at hnone
    · cases hnone
    · exact hc.keys v hv hnone

end Copying

/-! ## Runs -/

section Runs

variable {E : Fault → Session → Prop}

/-- What the copying of a variable ends with. -/
structure Stored (k : Kit) (s : Session) (R P : VarId → Prop) (T : List (VarId × VarId)) (c : CopyState) (v : VarId)
    (r : VarId × CopyState) (t : Session) : Prop where
  copying : Copying k s R P T r.2 t
  gains : Gains (fun u => u.idx < s.arena.vars.size → P u) c r.2
  found : r.2.find? v = some r.1

/-- Operands of the same types are taken as they are. -/
theorem cloneWithInputs_ends {ws : Vars} {Q : NodeId → Session → Prop}
    (h : List.Forall₂ (fun x w => (t.arena.typeOf x == t.arena.typeOf w) = true) (t.arena.inputs n) ws)
    (hQ : Q ⟨t.arena.nodes.size⟩ { t with arena := (t.arena.pushCopy n ws).1 }) : (cloneWithInputs n ws).Ends k t Q E := by
  have hgo : ∀ {xs ws : Vars} {Q : Vars × Bool → Session → Prop},
      List.Forall₂ (fun x w => (t.arena.typeOf x == t.arena.typeOf w) = true) xs ws → Q (ws, false) t →
      (cloneWithInputs.go true xs ws).Ends k t Q E := by
    intro xs ws Q h
    induction h generalizing Q with
    | nil => exact id
    | cons hx _ ih =>
      intro hQ
      simp only [cloneWithInputs.go, ends_bind, ends_typeOf, hx, Bool.true_or, if_true, ends_pure]
      exact ih (by simpa using hQ)
  simp only [cloneWithInputs, ends_bind, ends_nodeInfo]
  exact hgo h hQ

variable (hp : Plan k s R P T) (hc : Copying k s R P T c t)

include hp hc

theorem exactVariable_ends {u : Value} (hv : R v) (ho : s.arena.owner v = none)
    (hshared : s.arena.isShared v = true) (hu : (s.arena.var v).attrs.lookup "default_update" = some u) :
    (exactVariable (s.arena.typeOf v) u).Ends k t (fun w t' => Copying k s R P T c t' ∧ Pending s R t' w) fun _ _ => False := by
  unfold exactVariable
  rcases hp.copyable.update v u hv ho hshared hu with ⟨w, rfl, hw, htype⟩ | ⟨hno, htakes⟩
  · have hlt := (hp.copyable.typed w hw).1
    simp only [ends_bind, ends_pure, ends_typeOf, hc.old.typeOf hlt, htype, if_true]
    exact ⟨hc, ⟨hlt.trans_le hc.old.vars_le, fun _ => hw⟩, fun hle => absurd hlt (Nat.not_lt.mpr hle)⟩
  · have htakes := htakes _ hc.old
    rw [← hc.frame] at htakes
    dsimp only
    split
    · exact absurd rfl (hno _)
    · rw [ends_bind]
      refine htakes.imp fun x t' ht' => ?_
      subst ht'
      set y : Variable := { type := s.arena.typeOf v, role := .constant x }
      have hself := (hp.copyable.typed v hv).2
      have hc' := hc.grow .push (hc.region.push (x := y) rfl (fun _ h => by cases h) hself)
      have hvar : Arena.var { t'.arena with vars := t'.arena.vars.push y } ⟨t'.arena.vars.size⟩ = y := by
        rw [Arena.var_push, if_pos rfl]
      rw [ends_bind]
      show M.Ends (typeOf ⟨t'.arena.vars.size⟩ >>= _) k { t' with arena := { t'.arena with vars := t'.arena.vars.push y } } _ _
      rw [ends_bind, ends_typeOf, Arena.typeOf, hvar, if_pos hself]
      refine ⟨hc', ⟨by simp, fun hlt => absurd hlt (Nat.not_lt.mpr hc.old.vars_le)⟩, fun _ => ?_⟩
      exact ⟨by rw [Arena.owner, hvar], Arena.isShared_eq_false (hvar.symm ▸ fun _ h => by cases h)⟩

/-- A shared variable is met: its default update joins those to copy. -/
theorem meetShared_ends (hv : R v) (ho : s.arena.owner v = none) (hshared : s.arena.isShared v = true) :
    (meetShared {} v c).Ends k t (fun d t' => Copying k s R P T d t' ∧ d.map = c.map) fun _ _ => False := by
  have hlt := (hp.copyable.typed v hv).1
  have hsame := c.share_same v
  have hd : Copying k s R P T (c.share v) t := hc.change hsame.1 (fun p hp => .inl (hsame.2.1 ▸ hp))
    (hsame.2.1 ▸ hsame.2.2 ▸ hc.queue)
  unfold meetShared
  simp only [ends_bind, ends_varInfo, hc.old.var v hlt]
  split
  · rename_i u hu
    rw [ends_ite]
    split
    · exact ⟨hd, hsame.1⟩
    · rename_i hnot
      rw [ends_bind, ends_typeOf, hc.old.typeOf hlt, ends_bind]
      refine (exactVariable_ends hp hd hv ho hshared hu).imp ?_
      rintro w t' ⟨hd', hw⟩
      have hno : ((c.share v).updates.lookup v).isSome = false := Bool.eq_false_iff.mpr fun h => hnot (by rw [h, Bool.or_true])
      refine ⟨hd'.change rfl (fun p hp => ?_) (hd'.queue.push hlt hno), hsame.1⟩
      refine (List.mem_append.mp hp).imp id fun hp => ?_
      rw [List.mem_singleton.mp hp]
      exact hw
  · exact ⟨hd, hsame.1⟩

omit hp in
theorem copyVariable_of_found {fuel : Nat} (hfind : c.find? v = some w) :
    (copyVariable {} (fuel + 1) v c).Ends k t (Stored k s R P T c v) fun _ _ => False := by
  unfold copyVariable
  rw [hfind]
  exact ⟨hc, .refl _ c, hfind⟩

/-- A variable without an owner is its own copy. -/
theorem copyLeaf_ends {fuel : Nat} (hfind : c.find? v = none) (hv : v.idx < t.arena.vars.size) (hpart : v.idx < s.arena.vars.size → P v)
    (ho : t.arena.owner v = none) (hnew : s.arena.vars.size ≤ v.idx → t.arena.isShared v = false) :
    (copyVariable {} (fuel + 1) v c).Ends k t (Stored k s R P T c v) fun _ _ => False := by
  have hno : T.lookup v = none := by
    by_cases hlt : v.idx < s.arena.vars.size
    · exact hc.keys v (hpart hlt) hfind
    · exact hp.lookup_new (Nat.not_lt.mp hlt)
  have hnote : ∀ d t', Copying k s R P T d t' → d.map = c.map → s.arena.Grown t'.arena R v → t'.arena.owner v = none →
      Stored k s R P T c v (v, d.note v v) t' := fun d t' hd hmap hv ho => by
    have hgain : Gains (fun u => u.idx < s.arena.vars.size → P u) d (d.note v v) := .notes [v] (List.forall_mem_singleton.mpr hpart)
    refine ⟨hd.noteLeaf hv ho hno, ((Gains.refl _ c).of_map hmap).trans hgain, ?_⟩
    rw [CopyState.find?_note, show d.find? v = none from (congrArg (·.vars[v]?) hmap).trans hfind]
    simp
  have hin : s.arena.Grown t.arena R v := ⟨hv, fun hlt => hp.part v (hpart hlt)⟩
  unfold copyVariable
  rw [hfind]
  simp only [ends_bind, ends_varInfo, show (t.arena.var v).owner = none from ho]
  cases hrole : (t.arena.var v).role with
  | plain => exact hnote c t hc rfl hin ho
  | constant _ => exact hnote c t hc rfl hin ho
  | shared b =>
    have hshared : t.arena.isShared v = true := by simp [Arena.isShared, hrole]
    have hlt : v.idx < s.arena.vars.size := by
      by_contra hle
      simp [hnew (Nat.not_lt.mp hle)] at hshared
    rw [hc.old.owner hlt] at ho
    rw [Arena.isShared, hc.old.var v hlt] at hshared
    simp only [ends_bind]
    refine (meetShared_ends hp hc (hin.2 hlt) ho hshared).imp ?_
    rintro d t' ⟨hd, hmap⟩
    exact hnote d t' hd hmap ⟨hlt.trans_le hd.old.vars_le, fun _ => hin.2 hlt⟩ ((hd.old.owner hlt).trans ho)

theorem copyNode_ends (hv : P v) (ho : s.arena.owner v = some n) (hin : ∀ x ∈ s.arena.inputs n, (c.find? x).isSome = true) :
    (cloneWithInputs n ((s.arena.inputs n).map fun x => (c.find? x).getD x)).Ends k t (fun m t' =>
      Copying k s R P T ((c.notes (t'.arena.outputs n) (t'.arena.outputs m)).noteNode n m) t' ∧
      Gains P c (c.notes (t'.arena.outputs n) (t'.arena.outputs m))) fun _ _ => False := by
  have hn := hp.copyable.wf.node_lt ho
  refine cloneWithInputs_ends ?_ ?_
  · rw [hc.old.inputs hn, List.forall₂_map_right_iff, List.forall₂_same]
    intro x hx
    obtain ⟨hlt, hself⟩ := hp.copyable.typed x (hp.copyable.operand (hp.part v hv) ho hx)
    rw [hc.old.typeOf hlt, (hc.operand hin hx).type hlt]
    cases hy : T.lookup x with
    | none => exact hself
    | some y => exact (hp.substitute _ (mem_of_lookup hy)).2
  · have hb := Copying.adds_copy hp hc ho ((s.arena.inputs n).map fun x => (c.find? x).getD x)
    rw [(hb.outputs (hn.trans_le hc.old.nodes_le)).trans (hc.old.outputs hn)]
    exact ⟨.addNode hp hc hv ho hin rfl, .notes _ fun o ho' => hp.closed v n hv ho o (List.mem_append_right _ ho')⟩

/-- Copying follows the expression down; the depth of a node bounds the recursion. -/
theorem copyVariable_ends {fuel : Nat} (hv : P v) (hf : s.arena.height v < fuel) :
    (copyVariable {} fuel v c).Ends k t (Stored k s R P T c v) fun _ _ => False := by
  induction fuel generalizing v c t with
  | zero => omega
  | succ fuel ih =>
    have hlt := hp.bound hv
    cases hfind : c.find? v with
    | some w => exact copyVariable_of_found hc hfind
    | none =>
      cases ho : s.arena.owner v with
      | none =>
        exact copyLeaf_ends hp hc hfind (hlt.trans_le hc.old.vars_le) (fun _ => hv) ((hc.old.owner hlt).trans ho)
          fun hle => absurd hlt (Nat.not_lt.mpr hle)
      | some n =>
        have hn := hp.copyable.wf.node_lt ho
        rw [Arena.height_of_owner ho] at hf
        have hnode : c.map.nodes.contains n = false := by
          by_contra hnode
          simpa [hfind] using hc.node n (by simpa using hnode) v ho
        unfold copyVariable
        rw [hfind]
        simp only [ends_bind, ends_varInfo, hc.old.var v hlt, show (s.arena.var v).owner = some n from ho, hnode, Bool.false_eq_true,
          if_false, ends_insOf, hc.old.inputs hn]
        refine (Ends.foldlM (J := Copying k s R P T) (L := Gains fun u => u.idx < s.arena.vars.size → P u)
          (P := fun x d => (d.find? x).isSome = true) (.refl _) (fun _ _ _ => .trans) (fun x d e hx hL => hL.isSome hx)
          hc fun x hx d t' hd => ?_).imp ?_
        · rw [ends_bind]
          have hx' := hp.copyable.height_le_depth (hp.part v hv) ho hx
          refine (ih hd (hp.closed v n hv ho x (List.mem_append_left _ hx)) (by omega)).imp fun r t'' hr => ?_
          exact ⟨hr.copying, hr.gains, by rw [hr.found]; rfl⟩
        · rintro d t' ⟨hd, hL, hops⟩
          refine (copyNode_ends hp hd hv ho hops).imp ?_
          rintro m t'' ⟨hd', hL'⟩
          simp only [ends_outsOf, ends_pure]
          obtain ⟨w, hw⟩ := Option.isSome_iff_exists.mp (hd'.node n (by simp [CopyState.noteNode]) v ho)
          rw [hw]
          exact ⟨hd', hL.trans ⟨hL'.keeps, fun hu => (hL'.gains hu).imp id fun hu _ => hu⟩, hw⟩

theorem copyExpression_ends (hv : P v) : (copyExpression {} v c).Ends k t (Stored k s R P T c v) fun _ _ => False := by
  simp only [copyExpression, walkFuel, ends_bind, ends_getArena, ends_pure]
  refine copyVariable_ends hp hc hv ?_
  have := s.arena.height_le v
  have := hc.old.nodes_le
  have := hc.region.wf.two_mul_size_lt
  omega

end Runs

/-- Before the outputs are copied, the table holds the copies of the substitutes. -/
theorem copyReplacements_ends (hp : Plan k s R P T) (hpairs : ∀ p ∈ T, ¬ P p.1 ∧ P p.2) :
    (copyReplacements {} (T.map fun p => (.var p.1, .var p.2)) {}).Ends k s (fun c t => Copying k s R R T c t) fun _ _ => False := by
  have hno : ∀ v, P v → T.lookup v = none := fun v hv => lookup_eq_none fun y hy => (hpairs _ hy).1 hv
  rw [copyReplacements, ends_bind, List.forIn_map]
  refine (Ends.loop (I := fun rest c t => Copying k s R P T c t ∧ ∃ done, T = done ++ rest ∧ (∀ p ∈ done, (c.find? p.1).isSome = true) ∧
    ∀ v w, c.find? v = some w → (v.idx < s.arena.vars.size → P v) ∨ v ∈ done.map Prod.fst)
    ⟨.start hp hno, [], rfl, fun _ hp => absurd hp List.not_mem_nil, fun v w hw => by simp [CopyState.find?] at hw⟩ ?_).imp ?_
  · rintro ⟨x, y⟩ rest c t ⟨hc, done, hdone, hfound, honly⟩
    have hmem : (x, y) ∈ T := by rw [hdone]; simp
    obtain ⟨hx, hy⟩ := hpairs _ hmem
    have hcontains : c.map.vars.contains x = false := by
      rw [Std.HashMap.contains_eq_isSome_getElem?, Bool.eq_false_iff]
      intro hsome
      obtain ⟨w, hw⟩ := Option.isSome_iff_exists.mp hsome
      have hnodup := hp.nodup
      rw [hdone, List.map_append, List.nodup_append] at hnodup
      exact (honly x w hw).elim (fun h => hx (h (hp.key _ hmem))) fun hx => hnodup.2.2 x hx x (by simp) rfl
    simp only [hcontains, Bool.false_eq_true, if_false, ends_bind, ends_pure]
    refine (copyExpression_ends hp hc hy).imp fun r t' hr => ?_
    -- nothing is replaced inside the substitute
    have hmeans {α : Type} {ρ : Interpretation α} {q : α} (h : s.arena.Means ρ [] y q) : s.arena.Means ρ T y q :=
      h.carry (R := P) rfl (.refl _) hp.copyable.wf (fun v n hv ho x hx => hp.closed v n hv ho x (List.mem_append_left _ hx))
        (fun _ _ _ _ h => by cases h) (fun v hv _ ho => .leaf (hno v hv) ho) (fun v _ hv _ _ => hno v hv) hy
    refine ⟨_, rfl, hr.copying.insert hp (lookup_of_mem hp.nodup hmem) hy (hno y hy) hmeans hr.found, done ++ [(x, y)], by simp [hdone],
      fun p hp => ?_, fun v w hw => ?_⟩
    · rw [CopyState.find?_insert]
      split
      · rfl
      · rcases List.mem_append.mp hp with hp | hp
        · exact hr.gains.isSome (hfound p hp)
        · simp_all
    · rw [CopyState.find?_insert] at hw
      by_cases hxv : x = v
      · simp [hxv]
      · rw [if_neg (by simpa using hxv)] at hw
        refine (hr.gains.gains hw).elim (fun hw => (honly v w hw).imp id fun hv => ?_) .inl
        simp [hv]
  · rintro c t ⟨hc, done, hdone, hfound, -⟩
    rw [List.append_nil] at hdone
    refine { hc with keys := fun v _ hv => lookup_eq_none fun y hy => ?_ }
    have hsome : (c.find? v).isSome = true := hfound (v, y) (hdone ▸ hy)
    simp [hv] at hsome

section Whole

variable (hp : Plan k s R R T)

include hp

theorem copyPending_ends (hc : Copying k s R R T c t) (hv : Pending s R t v) :
    (copyExpression {} v c).Ends k t (Stored k s R R T c v) fun _ _ => False := by
  by_cases hlt : v.idx < s.arena.vars.size
  · exact copyExpression_ends hp hc (hv.1.2 hlt)
  · obtain ⟨ho, hshared⟩ := hv.2 (Nat.not_lt.mp hlt)
    simp only [copyExpression, walkFuel, ends_bind, ends_getArena, ends_pure]
    cases hfind : c.find? v with
    | some w => exact copyVariable_of_found hc hfind
    | none => exact copyLeaf_ends hp hc hfind hv.1.1 hv.1.2 ho fun _ => hshared

/-- The updates that were met are copied, and those met on the way. A variable of the session has one update at most, so a
pass for each variable, and one that finds none left, are enough. -/
theorem copyUpdateExpressions_ends {fuel i : Nat} (hc : Copying k s R R T c t) (hi : i ≤ s.arena.vars.size)
    (hfuel : s.arena.vars.size < fuel + i) :
    (copyUpdateExpressions {} fuel i c).Ends k t (fun d t' => Copying k s R R T d t' ∧
      Gains (fun u => u.idx < s.arena.vars.size → R u) c d) fun _ _ => False := by
  induction fuel generalizing i c t with
  | zero => omega
  | succ fuel ih =>
    unfold copyUpdateExpressions
    split
    · rename_i v u hu
      have hlt : i < s.arena.vars.size := (List.getElem?_eq_some_iff.mp hu).1.trans_le hc.queue.length_le
      rw [ends_bind]
      refine (copyPending_ends hp hc (hc.given _ (List.mem_of_getElem? hu))).imp ?_
      rintro ⟨w, c'⟩ t' hr
      let d : CopyState := { c' with updates := c'.updates.map fun p => if p.1 == v then (p.1, w) else (p.1, p.2) }
      obtain ⟨hmap, hgiven, hupdates⟩ := d.share_same v
      -- an update that is copied keeps its place
      have hkeys : d.updates.map Prod.fst = c'.updates.map Prod.fst := by
        simp only [d, List.map_map]
        refine List.map_congr_left fun p _ => ?_
        simp only [Function.comp_apply]
        split <;> rfl
      have hqueue : CopyState.Queue s.arena.vars.size c'.given d.updates :=
        { hr.copying.queue with known := fun p hp => hkeys ▸ hr.copying.queue.known p hp }
      have hd := hr.copying.change (d := d.share v) hmap (fun p hp => .inl (hgiven ▸ hp)) (hgiven ▸ hupdates ▸ hqueue)
      refine (ih hd hlt (by omega)).imp fun e t'' he => ?_
      exact ⟨he.1, (hr.gains.of_map hmap).trans he.2⟩
    · exact ⟨hc, .refl _ c⟩

end Whole

theorem rebuild_ends (hp : Plan k s R P T) (hpairs : ∀ p ∈ T, ¬ P p.1 ∧ P p.2) {outs : Vars} (houts : ∀ o ∈ outs, R o) :
    (rebuild {} (outs.map .var) [] (T.map fun p => (.var p.1, .var p.2)) []).Ends k s (fun r t => ∃ c ws, Copying k s R R T c t ∧
      r.2.1 = ws.map .var ∧ List.Forall₂ (Copied s R T t) outs ws) fun _ _ => False := by
  unfold rebuild
  rw [ends_bind]
  simp only [copyUpdates, List.forIn_nil, ends_bind, ends_pure, List.forIn_map]
  refine (copyReplacements_ends hp hpairs).imp fun c t hc => ?_
  refine (Ends.loop (I := fun rest (st : CopyState × Values) t => Copying k s R R T st.1 t ∧ ∃ done ws, outs = done ++ rest ∧
    st.2 = ws.map .var ∧ List.Forall₂ (fun o w => st.1.find? o = some w) done ws) ⟨hc, [], [], rfl, rfl, .nil⟩ ?_).imp ?_
  · rintro o rest ⟨c, res⟩ t ⟨hc, done, ws, hdone, hres, hws⟩
    simp only [outputVariable?, ends_pure, ends_bind]
    refine (copyExpression_ends hp.whole hc (houts o (by rw [hdone]; simp))).imp fun r t' hr => ?_
    refine ⟨_, rfl, hr.copying, done ++ [o], ws ++ [r.1], by simp [hdone], by rw [List.map_append, ← hres]; rfl, ?_⟩
    exact List.rel_append (hws.imp fun o w hw => hr.gains.keeps hw) (.cons hr.found .nil)
  · rintro ⟨c, res⟩ t ⟨hc, done, ws, hdone, hres, hws⟩
    obtain rfl : outs = done := hdone.trans (List.append_nil _)
    rw [ends_getArena]
    refine (copyUpdateExpressions_ends hp.whole hc (Nat.zero_le _) (Nat.lt_succ_of_le hc.old.vars_le)).imp ?_
    rintro d t' ⟨hd, hL⟩
    exact ⟨d, ws, hd, hres, hws.imp fun o w hw => hd.entry o w (hL.keeps hw)⟩

end TensorGraph
