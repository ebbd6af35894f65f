import TensorGraph.Proofs.Arena
import TensorGraph.Proofs.Ends

/-!
# Sessions that grow

Building expressions adds variables and nodes to a session and leaves those that are there alone.
-/

namespace TensorGraph

open M

/-- A later session: expressions were added, names and notes may have changed. -/
structure Session.Later (s t : Session) : Prop where
  arena : s.arena.Grows t.arena
  wf : s.arena.Wf → t.arena.Wf
  settings : t.settings = s.settings

theorem Session.Later.refl (s : Session) : s.Later s := ⟨.refl _, id, rfl⟩

theorem Session.Later.trans {s t u : Session} (h : s.Later t) (h' : t.Later u) : s.Later u :=
  ⟨h.arena.trans h'.arena, h'.wf ∘ h.wf, h'.settings.trans h.settings⟩

namespace Arena

variable {a b : Arena} {v u : VarId} {x : Variable} {n : NodeId} {o : Op} {ins : Vars} {σ : Ty}

/-- A new variable takes the next number. -/
theorem var_push : ({ a with vars := a.vars.push x } : Arena).var v = if v.idx = a.vars.size then x else a.var v := by
  unfold var
  rw [Array.getD_eq_getD_getElem?, Array.getD_eq_getD_getElem?, Array.getElem?_push]
  split <;> rfl

/-- A new variable without an owner leaves the others as they are. -/
theorem Grows.push (hx : x.owner = none) : a.Grows { a with vars := a.vars.push x } where
  vars_le := by simp
  nodes_le := le_rfl
  links_le := le_rfl
  var v hv := by rw [var_push, if_neg (by omega)]; exact ⟨rfl, rfl, rfl, rfl⟩
  node _ _ := ⟨rfl, rfl, rfl⟩
  fresh v n hv _ := by
    unfold Arena.owner at hv
    rw [var_push] at hv
    split at hv
    case isTrue => rw [hx] at hv; cases hv
    case isFalse => exact lt_of_owner hv

theorem Wf.empty : ({} : Arena).Wf := by
  refine ⟨fun n j v => ?_, fun n v hv => ?_, le_rfl⟩
  · rw [outputs_of_le (Nat.zero_le _)]
    constructor
    · intro h
      cases h
    · intro h
      cases lt_of_owner h.1
  · rw [inputs_of_le (Nat.zero_le _)] at hv
    cases hv

theorem Wf.push (h : a.Wf) (hx : x.owner = none) : ({ a with vars := a.vars.push x } : Arena).Wf where
  result n j v := by
    refine (h.result n j v).trans ?_
    unfold Arena.owner
    rw [var_push]
    split
    case isTrue hv =>
      have hd : a.var v = default := by simp [Arena.var, Array.getD, hv]
      rw [hd, hx]
      constructor <;> (rintro ⟨h, -⟩; cases h)
    case isFalse => exact Iff.rfl
  operand n v hv := by
    have := h.operand n v hv
    simp only [Array.size_push]
    omega
  links := h.links

/-- The arena with a node that has one result. -/
def withNode (a : Arena) (o : Op) (ins : Vars) (σ : Ty) : Arena := (a.pushNode o ins [σ]).1

theorem var_withNode : (a.withNode o ins σ).var v =
    if v.idx = a.vars.size then { type := σ, owner := some ⟨a.nodes.size⟩, index := 0 } else a.var v :=
  var_push (a := a)

/-- A new node takes the next number. -/
theorem node_withNode : (a.withNode o ins σ).node n =
    if n.idx = a.nodes.size then { op := o, inputs := ins.toArray, outputs := #[⟨a.vars.size⟩] } else a.node n := by
  unfold node withNode pushNode
  rw [Array.getD_eq_getD_getElem?, Array.getD_eq_getD_getElem?, Array.getElem?_push]
  split <;> rfl

/-- What a new node adds. -/
theorem adds_withNode : a.Adds (a.withNode o ins σ) ins 1 where
  vars_le := by simp [Arena.withNode, pushNode]
  nodes_le := by simp [Arena.withNode, pushNode]
  var v hv := by rw [var_withNode, if_neg (by omega)]
  node n hn := by rw [node_withNode, if_neg (by omega)]
  inputs_new := by unfold Arena.inputs; rw [node_withNode, if_pos rfl]
  outputs_new := by unfold Arena.outputs; rw [node_withNode, if_pos rfl]; rfl
  result i hi := by
    obtain rfl := Nat.lt_one_iff.mp hi
    unfold Arena.owner
    rw [Nat.add_zero, var_withNode, if_pos rfl]
    exact ⟨rfl, rfl⟩
  vars_eq := by simp [Arena.withNode, pushNode]
  nodes_eq := by simp [Arena.withNode, pushNode]
  links_eq := rfl

theorem Wf.withNode (h : a.Wf) (hins : ∀ v ∈ ins, v.idx < a.vars.size) : (a.withNode o ins σ).Wf := adds_withNode.wf h hins

/-- A change of one variable is seen at that variable only. -/
theorem var_modifyVar {f : Variable → Variable} :
    (a.modifyVar u f).var v = if v = u ∧ u.idx < a.vars.size then f (a.var u) else a.var v := by
  simp only [var, modifyVar, Array.getD_eq_getD_getElem?, Array.getElem?_modify]
  by_cases h : u.idx = v.idx
  · have huv : v = u := by cases u; cases v; simp_all
    subst huv
    by_cases hlt : v.idx < a.vars.size
    · simp [hlt]
    · simp [hlt]
  · have huv : v ≠ u := fun e => h (by rw [e])
    simp [h, huv]

section Annotate

variable {f : Variable → Variable} (hf : ∀ x, (f x).owner = x.owner ∧ (f x).index = x.index ∧ (f x).type = x.type ∧ (f x).role = x.role)

include hf in
theorem modifyVar_keeps : ((a.modifyVar u f).var v).owner = (a.var v).owner ∧ ((a.modifyVar u f).var v).index = (a.var v).index ∧
    ((a.modifyVar u f).var v).type = (a.var v).type ∧ ((a.modifyVar u f).var v).role = (a.var v).role := by
  rw [var_modifyVar]
  split
  case isTrue h => rw [h.1]; exact hf _
  case isFalse => exact ⟨rfl, rfl, rfl, rfl⟩

include hf in
theorem Grows.modifyVar : a.Grows (a.modifyVar u f) where
  vars_le := by simp [Arena.modifyVar]
  nodes_le := le_rfl
  links_le := le_rfl
  var _ _ := modifyVar_keeps hf
  node _ _ := ⟨rfl, rfl, rfl⟩
  fresh _ _ h _ := lt_of_owner (a := a) ((modifyVar_keeps hf).1.symm.trans h)

include hf in
theorem Wf.modifyVar (h : a.Wf) : (a.modifyVar u f).Wf where
  result n j v := by
    unfold Arena.owner
    rw [(modifyVar_keeps hf).1, (modifyVar_keeps hf).2.1]
    exact h.result n j v
  operand n v hv := by
    have := h.operand n v hv
    simpa [Arena.modifyVar] using this
  links := h.links

end Annotate

end Arena

section Steps

variable {k : Kit} {s : Session} {E : Fault → Session → Prop}

/-- A new variable has the type that is asked for. -/
theorem newVar_ends (τ : Ty) (name : Option String) :
    (newVar τ name).Ends k s (fun v t => s.Later t ∧ v.idx < t.arena.vars.size ∧ t.arena.typeOf v = τ) E := by
  refine ⟨⟨.push rfl, fun h => h.push rfl, rfl⟩, by simp, ?_⟩
  unfold Arena.typeOf
  rw [Arena.var_push, if_pos rfl]

/-- A new node has one result, which is new too. -/
theorem newNode_ends {o : Op} {ins : Vars} {σ : Ty}
    (hins : ∀ v ∈ ins, v.idx < s.arena.vars.size) :
    (newNode o ins [σ]).Ends k s (fun n t => s.Later t ∧ t.arena.op n = o ∧ t.arena.inputs n = ins ∧
      ∃ u, t.arena.outputs n = [u] ∧ u.idx < t.arena.vars.size ∧ t.arena.typeOf u = σ ∧ s.arena.vars.size ≤ u.idx) E := by
  change _ ∧ (s.arena.withNode o ins σ).op ⟨s.arena.nodes.size⟩ = o ∧ (s.arena.withNode o ins σ).inputs ⟨s.arena.nodes.size⟩ = ins ∧
    ∃ u, (s.arena.withNode o ins σ).outputs ⟨s.arena.nodes.size⟩ = [u] ∧ u.idx < (s.arena.withNode o ins σ).vars.size ∧
      (s.arena.withNode o ins σ).typeOf u = σ ∧ s.arena.vars.size ≤ u.idx
  refine ⟨⟨Arena.adds_withNode.grows, fun h => h.withNode hins, rfl⟩, ?_⟩
  unfold Arena.op Arena.inputs Arena.outputs Arena.typeOf
  rw [Arena.node_withNode, if_pos rfl]
  refine ⟨rfl, by simp, _, rfl, by simp [Arena.withNode, Arena.pushNode], ?_, le_rfl⟩
  rw [Arena.var_withNode, if_pos rfl]

theorem setName_ends (v : VarId) (name : Option String) : (setName v name).Ends k s (fun _ t => s.Later t) E :=
  ⟨.modifyVar fun _ => ⟨rfl, rfl, rfl, rfl⟩, fun h => h.modifyVar fun _ => ⟨rfl, rfl, rfl, rfl⟩, rfl⟩

/-- Steps that add to a session, one after the other: what each gives still holds at the end. -/
theorem mapM_later {β γ : Type} {items : List γ} {f : γ → M β} {R : γ → β → Session → Prop}
    (hR : ∀ x b t u, R x b t → t.Later u → R x b u)
    (hf : ∀ x ∈ items, ∀ t, s.Later t → (f x).Ends k t (fun b u => t.Later u ∧ R x b u) E) :
    (items.mapM f).Ends k s (fun bs t => s.Later t ∧ List.Forall₂ (fun x b => R x b t) items bs) E := by
  induction items generalizing s with
  | nil => exact ⟨.refl s, .nil⟩
  | cons x rest ih =>
    rw [List.mapM_cons, ends_bind]
    refine (hf x List.mem_cons_self s (.refl s)).imp fun b t ⟨hL, hb⟩ => ?_
    rw [ends_bind]
    refine (ih fun y hy u hu => hf y (List.mem_cons_of_mem _ hy) u (hL.trans hu)).imp fun bs u ⟨hL', hbs⟩ => ?_
    exact ⟨hL.trans hL', .cons (hR _ _ _ _ hb hL') hbs⟩

/-- Steps that only read a session. -/
theorem mapM_reads {β γ : Type} {items : List γ} {f : γ → M β} {g : γ → β} {Q : List β → Session → Prop}
    (hf : ∀ x ∈ items, (f x).Ends k s (fun b t => b = g x ∧ s = t) E) (hQ : Q (items.map g) s) :
    (items.mapM f).Ends k s Q E := by
  induction items generalizing Q with
  | nil => exact hQ
  | cons x rest ih =>
    rw [List.mapM_cons, ends_bind]
    refine (hf x List.mem_cons_self).imp ?_
    rintro _ _ ⟨rfl, rfl⟩
    rw [ends_bind]
    exact ih (fun y hy => hf y (List.mem_cons_of_mem _ hy)) hQ

/-- A loop that only reads a session. -/
theorem forIn_reads {γ : Type} {items : List γ} {f : γ → M Unit} {Q : PUnit → Session → Prop}
    (hf : ∀ x ∈ items, (f x).Ends k s (fun _ t => s = t) E) (hQ : Q ⟨⟩ s) :
    (forIn items PUnit.unit fun x _ => do
      f x
      Pure.pure (ForInStep.yield PUnit.unit) : M PUnit).Ends k s Q E := by
  refine (Ends.forIn (I := fun rest t => s = t ∧ ∀ x ∈ rest, x ∈ items) ⟨rfl, fun _ => id⟩ ?_).imp ?_
  · rintro x rest _ ⟨rfl, hsub⟩
    rw [ends_bind]
    refine (hf x (hsub x List.mem_cons_self)).imp ?_
    rintro _ _ rfl
    exact ⟨rfl, rfl, fun y hy => hsub y (List.mem_cons_of_mem _ hy)⟩
  · rintro _ _ ⟨rfl, -⟩
    exact hQ

end Steps

end TensorGraph
