import TensorGraph.Config.Settings

/-!
# How computations end

A computation ends with a value or with a fault, and in both cases leaves a session. `M.Ends` states
what then holds; its rules follow the way computations are put together, so that a proof about a
computation is a walk through its text. Loops over lists carry an invariant of the items that are
still to come.
-/

namespace TensorGraph

variable {α β γ : Type}

namespace M

/-- `Q` holds of the value and session with which a computation ends, or `E` of its fault and the
session that the fault leaves. -/
def Ends (x : M α) (k : Kit) (s : Session) (Q : α → Session → Prop) (E : Fault → Session → Prop) : Prop :=
  match x k s with
  | .ok a t => Q a t
  | .error e t => E e t

variable {x y : M α} {k : Kit} {s t : Session} {Q Q' : α → Session → Prop} {E E' : Fault → Session → Prop}

theorem Ends.mono (h : x.Ends k s Q E) (hQ : ∀ a t, Q a t → Q' a t) (hE : ∀ e t, E e t → E' e t) :
    x.Ends k s Q' E' := by
  unfold Ends at *
  cases hx : x k s with
  | ok a t => rw [hx] at h; exact hQ a t h
  | error e t => rw [hx] at h; exact hE e t h

/-- The rule of consequence for values alone. -/
theorem Ends.imp (h : x.Ends k s Q E) (hQ : ∀ a t, Q a t → Q' a t) : x.Ends k s Q' E :=
  h.mono hQ fun _ _ he => he

/-- Computations that do the same end alike. -/
theorem Ends.of_eq (y : M α) (k' : Kit) (h : x k s = y k' s) (hy : y.Ends k' s Q E) : x.Ends k s Q E := by
  unfold Ends
  rw [h]
  exact hy

theorem ends_of_ok {a : α} (h : x k s = .ok a t) : x.Ends k s Q E ↔ Q a t := by
  rw [Ends, h]

/-! ## Composition -/

@[simp] theorem ends_pure {a : α} : (Pure.pure a : M α).Ends k s Q E ↔ Q a s := Iff.rfl

@[simp] theorem ends_bind {f : α → M β} {Q : β → Session → Prop} :
    (x >>= f).Ends k s Q E ↔ x.Ends k s (fun a t => (f a).Ends k t Q E) E := by
  change M.Ends (M.bind x f) k s Q E ↔ _
  unfold Ends M.bind
  cases x k s with
  | ok a t => rfl
  | error e t => rfl

@[simp] theorem ends_fail {c : FaultKind} {m : String} :
    (fail c m : M α).Ends k s Q E ↔ E (.told' c m) s := Iff.rfl

@[simp] theorem ends_tryCatch {h : Fault → M α} :
    (MonadExcept.tryCatch x h : M α).Ends k s Q E ↔
      x.Ends k s Q (fun e t => (h e).Ends k t Q E) := by
  change M.Ends (M.tryCatch x h) k s Q E ↔ _
  unfold Ends M.tryCatch
  cases x k s with
  | ok a t => rfl
  | error e t => rfl

@[simp] theorem ends_check {b : Bool} {Q : Unit → Session → Prop} :
    (check b).Ends k s Q E ↔ if b then Q () s else E (.plain .assertion) s := by
  cases b <;> exact Iff.rfl

theorem ends_ite {c : Prop} [Decidable c] :
    (if c then x else y).Ends k s Q E ↔ if c then x.Ends k s Q E else y.Ends k s Q E := by
  split <;> exact Iff.rfl

instance : LawfulMonad M := LawfulMonad.mk' M
  (fun x => by
    funext k s
    change M.bind x M.pure k s = x k s
    unfold M.bind
    cases x k s <;> rfl)
  (fun _ _ => rfl)
  fun x f g => by
    funext k s
    change M.bind (M.bind x f) g k s = M.bind x (fun a => M.bind (f a) g) k s
    unfold M.bind
    cases x k s <;> rfl

/-- A loop with a state keeps an invariant of the items still to come and of the state. -/
theorem Ends.loop {items : List γ} {b : β} {body : γ → β → M (ForInStep β)} {I : List γ → β → Session → Prop}
    (h : I items b s)
    (hstep : ∀ item rest b t, I (item :: rest) b t →
      (body item b).Ends k t (fun r u => ∃ b', r = .yield b' ∧ I rest b' u) E) :
    (ForIn.forIn items b body : M β).Ends k s (I []) E := by
  induction items generalizing s b with
  | nil => exact h
  | cons item rest ih =>
    rw [List.forIn_cons, ends_bind]
    refine (hstep item rest b s h).imp fun r t hr => ?_
    obtain ⟨b', rfl, hr⟩ := hr
    exact ih hr

/-- A loop keeps an invariant of the items still to come. -/
theorem Ends.forIn {items : List γ} {body : γ → PUnit → M (ForInStep PUnit)}
    {I : List γ → Session → Prop} (h : I items s)
    (hstep : ∀ item rest t, I (item :: rest) t →
      (body item ⟨⟩).Ends k t (fun r u => r = .yield ⟨⟩ ∧ I rest u) E) :
    (ForIn.forIn items PUnit.unit body : M PUnit).Ends k s (fun _ t => I [] t) E :=
  .loop (I := fun rest _ => I rest) h fun item rest _ t ht => (hstep item rest t ht).imp fun _ _ hr => ⟨_, hr⟩

/-- A loop in which each item does something that the later ones keep. -/
theorem Ends.foldlM {items : List γ} {b : β} {f : β → γ → M β} {J : β → Session → Prop} {L : β → β → Prop}
    {P : γ → β → Prop} (hrefl : ∀ b, L b b) (htrans : ∀ a b c, L a b → L b c → L a c)
    (hmono : ∀ x b c, P x b → L b c → P x c) (h : J b s)
    (hstep : ∀ x ∈ items, ∀ b t, J b t → (f b x).Ends k t (fun c u => J c u ∧ L b c ∧ P x c) E) :
    (items.foldlM f b).Ends k s (fun c t => J c t ∧ L b c ∧ ∀ x ∈ items, P x c) E := by
  induction items generalizing s b with
  | nil => exact ⟨h, hrefl b, fun _ hx => nomatch hx⟩
  | cons x rest ih =>
    rw [List.foldlM_cons, ends_bind]
    refine (hstep x List.mem_cons_self b s h).imp fun c t ⟨hJ, hL, hP⟩ => ?_
    refine (ih hJ fun y hy => hstep y (List.mem_cons_of_mem _ hy)).imp fun e u ⟨hJ', hL', hP'⟩ => ?_
    exact ⟨hJ', htrans _ _ _ hL hL', List.forall_mem_cons.mpr ⟨hmono x c e hP hL', hP'⟩⟩

theorem Ends.foldlM_keeps {items : List γ} {b : β} {f : β → γ → M β} {J : β → Session → Prop} (h : J b s)
    (hstep : ∀ x ∈ items, ∀ b t, J b t → (f b x).Ends k t J E) : (items.foldlM f b).Ends k s J E :=
  (Ends.foldlM (L := fun _ _ => True) (P := fun _ _ => True) (fun _ => trivial) (fun _ _ _ _ _ => trivial)
    (fun _ _ _ _ _ => trivial) h fun x hx b t hb => (hstep x hx b t hb).imp fun _ _ hc => ⟨hc, trivial, trivial⟩).imp
    fun _ _ hc => hc.1

end M

/-! ## Reading a session -/

section Reading

variable {k : Kit} {s : Session} {E : Fault → Session → Prop} {v : VarId} {n : NodeId}

@[simp] theorem ends_getArena {Q : Arena → Session → Prop} : getArena.Ends k s Q E ↔ Q s.arena s := Iff.rfl

@[simp] theorem ends_varInfo {Q : Variable → Session → Prop} :
    (varInfo v).Ends k s Q E ↔ Q (s.arena.var v) s := Iff.rfl

@[simp] theorem ends_nodeInfo {Q : Node → Session → Prop} :
    (nodeInfo n).Ends k s Q E ↔ Q (s.arena.node n) s := Iff.rfl

@[simp] theorem ends_typeOf {Q : Ty → Session → Prop} :
    (typeOf v).Ends k s Q E ↔ Q (s.arena.typeOf v) s := Iff.rfl

@[simp] theorem ends_opOf {Q : Op → Session → Prop} :
    (opOf n).Ends k s Q E ↔ Q (s.arena.op n) s := Iff.rfl

@[simp] theorem ends_insOf {Q : Vars → Session → Prop} :
    (insOf n).Ends k s Q E ↔ Q (s.arena.inputs n) s := Iff.rfl

@[simp] theorem ends_outsOf {Q : Vars → Session → Prop} :
    (outsOf n).Ends k s Q E ↔ Q (s.arena.outputs n) s := Iff.rfl

end Reading

end TensorGraph
