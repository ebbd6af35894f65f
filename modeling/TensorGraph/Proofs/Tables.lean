import Mathlib.Data.List.Forall2
import Mathlib.Data.List.Nodup
import TensorGraph.Core.Session

/-!
# Lists and tables

What the proofs use of lists of pairs, of hash tables and of relations between lists, beyond what the library has. None of it
is about graphs.
-/

namespace TensorGraph

/-! ## Lists of pairs -/

section Lookup

variable {α β γ : Type} [BEq α] [LawfulBEq α] {l : List (α × β)} {x : α} {y : β}

theorem mem_of_lookup (h : l.lookup x = some y) : (x, y) ∈ l := by
  obtain ⟨l₁, l₂, rfl, _⟩ := List.lookup_eq_some_iff.mp h
  simp

theorem lookup_of_mem (hl : (l.map Prod.fst).Nodup) (h : (x, y) ∈ l) : l.lookup x = some y := by
  cases hx : l.lookup x with
  | none => simpa using List.lookup_eq_none_iff.mp hx _ h
  | some z => exact congrArg (some ·.2) (List.inj_on_of_nodup_map hl (mem_of_lookup hx) h rfl)

theorem lookup_eq_none (h : ∀ y, (x, y) ∉ l) : l.lookup x = none :=
  Option.eq_none_iff_forall_ne_some.mpr fun y hy => h y (mem_of_lookup hy)

theorem isSome_lookup : (l.lookup x).isSome = true ↔ x ∈ l.map Prod.fst := by
  rw [List.lookup_isSome_iff, List.mem_map]
  exact exists_congr fun e => and_congr_right fun _ => ⟨fun h => (eq_of_beq h).symm, fun h => by simp [h]⟩

theorem lookup_map (f : α → β → γ) (l : List (α × β)) :
    (l.map fun e => (e.1, f e.1 e.2)).lookup x = (l.lookup x).map (f x) := by
  induction l with
  | nil => rfl
  | cons e l ih =>
    rw [List.map_cons, List.lookup_cons, List.lookup_cons, ih]
    cases h : x == e.1 with
    | false => rfl
    | true => rw [eq_of_beq h]; rfl

theorem lookup_keys (f : α → β) (l : List α) :
    (l.map fun v => (v, f v)).lookup x = if x ∈ l then some (f x) else none := by
  induction l with
  | nil => rfl
  | cons v l ih =>
    rw [List.map_cons, List.lookup_cons, ih]
    cases h : x == v with
    | false => simp [show x ≠ v from fun he => by simp [he] at h]
    | true => rw [eq_of_beq h]; simp

/-- The last entry that a list of positions makes for a key, if there is one. -/
theorem lookup_zipIdx {l : List α} {f : Nat → β} :
    (∃ i, l[i]? = some x ∧ ((l.zipIdx.map fun p => (p.1, f p.2)).reverse.lookup x) = some (f i)) ∨
      x ∉ l ∧ ((l.zipIdx.map fun p => (p.1, f p.2)).reverse.lookup x) = none := by
  cases hl : List.lookup x (l.zipIdx.map fun p => (p.1, f p.2)).reverse with
  | some r =>
    obtain ⟨p, hp, he⟩ := List.mem_map.mp (List.mem_reverse.mp (mem_of_lookup hl))
    obtain ⟨rfl, rfl⟩ := Prod.mk.inj he
    exact .inl ⟨p.2, List.mem_zipIdx_iff_getElem?.mp hp, rfl⟩
  | none =>
    refine .inr ⟨fun hx => ?_, rfl⟩
    obtain ⟨i, hi⟩ := List.getElem?_of_mem hx
    have := List.lookup_eq_none_iff.mp hl (x, f i)
      (List.mem_reverse.mpr (List.mem_map.mpr ⟨(x, i), List.mem_zipIdx_iff_getElem?.mpr hi, rfl⟩))
    simp at this

end Lookup

/-! ## Hash tables -/

section Hashed

variable {α β : Type} [BEq α] [LawfulBEq α] [Hashable α] {m : Std.HashMap α β} {x a : α} {y b : β}

theorem forall_insert {P : α → β → Prop} (h : ∀ x y, m[x]? = some y → P x y) (hb : P a b) :
    ∀ x y, (m.insert a b)[x]? = some y → P x y := by
  intro x y hx
  rw [Std.HashMap.getElem?_insert] at hx
  split at hx
  case isTrue hax =>
    obtain rfl := Option.some.inj hx
    exact eq_of_beq hax ▸ hb
  case isFalse => exact h x y hx

theorem mem_of_getElem?_insertMany (l : List (α × β)) (m : Std.HashMap α β) (h : (m.insertMany l)[x]? = some y) :
    (x, y) ∈ l ∨ m[x]? = some y := by
  induction l generalizing m with
  | nil => exact .inr (by rwa [Std.HashMap.insertMany_nil] at h)
  | cons p l ih =>
    rw [Std.HashMap.insertMany_cons] at h
    rcases ih _ h with hl | hp
    · exact .inl (List.mem_cons_of_mem _ hl)
    · rw [Std.HashMap.getElem?_insert] at hp
      split at hp
      case isTrue hx =>
        obtain rfl := eq_of_beq hx
        obtain rfl := Option.some.inj hp
        exact .inl List.mem_cons_self
      case isFalse => exact .inr hp

theorem getD_ofList_map {items : List α} (hnodup : items.Nodup) (f : α → β) (d : β) (hx : x ∈ items) :
    (Std.HashMap.ofList (items.map fun x => (x, f x))).getD x d = f x := by
  refine Std.HashMap.getD_ofList_of_mem (k := x) BEq.rfl ?_ (List.mem_map_of_mem hx)
  exact List.pairwise_map.mpr (hnodup.imp fun h => beq_eq_false_iff_ne.mpr h)

theorem contains_insert {s : Std.HashSet α} : (s.insert a).contains x = true ↔ x = a ∨ s.contains x = true := by
  rw [Std.HashSet.contains_insert, Bool.or_eq_true, beq_iff_eq, eq_comm]

end Hashed

/-! ## Related lists -/

section Related

variable {α β γ : Type} {A : α → β → Prop} {B : β → γ → Prop} {C : α → γ → Prop} {l : List α} {m : List β} {r : List γ}

theorem exists_of_forall₂ (h : List.Forall₂ A l m) {b : β} (hb : b ∈ m) : ∃ a, A a b := by
  induction h with
  | nil => cases hb
  | cons hab _ ih => exact (List.mem_cons.mp hb).elim (fun h => ⟨_, h ▸ hab⟩) ih

theorem forall₂_comp (h : List.Forall₂ A l m) (h' : List.Forall₂ B m r) (hC : ∀ a b c, A a b → B b c → C a c) :
    List.Forall₂ C l r := by
  induction h generalizing r with
  | nil => cases h'; exact .nil
  | cons hab _ ih => cases h' with | cons hbc h' => exact .cons (hC _ _ _ hab hbc) (ih h')

theorem exists_between (h : List.Forall₂ (fun x y => ∃ z, B y z ∧ C x z) l m) :
    ∃ r, List.Forall₂ B m r ∧ List.Forall₂ C l r := by
  induction h with
  | nil => exact ⟨[], .nil, .nil⟩
  | cons hx _ ih =>
    obtain ⟨z, hB, hC⟩ := hx
    obtain ⟨r, hBr, hCr⟩ := ih
    exact ⟨z :: r, .cons hB hBr, .cons hC hCr⟩

end Related

/-! ## Entries and passes -/

section Entries

variable {α β : Type} {m : Type → Type} [Monad m] [LawfulMonad m]

theorem getD_map_false (l : List α) (j : Nat) : (l.map fun _ => false).getD j false = false := by
  rw [List.getD_eq_getElem?_getD, List.getElem?_map]
  cases l[j]? <;> rfl

theorem getD_eq_true {row : List Bool} {o : Nat} : row.getD o false = true ↔ row[o]? = some true := by
  rw [List.getD_eq_getElem?_getD]
  generalize row[o]? = b
  cases b <;> simp

theorem countP_not_mem [BEq α] [LawfulBEq α] {visited : List α} {x : α} (hx : x ∉ visited) (l : List α) :
    (l.countP fun y => y ∉ visited) = (l.countP fun y => y ∉ x :: visited) + l.count x := by
  induction l with
  | nil => rfl
  | cons y l ih => grind

theorem mapM_eq_pure {f : α → m β} {g : α → β} {l : List α} (h : ∀ x ∈ l, f x = pure (g x)) : l.mapM f = pure (l.map g) := by
  induction l with
  | nil => rfl
  | cons x l ih =>
    rw [List.forall_mem_cons] at h
    simp [List.mapM_cons, h.1, ih h.2]

theorem filterAuxM_pure (p : α → Bool) (l acc : List α) :
    l.filterAuxM (fun x => (pure (p x) : m Bool)) acc = pure ((l.filter p).reverse ++ acc) := by
  induction l generalizing acc with
  | nil => simp [List.filterAuxM]
  | cons x l ih => cases h : p x <;> simp [List.filterAuxM, h, ih]

end Entries

end TensorGraph
