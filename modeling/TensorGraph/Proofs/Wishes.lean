import TensorGraph.Catalog.Collections
import TensorGraph.Proofs.Ends
import TensorGraph.Proofs.Order

/-!
# Orders from wishes

An order that grants one wish after the other stays a strict order, with what comes before and what comes after each element
told twice: a new link relates all that comes before it with all that comes after. Taking ready elements from it, whichever
they are, lists all elements, each after those before it. Wishes that do not go in circles are all granted.
-/

namespace TensorGraph.Schedule

open Relation (TransGen)

variable {α : Type} {m : Type → Type} [Monad m] {xs : List α} {c : α → α → Int} {cmps : List (α → α → Int)}

/-! ## Wishes -/

/-- The pairs that a comparator wants in order. -/
def wanted (xs : List α) (c : α → α → Int) : List (α × α) :=
  (xs.flatMap fun a => xs.map (a, ·)).filter fun p => c p.1 p.2 < 0

/-- A comparator as the question whether it wants two elements in order. -/
def asks (m : Type → Type) [Monad m] (c : α → α → Int) (a b : α) : m Bool := pure (c a b < 0)

theorem mem_wanted {p : α × α} : p ∈ wanted xs c ↔ (p.1 ∈ xs ∧ p.2 ∈ xs) ∧ c p.1 p.2 < 0 := by
  cases p
  simp [wanted]

theorem wishes_asks [LawfulMonad m] : wishes xs (cmps.map (asks m)) = pure (cmps.flatMap (wanted xs)) := by
  have hone : ∀ c, ((xs.flatMap fun a => xs.map (a, ·)).filterM fun p => asks m c p.1 p.2) = pure (wanted xs c) := fun c => by
    simp [List.filterM, asks, filterAuxM_pure, wanted]
  have hall : ∀ (cs : List (α → α → Int)) acc,
      List.flatMapM.loop (fun w => (xs.flatMap fun a => xs.map (a, ·)).filterM fun p => w p.1 p.2) (cs.map (asks m)) acc =
        pure (acc.reverse.flatten ++ cs.flatMap (wanted xs)) := fun cs => by
    induction cs with
    | nil => simp [List.flatMapM.loop]
    | cons c cs ih => simp [List.flatMapM.loop, hone, ih]
  simp [wishes, List.flatMapM, hall]

/-! ## Tables -/

variable [BEq α] [LawfulBEq α] {o : Order α} {a b x y : α}

theorem map_fst_extend {l : List (α × List α)} {these more : List α} :
    (extend l these more).map Prod.fst = l.map Prod.fst := by
  simp [extend, Function.comp_def]

theorem mem_extend {l : List (α × List α)} {these more : List α} (hx : x ∈ these → x ∈ l.map Prod.fst) :
    y ∈ ((extend l these more).lookup x).getD [] ↔ y ∈ (l.lookup x).getD [] ∨ x ∈ these ∧ y ∈ more := by
  rw [extend, lookup_map fun k l => if these.contains k then l ++ more.filter (!l.contains ·) else l]
  cases hl : l.lookup x with
  | none =>
    have hno : x ∉ these := fun h => by
      have := isSome_lookup.mpr (hx h)
      rw [hl] at this
      cases this
    simp [hno]
  | some m =>
    by_cases ht : x ∈ these
    · simp [ht]
      tauto
    · simp [ht]

/-! ## Orders -/

/-- A strict order of the elements, told from both sides. -/
structure Order.Strict (xs : List α) (o : Order α) : Prop where
  keys : o.before.map Prod.fst = xs ∧ o.after.map Prod.fst = xs
  mirror : ∀ a b, a ∈ o.predecessors b ↔ b ∈ o.successors a
  mem : ∀ a b, b ∈ o.successors a → a ∈ xs ∧ b ∈ xs
  irrefl : ∀ a, a ∉ o.successors a
  trans : ∀ a b c, b ∈ o.successors a → c ∈ o.successors b → c ∈ o.successors a

namespace Order

theorem successors_start : (start xs).successors a = [] ∧ (start xs).predecessors a = [] := by
  unfold successors predecessors start
  rw [lookup_keys]
  split <;> exact ⟨rfl, rfl⟩

theorem strict_start : (start xs).Strict xs := by
  have hs a := (successors_start : _ ∧ (start xs).predecessors a = [])
  refine ⟨?_, ?_, ?_, ?_, ?_⟩
  · simp [start, Function.comp_def]
  all_goals simp [hs]

namespace Strict

variable (h : o.Strict xs)

include h

theorem mem_successors_link (ha : a ∈ xs) :
    y ∈ (o.link a b).successors x ↔ y ∈ o.successors x ∨ (x = a ∨ x ∈ o.predecessors a) ∧ (y = b ∨ y ∈ o.successors b) := by
  refine (mem_extend fun hx => ?_).trans (by simp only [List.mem_cons]; rfl)
  rw [h.keys.2]
  rcases List.mem_cons.mp hx with rfl | hx
  · exact ha
  · exact (h.mem _ _ ((h.mirror _ _).mp hx)).1

theorem mem_predecessors_link (hb : b ∈ xs) :
    x ∈ (o.link a b).predecessors y ↔ x ∈ o.predecessors y ∨ (y = b ∨ y ∈ o.successors b) ∧ (x = a ∨ x ∈ o.predecessors a) := by
  refine (mem_extend fun hy => ?_).trans (by simp only [List.mem_cons]; rfl)
  rw [h.keys.1]
  rcases List.mem_cons.mp hy with rfl | hy
  · exact hb
  · exact (h.mem _ _ hy).2

/-- A link relates what is not after its first end with what is not before its second. -/
theorem link (ha : a ∈ xs) (hb : b ∈ xs) (hne : a ≠ b) (hno : b ∉ o.predecessors a) : (o.link a b).Strict xs := by
  have hp := fun x => h.mirror x a
  have hab : a ∉ o.successors b := fun hab => hno ((hp b).mpr hab)
  have hs := fun x y => h.mem_successors_link (b := b) (x := x) (y := y) ha
  simp only [hp] at hs
  refine ⟨?_, fun x y => ?_, fun x y => ?_, fun x => ?_, fun x y z => ?_⟩
  · exact ⟨map_fst_extend.trans h.keys.1, map_fst_extend.trans h.keys.2⟩
  · rw [h.mem_predecessors_link hb, hs, h.mirror, hp, and_comm (a := y = b ∨ _)]
  · rw [hs]
    rintro (hy | ⟨rfl | hx, rfl | hy⟩)
    · exact h.mem x y hy
    · exact ⟨ha, hb⟩
    · exact ⟨ha, (h.mem _ _ hy).2⟩
    · exact ⟨(h.mem _ _ hx).1, hb⟩
    · exact ⟨(h.mem _ _ hx).1, (h.mem _ _ hy).2⟩
  · rw [hs]
    rintro (hx | ⟨rfl | hx, rfl | hx'⟩)
    · exact h.irrefl x hx
    · exact hne rfl
    · exact hab hx'
    · exact hab hx
    · exact hab (h.trans _ _ _ hx' hx)
  · rw [hs, hs, hs]
    rintro (hy | ⟨hx, hy⟩) (hz | ⟨hy', hz⟩)
    · exact .inl (h.trans _ _ _ hy hz)
    · refine .inr ⟨.inr ?_, hz⟩
      rcases hy' with rfl | hy'
      · exact hy
      · exact h.trans _ _ _ hy hy'
    · refine .inr ⟨hx, .inr ?_⟩
      rcases hy with rfl | hy
      · exact hz
      · exact h.trans _ _ _ hy hz
    · exact .inr ⟨hx, hz⟩

theorem grant (ha : a ∈ xs) (hb : b ∈ xs) (hne : a ≠ b) : (o.grant a b).Strict xs := by
  unfold Order.grant
  split
  case isTrue => exact h
  case isFalse hno => exact h.link ha hb hne fun hb => hno (by simp [hb])

theorem successors_grant (ha : a ∈ xs) (hy : y ∈ o.successors x) : y ∈ (o.grant a b).successors x := by
  unfold Order.grant
  split
  · exact hy
  · exact (h.mem_successors_link ha).mpr (.inl hy)

end Strict

end Order

omit [LawfulBEq α] in
theorem granted_append (ws : List (α × α)) (w : α × α) : granted xs (ws ++ [w]) = (granted xs ws).grant w.1 w.2 := by
  simp [granted]

theorem strict_granted {ws : List (α × α)} (hws : ∀ w ∈ ws, w.1 ∈ xs ∧ w.2 ∈ xs ∧ w.1 ≠ w.2) : (granted xs ws).Strict xs := by
  induction ws using List.reverseRecOn with
  | nil => exact Order.strict_start
  | append_singleton ws w ih =>
    obtain ⟨ha, hb, hne⟩ := hws w (by simp)
    rw [granted_append]
    exact (ih fun w hw => hws w (by simp [hw])).grant ha hb hne

theorem successors_granted_append {ws vs : List (α × α)} (hws : ∀ w ∈ ws ++ vs, w.1 ∈ xs ∧ w.2 ∈ xs ∧ w.1 ≠ w.2)
    (hy : y ∈ (granted xs ws).successors x) : y ∈ (granted xs (ws ++ vs)).successors x := by
  induction vs using List.reverseRecOn with
  | nil => simpa using hy
  | append_singleton vs v ih =>
    rw [← List.append_assoc] at hws ⊢
    rw [granted_append]
    have hold : ∀ w ∈ ws ++ vs, w.1 ∈ xs ∧ w.2 ∈ xs ∧ w.1 ≠ w.2 := fun w hw => hws w (List.mem_append_left _ hw)
    exact (strict_granted hold).successors_grant (hws v (by simp)).1 (ih hold)

/-- Wishes without circles are granted, and all that is granted follows from them. -/
theorem granted_of_acyclic {W : α → α → Prop} (hW : ∀ a, ¬ TransGen W a a) {ws : List (α × α)}
    (hws : ∀ w ∈ ws, w.1 ∈ xs ∧ w.2 ∈ xs ∧ W w.1 w.2) :
    (∀ a b, b ∈ (granted xs ws).successors a → TransGen W a b) ∧ ∀ w ∈ ws, w.2 ∈ (granted xs ws).successors w.1 := by
  have hne : ∀ w ∈ ws, w.1 ∈ xs ∧ w.2 ∈ xs ∧ w.1 ≠ w.2 := fun w hw =>
    (hws w hw).imp_right (And.imp_right fun hw he => hW w.1 (.single (by simpa [← he] using hw)))
  induction ws using List.reverseRecOn with
  | nil => simp [granted, Order.successors_start]
  | append_singleton ws w ih =>
    obtain ⟨hgen, hall⟩ := ih (fun w hw => hws w (by simp [hw])) fun w hw => hne w (by simp [hw])
    obtain ⟨ha, hb, hw⟩ := hws w (by simp)
    have hs : (granted xs ws).Strict xs := strict_granted fun w hw => hne w (by simp [hw])
    rw [granted_append]
    have hno : w.2 ∉ (granted xs ws).predecessors w.1 := fun h =>
      hW _ ((hgen _ _ ((hs.mirror _ _).mp h)).tail hw)
    constructor
    · intro a b hab
      unfold Order.grant at hab
      split at hab
      · exact hgen a b hab
      · -- a new pair comes from the wish, what comes before it and what comes after it
        rcases (hs.mem_successors_link ha).mp hab with hab | ⟨ha', hb'⟩
        · exact hgen a b hab
        · have hmid : TransGen W a w.2 := by
            rcases ha' with rfl | ha'
            · exact .single hw
            · exact (hgen _ _ ((hs.mirror _ _).mp ha')).tail hw
          rcases hb' with rfl | hb'
          · exact hmid
          · exact hmid.trans (hgen _ _ hb')
    · intro v hv
      rcases List.mem_append.mp hv with hv | hv
      · exact hs.successors_grant ha (hall v hv)
      · obtain rfl := List.mem_singleton.mp hv
        unfold Order.grant
        split
        case isTrue h => simpa [hno] using h
        case isFalse => exact (hs.mem_successors_link ha).mpr (.inr ⟨.inl rfl, .inl rfl⟩)

/-! ## Taking ready elements -/

section Taking

variable {edges : List (α × List α)}

/-- Which elements come before which, by a table of what comes after each. -/
def Precedes (edges : List (α × List α)) (a b : α) : Prop := b ∈ (edges.lookup a).getD []

theorem precedes_iff (hd : (edges.map Prod.fst).Nodup) : Precedes edges a b ↔ ∃ l, (a, l) ∈ edges ∧ b ∈ l := by
  unfold Precedes
  constructor
  · intro h
    cases hl : edges.lookup a with
    | none => simp [hl] at h
    | some l => exact ⟨l, mem_of_lookup hl, by simpa [hl] using h⟩
  · rintro ⟨l, hl, hb⟩
    cases hl' : edges.lookup a with
    | none => simpa using List.lookup_eq_none_iff.mp hl' _ hl
    | some m => rwa [Option.getD_some, show m = l from congrArg Prod.snd (List.inj_on_of_nodup_map hd (mem_of_lookup hl') hl rfl)]

theorem mem_of_precedes (h : Precedes edges a b) : a ∈ edges.map Prod.fst := isSome_lookup.mp (by
  cases hl : edges.lookup a with
  | none => simp [Precedes, hl] at h
  | some _ => rfl)

theorem isFree_reverse (hd : (edges.map Prod.fst).Nodup) {done : List α} :
    isFree (reverse edges) done b = true ↔ ∀ a, Precedes edges a b → a ∈ done := by
  have hmem : ∀ a, a ∈ ((reverse edges).lookup b).getD [] ↔ Precedes edges a b := fun a => by
    rw [reverse, lookup_keys fun v => edges.flatMap fun e => (e.2.filter (· == v)).map fun _ => e.1, precedes_iff hd]
    split
    case isTrue =>
      simp only [Option.getD_some, List.mem_flatMap, List.mem_map, List.mem_filter, beq_iff_eq]
      constructor
      · rintro ⟨e, he, _, ⟨hv, rfl⟩, rfl⟩
        exact ⟨e.2, he, hv⟩
      · rintro ⟨l, hl, hb⟩
        exact ⟨(a, l), hl, b, ⟨hb, rfl⟩, rfl⟩
    case isFalse hb =>
      rw [List.mem_eraseDups, List.mem_flatMap] at hb
      exact iff_of_false List.not_mem_nil fun h => hb (by obtain ⟨l, hl, hbl⟩ := h; exact ⟨_, hl, hbl⟩)
  simp [isFree, hmem]

/-- A sort under way: what is ready is not done, but all that comes before it. -/
structure Sorting (edges : List (α × List α)) (ready done : List α) : Prop where
  free : ∀ v, v ∈ ready ↔ v ∈ edges.map Prod.fst ∧ v ∉ done ∧ ∀ x, Precedes edges x v → x ∈ done
  layered : Layered (Precedes edges) done.reverse
  mem : ∀ v ∈ done, v ∈ edges.map Prod.fst

/-- A table by which its elements can be sorted. -/
structure Sortable (edges : List (α × List α)) : Prop where
  nodup : (edges.map Prod.fst).Nodup
  strict : IsStrictOrder α (Precedes edges)
  mem : ∀ a b, Precedes edges a b → b ∈ edges.map Prod.fst

variable {ready done : List α} {n : α}

theorem Sortable.acc (hs : Sortable edges) (ha : a ∈ edges.map Prod.fst) : Acc (Precedes edges) a := by
  refine acc_of_acyclic (fun _ _ _ => mem_of_precedes) (fun x _ hx => ?_) ha
  have := hs.strict
  exact hs.strict.irrefl x (by rwa [Relation.transGen_eq_self] at hx)

theorem Sortable.start (hs : Sortable edges) : Sorting edges ((edges.map (·.1)).filter (isFree (reverse edges) [])) [] where
  free v := by simp only [List.mem_filter, isFree_reverse hs.nodup, List.not_mem_nil, not_false_iff, true_and]
  layered := trivial
  mem v hv := by cases hv

/-- Taking a ready element makes those ready that waited for it alone. -/
theorem Sorting.take (h : Sorting edges ready done) (hs : Sortable edges) (hn : n ∈ ready) :
    Sorting edges (ready.filter (· != n) ++ ((edges.lookup n).getD []).filter (isFree (reverse edges) (done ++ [n]))) (done ++ [n]) := by
  obtain ⟨hkey, hnot, hall⟩ := (h.free n).mp hn
  have hnew : ∀ v, Precedes edges n v → v ∉ done ∧ v ≠ n := fun v hv =>
    ⟨fun hd => hnot (by simpa using h.layered.closed (List.mem_reverse.mpr hd) hv), fun he => hs.strict.irrefl n (he ▸ hv)⟩
  refine ⟨fun v => ?_, ?_, ?_⟩
  · rw [List.mem_append, List.mem_filter, List.mem_filter, bne_iff_ne, isFree_reverse hs.nodup]
    constructor
    · rintro (⟨hv, hne⟩ | ⟨hv, hx⟩)
      · obtain ⟨h1, h2, h3⟩ := (h.free v).mp hv
        exact ⟨h1, by simp [h2, hne], fun x hx => by simp [h3 x hx]⟩
      · exact ⟨hs.mem n v hv, by simp [hnew v hv], hx⟩
    · rintro ⟨h1, h2, h3⟩
      by_cases hv : Precedes edges n v
      · exact .inr ⟨hv, h3⟩
      · refine .inl ⟨(h.free v).mpr ⟨h1, fun hd => h2 (by simp [hd]), fun x hx => ?_⟩, fun he => h2 (by simp [he])⟩
        rcases List.mem_append.mp (h3 x hx) with hx' | hx'
        · exact hx'
        · exact absurd (List.mem_singleton.mp hx' ▸ hx) hv
  · rw [List.reverse_append]
    exact ⟨by simpa using hnot, fun y hy => by simpa using hall y hy, h.layered⟩
  · intro v hv
    rcases List.mem_append.mp hv with hv | hv
    · exact h.mem v hv
    · exact List.mem_singleton.mp hv ▸ hkey

/-- The sort takes elements until none is ready; there are as many steps as elements. -/
theorem sortFrom_ends {pick : List α → α} (hpick : ∀ l, l ≠ [] → pick l ∈ l) (hs : Sortable edges) {fuel : Nat}
    (h : Sorting edges ready done) (hf : edges.length ≤ fuel + done.length) :
    Sorting edges [] (sortFrom pick edges (reverse edges) fuel ready done) := by
  induction fuel generalizing ready done with
  | zero =>
    have hsub : edges.map Prod.fst ⊆ done :=
      ((List.subperm_of_subset (List.nodup_reverse.mp h.layered.nodup) h.mem).perm_of_length_le (by simpa using hf)).symm.subset
    obtain rfl : ready = [] := List.eq_nil_iff_forall_not_mem.mpr fun v hv => ((h.free v).mp hv).2.1 (hsub ((h.free v).mp hv).1)
    simpa [sortFrom] using h
  | succ fuel ih =>
    cases ready with
    | nil => simpa [sortFrom] using h
    | cons r ready =>
      rw [sortFrom]
      exact ih (h.take hs (hpick _ (List.cons_ne_nil _ _))) (by rw [List.length_append]; simp; omega)

theorem toposort_schedules {pick : List α → α} (hpick : ∀ l, l ≠ [] → pick l ∈ l) (hs : Sortable edges) :
    ∃ l, toposort pick edges = some l ∧ Schedules (Precedes edges) (· ∈ edges.map Prod.fst) l := by
  have hf : edges.length ≤ edges.length + (reverse edges).length + ([] : List α).length := by simp
  have h := sortFrom_ends hpick hs hs.start hf
  set l := sortFrom pick edges (reverse edges) (edges.length + (reverse edges).length) _ [] with hl
  have hall : ∀ v ∈ edges.map Prod.fst, v ∈ l := fun v hv => by
    induction hs.acc hv with
    | intro v _ ih =>
      by_contra hv'
      exact List.not_mem_nil ((h.free v).mpr ⟨hv, hv', fun x hx => ih x hx (mem_of_precedes hx)⟩)
  refine ⟨l, ?_, ?_⟩
  · rw [toposort, ← hl, if_pos]
    exact List.all_eq_true.mpr fun v _ => (isFree_reverse hs.nodup).mpr fun x hx => hall x (mem_of_precedes hx)
  · rw [← l.reverse_reverse]
    exact h.layered.schedules fun v => ⟨fun hv => h.mem v (by simpa using hv), fun hv => by simpa using hall v hv⟩

end Taking

omit [LawfulBEq α] in
theorem Order.Strict.sortable (h : o.Strict xs) (hd : xs.Nodup) : Sortable o.after where
  nodup := h.keys.2 ▸ hd
  strict := { irrefl := h.irrefl, trans := h.trans }
  mem a b hab := h.keys.2 ▸ (h.mem a b hab).2

/-- Comparators that want no element before itself, whatever else they want, have their elements sorted. The order is
a strict one after each wish, and keeps all that the first comparator wants when that does not go in circles. -/
theorem posort_sorts [LawfulMonad m] {pick : List α → α} (hpick : ∀ l, l ≠ [] → pick l ∈ l) (hd : xs.Nodup)
    (hirrefl : ∀ c ∈ cmps, ∀ a ∈ xs, 0 ≤ c a a) :
    ∃ ws l, wishes xs (cmps.map (asks m)) = pure ws ∧ posort pick xs (cmps.map (asks m)) = pure (some l) ∧ l.Perm xs ∧
      (∀ vs, vs <+: ws → (granted xs vs).Strict xs) ∧
        ∀ c, cmps.head? = some c → (∀ a, ¬ TransGen (fun a b => a ∈ xs ∧ b ∈ xs ∧ c a b < 0) a a) →
          ∀ a ∈ xs, ∀ b ∈ xs, c a b < 0 → [a, b].Sublist l := by
  set ws := cmps.flatMap (wanted xs) with hws
  have hpairs : ∀ w ∈ ws, w.1 ∈ xs ∧ w.2 ∈ xs ∧ w.1 ≠ w.2 := fun w hw => by
    obtain ⟨c, hc, hw⟩ := List.mem_flatMap.mp hw
    obtain ⟨⟨ha, hb⟩, hlt⟩ := mem_wanted.mp hw
    refine ⟨ha, hb, fun he => ?_⟩
    have := hirrefl c hc w.1 ha
    rw [← he] at hlt
    omega
  have hstrict := strict_granted hpairs
  obtain ⟨l, hl, hsch⟩ := toposort_schedules hpick (hstrict.sortable hd)
  rw [hstrict.keys.2] at hsch
  refine ⟨ws, l, wishes_asks, by simp [posort, wishes_asks, ← hws, hl],
    (List.perm_ext_iff_of_nodup hsch.nodup hd).mpr hsch.mem, fun vs hvs => ?_, fun c hc hac a ha b hb hab => ?_⟩
  · exact strict_granted fun w hw => hpairs w (hvs.subset hw)
  · obtain ⟨cs, rfl⟩ := List.head?_eq_some_iff.mp hc
    -- the wishes of the first comparator come first, and nothing that was granted is taken back
    have hmem : ∀ w ∈ wanted xs c, w.1 ∈ xs ∧ w.2 ∈ xs ∧ w.1 ∈ xs ∧ w.2 ∈ xs ∧ c w.1 w.2 < 0 := fun w hw => by
      obtain ⟨hin, hlt⟩ := mem_wanted.mp hw
      exact ⟨hin.1, hin.2, hin.1, hin.2, hlt⟩
    have hfirst := (granted_of_acyclic hac hmem).2 (a, b) (mem_wanted.mpr ⟨⟨ha, hb⟩, hab⟩)
    have hlast : b ∈ (granted xs (wanted xs c ++ _)).successors a := successors_granted_append hpairs hfirst
    obtain ⟨us, vs, rfl⟩ := List.append_of_mem ((hsch.mem b).mpr hb)
    exact (List.singleton_sublist.mpr (hsch.after us b vs rfl a hlast)).append
      (List.singleton_sublist.mpr List.mem_cons_self)

omit [BEq α] [LawfulBEq α] in
/-- The least of the ready numbers is ready, as is the first of other values. -/
theorem readiest_mem [Inhabited α] (value : α → Value) (l : List α) (hl : l ≠ []) : readiest value l ∈ l := by
  have hfold : ∀ (f : α → α → α) (ys : List α) (x : α), (∀ a b, f a b = a ∨ f a b = b) → ys.foldl f x ∈ x :: ys := by
    intro f ys x hf
    induction ys generalizing x with
    | nil => simp
    | cons y ys ih =>
      have := ih (f x y)
      rw [List.foldl_cons]
      rcases hf x y with h | h <;> rw [h] at this ⊢ <;> simp at this ⊢ <;> tauto
  obtain ⟨x, l, rfl⟩ := List.exists_cons_of_ne_nil hl
  suffices h : readiest value (x :: l) ∈ x :: x :: l by simpa using h
  refine hfold _ _ _ fun a b => ?_
  split
  · split <;> simp
  · simp

/-- Three numbers that the first comparator wants in falling order, and the second in a circle. -/
theorem posort_sorts_falling :
    ∃ l, posort (readiest fun i : Nat => .int i) [0, 1, 2]
        ([fun (a b : Nat) => (b : Int) - a, fun a b => if b = (a + 1) % 3 then -1 else 0].map (asks M)) = pure (some l) ∧
      [2, 1].Sublist l := by
  have hirrefl : ∀ c ∈ [fun (a b : Nat) => (b : Int) - a, fun a b => if b = (a + 1) % 3 then -1 else 0],
      ∀ a ∈ [0, 1, 2], 0 ≤ c a a := by simp
  have hd : [0, 1, 2].Nodup := by decide
  obtain ⟨_, l, -, hl, -, -, hfirst⟩ := posort_sorts (m := M) (readiest_mem fun i : Nat => .int i) hd hirrefl
  refine ⟨l, hl, hfirst _ rfl (fun a h => ?_) 2 (by simp) 1 (by simp) (by decide)⟩
  have hlt : ∀ b, TransGen (fun a b : Nat => a ∈ [0, 1, 2] ∧ b ∈ [0, 1, 2] ∧ (b : Int) - a < 0) a b → b < a := fun b h => by
    induction h with
    | single h => omega
    | tail _ h ih => omega
  exact lt_irrefl a (hlt a h)

end TensorGraph.Schedule
