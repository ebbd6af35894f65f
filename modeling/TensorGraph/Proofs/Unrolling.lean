import Mathlib.Data.Finset.Card
import Mathlib.Data.Finset.Range
import Mathlib.Logic.Relation
import TensorGraph.Loop.Layout
import TensorGraph.Proofs.Tables

/-!
# What a loop connects over time

The step of a loop says which of its inputs each of its outputs depends on. Unrolled over the steps, the values that
one step computes are read by later ones, so that results come to depend on more than one step shows. The table of
connections is closed column after column, as often as there are results, and then holds exactly the paths through the
unrolled loop.
-/

namespace TensorGraph.LoopLayout

open Relation (ReflTransGen)

/-! ## Closing a table -/

section Closing

variable {f : Nat → Option Nat} {t : Links} {n i j k o p : Nat}

/-- A result is computed from another one, which is fed back. -/
def Hop (f : Nat → Option Nat) (t : Links) (j o : Nat) : Prop := ∃ i, f j = some i ∧ entry t i o = true

theorem entry_eq_true : entry t k o = true ↔ ∃ row, t[k]? = some row ∧ row[o]? = some true := by
  rw [entry, getD_eq_true, List.getD_eq_getElem?_getD]
  cases t[k]? <;> simp

theorem entry_table {m : Nat} {g : Nat → Nat → Bool} :
    entry ((List.range m).map fun i => (List.range n).map (g i)) k o = (decide (k < m) && decide (o < n) && g k o) := by
  by_cases hk : k < m
  · by_cases ho : o < n <;> simp [entry, List.getD_eq_getElem?_getD, hk, ho]
  · simp [entry, List.getD_eq_getElem?_getD, hk]

/-- All rows have one length. -/
def Wide (n : Nat) (t : Links) : Prop := ∀ row ∈ t, row.length = n

theorem Wide.extendColumn (h : Wide n t) (o j : Nat) : Wide n (extendColumn f t o j) := by
  unfold LoopLayout.extendColumn
  split
  · exact h
  · split
    · intro row hrow
      obtain ⟨r, hr, rfl⟩ := List.mem_map.mp hrow
      split
      · rw [List.length_set, h r hr]
      · exact h r hr
    · exact h

theorem Wide.lt (h : Wide n t) (he : entry t k o = true) : o < n := by
  obtain ⟨row, hr, ho⟩ := entry_eq_true.mp he
  rw [← h row (List.mem_of_getElem? hr)]
  exact (List.getElem?_eq_some_iff.mp ho).1

theorem entry_extendColumn (h : Wide n t) (ho : o < n) : entry (extendColumn f t o j) k p = true ↔
    entry t k p = true ∨ p = o ∧ entry t k j = true ∧ Hop f t j o := by
  unfold extendColumn Hop
  cases hj : f j with
  | none => simp
  | some i =>
    by_cases hi : entry t i o = true
    · simp only [hi, if_true, Option.some.injEq, exists_eq_left', and_true]
      simp only [entry_eq_true, List.getElem?_map, getD_eq_true]
      cases hr : t[k]? with
      | none => simp
      | some row =>
        have hlen := h row (List.mem_of_getElem? hr)
        simp only [Option.map_some, Option.some.injEq, exists_eq_left']
        split
        · rw [List.getElem?_set]
          grind
        · simp [*]
    · simp [hi]

/-- A path leads from an input to a result: a first dependence, then results that are fed back. -/
def Path (f : Nat → Option Nat) (t : Links) (k o : Nat) : Prop :=
  ∃ j, entry t k j = true ∧ ReflTransGen (Hop f t) j o

/-- A table between another one and its paths. -/
structure Closing (f : Nat → Option Nat) (n : Nat) (t u : Links) : Prop where
  wide : Wide n u
  keeps : ∀ k o, entry t k o = true → entry u k o = true
  sound : ∀ k o, entry u k o = true → Path f t k o

variable {u : Links}

theorem Closing.extendColumn (h : Closing f n t u) (ho : o < n) : Closing f n t (extendColumn f u o j) where
  wide := h.wide.extendColumn o j
  keeps k p hp := (entry_extendColumn h.wide ho).mpr (.inl (h.keeps k p hp))
  sound k p hp := by
    rcases (entry_extendColumn h.wide ho).mp hp with hp | ⟨rfl, hk, i, hi, hp⟩
    · exact h.sound k p hp
    · obtain ⟨a, ha, haj⟩ := h.sound k j hk
      obtain ⟨b, hb, hbp⟩ := h.sound i p hp
      exact ⟨a, ha, (haj.tail ⟨i, hi, hb⟩).trans hbp⟩

/-- By induction on the columns that are still to come: no entry is lost, and each column gets what is fed back. -/
theorem Closing.extendColumns (h : Closing f n t u) {L : List (Nat × Nat)} (hL : ∀ x ∈ L, x.1 < n) :
    Closing f n t (extendColumns f u L) ∧ (∀ k o, entry u k o = true → entry (extendColumns f u L) k o = true) ∧
      ∀ x ∈ L, ∀ k, entry u k x.2 = true → Hop f t x.2 x.1 → entry (extendColumns f u L) k x.1 = true := by
  induction L generalizing u with
  | nil => exact ⟨h, fun _ _ he => he, fun _ hx => nomatch hx⟩
  | cons x L ih =>
    obtain ⟨hx, hL⟩ := List.forall_mem_cons.mp hL
    have hstep {k o} := entry_extendColumn (f := f) (j := x.2) (k := k) (p := o) h.wide hx
    obtain ⟨hc, hkeeps, hadds⟩ := ih (h.extendColumn (j := x.2) hx) hL
    refine ⟨hc, fun k o he => hkeeps k o (hstep.mpr (.inl he)), fun y hy k he hh => ?_⟩
    rcases List.mem_cons.mp hy with rfl | hy
    · obtain ⟨i, hi, hio⟩ := hh
      exact hkeeps k _ (hstep.mpr (.inr ⟨rfl, he, i, hi, h.keeps i _ hio⟩))
    · exact hadds y hy k (hstep.mpr (.inl he)) hh

theorem Closing.closePass (h : Closing f n t u) : Closing f n t (closePass f n u) ∧
    (∀ k o, entry u k o = true → entry (closePass f n u) k o = true) ∧
    ∀ j o k, o < n → entry u k j = true → Hop f t j o → entry (closePass f n u) k o = true := by
  obtain ⟨hc, hkeeps, hadds⟩ := h.extendColumns (L := (List.range n).flatMap fun o => (List.range n).map (o, ·)) (by simp; grind)
  exact ⟨hc, hkeeps, fun j o k ho he => hadds (o, j) (by simpa using ⟨ho, h.wide.lt he⟩) k he⟩

theorem closing_repeat (h : Wide n t) (r : Nat) : Closing f n t (Nat.repeat (closePass f n) r t) := by
  induction r with
  | zero => exact ⟨h, fun _ _ he => he, fun k o he => ⟨o, he, .refl⟩⟩
  | succ r ih => exact ih.closePass.1

/-- A row that is not closed yet grows with each pass, and it has room for as many entries as there are results. -/
theorem path_or_lt_card (h : Wide n t) (k r : Nat) :
    (∀ o, Path f t k o → entry (Nat.repeat (closePass f n) r t) k o = true) ∨
      r < ((Finset.range n).filter fun o => entry (Nat.repeat (closePass f n) r t) k o = true).card := by
  induction r with
  | zero =>
    refine or_iff_not_imp_right.mpr fun hc o ⟨j, hj, _⟩ => (hc (Finset.card_pos.mpr ⟨j, ?_⟩)).elim
    simpa using ⟨h.lt hj, hj⟩
  | succ r ih =>
    obtain ⟨-, hkeeps, hadds⟩ := (closing_repeat (f := f) h r).closePass
    rcases ih with ih | ih
    · exact .inl fun o ho => hkeeps k o (ih o ho)
    · by_cases hgrow : ∃ o < n, entry (Nat.repeat (closePass f n) (r + 1) t) k o = true ∧
          ¬ entry (Nat.repeat (closePass f n) r t) k o = true
      · right
        obtain ⟨o, ho, hnew, hold⟩ := hgrow
        refine Nat.lt_of_le_of_lt ih (Finset.card_lt_card ((Finset.ssubset_iff_of_subset fun p hp => ?_).mpr ⟨o, ?_⟩))
        · rw [Finset.mem_filter] at hp ⊢
          exact ⟨hp.1, hkeeps k p hp.2⟩
        · simpa [hold] using ⟨ho, hnew⟩
      · left
        rintro o ⟨j, hj, hjo⟩
        refine hkeeps k o ?_
        induction hjo with
        | refl => exact (closing_repeat h r).keeps k j hj
        | @tail p o _ hpo ih' =>
          have ho : o < n := hpo.elim fun i hi => h.lt hi.2
          by_contra hold
          exact hgrow ⟨o, ho, hadds p o k ho ih' hpo, hold⟩

/-- Closing a table adds exactly the paths. -/
theorem entry_closeConnections (h : Wide n t) : entry (closeConnections f n t) k o = true ↔ Path f t k o := by
  refine ⟨(closing_repeat h n).sound k o, fun ho => (path_or_lt_card h k n).elim (fun hall => hall o ho) fun hc => ?_⟩
  have := Finset.card_filter_le (Finset.range n) fun o => entry (Nat.repeat (closePass f n) n t) k o = true
  rw [Finset.card_range] at this
  omega

end Closing

/-! ## Positions -/

section Positions

variable {l : LoopLayout} {inner : Links} {n i o x : Nat} {p q : Place} {r : Option (Nat × Int)}

/-- Which outer input an inner input belongs to, of `n` inner inputs. At each step it reads a row of the outer input, or if it
belongs to a state what an earlier step computed for the result, as many steps before as the tap says. -/
inductive Reads (l : LoopLayout) (n : Nat) : Nat → Nat → Option (Nat × Int) → Prop
  | sequence {j} : j < l.nSeqs → Reads l n j (1 + j) none
  | tap {k j ts τ} : l.taps[k]? = some ts → ts[j]? = some τ → Reads l n (l.nSeqs + l.tapCount k + j) (1 + l.nSeqs + k) (some (k, τ))
  | shared {j} : j < l.nShared → Reads l n (l.tapsEnd + j) (l.statesEnd + j) (some (l.taps.length + l.nNitSot + j, -1))
  | other {j} : l.tapsEnd + l.nShared + j < n → Reads l n (l.tapsEnd + l.nShared + j) (l.statesEnd + l.nShared + l.nNitSot + j) none

theorem mem_places : p ∈ l.places n ↔ p = ⟨0, [], [], none⟩ ∨
    (∃ j < l.nSeqs, p = ⟨1 + j, [j], [], none⟩) ∨
    (∃ ts k, l.taps[k]? = some ts ∧
      p = ⟨1 + l.nSeqs + k, span (l.nSeqs + l.tapCount k) ts.length, span (l.written k) (l.writes k), some k⟩) ∨
    (∃ j < l.nNitSot, p = ⟨l.statesEnd + l.nShared + j, [], [l.written l.taps.length + j], some (l.taps.length + j)⟩) ∨
    (∃ j < l.nShared, p = ⟨l.statesEnd + j, [l.tapsEnd + j], [l.written l.taps.length + l.nNitSot + j],
      some (l.taps.length + l.nNitSot + j)⟩) ∨
    ∃ j < n - (l.tapsEnd + l.nShared), p = ⟨l.statesEnd + l.nShared + l.nNitSot + j, [l.tapsEnd + l.nShared + j], [], none⟩ := by
  simp [places, statePlaces, List.mem_zipIdx_iff_getElem?, eq_comm]

/-- Places differ in their outer inputs, and those of results in these. -/
theorem place_unique (hp : p ∈ l.places n) (hq : q ∈ l.places n)
    (h : p.outerIn = q.outerIn ∨ p.outerOut = q.outerOut ∧ p.outerOut.isSome = true) : p = q := by
  have hend : l.statesEnd = 1 + l.nSeqs + l.taps.length := rfl
  rw [mem_places] at hp hq
  rcases hp with rfl | ⟨j, hj, rfl⟩ | ⟨ts, k, hk, rfl⟩ | ⟨j, hj, rfl⟩ | ⟨j, hj, rfl⟩ | ⟨j, hj, rfl⟩ <;>
  rcases hq with rfl | ⟨j', hj', rfl⟩ | ⟨ts', k', hk', rfl⟩ | ⟨j', hj', rfl⟩ | ⟨j', hj', rfl⟩ | ⟨j', hj', rfl⟩ <;>
  grind

theorem find?_places {f : Place → Bool} (hf : ∀ p ∈ l.places n, ∀ q ∈ l.places n, f p = true → f q = true → p = q) :
    (l.places n).find? f = some p ↔ p ∈ l.places n ∧ f p = true := by
  refine ⟨fun h => ⟨List.mem_of_find?_eq_some h, List.find?_some h⟩, fun ⟨hp, h⟩ => ?_⟩
  cases hq : (l.places n).find? f with
  | none => exact absurd h (List.find?_eq_none.mp hq p hp)
  | some q => rw [hf q (List.mem_of_find?_eq_some hq) p hp (List.find?_some hq) h]

theorem placeOfOuterIn?_eq_some : placeOfOuterIn? (l.places n) i = some p ↔ p ∈ l.places n ∧ p.outerIn = i := by
  rw [placeOfOuterIn?, find?_places fun p hp q hq h h' => place_unique hp hq (by grind), beq_iff_eq]

theorem placeOfOuterOut?_eq_some : placeOfOuterOut? (l.places n) o = some p ↔ p ∈ l.places n ∧ p.outerOut = some o := by
  rw [placeOfOuterOut?, find?_places fun p hp q hq h h' => place_unique hp hq (by grind), beq_iff_eq]

theorem reads_of_mem (hp : p ∈ l.places n) (hx : x ∈ p.innerIns) : ∃ r, Reads l n x p.outerIn r ∧ p.outerOut = r.map Prod.fst := by
  rw [mem_places] at hp
  rcases hp with rfl | ⟨j, hj, rfl⟩ | ⟨ts, k, hk, rfl⟩ | ⟨j, hj, rfl⟩ | ⟨j, hj, rfl⟩ | ⟨j, hj, rfl⟩
  · cases hx
  · obtain rfl := List.mem_singleton.mp hx
    exact ⟨_, .sequence hj, rfl⟩
  · obtain ⟨j, hj, rfl⟩ := List.mem_map.mp hx
    exact ⟨_, .tap hk (List.getElem?_eq_getElem (List.mem_range.mp hj)), rfl⟩
  · cases hx
  · obtain rfl := List.mem_singleton.mp hx
    exact ⟨_, .shared hj, rfl⟩
  · obtain rfl := List.mem_singleton.mp hx
    exact ⟨_, .other (by omega), rfl⟩

theorem Reads.place (h : Reads l n x i r) : ∃ p ∈ l.places n, p.outerIn = i ∧ x ∈ p.innerIns ∧ p.outerOut = r.map Prod.fst := by
  simp only [mem_places]
  cases h with
  | sequence hj => exact ⟨_, .inr (.inl ⟨_, hj, rfl⟩), rfl, List.mem_singleton_self _, rfl⟩
  | tap hk hj =>
    refine ⟨_, .inr (.inr (.inl ⟨_, _, hk, rfl⟩)), rfl, List.mem_map.mpr ⟨_, ?_, rfl⟩, rfl⟩
    exact List.mem_range.mpr (List.getElem?_eq_some_iff.mp hj).1
  | shared hj => exact ⟨_, .inr (.inr (.inr (.inr (.inl ⟨_, hj, rfl⟩)))), rfl, List.mem_singleton_self _, rfl⟩
  | other hj => exact ⟨_, .inr (.inr (.inr (.inr (.inr ⟨_, by omega, rfl⟩)))), rfl, List.mem_singleton_self _, rfl⟩

/-- The number of outer inputs that belong to `n` inner ones, and the number of results. -/
def outerCount (l : LoopLayout) (n : Nat) : Nat := l.statesEnd + l.nShared + l.nNitSot + (n - (l.tapsEnd + l.nShared))
def resultCount (l : LoopLayout) : Nat := l.taps.length + l.nNitSot + l.nShared

theorem Reads.lt (h : Reads l n x i r) : i < l.outerCount n := by
  rw [outerCount, statesEnd]
  cases h with
  | tap hk => have := (List.getElem?_eq_some_iff.mp hk).1; omega
  | sequence => omega
  | shared | other => rw [statesEnd]; omega

theorem Reads.result_lt {τ : Int} (h : Reads l n x i (some (o, τ))) : o < l.resultCount := by
  unfold resultCount
  cases h with
  | tap hk => have := (List.getElem?_eq_some_iff.mp hk).1; omega
  | shared => omega

/-- If states are written once in each step, inner and outer results stand at the same positions. -/
theorem exists_place (hl : l.nMitMot = 0) (ho : o < l.resultCount) :
    ∃ p ∈ l.places n, p.outerOut = some o ∧ p.innerOuts = [o] := by
  have hw : l.writes = fun _ => 1 := by
    funext j
    simp [writes, hl]
  have hwritten (k : Nat) : l.written k = k := by
    rw [written, hw, ← List.sum_eq_foldl]
    simp
  simp only [mem_places, hw, hwritten]
  by_cases hs : o < l.taps.length
  · exact ⟨_, .inr (.inr (.inl ⟨_, o, List.getElem?_eq_getElem hs, rfl⟩)), rfl, rfl⟩
  obtain ⟨j, rfl⟩ := Nat.exists_eq_add_of_le (Nat.not_lt.mp hs)
  by_cases hn : j < l.nNitSot
  · exact ⟨_, .inr (.inr (.inr (.inl ⟨j, hn, rfl⟩))), rfl, rfl⟩
  obtain ⟨j, rfl⟩ := Nat.exists_eq_add_of_le (Nat.not_lt.mp hn)
  unfold resultCount at ho
  rw [← Nat.add_assoc]
  exact ⟨_, .inr (.inr (.inr (.inr (.inl ⟨j, by omega, rfl⟩)))), rfl, rfl⟩

theorem entry_direct (hl : l.nMitMot = 0) : entry (direct (l.places n) (l.outerCount n) l.resultCount inner) i o = true ↔
    o < l.resultCount ∧ ∃ x r, Reads l n x i r ∧ entry inner x o = true := by
  rw [direct, entry_table, Bool.and_eq_true, Bool.and_eq_true, decide_eq_true_iff, decide_eq_true_iff, and_assoc, and_left_comm]
  refine and_congr_right fun ho => ?_
  obtain ⟨b, hb, hbo, hbi⟩ := exists_place (n := n) hl ho
  rw [placeOfOuterOut?_eq_some.mpr ⟨hb, hbo⟩]
  constructor
  · rintro ⟨-, h⟩
    cases ha : placeOfOuterIn? (l.places n) i with
    | none => rw [ha] at h; cases h
    | some a =>
      obtain ⟨hmem, rfl⟩ := placeOfOuterIn?_eq_some.mp ha
      simp only [ha, touches, hbi, List.any_cons, List.any_nil, Bool.or_false, List.any_eq_true] at h
      obtain ⟨x, hx, hxo⟩ := h
      obtain ⟨r, hr, -⟩ := reads_of_mem hmem hx
      exact ⟨x, r, hr, hxo⟩
  · rintro ⟨x, r, hr, hxo⟩
    obtain ⟨a, ha, hai, hx, -⟩ := hr.place
    refine ⟨hr.lt, ?_⟩
    simp only [placeOfOuterIn?_eq_some.mpr ⟨ha, hai⟩, touches, hbi, List.any_cons, List.any_nil, Bool.or_false, List.any_eq_true]
    exact ⟨x, hx, hxo⟩

theorem hop_direct (hl : l.nMitMot = 0) {j : Nat} :
    Hop (fedBy (l.places n)) (direct (l.places n) (l.outerCount n) l.resultCount inner) j o ↔
      o < l.resultCount ∧ ∃ x i τ, Reads l n x i (some (j, τ)) ∧ entry inner x o = true := by
  simp only [Hop, entry_direct hl, fedBy, Option.map_eq_some_iff, placeOfOuterOut?_eq_some]
  constructor
  · rintro ⟨i, ⟨b, ⟨hb, hbj⟩, rfl⟩, ho, x, r, hr, hxo⟩
    obtain ⟨a, ha, hai, hx, har⟩ := hr.place
    obtain rfl := place_unique ha hb (.inl hai)
    obtain ⟨⟨_, τ⟩, rfl, rfl⟩ := Option.map_eq_some_iff.mp (har.symm.trans hbj)
    exact ⟨ho, x, _, τ, hr, hxo⟩
  · rintro ⟨ho, x, i, τ, hr, hxo⟩
    obtain ⟨a, ha, hai, -, har⟩ := hr.place
    exact ⟨i, ⟨a, ⟨ha, har⟩, hai⟩, ho, x, _, hr, hxo⟩

end Positions

/-! ## The unrolled loop -/

/-- A path through the loop unrolled over some steps, from the rows of an outer input to what a step computes for a result. A state
reads the rows it starts from as long as its taps reach back before the first step. -/
inductive Reaches (l : LoopLayout) (inner : Links) (n steps i : Nat) : Nat → Nat → Prop
  | row {x r o} {t : Nat} : Reads l n x i r → (∀ p τ, r = some (p, τ) → t + τ < 0) → entry inner x o = true → t < steps →
      Reaches l inner n steps i t o
  | carry {x j p τ o} {t u : Nat} : Reaches l inner n steps i t p → Reads l n x j (some (p, τ)) → u + τ = (t : Int) →
      entry inner x o = true → u < steps → Reaches l inner n steps i u o

theorem Reaches.mono {l : LoopLayout} {inner : Links} {n steps more i t o : Nat} (h : Reaches l inner n steps i t o)
    (hs : steps ≤ more) : Reaches l inner n more i t o := by
  induction h with
  | row hx hr ho ht => exact .row hx hr ho (ht.trans_le hs)
  | carry _ hx hu ho ht ih => exact .carry ih hx hu ho (ht.trans_le hs)

/-- If states are written once in each step and read in later ones, an outer input is connected with a result exactly if the loop,
unrolled over some number of steps, has a path from the one to the other. -/
theorem connections_reaches (l : LoopLayout) (inner : Links) (n i o : Nat) (hl : l.nMitMot = 0)
    (hpast : ∀ ts ∈ l.taps, ∀ τ ∈ ts, τ < 0) (ho : o < l.resultCount) :
    entry (l.connections n (l.outerCount n) l.resultCount inner) i o = true ↔ ∃ steps t, Reaches l inner n steps i t o := by
  have hτ {x i p τ} (h : Reads l n x i (some (p, τ))) : τ < 0 := by
    cases h with
    | tap hk hj => exact hpast _ (List.mem_of_getElem? hk) _ (List.mem_of_getElem? hj)
    | shared => decide
  have hwide : Wide l.resultCount (direct (l.places n) (l.outerCount n) l.resultCount inner) := by
    intro row hrow
    obtain ⟨_, -, rfl⟩ := List.mem_map.mp hrow
    rw [List.length_map, List.length_range]
  rw [connections, entry_closeConnections hwide]
  constructor
  · -- each hop takes as many steps as the tap it goes through
    rintro ⟨j, hj, hjo⟩
    induction hjo with
    | refl =>
      obtain ⟨-, x, r, hr, hx⟩ := (entry_direct hl).mp hj
      refine ⟨1, 0, .row hr ?_ hx Nat.one_pos⟩
      rintro p τ rfl
      simpa using hτ hr
    | @tail p o _ hpo ih =>
      obtain ⟨-, x, k, τ, hr, hx⟩ := (hop_direct hl).mp hpo
      obtain ⟨steps, t, ht⟩ := ih hr.result_lt
      have := hτ hr
      obtain ⟨u, hu⟩ := Int.eq_ofNat_of_zero_le (a := t - τ) (by omega)
      exact ⟨max steps (u + 1), u, .carry (ht.mono (Nat.le_max_left _ _)) hr (by omega) hx (by omega)⟩
  · rintro ⟨steps, t, h⟩
    induction h with
    | row hr _ hx _ => exact ⟨_, (entry_direct hl).mpr ⟨ho, _, _, hr, hx⟩, .refl⟩
    | carry _ hr _ hx _ ih =>
      obtain ⟨j, hj, hjp⟩ := ih hr.result_lt
      exact ⟨j, hj, hjp.tail ((hop_direct hl).mpr ⟨ho, _, _, _, hr, hx⟩)⟩

/-- A sequence goes into the first state, and the first state into the second. -/
def relay : LoopLayout := { nSeqs := 1, taps := [[-2, -1], [-1]], nMitSot := 1, nSitSot := 1 }

theorem connections_reaches_relay :
    ∃ steps t, Reaches relay [[true, false], [false, true], [true, false], [false, true]] 4 steps 1 t 1 :=
  (connections_reaches relay _ 4 1 1 rfl (by decide) (by decide)).mp (by decide)

end TensorGraph.LoopLayout
