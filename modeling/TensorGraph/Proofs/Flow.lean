import TensorGraph.Proofs.Ends
import TensorGraph.Proofs.Paths
import TensorGraph.Proofs.Tables

/-!
# How gradients flow back

The walk back from a variable finds every use from which its gradient flows, once each; the walk forward from the
variables in question keeps what lies between (`uses_ends`). Gradients and the terms of nodes are then computed once
each: if a term is right whenever the gradients of the outputs are, and a gradient whenever the terms of its uses are,
then all that is kept is right (`gradients_ends`). Both walks go along the rank of an acyclic dataflow, so the
fuel suffices.
-/

namespace TensorGraph.Flow

open M

variable {V N G : Type} [BEq V] [Hashable V]

/-! ## Lists of uses -/

/-- Uses one by one. -/
def usePairs (l : List (N × List Nat)) : List (N × Nat) := l.flatMap fun p => p.2.map (p.1, ·)

/-- A list of uses names each node once, and each of its inputs once. -/
structure Listed (l : List (N × List Nat)) : Prop where
  nodes : (l.map Prod.fst).Nodup
  inputs : ∀ p ∈ l, p.2.Nodup ∧ p.2 ≠ []

theorem mem_usePairs {l : List (N × List Nat)} {q : N × Nat} : q ∈ usePairs l ↔ ∃ is, (q.1, is) ∈ l ∧ q.2 ∈ is := by
  simp only [usePairs, List.mem_flatMap, List.mem_map]
  constructor
  · rintro ⟨p, hp, i, hi, rfl⟩
    exact ⟨p.2, hp, hi⟩
  · rintro ⟨is, hp, hi⟩
    exact ⟨(q.1, is), hp, q.2, hi, rfl⟩

theorem Listed.nodup {l : List (N × List Nat)} (h : Listed l) : (usePairs l).Nodup := by
  refine List.nodup_flatMap.mpr ⟨fun p hp => (h.inputs p hp).1.map fun i j hij => (Prod.mk.inj hij).2, ?_⟩
  refine (List.pairwise_map.mp h.nodes).imp fun {p q} hpq => ?_
  rw [Function.onFun, List.disjoint_left]
  intro x hx hx'
  obtain ⟨i, -, rfl⟩ := List.mem_map.mp hx
  obtain ⟨j, -, hj⟩ := List.mem_map.mp hx'
  exact hpq (Prod.mk.inj hj).1.symm

theorem Listed.exists_mem {l : List (N × List Nat)} (h : Listed l) (hl : l ≠ []) : ∃ q, q ∈ usePairs l := by
  obtain ⟨p, hp⟩ := List.exists_mem_of_ne_nil l hl
  obtain ⟨i, hi⟩ := List.exists_mem_of_ne_nil p.2 (h.inputs p hp).2
  exact ⟨(p.1, i), mem_usePairs.mpr ⟨p.2, hp, hi⟩⟩

/-- The recorded uses of a variable. -/
def Uses.pairs (u : Uses V N) (x : V) : List (N × Nat) := usePairs (u.of.getD x [])

section Adding

variable [BEq N] [LawfulBEq N]

theorem map_fst_addUse (n : N) (i : Nat) (l : List (N × List Nat)) :
    (addUse n i l).map Prod.fst = if n ∈ l.map Prod.fst then l.map Prod.fst else l.map Prod.fst ++ [n] := by
  fun_induction addUse n i l with
  | case1 => rfl
  | case2 k is rest hk => simp [eq_of_beq hk]
  | case3 k is rest hk ih =>
    have hne : n ≠ k := fun h => hk (beq_iff_eq.mpr h.symm)
    simp only [List.map_cons, ih, List.mem_cons, hne, false_or]
    split <;> rfl

theorem mem_usePairs_addUse {n : N} {i : Nat} {l : List (N × List Nat)} {q : N × Nat} :
    q ∈ usePairs (addUse n i l) ↔ q = (n, i) ∨ q ∈ usePairs l := by
  fun_induction addUse n i l with
  | case1 => simp [usePairs]
  | case2 k is rest hk =>
    obtain rfl := eq_of_beq hk
    simp only [usePairs, List.flatMap_cons, List.mem_append, List.mem_map, ← or_assoc]
    refine or_congr_left ?_
    split
    case isTrue hi =>
      refine (or_iff_right_of_imp ?_).symm
      rintro rfl
      exact ⟨i, List.contains_iff_mem.mp hi, rfl⟩
    case isFalse =>
      constructor
      · rintro ⟨j, hj, rfl⟩
        rcases List.mem_append.mp hj with hj | hj
        · exact .inr ⟨j, hj, rfl⟩
        · exact .inl (by rw [List.mem_singleton.mp hj])
      · rintro (rfl | ⟨j, hj, rfl⟩)
        · exact ⟨i, List.mem_append_right _ (List.mem_singleton_self i), rfl⟩
        · exact ⟨j, List.mem_append_left _ hj, rfl⟩
  | case3 k is rest hk ih =>
    simp only [usePairs, List.flatMap_cons, List.mem_append] at ih ⊢
    rw [ih]
    exact or_left_comm

theorem Listed.addUse {l : List (N × List Nat)} (h : Listed l) (n : N) (i : Nat) : Listed (addUse n i l) := by
  refine ⟨?_, ?_⟩
  · rw [map_fst_addUse]
    split
    case isTrue => exact h.nodes
    case isFalse hn => exact h.nodes.append (List.nodup_singleton n) (by simpa using hn)
  · fun_induction Flow.addUse n i l with
    | case1 => simp
    | case2 k is rest hk =>
      refine List.forall_mem_cons.mpr ⟨?_, fun p hp => h.inputs p (List.mem_cons_of_mem _ hp)⟩
      obtain ⟨hnd, hne⟩ := h.inputs (k, is) List.mem_cons_self
      split
      case isTrue => exact ⟨hnd, hne⟩
      case isFalse hi =>
        rw [List.contains_iff_mem] at hi
        exact ⟨hnd.append (List.nodup_singleton i) (by simpa using hi), List.append_ne_nil_of_left_ne_nil hne _⟩
    | case3 k is rest hk ih =>
      have hrest : Listed rest := ⟨(List.nodup_cons.mp h.nodes).2, fun p hp => h.inputs p (List.mem_cons_of_mem _ hp)⟩
      exact List.forall_mem_cons.mpr ⟨h.inputs (k, is) List.mem_cons_self, ih hrest⟩

omit [LawfulBEq N] in
theorem addUse_ne_nil (n : N) (i : Nat) (l : List (N × List Nat)) : addUse n i l ≠ [] := by
  fun_cases addUse n i l <;> simp

theorem Uses.mem_pairs_add [LawfulBEq V] {u : Uses V N} {x v : V} {n : N} {i : Nat} {q : N × Nat} :
    q ∈ (u.add v n i).pairs x ↔ (x = v ∧ q = (n, i)) ∨ q ∈ u.pairs x := by
  unfold Uses.pairs Uses.add
  rw [Std.HashMap.getD_insert]
  split
  case isTrue h =>
    obtain rfl := eq_of_beq h
    simp only [mem_usePairs_addUse, true_and]
  case isFalse h =>
    have hne : x ≠ v := fun e => h (beq_iff_eq.mpr e.symm)
    simp only [hne, false_and, false_or]

end Adding

/-! ## The walk back -/

section Back

variable (d : Dataflow V N) (pat : N → List (List Bool)) (blocked : V → Bool) (c : V)

/-- What has been found is there: variables from which a path leads on, and their uses. -/
structure Uses.Sound (u : Uses V N) : Prop where
  seen : ∀ y, u.seen.contains y = true → Reaches d pat blocked c y
  listed : ∀ (x : V) l, u.of[x]? = some l → Listed l ∧ l ≠ []
  pairs : ∀ x q, q ∈ u.pairs x → IsUse d pat blocked c x q

/-- All uses that lead to a variable have been recorded. -/
def Uses.Settled (u : Uses V N) (y : V) : Prop :=
  blocked y = false → ∀ n o, d.maker y = some (n, o) → ∀ i x, (d.inputs n)[i]? = some x → connects (pat n) i o = true →
    u.seen.contains x = true ∧ (n, i) ∈ u.pairs x

/-- What a walk leaves: nothing is forgotten, and what it has seen is settled. -/
structure Uses.Extends (u u' : Uses V N) : Prop where
  seen : ∀ y, u.seen.contains y = true → u'.seen.contains y = true
  pairs : ∀ x q, q ∈ u.pairs x → q ∈ u'.pairs x
  settled : ∀ y, u'.seen.contains y = true → u.seen.contains y = true ∨ u'.Settled d pat blocked y

variable {d pat blocked c} {u u' u'' : Uses V N} {x v y : V} {n : N} {i : Nat}

theorem Uses.Settled.mono (h : u.Settled d pat blocked y) (hs : ∀ y, u.seen.contains y = true → u'.seen.contains y = true)
    (hp : ∀ x q, q ∈ u.pairs x → q ∈ u'.pairs x) : u'.Settled d pat blocked y :=
  fun hb n o hm i x hi hc => (h hb n o hm i x hi hc).imp (hs x) (hp x _)

theorem Uses.Extends.refl (u : Uses V N) : u.Extends d pat blocked u := ⟨fun _ => id, fun _ _ => id, fun _ => .inl⟩

theorem Uses.Extends.trans (h : u.Extends d pat blocked u') (h' : u'.Extends d pat blocked u'') :
    u.Extends d pat blocked u'' where
  seen y hy := h'.seen y (h.seen y hy)
  pairs x q hq := h'.pairs x q (h.pairs x q hq)
  settled y hy := (h'.settled y hy).elim
    (fun hy => (h.settled y hy).imp_right fun hs => hs.mono h'.seen h'.pairs) .inr

variable [LawfulBEq V] [BEq N] [LawfulBEq N]

theorem Uses.Sound.add (h : u.Sound d pat blocked c) (hu : IsUse d pat blocked c x (n, i)) :
    (u.add x n i).Sound d pat blocked c where
  seen := h.seen
  listed := by
    refine forall_insert h.listed ⟨Listed.addUse ?_ n i, addUse_ne_nil _ _ _⟩
    rw [Std.HashMap.getD_eq_getD_getElem?]
    cases hx : u.of[x]? with
    | none => exact ⟨List.nodup_nil, fun p hp => nomatch hp⟩
    | some l => exact (h.listed x l hx).1
  pairs z q hq := by
    rcases Uses.mem_pairs_add.mp hq with ⟨rfl, rfl⟩ | hq
    · exact hu
    · exact h.pairs z q hq

theorem Uses.extends_add (u : Uses V N) (x : V) (n : N) (i : Nat) : u.Extends d pat blocked (u.add x n i) where
  seen _ := id
  pairs _ _ hq := mem_pairs_add.mpr (.inr hq)
  settled _ := .inl

variable {k : Kit} {J : Session → Prop} {E : Fault → Session → Prop} {rank : N → Nat}

/-- The walk back from a variable settles it, with everything it had not seen before. -/
theorem follow_ends (hd : d.Wired) (hr : d.Ranked c rank)
    (hpat : ∀ n s, d.Behind c n → J s → (d.pattern n).Ends k s (fun p t => p = pat n ∧ J t) E) (fuel : Nat) (v : V)
    (u : Uses V N) (s : Session) (hJ : J s) (hu : u.Sound d pat blocked c) (hv : Reaches d pat blocked c v)
    (hfuel : d.height rank v < fuel) :
    (d.follow blocked fuel v u).Ends k s (fun u' t => J t ∧ u'.Sound d pat blocked c ∧ u.Extends d pat blocked u' ∧
      u'.seen.contains v = true) E := by
  induction fuel generalizing v u s with
  | zero => omega
  | succ fuel ih =>
    unfold Dataflow.follow
    split
    case isTrue hseen => exact ⟨hJ, hu, .refl u, hseen⟩
    case isFalse hseen =>
      set u₀ : Uses V N := { u with seen := u.seen.insert v } with hu₀
      have hsound : u₀.Sound d pat blocked c := by
        refine ⟨fun y hy => ?_, hu.listed, hu.pairs⟩
        rcases contains_insert.mp hy with rfl | hy
        · exact hv
        · exact hu.seen y hy
      have hself : u₀.seen.contains v = true := by rw [hu₀, Std.HashSet.contains_insert_self]
      -- the walk ends well once `v` itself is settled
      have hend : ∀ u', u₀.Extends d pat blocked u' → u'.Settled d pat blocked v → u.Extends d pat blocked u' := by
        intro u' he hset
        refine ⟨fun y hy => he.seen y (contains_insert.mpr (.inr hy)), he.pairs, fun y hy => ?_⟩
        rcases he.settled y hy with hy | hy
        · rcases contains_insert.mp hy with rfl | hy
          · exact .inr hset
          · exact .inl hy
        · exact .inr hy
      split
      case isTrue hb => exact ⟨hJ, hsound, hend _ (.refl _) fun h => (Bool.noConfusion (h.symm.trans hb)), hself⟩
      case isFalse hb =>
        rw [Bool.not_eq_true] at hb
        cases hm : d.maker v with
        | none => exact ⟨hJ, hsound, hend _ (.refl _) fun _ n o h => (by rw [hm] at h; cases h), hself⟩
        | some no =>
          obtain ⟨n, o⟩ := no
          have hbehind : d.Behind c n := hv.elim fun _ hp => hp.maker_behind hd hm
          rw [ends_bind]
          refine (hpat n s hbehind hJ).imp fun p t ⟨hp, hJt⟩ => ?_
          subst hp
          refine (Ends.foldlM (J := fun u' t => J t ∧ u'.Sound d pat blocked c) (L := Uses.Extends d pat blocked)
            (P := fun (q : V × Nat) u' => connects (pat n) q.2 o = true → u'.seen.contains q.1 = true ∧ (n, q.2) ∈ u'.pairs q.1)
            .refl (fun _ _ _ => .trans) (fun q b b' hP he hc => (hP hc).imp (he.seen _) (he.pairs _ _)) ⟨hJt, hsound⟩ ?_).imp
            fun u' t' ⟨⟨hJ', hs'⟩, he', hdone⟩ => ⟨hJ', hs', hend u' he' ?_, he'.seen v hself⟩
          · rintro ⟨x, i⟩ hmem u' t' ⟨hJ', hs'⟩
            have hi : (d.inputs n)[i]? = some x := List.mk_mem_zipIdx_iff_getElem?.mp hmem
            dsimp only
            split
            case isTrue hc =>
              have hl : Link d pat blocked ⟨n, i, o⟩ x v := ⟨hi, (hd n o v).mpr hm, hc, hb⟩
              have hlow : d.height rank x < fuel := by
                have := hl.height_lt hd hr hv
                omega
              refine (ih x (u'.add x n i) t' hJ' (hs'.add ⟨o, v, hl, hv⟩) (hv.step hl) hlow).imp ?_
              rintro u'' t'' ⟨hJ'', hs'', he'', hx⟩
              refine ⟨⟨hJ'', hs''⟩, (Uses.extends_add u' x n i).trans he'', fun _ => ⟨hx, he''.pairs _ _ ?_⟩⟩
              exact Uses.mem_pairs_add.mpr (.inl ⟨rfl, rfl⟩)
            case isFalse hc => exact ⟨⟨hJ', hs'⟩, .refl u', fun h => (hc h).elim⟩
          · intro _ n' o' hm' i x hi hc
            obtain ⟨rfl, rfl⟩ := Prod.mk.inj (Option.some.inj (hm.symm.trans hm'))
            exact hdone (x, i) (List.mk_mem_zipIdx_iff_getElem?.mpr hi) hc

end Back

/-! ## The walk forward -/

section Forward

variable (d : Dataflow V N) (pat : N → List (List Bool)) (u : Uses V N)

/-- From an input of a node every output with a recorded use that is connected with it is marked. -/
def Passed (s : Std.HashSet V) (n : N) (i : Nat) : Prop :=
  ∀ o y, (d.outputs n)[o]? = some y → connects (pat n) i o = true → u.of.contains y = true → s.contains y = true

/-- What a walk marks: variables with recorded uses; and where it comes, it goes on. -/
structure Marking (s s' : Std.HashSet V) : Prop where
  kept : ∀ v, s.contains v = true → s'.contains v = true
  used : ∀ v, s'.contains v = true → s.contains v = true ∨ u.of.contains v = true
  passed : ∀ v, s'.contains v = true → s.contains v = true ∨ ∀ q ∈ u.pairs v, Passed d pat u s' q.1 q.2

variable {d pat u} {s s' s'' : Std.HashSet V}

theorem Passed.mono {n : N} {i : Nat} (h : Passed d pat u s n i) (hs : ∀ v, s.contains v = true → s'.contains v = true) :
    Passed d pat u s' n i := fun o y ho hc hy => hs y (h o y ho hc hy)

theorem Marking.refl (s : Std.HashSet V) : Marking d pat u s s := ⟨fun _ => id, fun _ => .inl, fun _ => .inl⟩

theorem Marking.trans (h : Marking d pat u s s') (h' : Marking d pat u s' s'') : Marking d pat u s s'' where
  kept v hv := h'.kept v (h.kept v hv)
  used v hv := (h'.used v hv).elim (h.used v) .inr
  passed v hv := (h'.passed v hv).elim
    (fun hv => (h.passed v hv).imp_right fun hp q hq => (hp q hq).mono h'.kept) .inr

variable {k : Kit} {J : Session → Prop} {E : Fault → Session → Prop} {rank : N → Nat} {c : V} {blocked : V → Bool} {top : Nat}

/-- A recorded use of a variable is at a node behind the end, above the variable. -/
theorem Uses.Sound.use (hd : d.Wired) (hr : d.Ranked c rank) (hu : u.Sound d pat blocked c) {v : V} {q : N × Nat}
    (hq : q ∈ u.pairs v) : d.Behind c q.1 ∧ d.height rank v ≤ rank q.1 := by
  obtain ⟨o, y, hl, hy⟩ := hu.pairs v q hq
  exact ⟨hl.behind hd hy, hr.height_le (hl.behind hd hy) (List.mem_of_getElem? hl.source)⟩

theorem Uses.Sound.exists_pair [LawfulBEq V] (hu : u.Sound d pat blocked c) {v : V} (hv : u.of.contains v = true) :
    ∃ q, q ∈ u.pairs v := by
  rw [Std.HashMap.contains_eq_isSome_getElem?, Option.isSome_iff_exists] at hv
  obtain ⟨l, hl⟩ := hv
  rw [Uses.pairs, Std.HashMap.getD_eq_getD_getElem?, hl]
  exact (hu.listed v l hl).1.exists_mem (hu.listed v l hl).2

/-- The uses along which gradients flow between variables in question and a variable. -/
structure Relevant (d : Dataflow V N) (pat : N → List (List Bool)) (blocked : V → Bool) (c : V) (wrt : List V)
    (uses : Std.HashMap V (List (N × List Nat))) : Prop where
  listed : ∀ (v : V) l, uses[v]? = some l → Listed l
  exact : ∀ (v : V) l, uses[v]? = some l → ∀ q, q ∈ usePairs l ↔ IsUse d pat blocked c v q
  used : ∀ v : V, uses.contains v = true → ∃ q, IsUse d pat blocked c v q
  asked : ∀ v ∈ wrt, ∀ q, IsUse d pat blocked c v q → uses.contains v = true
  onwards : ∀ v : V, uses.contains v = true → ∀ q, IsUse d pat blocked c v q → ∀ o y, (d.outputs q.1)[o]? = some y →
    connects (pat q.1) q.2 o = true → (∃ q, IsUse d pat blocked c y q) → uses.contains y = true

/-- From the end on, what a walk back has seen is what leads to the end. -/
theorem Uses.seen_of_reaches (hd : d.Wired) {c v : V} (hall : ∀ y, u.seen.contains y = true → u.Settled d pat blocked y)
    (hc : u.seen.contains c = true) (hv : Reaches d pat blocked c v) : u.seen.contains v = true := by
  obtain ⟨es, hp⟩ := hv
  induction hp with
  | nil => exact hc
  | cons hl _ ih => exact (hall _ ih hl.free _ _ (hl.maker hd) _ _ hl.source hl.joined).1

section Walk

variable [LawfulBEq V] (hd : d.Wired) (hr : d.Ranked c rank) (htop : ∀ n, d.Behind c n → rank n ≤ top)
  (hpat : ∀ n t, d.Behind c n → J t → (d.pattern n).Ends k t (fun p t' => p = pat n ∧ J t') E)

include hd hr htop hpat

/-- The walk forward from a variable marks it and goes on from it. -/
theorem mark_ends (hu : u.Sound d pat blocked c) (fuel : Nat) (v : V) (s : Std.HashSet V) (t : Session) (hJ : J t)
    (hpos : 0 < fuel) (hfuel : top + 1 < fuel + d.height rank v) :
    (d.mark u fuel v s).Ends k t (fun s' t' => J t' ∧ Marking d pat u s s' ∧
      (u.of.contains v = true → s'.contains v = true)) E := by
  induction fuel generalizing v s t with
  | zero => cases hpos
  | succ fuel ih =>
    unfold Dataflow.mark
    split
    case isTrue hin => exact ⟨hJ, .refl s, fun _ => hin⟩
    case isFalse hin =>
      cases hv : u.of[v]? with
      | none =>
        refine ⟨hJ, .refl s, fun h => ?_⟩
        rw [Std.HashMap.contains_eq_isSome_getElem?, hv] at h
        cases h
      | some nodes =>
        have hpairs : u.pairs v = usePairs nodes := by rw [Uses.pairs, Std.HashMap.getD_eq_getD_getElem?, hv, Option.getD_some]
        have huse : ∀ p ∈ nodes, d.Behind c p.1 ∧ d.height rank v ≤ rank p.1 := by
          intro p hp
          obtain ⟨i, hi⟩ := List.exists_mem_of_ne_nil p.2 ((hu.listed v nodes hv).1.inputs p hp).2
          exact hu.use hd hr (q := (p.1, i)) (hpairs ▸ mem_usePairs.mpr ⟨p.2, hp, hi⟩)
        have hv' : u.of.contains v = true := by rw [Std.HashMap.contains_eq_isSome_getElem?, hv]; rfl
        -- nodes that use the variable, the inputs at which they do, and the outputs that these are connected with
        refine (Ends.foldlM (J := fun _ t => J t) (L := Marking d pat u)
          (P := fun (p : N × List Nat) s' => ∀ i ∈ p.2, Passed d pat u s' p.1 i) .refl (fun _ _ _ => .trans)
          (fun _ _ _ hP hm i hi => (hP i hi).mono hm.kept) hJ ?_).imp fun s' t' ⟨hJ', hm, hdone⟩ => ?_
        · rintro ⟨n, is⟩ hmem s' t' hJ'
          have hn : d.Behind c n := (huse _ hmem).1
          have hlow : d.height rank v ≤ rank n := (huse _ hmem).2
          rw [ends_bind]
          refine (hpat n t' hn hJ').imp fun p t' ⟨hp, hJ'⟩ => ?_
          subst hp
          refine Ends.foldlM (J := fun _ t => J t) (P := fun i s' => Passed d pat u s' n i) .refl (fun _ _ _ => .trans)
            (fun _ _ _ hP hm => hP.mono hm.kept) hJ' fun i _ s' t' hJ' => ?_
          refine (Ends.foldlM (J := fun _ t => J t) (L := Marking d pat u)
            (P := fun (q : V × Nat) s' => connects (pat n) i q.2 = true → u.of.contains q.1 = true → s'.contains q.1 = true)
            .refl (fun _ _ _ => .trans) (fun _ _ _ hP hm h1 h2 => hm.kept _ (hP h1 h2)) hJ' ?_).imp
            fun s'' t'' ⟨hJ'', hm, hdone⟩ => ⟨hJ'', hm, fun o y ho => hdone (y, o) (List.mk_mem_zipIdx_iff_getElem?.mpr ho)⟩
          rintro ⟨y, o⟩ hmem s' t' hJ'
          have hy : d.height rank y = rank n + 1 :=
            Dataflow.height_eq ((hd n o y).mp (List.mk_mem_zipIdx_iff_getElem?.mp hmem))
          dsimp only
          split
          case isTrue =>
            have := htop n hn
            exact (ih y s' t' hJ' (by omega) (by omega)).imp fun _ _ ⟨hJ'', hm, hy⟩ => ⟨hJ'', hm, fun _ => hy⟩
          case isFalse hc => exact ⟨hJ', .refl s', fun h => (hc h).elim⟩
        · have hpass : ∀ q ∈ u.pairs v, Passed d pat u s' q.1 q.2 := by
            intro q hq
            rw [hpairs] at hq
            obtain ⟨is, hp, hi⟩ := mem_usePairs.mp hq
            exact hdone _ hp _ hi
          have hinsert : ∀ P : V → Prop, P v → ∀ x, (s.insert v).contains x = true ∨ P x → s.contains x = true ∨ P x := by
            rintro P hP x (h | h)
            · rcases contains_insert.mp h with rfl | h
              · exact .inr hP
              · exact .inl h
            · exact .inr h
          refine ⟨hJ', ⟨fun x hx => hm.kept x (contains_insert.mpr (.inr hx)), fun x hx => ?_, fun x hx => ?_⟩,
            fun _ => hm.kept v (contains_insert.mpr (.inl rfl))⟩
          · exact hinsert (u.of.contains · = true) hv' x (hm.used x hx)
          · exact hinsert (fun x => ∀ q ∈ u.pairs x, Passed d pat u s' q.1 q.2) hpass x (hm.passed x hx)

/-- The uses that the two walks leave. -/
theorem uses_ends [BEq N] [LawfulBEq N] {fuel : Nat} {wrt : List V} {t : Session} (hJ : J t) (hfuel : top + 1 < fuel) :
    (d.uses fuel [c] wrt blocked).Ends k t (fun uses t' => J t' ∧ Relevant d pat blocked c wrt uses) E := by
  have hempty : ∀ x, ({} : Uses V N).pairs x = [] := fun x => by
    rw [Uses.pairs, show ({} : Uses V N).of = ∅ from rfl, Std.HashMap.getD_empty]
    rfl
  have hstart : ({} : Uses V N).Sound d pat blocked c := by
    refine ⟨fun y hy => ?_, fun x l hl => ?_, fun x q hq => ?_⟩
    · rw [show ({} : Uses V N).seen = ∅ from rfl, Std.HashSet.contains_empty] at hy
      cases hy
    · rw [show ({} : Uses V N).of = ∅ from rfl, Std.HashMap.getElem?_empty] at hl
      cases hl
    · rw [hempty x] at hq
      cases hq
  have hheight : d.height rank c < fuel := by
    unfold Dataflow.height
    cases hm : d.maker c with
    | none => exact Nat.zero_lt_of_lt hfuel
    | some p =>
      have := htop p.1 (.maker (o := p.2) hm)
      change rank p.1 + 1 < fuel
      omega
  unfold Dataflow.uses
  rw [List.foldlM_cons, ends_bind, ends_bind]
  refine (follow_ends hd hr hpat fuel c {} t hJ hstart .refl hheight).imp fun u t₁ ⟨hJ₁, hu, he, hc⟩ => ?_
  rw [List.foldlM_nil, ends_pure, ends_bind]
  have hall : ∀ y, u.seen.contains y = true → u.Settled d pat blocked y := fun y hy =>
    (he.settled y hy).resolve_left fun h => by
      rw [show ({} : Uses V N).seen = ∅ from rfl, Std.HashSet.contains_empty] at h
      cases h
  have hexact : ∀ v q, q ∈ u.pairs v ↔ IsUse d pat blocked c v q := by
    refine fun v q => ⟨hu.pairs v q, ?_⟩
    rintro ⟨o, y, hl, hy⟩
    exact (hall y (u.seen_of_reaches hd hall hc hy) hl.free _ _ (hl.maker hd) _ _ hl.source hl.joined).2
  have hof : ∀ v, u.of.contains v = true ↔ ∃ q, IsUse d pat blocked c v q := by
    refine fun v => ⟨fun h => (hu.exists_pair h).imp fun q => (hexact v q).mp, fun ⟨q, hq⟩ => ?_⟩
    by_contra hn
    have := (hexact v q).mpr hq
    rw [Uses.pairs, Std.HashMap.getD_eq_fallback_of_contains_eq_false (Bool.not_eq_true _ ▸ hn)] at this
    cases this
  refine (Ends.foldlM (J := fun _ t => J t) (L := Marking d pat u)
    (P := fun (v : V) s => u.of.contains v = true → s.contains v = true) .refl (fun _ _ _ => .trans)
    (fun _ _ _ hP hm hv => hm.kept _ (hP hv)) hJ₁ fun v _ s t hJ =>
      mark_ends hd hr htop hpat hu fuel v s t hJ (by omega) (by omega)).imp fun s t₂ ⟨hJ₂, hm, hwrt⟩ => ?_
  have hnone : ∀ v : V, ¬ (∅ : Std.HashSet V).contains v = true := fun v => by simp
  have hget : ∀ (v : V) l, (u.of.filter fun v _ => s.contains v)[v]? = some l ↔ u.of[v]? = some l ∧ s.contains v = true :=
    fun v l => by rw [Std.HashMap.getElem?_filter', Option.filter_eq_some_iff]
  have hin : ∀ v : V, (u.of.filter fun v _ => s.contains v).contains v = true ↔ s.contains v = true := by
    intro v
    rw [Std.HashMap.contains_eq_isSome_getElem?, Option.isSome_iff_exists]
    refine ⟨fun ⟨l, hl⟩ => ((hget v l).mp hl).2, fun hv => ?_⟩
    have hused := (hm.used v hv).resolve_left (hnone v)
    rw [Std.HashMap.contains_eq_isSome_getElem?, Option.isSome_iff_exists] at hused
    exact hused.imp fun l hl => (hget v l).mpr ⟨hl, hv⟩
  refine ⟨hJ₂, fun v l hl => (hu.listed v l ((hget v l).mp hl).1).1, fun v l hl q => ?_, fun v hv => ?_, fun v hv q hq => ?_,
    fun v hv q hq o y ho hc hy => ?_⟩
  · rw [← hexact, Uses.pairs, Std.HashMap.getD_eq_getD_getElem?, ((hget v l).mp hl).1, Option.getD_some]
  · exact (hof v).mp ((hm.used v ((hin v).mp hv)).resolve_left (hnone v))
  · exact (hin v).mpr (hwrt v hv ((hof v).mpr ⟨q, hq⟩))
  · exact (hin y).mpr (((hm.passed v ((hin v).mp hv)).resolve_left (hnone v)) q ((hexact v q).mpr hq) o y ho hc ((hof y).mpr hy))

end Walk

end Forward

/-! ## What is kept -/

section Memo

variable [BEq N] [Hashable N]

/-- The terms of uses: of each node that uses a variable, those for the inputs at which it does. -/
inductive Gathered (T : N → List G → Prop) : List (N × List Nat) → List (N × G) → Prop
  | nil : Gathered T [] []
  | cons {n is ts nodes l} : T n ts → Gathered T nodes l →
      Gathered T ((n, is) :: nodes) (is.filterMap (fun i => ts[i]?.map fun t => (n, t)) ++ l)

/-- Gradients of known variables are kept, and all that is kept is right. -/
structure Memo.Sound (K : V → Prop) (A : V → G → Prop) (T : N → List G → Prop) (o : Memo V N G) : Prop where
  known : ∀ v, K v → o.grads.contains v = true
  grads : ∀ (v : V) g, o.grads[v]? = some g → A v g
  terms : ∀ (n : N) ts, o.terms[n]? = some ts → T n ts

/-- Right terms are made from right gradients, and right gradients from right terms. What is right in a session is right
in every later one. Gradients are asked for along ranks that fall. -/
structure Backprop.Lawful (b : Backprop V N G) (k : Kit) (L : Session → Session → Prop) (s₀ : Session) (K : V → Prop)
    (A : Session → V → G → Prop) (T : Session → N → List G → Prop) (asked : V → Prop) (entered : N → Prop)
    (rankV : V → Nat) (rankN : N → Nat) (E : Fault → Session → Prop) : Prop where
  refl : ∀ s, L s s
  trans : ∀ s t u, L s t → L t u → L s u
  grad_mono : ∀ s t v g, A s v g → L s t → A t v g
  term_mono : ∀ s t n ts, T s n ts → L s t → T t n ts
  absent : ∀ s v, L s₀ s → asked v → ¬ K v → b.uses v = none → (b.absent v).Ends k s (fun g t => L s t ∧ A t v g) E
  gather : ∀ s v nodes l, L s₀ s → asked v → ¬ K v → b.uses v = some nodes → Gathered (T s) nodes l →
    (b.gather v l).Ends k s (fun g t => L s t ∧ A t v g) E
  terms : ∀ s n gs, L s₀ s → entered n → List.Forall₂ (A s) (b.outputs n) gs →
    (b.terms n gs).Ends k s (fun ts t => L s t ∧ T t n ts) E
  uses : ∀ v nodes, asked v → b.uses v = some nodes → ∀ p ∈ nodes, entered p.1 ∧ rankN p.1 < rankV v
  outputs : ∀ n, entered n → ∀ y ∈ b.outputs n, asked y ∧ rankV y < rankN n

variable {b : Backprop V N G} {k : Kit} {L : Session → Session → Prop} {s₀ s t : Session} {K : V → Prop}
  {A : Session → V → G → Prop} {T : Session → N → List G → Prop} {asked : V → Prop} {entered : N → Prop}
  {rankV : V → Nat} {rankN : N → Nat} {E : Fault → Session → Prop} {o : Memo V N G}

theorem Memo.Sound.mono {A' : V → G → Prop} {T' : N → List G → Prop} {A : V → G → Prop} {T : N → List G → Prop}
    (h : o.Sound K A T) (hA : ∀ v g, A v g → A' v g) (hT : ∀ n ts, T n ts → T' n ts) : o.Sound K A' T' :=
  ⟨h.known, fun v g hg => hA v g (h.grads v g hg), fun n ts hts => hT n ts (h.terms n ts hts)⟩

theorem Memo.Sound.keepGrad [LawfulBEq V] {A : V → G → Prop} {T : N → List G → Prop} {v : V} {g : G} (h : o.Sound K A T) (hg : A v g) :
    Memo.Sound K A T { o with grads := o.grads.insert v g } where
  known x hx := by rw [Std.HashMap.contains_insert, h.known x hx, Bool.or_true]
  grads := forall_insert h.grads hg
  terms := h.terms

theorem Memo.Sound.keepTerms [LawfulBEq N] {A : V → G → Prop} {T : N → List G → Prop} {n : N} {ts : List G} (h : o.Sound K A T)
    (ht : T n ts) : Memo.Sound K A T { o with terms := o.terms.insert n ts } where
  known := h.known
  grads := h.grads
  terms := forall_insert h.terms ht

namespace Backprop.Lawful

variable (h : b.Lawful k L s₀ K A T asked entered rankV rankN E)

include h in
theorem sound_mono (ho : o.Sound K (A s) (T s)) (hL : L s t) : o.Sound K (A t) (T t) :=
  ho.mono (fun v g hg => h.grad_mono s t v g hg hL) fun n ts hts => h.term_mono s t n ts hts hL

include h in
/-- One item after another: what a step gives is still right when the last one is done. -/
theorem collect_ends {α β γ : Type} {f : α → Memo V N G → M (β × Memo V N G)} {c : α → β → List γ}
    {P : Session → α → β → Prop} {R : Session → List α → List γ → Prop} (hP : ∀ s t x y, P s x y → L s t → P t x y)
    (hnil : ∀ t, R t [] []) (hcons : ∀ t x y xs l, P t x y → R t xs l → R t (x :: xs) (c x y ++ l))
    (xs : List α) (acc : List γ) (o : Memo V N G) (s : Session) (hs : L s₀ s) (ho : o.Sound K (A s) (T s))
    (hf : ∀ x ∈ xs, ∀ o s, L s₀ s → o.Sound K (A s) (T s) →
      (f x o).Ends k s (fun r t => L s t ∧ P t x r.1 ∧ r.2.Sound K (A t) (T t)) E) :
    (xs.foldlM (fun (r : List γ × Memo V N G) x => do
        let (y, o) <- f x r.2
        return (r.1 ++ c x y, o)) (acc, o)).Ends k s
      (fun r t => L s t ∧ r.2.Sound K (A t) (T t) ∧ ∃ l, r.1 = acc ++ l ∧ R t xs l) E := by
  induction xs generalizing acc o s with
  | nil => exact ⟨h.refl s, ho, [], (List.append_nil _).symm, hnil s⟩
  | cons x xs ih =>
    rw [List.foldlM_cons, ends_bind, ends_bind]
    refine (hf x List.mem_cons_self o s hs ho).imp fun r t ⟨hL, hx, ho'⟩ => ?_
    refine (ih _ r.2 t (h.trans _ _ _ hs hL) ho' fun x hx => hf x (List.mem_cons_of_mem _ hx)).imp ?_
    rintro r' u ⟨hL', ho'', l, hl, hall⟩
    exact ⟨h.trans _ _ _ hL hL', ho'', _, by rw [hl, List.append_assoc], hcons _ _ _ _ _ (hP _ _ _ _ hx hL') hall⟩

include h in
theorem gradients_of {f : V → Memo V N G → M (G × Memo V N G)} {vs : List V} (hs : L s₀ s) (ho : o.Sound K (A s) (T s))
    (hf : ∀ v ∈ vs, ∀ o s, L s₀ s → o.Sound K (A s) (T s) →
      (f v o).Ends k s (fun r t => L s t ∧ A t v r.1 ∧ r.2.Sound K (A t) (T t)) E) :
    (vs.foldlM (fun (r : List G × Memo V N G) v => do
        let (g, o) <- f v r.2
        return (r.1 ++ [g], o)) ([], o)).Ends k s
      (fun r t => L s t ∧ r.2.Sound K (A t) (T t) ∧ List.Forall₂ (A t) vs r.1) E :=
  (h.collect_ends (c := fun _ g => [g]) (R := fun t => List.Forall₂ (A t)) h.grad_mono (fun _ => .nil) (fun _ _ _ _ _ => .cons)
    vs [] o s hs ho hf).imp fun _ _ ⟨hL, ho', _, hgs, hall⟩ => ⟨hL, ho', hgs ▸ hall⟩

include h in
/-- Gradients and terms that are asked for are right. -/
theorem gradient_ends [LawfulBEq V] [LawfulBEq N] (fuel : Nat) :
    (∀ v o s, L s₀ s → asked v → rankV v < fuel → o.Sound K (A s) (T s) →
      (b.gradient fuel v o).Ends k s (fun r t => L s t ∧ A t v r.1 ∧ r.2.Sound K (A t) (T t)) E) ∧
    ∀ n o s, L s₀ s → entered n → rankN n < fuel → o.Sound K (A s) (T s) →
      (b.termsOf fuel n o).Ends k s (fun r t => L s t ∧ T t n r.1 ∧ r.2.Sound K (A t) (T t)) E := by
  induction fuel with
  | zero => exact ⟨fun _ _ _ _ _ hr => absurd hr (Nat.not_lt_zero _), fun _ _ _ _ _ hr => absurd hr (Nat.not_lt_zero _)⟩
  | succ fuel ih =>
    refine ⟨fun v o s hs hv hr ho => ?_, fun n o s hs hn hr ho => ?_⟩
    · unfold Backprop.gradient
      cases hg : o.grads[v]? with
      | some g => exact ⟨h.refl s, ho.grads v g hg, ho⟩
      | none =>
        have hK : ¬ K v := fun hK => by
          have := ho.known v hK
          rw [Std.HashMap.contains_eq_isSome_getElem?, hg] at this
          cases this
        cases hu : b.uses v with
        | none =>
          dsimp only
          rw [ends_bind]
          refine (h.absent s v hs hv hK hu).imp fun g t ⟨hL, hA⟩ => ?_
          exact ⟨hL, hA, (h.sound_mono ho hL).keepGrad hA⟩
        | some nodes =>
          dsimp only
          rw [ends_bind]
          refine (h.collect_ends (c := fun p ts => p.2.filterMap fun i => ts[i]?.map fun t => (p.1, t)) (R := fun t => Gathered (T t))
            (fun s t p => h.term_mono s t p.1) (fun _ => .nil) (fun _ _ _ _ _ => .cons) nodes [] o s hs ho fun p hp o s hs ho => ?_).imp ?_
          · obtain ⟨he, hlt⟩ := h.uses v nodes hv hu p hp
            exact ih.2 p.1 o s hs he (by omega) ho
          · rintro r t ⟨hL, ho', l, hl, hall⟩
            rw [List.nil_append] at hl
            rw [hl, ends_bind]
            refine (h.gather t v nodes l (h.trans _ _ _ hs hL) hv hK hu hall).imp fun g u ⟨hL', hA⟩ => ?_
            exact ⟨h.trans _ _ _ hL hL', hA, (h.sound_mono ho' hL').keepGrad hA⟩
    · unfold Backprop.termsOf
      cases ht : o.terms[n]? with
      | some ts => exact ⟨h.refl s, ho.terms n ts ht, ho⟩
      | none =>
        dsimp only
        rw [ends_bind]
        refine (h.gradients_of hs ho fun y hy o s hs ho => ?_).imp ?_
        · obtain ⟨ha, hlt⟩ := h.outputs n hn y hy
          exact ih.1 y o s hs ha (by omega) ho
        · rintro r t ⟨hL, ho', hall⟩
          rw [ends_bind]
          refine (h.terms t n r.1 (h.trans _ _ _ hs hL) hn hall).imp fun ts u ⟨hL', hT⟩ => ?_
          exact ⟨h.trans _ _ _ hL hL', hT, (h.sound_mono ho' hL').keepTerms hT⟩

include h in
theorem gradients_ends [LawfulBEq V] [LawfulBEq N] {fuel : Nat} {vs : List V} (hvs : ∀ v ∈ vs, asked v ∧ rankV v < fuel) (hs : L s₀ s)
    (ho : o.Sound K (A s) (T s)) :
    (b.gradients fuel vs o).Ends k s (fun r t => L s t ∧ List.Forall₂ (A t) vs r.1) E := by
  unfold Backprop.gradients
  exact (h.gradients_of hs ho fun v hv o s hs ho =>
    (h.gradient_ends fuel).1 v o s hs (hvs v hv).1 (hvs v hv).2 ho).imp fun _ _ ⟨hL, _, hall⟩ => ⟨hL, hall⟩

end Backprop.Lawful

end Memo

end TensorGraph.Flow
