import TensorGraph.Proofs.WholeNumbers

/-!
# Shapes of reshaped arrays

The shape of a reshaped array is inferred before its elements are known: the lengths that are asked for stand for themselves, and
the one that is left open is a quotient, of the size by the product of the others. Where no length or more than one is left open the
quotient is never looked at or the array is refused, and where there are no elements it is zero whatever the product wraps to.
-/

namespace TensorGraph

open M

/-! ## The rule of a new shape -/

/-- The product of the lengths that are asked for. -/
def askedSize (is : List Int) : Int := (is.filter (· != -1)).prod

/-- What the lengths of a new shape are: those that are asked for, and in place of the one that is left open what makes up
the size. -/
structure Reshaped (size : Nat) (is : List Int) (shape : List Nat) : Prop where
  entry : ∀ i ∈ is, i = -1 ∨ 0 ≤ i
  asked : -1 ∉ is ∧ askedSize is = size ∨ is.count (-1) = 1 ∧ 0 < askedSize is ∧ askedSize is ∣ size
  lengths : shape.map Int.ofNat = is.map fun i => if i = -1 then size / askedSize is else i

section Rule

variable {X Z : NdArray} {is : List Int}

theorem foldl_toNat (l : List Int) (hl : ∀ i ∈ l, 0 ≤ i) (n : Nat) :
    ((l.foldl (fun n (i : Int) => n * i.toNat) n : Nat) : Int) = n * l.prod := by
  induction l generalizing n with
  | nil => simp
  | cons i l ih =>
    rw [List.forall_mem_cons] at hl
    rw [List.foldl_cons, ih hl.2, List.prod_cons, Nat.cast_mul, Int.toNat_of_nonneg hl.1, mul_assoc]

theorem asked_eq (h : ∀ i ∈ is, i = -1 ∨ 0 ≤ i) :
    (((is.filter (· ≥ 0)).foldl (fun n (i : Int) => n * i.toNat) 1 : Nat) : Int) = askedSize is := by
  rw [foldl_toNat _ (by simp), Nat.cast_one, one_mul, askedSize]
  refine congrArg List.prod (List.filter_congr fun i hi => ?_)
  obtain rfl | h := h i hi
  · rfl
  · rw [decide_eq_true h, eq_comm, bne_iff_ne]
    omega

theorem count_eq (h : ∀ i ∈ is, i = -1 ∨ 0 ≤ i) : is.count (-1) = (is.filter (· < 0)).length := by
  rw [List.count, List.countP_eq_length_filter]
  refine congrArg List.length (List.filter_congr fun i hi => ?_)
  obtain rfl | h := h i hi
  · rfl
  · rw [decide_eq_false (not_lt.mpr h), beq_eq_false_iff_ne]
    omega

theorem reshaped_of_ok (h : X.reshape is = .ok Z) : Reshaped X.size is Z.shape := by
  unfold NdArray.reshape at h
  dsimp only at h
  split_ifs at h with hbad hnone hsize hfit
  all_goals
    obtain rfl := Except.ok.inj h
    simp only [Bool.or_eq_true, decide_eq_true_eq, List.any_eq_true, List.mem_filter, bne_iff_ne, not_or, not_lt, not_exists,
      not_and, not_not, and_imp] at hbad
    have hentry : ∀ i ∈ is, i = -1 ∨ 0 ≤ i := fun i hi => (lt_or_ge i 0).imp (hbad.2 i hi) id
    have hasked := asked_eq hentry
    have hcount := count_eq hentry
  · rw [List.isEmpty_iff.mp hnone, List.length_nil, List.count_eq_zero] at hcount
    refine ⟨hentry, .inl ⟨hcount, hasked.symm.trans (by exact_mod_cast beq_iff_eq.mp hsize)⟩, ?_⟩
    rw [List.map_map]
    refine List.map_congr_left fun i hi => ?_
    have hne : i ≠ -1 := fun h => hcount (h ▸ hi)
    rw [if_neg hne]
    exact Int.toNat_of_nonneg ((hentry i hi).resolve_left hne)
  · generalize (is.filter (· ≥ 0)).foldl (fun n (i : Int) => n * i.toNat) 1 = known at hfit hasked
    have hpos := List.length_pos_iff.mpr fun h => hnone (List.isEmpty_iff.mpr h)
    simp only [Bool.or_eq_true, beq_iff_eq, bne_iff_ne, not_or, not_not] at hfit
    refine ⟨hentry, .inr ⟨by omega, by omega, ?_⟩, ?_⟩
    · rw [← hasked]
      exact Int.natCast_dvd_natCast.mpr (Nat.dvd_of_mod_eq_zero hfit.2)
    · rw [List.map_map]
      refine List.map_congr_left fun i hi => ?_
      rw [← hasked]
      obtain rfl | hi' := hentry i hi
      · rfl
      · rw [Function.comp_apply, if_neg (by omega), if_neg (by omega)]
        exact Int.toNat_of_nonneg hi'

theorem prod_eq_asked (is : List Int) : is.prod = (-1) ^ is.count (-1) * askedSize is := by
  induction is with
  | nil => rfl
  | cons i is ih =>
    unfold askedSize at ih ⊢
    by_cases hi : i = -1
    · simp [hi, ih, pow_succ]
    · simp [hi, ih, mul_left_comm]

theorem length_sub_asked (is : List Int) : is.length - (is.filter (· != -1)).length = is.count (-1) := by
  induction is with
  | nil => rfl
  | cons i is ih =>
    have hle := List.length_filter_le (· != -1) is
    by_cases hi : i = -1
    · simp [hi]
      omega
    · simp [hi]
      omega

/-- A single number can only be given lengths of one. -/
theorem Reshaped.eq_replicate {shape : List Nat} (h : Reshaped 1 is shape) : shape.map Int.ofNat = List.replicate is.length 1 := by
  have hasked : askedSize is = 1 := by
    obtain ⟨-, h⟩ | ⟨-, hpos, hdvd⟩ := h.asked
    · exact h
    · exact Int.eq_one_of_dvd_one hpos.le hdvd
  rw [h.lengths, hasked, ← List.map_const']
  refine List.map_congr_left fun i hi => ?_
  split_ifs with hopen
  · rfl
  · have hmem : i ∈ is.filter (· != -1) := List.mem_filter.mpr ⟨hi, bne_iff_ne.mpr hopen⟩
    exact Int.eq_one_of_dvd_one ((h.entry i hi).resolve_left hopen) (hasked ▸ List.dvd_prod hmem)

end Rule

/-! ## The length that is left open -/

section Missing

variable {N q : Int} {is : List Int}

theorem quotient_eq (hN : Fits N) (h0 : 0 ≤ N) (hpos : 0 < askedSize is) (hq : N = 0 ∨ q = askedSize is) :
    (if q == 0 then 0 else DType.int64.wrap (N.fdiv q)) = N / askedSize is := by
  obtain rfl | rfl := hq
  · simp [wrap_int64]
  · have hle := Int.ediv_le_self (askedSize is) h0
    have hge := Int.ediv_nonneg h0 hpos.le
    have hfits : Fits (N / askedSize is) := ⟨by omega, hle.trans_lt hN.2⟩
    rw [if_neg (by simpa using hpos.ne'), Int.fdiv_eq_ediv_of_nonneg _ hpos.le, hfits.wrap]

/-- The lengths that are asked for only overflow where there are no elements. -/
theorem wrap_asked (hN : Fits N) (h0 : 0 ≤ N) (hpos : 0 < askedSize is) (hdvd : askedSize is ∣ N) :
    N = 0 ∨ DType.int64.wrap (askedSize is) = askedSize is := by
  refine h0.eq_or_lt.imp Eq.symm fun hN' => Fits.wrap ⟨by omega, ?_⟩
  exact (Int.le_of_dvd hN' hdvd).trans_lt hN.2

theorem max_wrap_prod (hN : Fits N) (h0 : 0 ≤ N) (hone : is.count (-1) = 1) (hpos : 0 < askedSize is) (hdvd : askedSize is ∣ N) :
    N = 0 ∨ max (DType.int64.wrap (-DType.int64.wrap is.prod)) 1 = askedSize is := by
  have hprod : is.prod = -askedSize is := by rw [prod_eq_asked, hone, pow_one, neg_one_mul]
  have hwrap : DType.int64.wrap (-DType.int64.wrap is.prod) = DType.int64.wrap (askedSize is) := by
    rw [hprod, wrap_int64, wrap_int64, wrap_int64, Int.bmod_neg_bmod, neg_neg]
  refine (wrap_asked hN h0 hpos hdvd).imp_right fun h => ?_
  rw [hwrap, h]
  exact max_eq_left hpos

end Missing

/-! ## Inference -/

/-- The shape that is asked for: a constant, or a variable whose value is given. -/
inductive Session.Target (s : Session) (ρ : VarId → Option Value) (r : VarId) (a : NdArray) : Prop
  | constant : s.arena.constant? r = some (.array a) → s.Target ρ r a
  | symbolic {b name} : s.arena.constant? r = none → s.arena.typeOf r = .tensor .int64 [b] name → ρ r = some (.array a) →
      s.Target ρ r a

/-- Values that stand for lengths. -/
def Session.Infers (s : Session) (k : Kit) (ρ : VarId → Option Value) (vs : Values) (lengths : List Int) : Prop :=
  List.Forall₂ (fun v n => ∃ d, s.Shows k ρ v (d, n)) vs lengths

section Inference

variable {k : Kit} {s : Session} {ρ : VarId → Option Value} {n : NodeId} {r x size : VarId} {m l g N : Nat} {is : List Int}
  {ds : Values} {shape : List Nat}

theorem infers_map {f : Int → Value} {q : Int → Int} (h : ∀ i ∈ is, ∃ d, s.Shows k ρ (f i) (d, q i)) :
    s.Infers k ρ (is.map f) (is.map q) := by
  unfold Session.Infers
  rw [List.forall₂_map_left_iff, List.forall₂_map_right_iff, List.forall₂_same]
  exact h

theorem productOf_makes (hs : s.Ready ρ) (hne : is ≠ []) (his : ∀ i ∈ is, Fits i)
    (hds : List.Forall₂ (fun v i => s.Shows k ρ v (.int64, i)) ds is) :
    (productOf ds).Makes (kit (m + 1)) k ρ s (.int64, DType.int64.wrap is.prod) :=
  ew_makes hs (mul_gives his hne) (List.forall₂_map_right_iff.mpr hds)

/-- A length, or what is left over if it is left open. -/
theorem chosen_makes {v w : VarId} {a b : Int} (hs : s.Ready ρ) (hv : s.Denotes k ρ v (.int64, a)) (hw : s.Denotes k ρ w (.int64, b)) :
    (do Tensor.switch (<- Tensor.eq v (.int (-1))) w v).Makes (kit (m + 1)) k ρ s (.int64, if a = -1 then b else a) := by
  obtain ⟨d, hd, hplain⟩ := shows_plain (s := s) (k := k) (ρ := ρ) (.inr rfl)
  have hval : (if (if a = -1 then (1 : Int) else 0) = 0 then a else b) = if a = -1 then b else a := by split_ifs <;> simp_all
  unfold M.Makes
  rw [ends_bind, ← hval]
  refine (ew_makes hs (eq_gives hd) (.cons (.var hv) (.cons hplain .nil))).imp fun c t ⟨hL, hc⟩ => ?_
  refine (ew_makes (hs.later hL) switch_gives (.cons (.var hc) (.cons (.var (hw.later hL)) (.cons (.var (hv.later hL)) .nil)))).imp ?_
  exact fun u t' ⟨hL', hu⟩ => ⟨hL.trans hL', hu⟩

section Lengths

variable (hs : s.Ready ρ) (his : ∀ i ∈ is, Fits i) (hN : Fits N) (hsize : s.Denotes k ρ size (.int64, N)) (h : Reshaped N is shape)

include hs his hN hsize h

theorem constantLengths_ends :
    (constantLengths size (.vector is g)).Ends (kit (m + 1)) s (fun vs t => s.Later t ∧ t.Infers k ρ vs (shape.map Int.ofNat))
      fun _ _ => False := by
  unfold constantLengths
  simp only [toInts_vector, length_sub_asked, h.lengths]
  obtain ⟨hnone, -⟩ | ⟨hone, hpos, hdvd⟩ := h.asked
  · rw [List.count_eq_zero.mpr hnone]
    refine ⟨.refl s, infers_map fun i hi => ⟨.int64, ?_⟩⟩
    have hi' : i ≠ -1 := fun h => hnone (h ▸ hi)
    rw [if_neg hi']
    exact .number
  rw [hone]
  by_cases hempty : is.filter (· != -1) = []
  · obtain ⟨i, rfl⟩ : ∃ i, is = [i] := List.length_eq_one_iff.mp (by rw [← hone, ← length_sub_asked, hempty]; rfl)
    obtain rfl : i = -1 := by simpa using hempty
    simp only [hempty, List.isEmpty_nil, if_true]
    refine ⟨.refl s, .cons ⟨.int64, .var ?_⟩ .nil⟩
    simpa [askedSize] using hsize
  · have hknown : List.Forall₂ (fun v i => s.Shows k ρ v (.int64, i)) ((is.filter (· != -1)).map fun i => .number .int64 (.int i))
        (is.filter (· != -1)) := List.forall₂_map_left_iff.mpr (List.forall₂_same.mpr fun _ _ => .number)
    simp only [List.isEmpty_iff, hempty, if_false, ends_bind]
    refine (productOf_makes hs hempty (fun i hi => his i (List.mem_filter.mp hi).1) hknown).imp ?_
    rintro u t ⟨hL, hu⟩
    refine (operate_floorDiv_ends (hs.later hL) (hsize.later hL) hu).imp ?_
    rintro _ t' ⟨w, rfl, hL', hw⟩
    have hq := quotient_eq hN N.cast_nonneg hpos (wrap_asked hN N.cast_nonneg hpos hdvd)
    rw [askedSize] at hq
    rw [hq] at hw
    refine ⟨hL.trans hL', infers_map fun i hi => ?_⟩
    by_cases hi' : i = -1
    · simp only [hi', BEq.rfl, if_true]
      exact ⟨_, .var hw⟩
    · simp only [beq_iff_eq, hi', if_false]
      exact ⟨_, .number⟩

/-- What is left over, if a length is left open. -/
theorem openLength_ends {rs : Vars} (hne : is ≠ []) (hrs : List.Forall₂ (fun v i => s.Denotes k ρ v (.int64, i)) rs is) :
    (openLength size rs).Ends (kit (m + 1)) s (fun r t => ∃ (w : VarId) (q : Int), r = w ∧ s.Later t ∧
      t.Denotes k ρ w (.int64, q) ∧ (-1 ∈ is → q = N / askedSize is)) fun _ _ => False := by
  have hvals : List.Forall₂ (fun v i => s.Shows k ρ v (.int64, i)) (valuesOf rs) is :=
    List.forall₂_map_left_iff.mpr (hrs.imp fun _ _ => .var)
  unfold openLength
  rw [ends_bind]
  refine (productOf_makes hs hne his hvals).imp fun p t ⟨hL, hp⟩ => ?_
  rw [ends_bind]
  refine (ew_makes (hs.later hL) neg_gives (.cons (.var hp) .nil)).imp fun q t₁ ⟨hL₁, hq⟩ => ?_
  obtain ⟨d, hd, hplain⟩ := shows_plain (s := t₁) (k := k) (ρ := ρ) (.inl rfl)
  have hs₁ := hs.later (hL.trans hL₁)
  rw [ends_bind]
  refine (ew_makes hs₁ (maximum_gives hd) (.cons (.var hq) (.cons hplain .nil))).imp fun u t₂ ⟨hL₂, hu⟩ => ?_
  have hL₂ := (hL.trans hL₁).trans hL₂
  refine (operate_floorDiv_ends (hs.later hL₂) (hsize.later hL₂) hu).imp ?_
  rintro _ t₃ ⟨w, rfl, hL₃, hw⟩
  refine ⟨w, _, rfl, hL₂.trans hL₃, hw, fun hmem => ?_⟩
  obtain ⟨hnone, -⟩ | ⟨hone, hpos, hdvd⟩ := h.asked
  · exact absurd hmem hnone
  · exact quotient_eq hN N.cast_nonneg hpos (max_wrap_prod hN N.cast_nonneg hone hpos hdvd)

theorem givenLengths_ends {b : Bool} {name : Option String} (hr : r.idx < s.arena.vars.size)
    (hty : s.arena.typeOf r = .tensor .int64 [b] name) (hρ : ρ r = some (.array (.vector is g))) :
    (givenLengths is.length size r).Ends (kit (m + 1)) s (fun vs t => s.Later t ∧ t.Infers k ρ vs (shape.map Int.ofNat))
      fun _ _ => False := by
  unfold givenLengths
  rw [ends_bind]
  have hpos : List.Forall₂ (fun i n => i < is.length ∧ n = is.getD i 0) (.range is.length) is :=
    List.forall₂_iff_get.mpr ⟨List.length_range, fun i _ hi => by simp [hi]⟩
  refine (mapM_forall₂ (A := fun _ i n => i < is.length ∧ n = is.getD i 0) (B := fun t v n => t.Denotes k ρ v (.int64, n))
    (fun _ _ _ _ _ h => h) (fun _ _ _ _ hL h => h.later hL) ?_ hpos).imp ?_
  · rintro t i _ hL ⟨hi, rfl⟩
    exact atPos_makes (hs.later hL) (hr.trans_le hL.arena.vars_le) ((hL.arena.typeOf hr).trans hty) hρ hi
  rintro rs t ⟨hL, hrs⟩
  rw [h.lengths]
  by_cases hempty : is = []
  · subst hempty
    exact ⟨hL, .nil⟩
  have hlen : is.length ≠ 0 := fun h => hempty (List.length_eq_zero_iff.mp h)
  simp only [beq_iff_eq, hlen, if_false, ends_bind]
  refine (openLength_ends (hs.later hL) his hN (hsize.later hL) h hempty hrs).imp ?_
  rintro _ t₁ ⟨w, q, rfl, hL₁, hw, hq⟩
  have hL₁' := hL.trans hL₁
  refine (mapM_forall₂ (A := fun t v i => t.Denotes k ρ v (.int64, i)) (B := fun t b i => t.Shows k ρ b (.int64, if i = -1 then q else i))
    (fun _ _ _ _ hL h => h.later hL) (fun _ _ _ _ hL h => h.later hL) (fun t₂ v i hL₂ hv => ?_)
    (hrs.imp fun _ _ h => h.later hL₁)).imp fun vs t₂ h => ⟨hL₁'.trans h.1, ?_⟩
  · have hmade := chosen_makes (m := m) (hs.later (hL₁'.trans hL₂)) hv (hw.later hL₂)
    unfold M.Makes at hmade
    rw [ends_bind] at hmade ⊢
    refine hmade.imp fun c t h => ?_
    rw [ends_bind]
    exact h.imp fun u t' h => ⟨h.1, .var h.2⟩
  · have hrest : is.map (fun i => if i = -1 then N / askedSize is else i) = is.map fun i => if i = -1 then q else i :=
      List.map_congr_left fun i hi => by
        split_ifs with hopen
        · exact (hq (hopen ▸ hi)).symm
        · rfl
    rw [hrest, Session.Infers, List.forall₂_map_right_iff]
    exact h.2.imp fun _ _ h => ⟨_, h⟩

end Lengths

theorem prod_map_ofNat (dims : List Nat) : (dims.map Int.ofNat).prod = shapeSize dims := by
  rw [shapeSize, ← List.prod_eq_foldl, Nat.cast_list_prod]
  rfl

theorem reshapeShape_ends {dims : List Nat} (hs : s.Ready ρ) (hn : s.arena.inputs n = [x, r])
    (hds : List.Forall₂ (fun v i => s.Shows k ρ v (.int64, i)) ds (dims.map Int.ofNat)) (hdims : ∀ i ∈ dims.map Int.ofNat, Fits i)
    (hN : Fits (shapeSize dims)) (his : ∀ i ∈ is, Fits i) (hr : s.Target ρ r (.vector is g)) (h : Reshaped (shapeSize dims) is shape) :
    (reshapeShape is.length n ds).Ends (kit (m + 1)) s (fun vs t => s.Later t ∧ t.Infers k ρ vs (shape.map Int.ofNat))
      fun _ _ => False := by
  unfold reshapeShape
  obtain rfl | hne := eq_or_ne dims []
  · cases hds
    refine ⟨.refl s, ?_⟩
    rw [h.eq_replicate, ← List.map_const', ← List.map_const']
    obtain ⟨d, -, hplain⟩ := shows_plain (s := s) (k := k) (ρ := ρ) (.inl rfl)
    exact infers_map fun _ _ => ⟨d, hplain⟩
  have hds' : ds ≠ [] := fun h => hne (by simpa [h] using hds)
  have hlt : r.idx < s.arena.vars.size := hs.wf.operand n r (by simp [hn])
  have hnode : n.idx < s.arena.nodes.size := by
    by_contra hle
    simp [Arena.inputs_of_le (Nat.not_lt.mp hle)] at hn
  simp only [List.isEmpty_iff, hds', if_false, ends_bind, ends_insOf]
  refine (productOf_makes hs (by simpa using hne) hdims hds).imp ?_
  rintro size t ⟨hL, hsize⟩
  have hconst : t.arena.constant? r = s.arena.constant? r := by
    unfold Arena.constant?
    rw [(hL.arena.var r hlt).2.2.2]
  have hs' := hs.later hL
  rw [prod_map_ofNat, hN.wrap] at hsize
  rw [hL.arena.inputs hnode, hn]
  refine (ends_of_ok (x := constant? r) (t := t) rfl).mpr ?_
  rw [hconst]
  cases hr with
  | constant hr =>
    rw [hr]
    exact (constantLengths_ends hs' his hN hsize h).imp fun _ _ h => ⟨hL.trans h.1, h.2⟩
  | symbolic hr hty hρ =>
    rw [hr]
    refine (givenLengths_ends hs' his hN hsize h (hlt.trans_le hL.arena.vars_le) ((hL.arena.typeOf hlt).trans hty) hρ).imp ?_
    exact fun _ _ h => ⟨hL.trans h.1, h.2⟩

theorem reshapePerform_ok {X Z : NdArray} {name : Option String} (hop : s.arena.op n = .reshape l name)
    (hrun : (opPerform n [.array X, .array (.vector is g)]).Ends k s (fun ys _ => ys = [.array Z]) fun _ _ => False) :
    is.length = l ∧ X.reshape is = .ok Z := by
  unfold opPerform at hrun
  rw [ends_bind, ends_opOf, hop] at hrun
  change (reshapePerform l (.array X) (.array (.vector is g)) >>= _).Ends k s _ _ at hrun
  unfold reshapePerform arrayOf failValue at hrun
  simp only [ends_bind, ends_pure, toInts_vector, ends_ite, ends_fail, if_false_left, bne_iff_ne, ne_eq, not_not] at hrun
  refine ⟨by simpa [NdArray.size, NdArray.vector] using hrun.1, ?_⟩
  cases hX : X.reshape is with
  | ok r =>
    rw [hX] at hrun
    cases hrun.2
    rfl
  | error e =>
    rw [hX] at hrun
    exact hrun.2.elim

/-- The shape that is inferred for a reshaped array is its shape. -/
theorem opShapes_reshape {X Z : NdArray} {G : Value} {name : Option String} {rest : Shapes} (hs : s.Ready ρ)
    (hop : s.arena.op n = .reshape l name) (hins : s.arena.inputs n = [x, r]) (hX : X.size = shapeSize X.shape)
    (hfits : ∀ i ∈ X.shape.map Int.ofNat, Fits i) (hsize : Fits X.size)
    (hds : List.Forall₂ (fun v i => s.Shows k ρ v (.int64, i)) ds (X.shape.map Int.ofNat))
    (his : ∀ i ∈ is, Fits i) (hr : s.Target ρ r (.vector is g))
    (hrun : (opPerform n [.array X, .array (.vector is g)]).Ends k s (fun ys _ => ys = [.array Z]) fun _ _ => False) :
    (opShapes G n (some ds :: rest)).Ends (kit (m + 1)) s (fun out t => s.Later t ∧ ∃ vs, out = [some vs] ∧
      t.Infers k ρ vs (Z.shape.map Int.ofNat)) fun _ _ => False := by
  obtain ⟨rfl, hZ⟩ := reshapePerform_ok hop hrun
  have h := reshaped_of_ok hZ
  rw [hX] at h hsize
  unfold opShapes
  rw [ends_bind, ends_insOf, ends_bind, ends_opOf, hop]
  change (reshapeShape is.length n ds >>= fun vs => Pure.pure [some vs]).Ends (kit (m + 1)) s _ _
  rw [ends_bind]
  exact (reshapeShape_ends hs hins hds hfits hsize his hr h).imp fun vs t ⟨hL, hvs⟩ => ⟨hL, vs, rfl, hvs⟩

end Inference

/-! ## A table without rows -/

namespace Rowless

def arena : Arena :=
  { vars := #[{ type := .ofTensor .int64 [false, false] }, { type := .ofTensor .int64 [false] }, { type := .ofTensor .int64 [] },
      { type := .ofTensor .int64 [] }] }

def session : Session := { arena := arena.withNode (.reshape 2 none) [⟨0⟩, ⟨1⟩] (.ofTensor .int64 [false, false]) }

def given (v : VarId) : Option Value :=
  ([.array ⟨.int64, [0, 3], #[], 0⟩, .array (.vector [2, -1] 0), .array (.whole .int64 0 0), .array (.whole .int64 3 0)] : Values)[v.idx]?

theorem ready : session.Ready given where
  wf := ((((Arena.Wf.empty.push rfl).push rfl).push rfl).push rfl).withNode (by simp)
  off _ := rfl
  fresh v hv := List.getElem?_eq_none (by simpa using Nat.le_of_succ_le hv)

theorem op_eq : session.arena.op ⟨0⟩ = .reshape 2 none := rfl

theorem inputs_eq : session.arena.inputs ⟨0⟩ = [⟨0⟩, ⟨1⟩] := rfl

theorem target : session.Target given ⟨1⟩ (.vector [2, -1] 0) := .symbolic rfl rfl rfl

theorem denotes {k : Kit} {v : VarId} {i : Int} (hv : v.idx < 5) (hty : session.arena.typeOf v = .ofTensor .int64 [])
    (h : given v = some (.array (.whole .int64 i 0))) : session.Denotes k given v (.int64, i) where
  lt := hv
  type := ⟨none, hty⟩
  value _ _ := ⟨0, .given h⟩

theorem shows_lengths {k : Kit} :
    List.Forall₂ (fun v i => session.Shows k given v (.int64, i)) [.var ⟨2⟩, .var ⟨3⟩] ([0, 3].map Int.ofNat) :=
  .cons (.var (denotes (by decide) rfl rfl)) (.cons (.var (denotes (by decide) rfl rfl)) .nil)

theorem performs {k : Kit} : (opPerform ⟨0⟩ [.array ⟨.int64, [0, 3], #[], 0⟩, .array (.vector [2, -1] 0)]).Ends k session
    (fun ys _ => ys = [.array ⟨.int64, [2, 0], #[], 0⟩]) fun _ _ => False := by
  unfold opPerform
  rw [ends_bind, ends_opOf, op_eq]
  exact rfl

attribute [irreducible] session

theorem opShapes_reshape_rowless : (opShapes .null ⟨0⟩ [some [.var ⟨2⟩, .var ⟨3⟩], none]).Ends (kit 1) session
    (fun out t => session.Later t ∧ ∃ vs, out = [some vs] ∧ t.Infers (kit 0) given vs [2, 0]) fun _ _ => False :=
  opShapes_reshape ready op_eq inputs_eq (X := ⟨.int64, [0, 3], #[], 0⟩) rfl (by simp [Fits]) (by simp [Fits, NdArray.size])
    shows_lengths (by simp [Fits]) target performs

end Rowless

end TensorGraph
