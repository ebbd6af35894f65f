import TensorGraph.Proofs.Numbers

/-!
# The terms of a gradient

The terms that a node gives to its inputs stand for the gradients of its outputs times the local derivatives, and terms
are gathered into their sum.
-/

namespace TensorGraph

open M

namespace Gradient

section Terms

variable {k : Kit} {s₀ s : Session} {τ : Ty} {d : DType} {ρ : Valuation} {c : VarId} {pat : NodeId → List (List Bool)}
  {D : Flow.Edge NodeId → ℚ} {E : Fault → Session → Prop} {n : NodeId} {u v : VarId}

@[simp] theorem ends_isDisconnected {Q : Bool → Session → Prop} :
    (isDisconnected v).Ends k s Q E ↔ Q (s.arena.typeOf v == .disconnected) s := Iff.rfl

@[simp] theorem ends_dtype {Q : Option DType → Session → Prop} : (dtype? v).Ends k s Q E ↔ Q (s.arena.typeOf v).dtype? s :=
  Iff.rfl

theorem ends_isNull (h : ∀ w, s.arena.typeOf v ≠ .null w) {Q : Bool → Session → Prop} :
    (isNull v).Ends k s Q E ↔ Q false s := by
  unfold isNull
  simp only [ends_bind, ends_typeOf, ends_pure]

theorem ends_testLevel (hoff : s.TestsOff) {Q : String → Session → Prop} :
    (settingText "compute_test_value").Ends k s Q E ↔ Q "off" s := by
  unfold M.Ends
  rw [hoff k]

theorem ends_testShapes (hoff : s.TestsOff) {Q : Option (String × String) → Session → Prop} :
    (testShapes u v).Ends k s Q E ↔ Q none s := by
  unfold testShapes testValues
  simp only [ends_bind, ends_testLevel hoff]
  exact Iff.rfl

theorem ends_protectedInputs (hwf : s₀.arena.Wf) (ha : Arithmetic k s₀ τ d ρ) (hs : s₀.Later s) (hn : n.idx < s₀.arena.nodes.size)
    (htyped : ∀ v ∈ s₀.arena.inputs n, s₀.Holds τ v) :
    (protectedInputs n).Ends k s (fun ins t => s.Later t ∧ List.Forall₂ (s₀.Stands t τ ρ) (s₀.arena.inputs n) ins)
      fun _ _ => False := by
  unfold protectedInputs
  simp only [ends_bind, ends_insOf, ends_opOf]
  rw [hs.arena.inputs hn]
  refine (mapM_later (R := fun v u t => s₀.Later t ∧ s₀.Stands t τ ρ v u) (fun v u t t' h hL' => ?_)
    fun v hv t hL => ?_).imp fun ins t h => ⟨h.1, h.2.imp fun _ _ h => h.2⟩
  · obtain ⟨hL, hst⟩ := h
    exact ⟨hL.trans hL', hst.1.later hL', fun q hq => (hst.2 q hq).grow (hL.wf hwf) hL'.arena⟩
  · have hL₀ := hs.trans hL
    have hv' : t.Holds τ v := (htyped v hv).later hL₀
    simp only [ends_bind, ends_typeOf, ends_ite]
    split
    case isTrue =>
      unfold methodVar
      rw [ends_bind]
      refine (ha.same t v hL₀ hv' ("copy", []) (by simp)).mono ?_ fun _ _ h => h.elim
      rintro _ t' ⟨u, rfl, hL', hst⟩
      exact ⟨hL', hL₀.trans hL', hst.1, fun q hq => hst.2 q (hq.grow hwf hL₀.arena)⟩
    case isFalse => exact ⟨.refl t, hL₀, hv', fun q hq => hq.grow hwf hL₀.arena⟩

theorem reads_of_mem {gs : Vars} {qs : List (Option ℚ)} {g : VarId} (hgs : List.Forall₂ (s.Reads τ ρ) gs qs) (hg : g ∈ gs) :
    ∃ q, s.Reads τ ρ g q := by
  obtain ⟨i, hi, rfl⟩ := List.mem_iff_getElem.mp hg
  exact ⟨_, hgs.get hi (hgs.length_eq ▸ hi)⟩

theorem ends_gradsInKind (ha : Arithmetic k s₀ τ d ρ) (hoff : s.TestsOff) {outs gs : Vars} {qs : List (Option ℚ)}
    (houts : ∀ v ∈ outs, s.Holds τ v) (hgs : List.Forall₂ (s.Reads τ ρ) gs qs) (hlen : outs.length = gs.length)
    {Q : Vars → Session → Prop} (hQ : Q gs s) : (gradsInKind outs gs).Ends k s Q E := by
  have hcont := DType.not_discrete_of_float ha.float
  have hread := fun g => reads_of_mem hgs (g := g)
  unfold gradsInKind
  rw [ends_bind]
  refine mapM_reads (g := Prod.snd) ?_ ?_
  · rintro ⟨v, g⟩ hvg
    obtain ⟨hv, hg⟩ := List.of_mem_zip hvg
    obtain ⟨q, hg⟩ := hread g hg
    simp only [ends_bind, ends_dtype, hg.dtype ha.number, ((houts v hv).number ha.number).dtype]
    cases q with
    | none => exact ⟨rfl, rfl⟩
    | some q =>
      simp only [Option.map_some, bne_self_eq_false, Bool.and_false, Bool.false_eq_true, if_false]
      exact ⟨rfl, rfl⟩
  rw [List.map_snd_zip (by omega), ends_bind]
  refine (Ends.forIn (I := fun rest t => s = t ∧ ∀ g ∈ rest, g ∈ gs) ⟨rfl, fun _ => id⟩ ?_).imp ?_
  · rintro g rest _ ⟨rfl, hsub⟩
    have hrest := fun g hg => hsub g (List.mem_cons_of_mem _ hg)
    obtain ⟨q, hg⟩ := hread g (hsub g List.mem_cons_self)
    simp only [ends_bind, ends_dtype, hg.dtype ha.number]
    cases q with
    | none => exact ⟨rfl, rfl, hrest⟩
    | some q =>
      simp only [Option.map_some, ends_bind, ends_check, hcont, Bool.not_false, if_true]
      exact ⟨rfl, rfl, hrest⟩
  rintro - _ ⟨rfl, -⟩
  rw [ends_bind]
  refine (Ends.forIn (I := fun rest t => s = t ∧ ∀ p ∈ rest, p ∈ outs.zip gs) ⟨rfl, fun _ => id⟩ ?_).imp ?_
  · rintro ⟨v, g⟩ rest _ ⟨rfl, hsub⟩
    have hrest := fun g hg => hsub g (List.mem_cons_of_mem _ hg)
    simp only [ends_bind, ends_typeOf]
    split <;>
      simp only [ends_bind, ends_pure, ends_isDisconnected, ends_ite, ends_testShapes hoff, ite_self, true_and] <;>
      exact hrest
  rintro - _ ⟨rfl, -⟩
  exact hQ

theorem ends_checkTerm (ha : Arithmetic k s₀ τ d ρ) (hoff : s.TestsOff) {name : String} {q : Option ℚ} {i : Nat}
    {onlyNull onlyDiscrete : Bool}
    (hv : s.Reads τ ρ v q) (hq : q.isSome = true → onlyNull = false ∧ onlyDiscrete = false) {Q : Unit → Session → Prop}
    (hQ : Q () s) : (checkTerm name u v i onlyNull onlyDiscrete).Ends k s Q E := by
  unfold checkTerm
  have hdisc := hv.isDisconnected ha.number
  have hdtype := hv.dtype ha.number
  have hnull := hv.not_null ha.number
  simp only [ends_bind, ends_typeOf]
  cases q with
  | none =>
    split <;>
      simp only [ends_bind, ends_pure, ends_ite, ends_testShapes hoff, ends_isNull hnull, ends_isDisconnected, hdisc,
        Option.isNone_none, Bool.or_true, Bool.false_eq_true, if_true, if_false] <;>
      exact hQ
  | some q =>
    obtain ⟨rfl, rfl⟩ := hq rfl
    split <;>
      simp only [ends_bind, ends_pure, ends_ite, ends_testShapes hoff, ends_isNull hnull, ends_isDisconnected, hdisc,
        Option.isNone_some, Bool.or_false, Bool.false_eq_true, if_true, if_false, ends_dtype, hdtype, Option.map_some,
        ha.float, Bool.not_true, ends_check, Bool.not_false] <;>
      exact hQ

/-- What is known of continuous outputs whose gradients stand for numbers or are disconnected. -/
def numberInfo (qs : List (Option ℚ)) : OutputInfo :=
  ⟨qs.map Option.isSome, qs.map fun _ => false, qs.map fun _ => false⟩

theorem numberInfo_only (qs : List (Option ℚ)) (row : List Bool) :
    (numberInfo qs).onlyNull row = !(numberInfo qs).connected row ∧
      (numberInfo qs).onlyDiscrete row = !(numberInfo qs).connected row := by
  simp only [OutputInfo.onlyNull, OutputInfo.onlyDiscrete, OutputInfo.connected, numberInfo, getD_map_false, Bool.not_false,
    and_self]

theorem pulled_eq {p : List (List Bool)} {D : Nat → ℚ} {qs : List (Option ℚ)} {i : Nat} :
    pulled p D qs i =
      let terms := qs.zipIdx.filterMap fun x => if Flow.connects p i x.2 then x.1.map (· * D x.2) else none
      if terms.isEmpty then none else some terms.sum := rfl

/-- Something comes back to an input if it is connected with an output that has a gradient. -/
theorem isSome_pulled {p : List (List Bool)} {D : Nat → ℚ} {qs : List (Option ℚ)} {i : Nat} :
    (pulled p D qs i).isSome = true ↔ ∃ o q, Flow.connects p i o = true ∧ qs[o]? = some (some q) := by
  have hterms : (pulled p D qs i).isSome = true ↔
      qs.zipIdx.filterMap (fun x => if Flow.connects p i x.2 then x.1.map (· * D x.2) else none) ≠ [] := by
    rw [pulled_eq]
    dsimp only
    split
    case isTrue h => simp [List.isEmpty_iff.mp h]
    case isFalse h => simpa [List.isEmpty_iff] using h
  rw [hterms]
  constructor
  · intro hne
    obtain ⟨x, hx⟩ := List.exists_mem_of_ne_nil _ hne
    obtain ⟨⟨q, o⟩, hq, hx⟩ := List.mem_filterMap.mp hx
    rw [List.mk_mem_zipIdx_iff_getElem?] at hq
    dsimp only at hx
    split at hx
    case isTrue hc =>
      obtain ⟨q', rfl, -⟩ := Option.map_eq_some_iff.mp hx
      exact ⟨o, q', hc, hq⟩
    case isFalse => cases hx
  · rintro ⟨o, q, hc, hq⟩
    exact List.ne_nil_of_mem (List.mem_filterMap.mpr
      ⟨(some q, o), List.mk_mem_zipIdx_iff_getElem?.mpr hq, by dsimp only; rw [if_pos hc]; rfl⟩)

theorem numberInfo_connected {p : List (List Bool)} {D : Nat → ℚ} {qs : List (Option ℚ)} {i : Nat} :
    (numberInfo qs).connected (p.getD i []) = (pulled p D qs i).isSome := by
  rw [Bool.eq_iff_iff, isSome_pulled]
  simp only [OutputInfo.connected, OutputInfo.along, numberInfo, List.any_eq_true, Prod.exists, List.mk_mem_zipIdx_iff_getElem?,
    Bool.and_eq_true, Bool.and_true, List.getD_eq_getElem?_getD, List.getElem?_map, Flow.connects]
  constructor
  · rintro ⟨b, o, hb, rfl, hq⟩
    cases h : qs[o]? with
    | none => rw [h] at hq; cases hq
    | some q =>
      rw [h] at hq
      obtain ⟨q, rfl⟩ := Option.isSome_iff_exists.mp hq
      exact ⟨o, q, by rw [hb]; rfl, h⟩
  · rintro ⟨o, q, hc, hq⟩
    cases h : ((p[i]?.getD [])[o]?) with
    | none => rw [h] at hc; cases hc
    | some b =>
      rw [h] at hc
      exact ⟨b, o, h, hc, by rw [hq]; rfl⟩

theorem ends_outputInfo (ha : Arithmetic k s₀ τ d ρ) {outs gs : Vars} {qs : List (Option ℚ)}
    (houts : ∀ v ∈ outs, s.Holds τ v) (hgs : List.Forall₂ (s.Reads τ ρ) gs qs) (hlen : qs.length = outs.length)
    {Q : OutputInfo → Session → Prop} (hQ : Q (numberInfo qs) s) : (outputInfo outs gs).Ends k s Q E := by
  have hhere : gs.map (fun g => !(s.arena.typeOf g == .disconnected)) = qs.map Option.isSome := by
    clear hQ hlen
    induction hgs with
    | nil => rfl
    | cons h _ ih => rw [List.map_cons, List.map_cons, ih, h.isDisconnected ha.number, Option.not_isNone]
  unfold outputInfo
  rw [ends_bind]
  refine mapM_reads (g := fun g => !(s.arena.typeOf g == .disconnected)) (fun g _ => ⟨rfl, rfl⟩) ?_
  rw [hhere, ends_bind]
  refine mapM_reads (g := fun _ => false) (fun g hg => ?_) ?_
  · obtain ⟨q, hq⟩ := reads_of_mem hgs hg
    rw [ends_isNull (hq.not_null ha.number)]
    exact ⟨rfl, rfl⟩
  rw [ends_bind]
  refine mapM_reads (g := fun _ => false) (fun v hv => ?_) ?_
  · simp only [ends_bind, ends_dtype, ((houts v hv).number ha.number).dtype, Option.any_some,
      DType.not_discrete_of_float ha.float, ends_pure, and_self]
  · have hnull : gs.map (fun _ => false) = qs.map fun _ => false := by
      rw [List.map_const', List.map_const', hgs.length_eq]
    have hdiscrete : outs.map (fun _ => false) = qs.map fun _ => false := by
      rw [List.map_const', List.map_const', hlen]
    rw [hnull, hdiscrete]
    exact hQ

theorem ends_markNull {gs : Vars} {qs : List (Option ℚ)} {row : List Bool} {Q : VarId → Session → Prop} (hQ : Q v s) :
    (markNull gs (numberInfo qs) v row).Ends k s Q E := by
  unfold markNull
  refine (Ends.foldlM_keeps (J := fun u t => v = u ∧ s = t) ⟨rfl, rfl⟩ ?_).imp ?_
  · rintro ⟨g, j⟩ - _ _ ⟨rfl, rfl⟩
    simp only [ends_bind, ends_isDisconnected, numberInfo, getD_map_false, Bool.false_and, Bool.false_eq_true, if_false]
    exact ⟨rfl, rfl⟩
  · rintro _ _ ⟨rfl, rfl⟩
    exact hQ

theorem ends_checkConnected {q : Option ℚ} (ha : Arithmetic k s₀ τ d ρ) (hv : s.Reads τ ρ v q) {name : String} {given : Bool}
    {i : Nat} {Q : Unit → Session → Prop} (hQ : Q () s) : (checkConnected name given q.isSome i v).Ends k s Q E := by
  unfold checkConnected
  simp only [ends_bind, ends_isDisconnected, hv.isDisconnected ha.number, Option.not_isNone]
  cases q <;> exact hQ

theorem connectionsOf_ends (hp : Pullbacks k s₀ τ ρ c pat D) (hs : s₀.Later s) (hn : (dataflow s₀.arena).Behind c n)
    (hlt : n.idx < s₀.arena.nodes.size) :
    (connectionsOf n).Ends k s (fun p t => s.Later t ∧ p = pat n) fun _ _ => False := by
  unfold connectionsOf
  rw [ends_bind]
  refine (hp.connections s n hs hn).imp fun p t ⟨hL, hpat⟩ => ?_
  cases p with
  | some p => exact ⟨hL, hpat.symm⟩
  | none =>
    have hL' := hs.trans hL
    simp only [ends_bind, ends_insOf, ends_outsOf, hL'.arena.inputs hlt, hL'.arena.outputs hlt]
    exact ⟨hL, hpat.symm⟩

variable {gs : Vars} {qs : List (Option ℚ)} (hwf : s₀.arena.Wf) (ha : Arithmetic k s₀ τ d ρ) (hp : Pullbacks k s₀ τ ρ c pat D)
  (hs : s₀.Later s) (hn : (dataflow s₀.arena).Behind c n) (hlt : n.idx < s₀.arena.nodes.size)
  (htyped : ∀ v, v ∈ s₀.arena.inputs n ∨ v ∈ s₀.arena.outputs n → s₀.Holds τ v)
  (hgs : List.Forall₂ (s.Reads τ ρ) gs qs) (hlen : qs.length = (s₀.arena.outputs n).length)

include hwf ha hp hs hn hlt htyped hgs hlen

theorem ends_pulledTerms (hoff : s.TestsOff) :
    (pulledTerms n (pat n) gs (numberInfo qs)).Ends k s (fun r t => s.Later t ∧ r.2.length = (s₀.arena.inputs n).length ∧
      ∀ (i : Nat) u, r.2[i]? = some u → t.Reads τ ρ u (pulled (pat n) (fun o => D ⟨n, i, o⟩) qs i)) fun _ _ => False := by
  have hconn : ∀ i, (pulled (pat n) (fun o => D ⟨n, i, o⟩) qs i).isSome = true →
      ∃ row ∈ pat n, (numberInfo qs).connected row = true := by
    intro i hi
    rw [← numberInfo_connected, List.getD_eq_getElem?_getD] at hi
    cases h : (pat n)[i]? with
    | none => rw [h] at hi; cases hi
    | some row => exact ⟨row, List.mem_of_getElem? h, by rw [h] at hi; exact hi⟩
  unfold pulledTerms
  simp only [ends_bind, ends_insOf, hs.arena.inputs hlt]
  split
  case isTrue hnone =>
    rw [ends_bind]
    refine (mapM_later (R := fun _ u t => t.Reads τ ρ u none)
      (fun _ u t t' hu hL => ⟨hu.1.trans_le hL.arena.vars_le, (hL.arena.typeOf hu.1).trans hu.2⟩)
      fun _ _ t _ => newVar_ends .disconnected none).imp fun us t h => ⟨h.1, h.2.length_eq.symm, fun i u hu => ?_⟩
    have hus := h.2
    have hpull : pulled (pat n) (fun o => D ⟨n, i, o⟩) qs i = none := by
      by_contra hne
      obtain ⟨row, hrow, hc⟩ := hconn i (Option.isSome_iff_ne_none.mpr hne)
      have hmem : true ∈ (pat n).map (numberInfo qs).connected := List.mem_map.mpr ⟨row, hrow, hc⟩
      rw [List.contains_iff_mem.mpr hmem] at hnone
      cases hnone
    rw [hpull]
    obtain ⟨hi, rfl⟩ := List.getElem?_eq_some_iff.mp hu
    exact hus.get (hus.length_eq.symm ▸ hi) hi
  case isFalse hsome =>
    have hmem : true ∈ (pat n).map (numberInfo qs).connected := by simpa [List.contains_iff_mem] using hsome
    obtain ⟨row, hrow, hc⟩ := List.mem_map.mp hmem
    have hdefined : ((pat n).map (numberInfo qs).onlyNull).contains false = true :=
      List.contains_iff_mem.mpr (List.mem_map.mpr ⟨row, hrow, by rw [(numberInfo_only qs row).1, hc]; rfl⟩)
    have hwhere : ∃ i, (pulled (pat n) (fun o => D ⟨n, i, o⟩) qs i).isSome = true := by
      obtain ⟨i, hi, rfl⟩ := List.mem_iff_getElem.mp hrow
      refine ⟨i, ?_⟩
      rw [← numberInfo_connected, List.getD_eq_getElem?_getD, List.getElem?_eq_getElem hi]
      exact hc
    simp only [hdefined, Bool.not_true, Bool.false_eq_true, if_false, ends_bind, ends_opOf, ends_outsOf,
      hs.arena.op hlt, hs.arena.outputs hlt]
    refine (ends_protectedInputs hwf ha hs hlt fun v hv => htyped v (.inl hv)).imp ?_
    rintro ins t ⟨hL, hins⟩
    have hs' := hs.trans hL
    have hgs' : List.Forall₂ (t.Reads τ ρ) gs qs := hgs.imp fun _ _ h => h.later (hs.wf hwf) hL
    refine ends_gradsInKind ha (hoff.later hL) (fun v hv => (htyped v (.inr hv)).later hs') hgs'
      (hlen.symm.trans hgs.length_eq.symm) ?_
    refine (hp.pullback t n ins gs qs hs' hn hins hgs' hlen hwhere).imp ?_
    rintro ts u ⟨hL', hlen', hts⟩
    simp only [hlen', bne_self_eq_false, Bool.false_eq_true, if_false]
    exact ⟨hL.trans hL', hlen'.trans hins.length_eq.symm, hts⟩

theorem nodeTerms_ends (hoff : s₀.TestsOff) :
    (nodeTerms n gs).Ends k s (fun ts t => s.Later t ∧ ts.length = (s₀.arena.inputs n).length ∧
      ∀ (i : Nat) u, ts[i]? = some u → t.Reads τ ρ u (pulled (pat n) (fun o => D ⟨n, i, o⟩) qs i)) fun _ _ => False := by
  unfold nodeTerms
  simp only [ends_bind, ends_opOf, ends_outsOf]
  change (connections? n).Ends k s _ _
  refine (hp.connections s n hs hn).imp fun given t₁ h₁ => (connectionsOf_ends hp (hs.trans h₁.1) hn hlt).imp ?_
  rintro _ t₂ ⟨hL₂, rfl⟩
  have hL₂' := h₁.1.trans hL₂
  have hs₂ := hs.trans hL₂'
  have hgs₂ : List.Forall₂ (t₂.Reads τ ρ) gs qs := hgs.imp fun _ _ h => h.later (hs.wf hwf) hL₂'
  rw [hs.arena.outputs hlt]
  refine ends_outputInfo ha (fun v hv => (htyped v (.inr hv)).later hs₂) hgs₂ hlen ?_
  refine (ends_pulledTerms hwf ha hp hs₂ hn hlt htyped hgs₂ hlen (hoff.later hs₂)).imp ?_
  rintro ⟨ins, ts⟩ t₃ ⟨hL₃, hlen₃, hts⟩
  have hrows : ts.length = (pat n).length := hlen₃.trans (hp.rows n hn).symm
  refine mapM_reads (g := Prod.fst) (fun p _ => ends_markNull ⟨rfl, rfl⟩) ?_
  rw [List.map_fst_zip hrows.le]
  have hread : ∀ x ∈ ts.zipIdx, t₃.Reads τ ρ x.1 (pulled (pat n) (fun o => D ⟨n, x.2, o⟩) qs x.2) := fun x hx =>
    hts x.2 x.1 (List.mem_zipIdx_iff_getElem?.mp hx)
  refine forIn_reads (fun x hx => ends_checkTerm ha (hoff.later (hs₂.trans hL₃)) (hread x hx) (fun hq => ?_) rfl) ?_
  · rw [(numberInfo_only qs _).1, (numberInfo_only qs _).2, numberInfo_connected (D := fun o => D ⟨n, x.2, o⟩), hq]
    exact ⟨rfl, rfl⟩
  refine forIn_reads (fun x hx => ?_) ?_
  · rw [numberInfo_connected (D := fun o => D ⟨n, x.2, o⟩)]
    exact ends_checkConnected ha (hread x hx) rfl
  exact ⟨hL₂'.trans hL₃, hlen₃, hts⟩

end Terms

/-! ## Sums of terms -/

section Sums

variable {k : Kit} {s₀ s : Session} {τ : Ty} {d : DType} {ρ : Valuation} {E : Fault → Session → Prop} {a b u v : VarId} {p q : ℚ}

theorem applyNode_ends {o : Op} {args : Values} {kw : Kw} {Q : NodeId → Session → Prop}
    (h : (M.ask fun k => k.makeNode o args kw).Ends k s (fun n t => t.TestsOff ∧ Q n t) E) :
    (applyNode o args kw).Ends k s Q E := by
  unfold applyNode
  rw [ends_bind]
  refine h.imp fun n t ⟨hoff, hQ⟩ => ?_
  rw [ends_bind, ends_testLevel hoff]
  exact hQ

theorem operatorFamily_ends {Q : OperatorFamily → Session → Prop} (hQ : ∀ f, Q f s) : (operatorFamily v).Ends k s Q E := by
  unfold operatorFamily
  simp only [ends_bind, ends_typeOf]
  split <;> exact hQ _

theorem ends_ndim (h : (s.arena.typeOf v).Number d) {Q : Option Nat → Session → Prop} :
    (ndim? v).Ends k s Q E ↔ Q (some 0) s := by
  unfold ndim?
  simp only [ends_bind, ends_typeOf]
  generalize s.arena.typeOf v = σ at h
  cases h <;> exact Iff.rfl

variable (hwf : s₀.arena.Wf) (ha : Arithmetic k s₀ τ d ρ) (hoff : s₀.TestsOff) (hs : s₀.Later s)

include hwf ha hoff hs

/-- The node that adds two numbers has their sum as its only result. -/
theorem sumNode_ends (hp : s.Reads τ ρ a (some p)) (hq : s.Reads τ ρ b (some q)) :
    (applyNode τ.sumOp [.var a, .var b]).Ends k s
      (fun n t => s.Later t ∧ ∃ u, t.arena.outputs n = [u] ∧ t.Reads τ ρ u (some (p + q))) fun _ _ => False := by
  refine applyNode_ends ((ha.sum s a b hs hp.1 hq.1).imp fun n t ⟨hL, hop, hins, u, houts, hu⟩ => ?_)
  refine ⟨hoff.later (hs.trans hL), hL, u, houts, hu, ?_⟩
  have hwf := hs.wf hwf
  rw [← ha.plus p q, ← hop]
  exact .pair (hL.wf hwf) houts hins (hp.2.grow hwf hL.arena) (hq.2.grow hwf hL.arena)

theorem operate_add_ends (hp : s.Reads τ ρ a (some p)) (hq : s.Reads τ ρ b (some q)) :
    (operate .add a b).Ends k s
      (fun r t => ∃ u : VarId, r = u ∧ s.Later t ∧ t.Reads τ ρ u (some (p + q))) fun _ _ => False := by
  have hnode := sumNode_ends hwf ha hoff hs hp hq
  obtain ⟨hnum, hop⟩ := ha.number.of_beq hp.1.2
  rw [← hop] at hnode
  have hfamily : ∀ {Q : OperatorFamily → Session → Prop} {E}, (operatorFamily a).Ends k s Q E ↔
      Q (if (s.arena.typeOf a).isTensor then .tensor else .scalar) s := by
    intro Q E
    unfold operatorFamily
    simp only [ends_bind, ends_typeOf]
    generalize s.arena.typeOf a = σ at hnum
    cases hnum <;> exact Iff.rfl
  generalize s.arena.typeOf a = σ at hnum hnode hfamily
  unfold operate
  simp only [ends_bind, hfamily]
  refine operatorFamily_ends fun f => ?_
  cases hnum with
  | tensor name =>
    simp only [Ty.isTensor, if_true]
    change (symbolicOperator .add a b).Ends k s _ _
    unfold symbolicOperator
    simp only [ends_bind, hfamily, Ty.isTensor, if_true]
    simp only [ends_tryCatch]
    change ((Tensor.ew "add" .add [.var a, .var b] >>= fun v => Pure.pure (Value.var v)) >>= _).Ends k s _ _
    unfold Tensor.ew applyTo
    simp only [ends_bind]
    refine hnode.mono ?_ fun _ _ h => h.elim
    rintro n t ⟨hL, u, houts, hu⟩
    rw [ends_outsOf, houts]
    exact ⟨u, rfl, hL, hu⟩
  | scalar =>
    simp only [Ty.isTensor, Bool.false_eq_true, if_false]
    change (symbolicOperator .add a b).Ends k s _ _
    unfold symbolicOperator
    simp only [ends_bind, hfamily, Ty.isTensor, Bool.false_eq_true, if_false]
    change (callOp (.scalar .add) [.var a, .var b]).Ends k s _ _
    unfold callOp
    change (applyNode (.scalar .add) [.var a, .var b] [] >>= _).Ends k s _ _
    rw [ends_bind]
    refine hnode.imp ?_
    rintro n t ⟨hL, u, houts, hu⟩
    rw [ends_bind, ends_outsOf, houts]
    exact ⟨u, rfl, hL, hu⟩

/-- Terms that stand for numbers are gathered into one that stands for their sum. -/
theorem gather_ends (hv : s.Holds τ v) {cost : Option String} {l : List (NodeId × VarId)} {qs : List ℚ} (hne : l ≠ [])
    (hl : List.Forall₂ (fun x q => s.Reads τ ρ x.2 (some q)) l qs) :
    (gather cost v l).Ends k s (fun g t => s.Later t ∧ t.Reads τ ρ g (some qs.sum)) fun _ _ => False := by
  unfold gather
  rw [ends_bind]
  refine (Ends.loop (I := fun rest st t => s.Later t ∧ st.1 = [] ∧
    ∃ rs, List.Forall₂ (fun x q => s.Reads τ ρ x.2 (some q)) rest rs ∧
      ((rest = l ∧ st.2 = none ∧ rs = qs) ∨
        ∃ u q, st.2 = some u ∧ t.Reads τ ρ u (some q) ∧ q + rs.sum = qs.sum))
    ⟨.refl s, rfl, qs, hl, .inl ⟨rfl, rfl, rfl⟩⟩ ?_).imp ?_
  · rintro ⟨n, x⟩ rest ⟨nulls, sum⟩ t ⟨hL, rfl, rs, hrest, hst⟩
    cases hrest with
    | @cons _ q _ rs hx hrest =>
      have hx := hx.later (hs.wf hwf) hL
      have hvt := (hv.later hL).number ha.number
      simp only [ends_bind, ends_isNull (hx.not_null ha.number), ends_isDisconnected, hx.isDisconnected ha.number,
        Option.isNone_some, Bool.not_false, if_true, Bool.false_eq_true, if_false, ends_ndim hvt,
        ends_ndim (hx.1.number ha.number), bne_self_eq_false]
      rcases hst with ⟨hfirst, hsum, hrs⟩ | ⟨u, p, hsum, hu, htotal⟩ <;> obtain rfl : sum = _ := hsum
      · exact ⟨_, rfl, hL, rfl, rs, hrest, .inr ⟨x, q, rfl, hx, by rw [← hrs, List.sum_cons]⟩⟩
      · dsimp only
        rw [ends_bind]
        refine (operate_add_ends hwf ha hoff (hs.trans hL) hu hx).imp ?_
        rintro _ t' ⟨w, rfl, hL', hw⟩
        refine ⟨_, rfl, hL.trans hL', rfl, rs, hrest, .inr ⟨w, p + q, rfl, hw, ?_⟩⟩
        rw [← htotal, List.sum_cons, add_assoc]
  · rintro ⟨nulls, sum⟩ t ⟨hL, rfl, rs, hrest, hst⟩
    cases hrest
    rcases hst with ⟨hnil, -⟩ | ⟨u, q, hsum, hu, htotal⟩
    · exact absurd hnil.symm hne
    · obtain rfl : sum = _ := hsum
      rw [List.sum_nil, add_zero] at htotal
      rw [← htotal]
      simp only [ends_bind, ends_pure, ends_varInfo]
      split
      · rw [ends_bind]
        exact (setName_ends u _).imp fun _ t' hL' => ⟨hL.trans hL', hu.later (hL.wf (hs.wf hwf)) hL'⟩
      · exact ⟨hL, hu⟩

end Sums

end Gradient

end TensorGraph
