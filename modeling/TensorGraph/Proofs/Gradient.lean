import Mathlib.Logic.Relation
import TensorGraph.Proofs.Flow
import TensorGraph.Proofs.Terms

/-!
# Gradients of expressions

Where every operator behind a cost gives back exact terms, the gradient of the cost with respect to a variable stands for
the sum over all paths from the variable to the cost, and a variable counts as disconnected exactly if there is no
such path.
-/

namespace TensorGraph

open M

namespace Gradient

/-! ## The dataflow of an arena -/

section Arena

variable {a : Arena} {c v : VarId} {n : NodeId} {o : Nat}

theorem maker_eq_some_iff : (dataflow a).maker v = some (n, o) ↔ a.owner v = some n ∧ (a.var v).index = o := by
  change (a.var v).owner.map (fun n => (n, (a.var v).index)) = some (n, o) ↔ (a.var v).owner = some n ∧ _
  cases (a.var v).owner <;> simp

theorem dataflow_wired (hwf : a.Wf) : (dataflow a).Wired := fun n o y => (hwf.result n o y).trans maker_eq_some_iff.symm

theorem behind_lt (hwf : a.Wf) (h : (dataflow a).Behind c n) : n.idx < a.nodes.size := by
  cases h with
  | maker h => exact hwf.node_lt (maker_eq_some_iff.mp h).1
  | feeds _ _ h => exact hwf.node_lt (maker_eq_some_iff.mp h).1

/-- Nodes without cycles are ranked by the number of nodes that feed them. -/
theorem exists_rank (hwf : a.Wf) (hac : ∀ n, (dataflow a).Behind c n → ¬ Relation.TransGen a.Feeds n n) :
    ∃ rank : NodeId → Nat, (dataflow a).Ranked c rank ∧ ∀ n, rank n ≤ a.nodes.size := by
  refine ⟨a.depth, ⟨fun n m o v hn hv hm => ?_⟩, a.depth_le⟩
  exact Arena.depth_lt_depth hwf hv (maker_eq_some_iff.mp hm).1 (hac m (.feeds hn hv hm))

end Arena

/-! ## The gradients of a request -/

section Run

variable {k : Kit} {s₀ s : Session} {τ : Ty} {d : DType} {ρ : Valuation} {c v : VarId} {pat : NodeId → List (List Bool)}
  {D : Flow.Edge NodeId → ℚ} {blocked : VarId → Bool} {wrt : Vars} {uses : Std.HashMap VarId (List (NodeId × List Nat))}
  {E : Fault → Session → Prop} {n : NodeId} {i : Nat} {rank : NodeId → Nat}

open Classical in
/-- The derivative of a cost by a variable, if some path leads from the variable to the cost. -/
noncomputable def derivative (d : Flow.Dataflow VarId NodeId) (pat : NodeId → List (List Bool)) (blocked : VarId → Bool)
    (D : Flow.Edge NodeId → ℚ) (c v : VarId) : Option ℚ :=
  if Flow.Reaches d pat blocked c v then some (Flow.pathSum d pat blocked D c v) else none

/-- The variables whose gradients are asked for in earnest. -/
def Wanted (d : Flow.Dataflow VarId NodeId) (pat : NodeId → List (List Bool)) (blocked : VarId → Bool)
    (uses : Std.HashMap VarId (List (NodeId × List Nat))) (c v : VarId) : Prop :=
  uses.contains v = true ∨ v = c ∨ ¬ Flow.Reaches d pat blocked c v

theorem sum_filterMap_zipIdx {qs : List (Option ℚ)} {f : Option ℚ × Nat → Option ℚ} :
    (qs.zipIdx.filterMap f).sum = ∑ o ∈ Finset.range qs.length, (qs[o]?.bind fun q => f (q, o)).getD 0 := by
  have hmap : ∀ l : List (Option ℚ × Nat), (l.filterMap f).sum = (l.map fun x => (f x).getD 0).sum := by
    intro l
    induction l with
    | nil => rfl
    | cons x l ih => cases h : f x <;> simp [h, ih]
  have hlist : qs.zipIdx.map (fun x => (f x).getD 0) =
      (List.range qs.length).map fun o => (qs[o]?.bind fun q => f (q, o)).getD 0 := by
    refine List.ext_getElem (by simp) fun o h1 h2 => ?_
    have ho : o < qs.length := by simpa using h1
    simp [ho]
  rw [hmap, hlist, ← List.sum_toFinset _ List.nodup_range]
  exact Finset.sum_congr (by ext; simp) fun _ _ => rfl

/-- Where the gradients of the outputs are the derivatives by them, what comes back to an input is what its edges carry. -/
theorem pulled_eq_edgeSum (hu : Flow.Relevant (dataflow s₀.arena) pat blocked c wrt uses) (hv : uses.contains v = true)
    (huse : Flow.IsUse (dataflow s₀.arena) pat blocked c v (n, i)) {qs : List (Option ℚ)}
    (hqs : List.Forall₂ (fun y q => Wanted (dataflow s₀.arena) pat blocked uses c y →
      q = derivative (dataflow s₀.arena) pat blocked D c y) (s₀.arena.outputs n) qs) :
    pulled (pat n) (fun o => D ⟨n, i, o⟩) qs i = some (Flow.edgeSum (dataflow s₀.arena) pat blocked D c n i) := by
  -- every output that the input is connected with is wanted
  have hval : ∀ o y, (s₀.arena.outputs n)[o]? = some y → Flow.connects (pat n) i o = true →
      qs[o]? = some (derivative (dataflow s₀.arena) pat blocked D c y) := by
    intro o y hy hc
    obtain ⟨ho, rfl⟩ := List.getElem?_eq_some_iff.mp hy
    set y := (s₀.arena.outputs n)[o]
    have ho' : o < qs.length := hqs.length_eq ▸ ho
    have hw : Wanted (dataflow s₀.arena) pat blocked uses c y := by
      by_cases hr : Flow.Reaches (dataflow s₀.arena) pat blocked c y
      · exact (Flow.reaches_iff.mp hr).elim (fun h => .inr (.inl h)) fun h => .inl (hu.onwards v hv (n, i) huse o y hy hc h)
      · exact .inr (.inr hr)
    rw [List.getElem?_eq_getElem ho']
    exact congrArg some (hqs.get ho ho' hw)
  have hsome : (pulled (pat n) (fun o => D ⟨n, i, o⟩) qs i).isSome = true := by
    obtain ⟨o, y, hl, hy⟩ := huse
    refine isSome_pulled.mpr ⟨o, Flow.pathSum (dataflow s₀.arena) pat blocked D c y, hl.joined, (hval o y hl.target hl.joined).trans ?_⟩
    rw [derivative, if_pos hy]
  have hsum : pulled (pat n) (fun o => D ⟨n, i, o⟩) qs i = some (qs.zipIdx.filterMap fun x =>
      if Flow.connects (pat n) i x.2 then x.1.map (· * D ⟨n, i, x.2⟩) else none).sum := by
    rw [pulled_eq] at hsome ⊢
    dsimp only at hsome ⊢
    split at hsome
    case isTrue => cases hsome
    case isFalse h => rw [if_neg h]
  rw [hsum, sum_filterMap_zipIdx, Flow.edgeSum, ← hqs.length_eq]
  refine congrArg some (Finset.sum_congr rfl fun o ho => ?_)
  obtain ⟨y, hy⟩ : ∃ y, ((dataflow s₀.arena).outputs n)[o]? = some y := ⟨_, List.getElem?_eq_getElem (Finset.mem_range.mp ho)⟩
  split
  case isTrue hc =>
    rw [hval o y hy hc, hy, derivative]
    split
    case isTrue => simp
    case isFalse hr => simp [Flow.pathSum_of_not_reaches hr]
  case isFalse => cases qs[o]? <;> simp

variable (s₀ τ ρ c pat D blocked uses)

/-- What a gradient has to be. -/
def GradOk (s : Session) (v g : VarId) : Prop :=
  s.arena.Wf ∧ ∃ q, s.Reads τ ρ g q ∧
    (Wanted (dataflow s₀.arena) pat blocked uses c v → q = derivative (dataflow s₀.arena) pat blocked D c v)

/-- What the terms of a node have to be. -/
def TermsOk (s : Session) (n : NodeId) (ts : Vars) : Prop :=
  s.arena.Wf ∧ ∀ i x, uses.contains x = true → Flow.IsUse (dataflow s₀.arena) pat blocked c x (n, i) →
    ∃ u, ts[i]? = some u ∧ s.Reads τ ρ u (some (Flow.edgeSum (dataflow s₀.arena) pat blocked D c n i))

variable {s₀ τ ρ c pat D blocked uses}

/-- The terms of the uses of a variable stand for what the edges carry. -/
theorem gathered_reads (hv : uses.contains v = true)
    {nodes : List (NodeId × List Nat)} {l : List (NodeId × VarId)}
    (huse : ∀ q ∈ Flow.usePairs nodes, Flow.IsUse (dataflow s₀.arena) pat blocked c v q)
    (h : Flow.Gathered (TermsOk s₀ τ ρ c pat D blocked uses s) nodes l) :
    List.Forall₂ (fun x q => s.Reads τ ρ x.2 (some q)) l
      ((Flow.usePairs nodes).map fun p => Flow.edgeSum (dataflow s₀.arena) pat blocked D c p.1 p.2) := by
  induction h with
  | nil => exact .nil
  | @cons n is ts nodes l hts _ ih =>
    have hrest := ih fun q hq => huse q (List.mem_append_right _ hq)
    rw [Flow.usePairs, List.flatMap_cons, List.map_append]
    refine List.rel_append ?_ hrest
    have hhead : ∀ i ∈ is, Flow.IsUse (dataflow s₀.arena) pat blocked c v (n, i) := fun i hi =>
      huse _ (List.mem_append_left _ (List.mem_map.mpr ⟨i, hi, rfl⟩))
    clear ih hrest huse
    induction is with
    | nil => exact .nil
    | cons i is ih =>
      obtain ⟨u, hi, hr⟩ := hts.2 i v hv (hhead i List.mem_cons_self)
      rw [List.filterMap_cons_some (by rw [hi]; rfl)]
      exact .cons hr (ih fun j hj => hhead j (List.mem_cons_of_mem _ hj))

/-- What is asked of a request: a cost that depends, without cycles, on numbers of one exact type only, and variables of that
type. -/
structure Differentiable (k : Kit) (s : Session) (τ : Ty) (d : DType) (ρ : Valuation) (pat : NodeId → List (List Bool))
    (D : Flow.Edge NodeId → ℚ) (c : VarId) (wrt : Vars) : Prop where
  wf : s.arena.Wf
  acyclic : ∀ n, (dataflow s.arena).Behind c n → ¬ Relation.TransGen s.arena.Feeds n n
  cost : s.Holds τ c
  wrt : ∀ v ∈ wrt, s.Holds τ v
  typed : ∀ n, (dataflow s.arena).Behind c n → ∀ v, v ∈ s.arena.inputs n ∨ v ∈ s.arena.outputs n → s.Holds τ v
  testsOff : s.TestsOff
  arithmetic : Arithmetic k s τ d ρ
  pullbacks : Pullbacks k s τ ρ c pat D

/-- How deep the gradient of a variable lies. -/
def depth (d : Flow.Dataflow VarId NodeId) (rank : NodeId → Nat) (top : Nat) (v : VarId) : Nat :=
  (d.maker v).elim (2 * top + 2) fun p => 2 * (top - rank p.1)

theorem depth_le (d : Flow.Dataflow VarId NodeId) (rank : NodeId → Nat) (top : Nat) (v : VarId) :
    depth d rank top v ≤ 2 * top + 2 := by
  unfold depth
  cases d.maker v with
  | none => exact le_rfl
  | some p =>
    change 2 * (top - rank p.1) ≤ _
    omega

theorem lawful (h : Differentiable k s₀ τ d ρ pat D c wrt)
    (hmix : Flow.Unmixed (dataflow s₀.arena) pat blocked c)
    (hr : (dataflow s₀.arena).Ranked c rank) {top : Nat} (htop : ∀ n, rank n ≤ top)
    (hu : Flow.Relevant (dataflow s₀.arena) pat blocked c wrt uses) (cost : Option String) :
    (backprop s₀.arena uses cost).Lawful k Session.Later s₀ (· = c)
      (GradOk s₀ τ ρ c pat D blocked uses) (TermsOk s₀ τ ρ c pat D blocked uses)
      (fun v => v ∈ wrt ∨ ∃ n, (dataflow s₀.arena).Behind c n ∧ v ∈ s₀.arena.outputs n)
      ((dataflow s₀.arena).Behind c) (depth (dataflow s₀.arena) rank top) (fun n => 2 * (top - rank n) + 1)
      fun _ _ => False := by
  have hwired := dataflow_wired h.wf
  have hheld : ∀ v, (v ∈ wrt ∨ ∃ n, (dataflow s₀.arena).Behind c n ∧ v ∈ s₀.arena.outputs n) → s₀.Holds τ v := by
    rintro v (hv | ⟨n, hn, hv⟩)
    · exact h.wrt v hv
    · exact h.typed n hn v (.inr hv)
  refine ⟨.refl, fun _ _ _ => .trans, ?_, ?_, ?_, ?_, ?_, ?_, ?_⟩
  · rintro s t v g ⟨hwf, q, hq, hw⟩ hL
    exact ⟨hL.wf hwf, q, hq.later hwf hL, hw⟩
  · rintro s t n ts ⟨hwf, hts⟩ hL
    refine ⟨hL.wf hwf, fun i x hx hi => ?_⟩
    obtain ⟨u, hu, hr⟩ := hts i x hx hi
    exact ⟨u, hu, hr.later hwf hL⟩
  · intro s v hs _ hv hnone
    have hnone : uses[v]? = none := hnone
    have hwf := hs.wf h.wf
    refine (newVar_ends .disconnected none).imp fun g t ⟨hL, hlt, hty⟩ => ⟨hL, hL.wf hwf, none, ⟨hlt, hty⟩, ?_⟩
    rintro (hin | rfl | hno)
    · rw [Std.HashMap.contains_eq_isSome_getElem?, hnone] at hin
      cases hin
    · exact (hv rfl).elim
    · rw [derivative, if_neg hno]
  · intro s v nodes l hs hask hv hnodes hl
    have hnodes : uses[v]? = some nodes := hnodes
    have hin : uses.contains v = true := by rw [Std.HashMap.contains_eq_isSome_getElem?, hnodes]; rfl
    have hex := hu.exact v nodes hnodes
    obtain ⟨q, hq⟩ := hu.used v hin
    have hreads := gathered_reads hin (fun q => (hex q).mp) hl
    have hne : l ≠ [] := by
      rintro rfl
      have hlen := hreads.length_eq
      rw [List.length_map, List.length_nil] at hlen
      exact List.ne_nil_of_mem ((hex q).mpr hq) (List.length_eq_zero_iff.mp hlen.symm)
    refine (gather_ends h.wf h.arithmetic h.testsOff hs ((hheld v hask).later hs) hne hreads).imp fun g t ⟨hL, hg⟩ => ?_
    refine ⟨hL, hL.wf (hs.wf h.wf), _, hg, fun _ => ?_⟩
    rw [derivative, if_pos (Flow.reaches_iff.mpr (.inr ⟨q, hq⟩)),
      Flow.pathSum_eq hwired hr hmix hv (hu.listed v nodes hnodes).nodup hex]
  · intro s n gs hs hn hgs
    obtain ⟨qs, hqs, hval⟩ : ∃ qs, List.Forall₂ (s.Reads τ ρ) gs qs ∧
        List.Forall₂ (fun y q => Wanted (dataflow s₀.arena) pat blocked uses c y →
          q = derivative (dataflow s₀.arena) pat blocked D c y) (s₀.arena.outputs n) qs :=
      exists_between (hgs.imp fun _ _ hg => hg.2)
    have hlen : qs.length = (s₀.arena.outputs n).length := hqs.length_eq.symm.trans hgs.length_eq.symm
    refine (nodeTerms_ends h.wf h.arithmetic h.pullbacks hs hn (behind_lt h.wf hn) (h.typed n hn) hqs hlen h.testsOff).imp ?_
    rintro ts t ⟨hL, hts, hread⟩
    refine ⟨hL, hL.wf (hs.wf h.wf), fun i x hx hi => ?_⟩
    have hlt : i < ts.length := by
      obtain ⟨o, y, hl, -⟩ := id hi
      exact hts ▸ (List.getElem?_eq_some_iff.mp hl.source).1
    refine ⟨ts[i], List.getElem?_eq_getElem hlt, ?_⟩
    rw [← pulled_eq_edgeSum hu hx hi hval]
    exact hread i _ (List.getElem?_eq_getElem hlt)
  · intro v nodes _ hnodes p hp
    obtain ⟨i, hi⟩ := List.exists_mem_of_ne_nil p.2 ((hu.listed v nodes hnodes).inputs p hp).2
    obtain ⟨o, y, hl, hy⟩ := (hu.exact v nodes hnodes (p.1, i)).mp (Flow.mem_usePairs.mpr ⟨p.2, hp, hi⟩)
    have hb := hl.behind hwired hy
    refine ⟨hb, ?_⟩
    have hle := htop p.1
    unfold depth
    cases hm : (dataflow s₀.arena).maker v with
    | none =>
      change _ < 2 * top + 2
      omega
    | some q =>
      have := hr.rises p.1 q.1 q.2 v hb (List.mem_of_getElem? hl.source) hm
      change _ < 2 * (top - rank q.1)
      omega
  · intro n hn y hy
    refine ⟨.inr ⟨n, hn, hy⟩, ?_⟩
    obtain ⟨o, ho⟩ := List.getElem?_of_mem hy
    rw [depth, (hwired n o y).mp ho]
    exact Nat.lt_succ_self _

/-! ## From the request to the answers -/

theorem methodVar_ends {name : String} {args : Values} {kw : Kw} {R : VarId → Session → Prop}
    (h : (callMethod v name args kw).Ends k s (fun x t => ∃ u : VarId, x = u ∧ R u t) E) :
    (methodVar v name args kw).Ends k s R E := by
  unfold methodVar
  rw [ends_bind]
  refine h.imp ?_
  rintro _ t ⟨u, rfl, hu⟩
  exact hu

theorem DType.continuous_of_float (h : d.isFloat = true) : d.isContinuous = true := by
  rw [DType.isContinuous, h, Bool.true_or]

/-- The gradient of a cost by itself is one. -/
theorem costGrad_ends (h : Differentiable k s₀ τ d ρ pat D c wrt) {r : Request} (hknown : r.known = []) (hs : s₀.Later s) :
    (costGrad r c).Ends k s (fun g t => s.Later t ∧ t.Reads τ ρ g (some 1)) fun _ _ => False := by
  have ha := h.arithmetic
  have hc := h.cost.later hs
  unfold costGrad floatOnes
  simp only [hknown, List.lookup_nil, ends_bind, ends_dtype, (hc.number ha.number).dtype, ha.float, if_true, ends_pure]
  refine methodVar_ends ((ha.one s c hs hc).imp ?_)
  rintro _ t ⟨u, hx, hL, hu⟩
  refine ⟨u, hx, ?_⟩
  simp only [hu.dtype ha.number, Option.map_some, ((hc.later hL).number ha.number).dtype, DType.continuous_of_float ha.float, if_true]
  rw [ends_bind]
  refine methodVar_ends ((ha.same t u (hs.trans hL) hu.1 ("astype", [Value.str d.name]) (by simp)).imp ?_)
  rintro _ t' ⟨u', rfl, hL', hst⟩
  have hread : t'.Reads τ ρ u' (some 1) := ⟨hst.1, hst.2 1 hu.2⟩
  refine ⟨u', rfl, ?_⟩
  rw [ends_bind, ends_dtype]
  simp only [hread.dtype ha.number, Option.map_some, DType.continuous_of_float ha.float]
  exact ⟨hL.trans hL', hread⟩

theorem floatZeros_ends (ha : Arithmetic k s₀ τ d ρ) (hs : s₀.Later s) (hv : s.Holds τ v) :
    (floatZeros v).Ends k s (fun u t => s.Later t ∧ t.Reads τ ρ u (some 0)) fun _ _ => False := by
  unfold floatZeros
  rw [ends_bind]
  refine methodVar_ends ((ha.zero s v hs hv).imp fun _ t ⟨u, hx, hL, hu⟩ => ⟨u, hx, ?_⟩)
  unfold dtypeOf
  simp only [ends_bind, ends_typeOf, hu.dtype ha.number, Option.map_some, ends_pure, ha.float, if_true]
  exact ⟨hL, hu⟩

theorem checkCost_ends (h : Differentiable k s τ d ρ pat D c wrt) {r : Request} (hcost : r.cost = some c)
    {Q : Unit → Session → Prop} (hQ : Q () s) : (checkCost r).Ends k s Q E := by
  have hn := h.cost.number h.arithmetic.number
  unfold checkCost
  rw [hcost]
  simp only [ends_bind, ends_typeOf]
  have hndim := fun P => ends_ndim (k := k) (E := E) hn (Q := P)
  generalize s.arena.typeOf c = σ at hn
  cases hn <;> exact ends_bind.mpr ((hndim _).mpr hQ)

theorem ends_onDisconnected {choice : String} (h : choice ∈ ["raise", "ignore", "warn"]) {Q : Unit → Session → Prop}
    (hQ : choice ≠ "raise" → Q () s) (hE : choice = "raise" → E (.told' (.named "DisconnectedInputError") "") s) :
    (onDisconnected choice).Ends k s Q E := by
  simp only [List.mem_cons, List.not_mem_nil, or_false] at h
  obtain rfl | rfl | rfl := h
  · exact hE rfl
  · exact hQ (by decide)
  · exact hQ (by decide)

/-- What may be asked for where a variable is disconnected. -/
structure Request.Valid (r : Request) : Prop where
  disconnected : r.disconnected ∈ ["raise", "ignore", "warn"]
  returned : r.returned ∈ ["zero", "None", "Disconnected"]

/-- The gradients with which the walk begins: that of the cost, and none where nothing leads to the cost. -/
structure Started (s t : Session) (τ : Ty) (ρ : Valuation) (lost : VarId → Prop) (c : VarId) (start : List (VarId × VarId)) :
    Prop where
  later : s.Later t
  cost : ∃ g, (c, g) ∈ start
  reads : ∀ p ∈ start, (p.1 = c ∧ t.Reads τ ρ p.2 (some 1)) ∨ (lost p.1 ∧ t.Reads τ ρ p.2 none)

theorem startDisconnected_ends {r : Request} (hr : r.Valid) (hcost : r.cost = some c) (hwf : s₀.arena.Wf)
    {reached : VarId → Prop} {used : VarId → Bool} (hused : ∀ v ∈ r.wrt, (used v || some v == r.cost) = true ↔ reached v)
    {start : List (VarId × VarId)} (hstart : Started s₀ s τ ρ (fun v => ¬ reached v ∧ r.disconnected ≠ "raise") c start) :
    (startDisconnected r used start).Ends k s
      (fun start t => Started s₀ t τ ρ (fun v => ¬ reached v ∧ r.disconnected ≠ "raise") c start ∧
        ∀ v ∈ r.wrt, ¬ reached v → r.disconnected ≠ "raise")
      fun e _ => e.kind = .named "DisconnectedInputError" ∧ r.disconnected = "raise" ∧ ∃ v ∈ r.wrt, ¬ reached v := by
  unfold startDisconnected
  refine (Ends.foldlM (J := fun start t => Started s₀ t τ ρ (fun v => ¬ reached v ∧ r.disconnected ≠ "raise") c start)
    (L := fun _ _ => True) (P := fun v _ => ¬ reached v → r.disconnected ≠ "raise") (fun _ => trivial)
    (fun _ _ _ _ _ => trivial) (fun _ _ _ hP _ => hP) hstart ?_).imp fun _ _ ⟨hs, _, hall⟩ => ⟨hs, hall⟩
  intro v hv start t hs
  rw [ends_ite]
  split
  case isTrue hin =>
    refine ⟨hs, trivial, fun hlost => ?_⟩
    rcases Bool.or_eq_true_iff.mp hin with h | h
    · exact absurd ((hused v hv).mp h) hlost
    · obtain ⟨g, hg⟩ := Option.isSome_iff_exists.mp h
      obtain ⟨l, l', rfl, -⟩ := List.lookup_eq_some_iff.mp hg
      rcases hs.reads (v, g) (by simp) with ⟨rfl, -⟩ | ⟨⟨-, hne⟩, -⟩
      · exact absurd ((hused v hv).mp (by rw [hcost]; simp)) hlost
      · exact hne
  case isFalse hin =>
    have hlost : ¬ reached v := fun h => hin (by rw [(hused v hv).mpr h, Bool.true_or])
    rw [ends_bind]
    refine ends_onDisconnected hr.disconnected (fun hne => ?_) fun he => ⟨rfl, he, v, hv, hlost⟩
    rw [ends_bind]
    refine (newVar_ends .disconnected none).imp fun g t' ⟨hL, hlt, hty⟩ => ⟨⟨hs.later.trans hL, ?_, ?_⟩, trivial, fun _ => hne⟩
    · exact hs.cost.imp fun g hg => List.mem_append_left _ hg
    · have hlater := fun {x q} (hx : t.Reads τ ρ x q) => hx.later (hs.later.wf hwf) hL
      intro p hp
      rcases List.mem_append.mp hp with hp | hp
      · exact (hs.reads p hp).imp (.imp_right hlater) (.imp_right hlater)
      · obtain rfl := List.mem_singleton.mp hp
        exact .inr ⟨⟨hlost, hne⟩, hlt, hty⟩

/-- The gradients with which the walk begins are right. -/
theorem Started.sound (hwf : s₀.arena.Wf) (hr : (dataflow s₀.arena).Ranked c rank)
    {lost : VarId → Prop} (hlost : ∀ v, lost v → ¬ Flow.Reaches (dataflow s₀.arena) pat blocked c v)
    {start : List (VarId × VarId)} (h : Started s₀ s τ ρ lost c start) :
    Flow.Memo.Sound (· = c) (GradOk s₀ τ ρ c pat D blocked uses s) (TermsOk s₀ τ ρ c pat D blocked uses s)
      { grads := Std.HashMap.ofList start } where
  known v hv := by
    obtain ⟨g, hg⟩ := h.cost
    rw [Std.HashMap.contains_ofList, List.contains_iff_mem]
    exact List.mem_map.mpr ⟨_, hg, hv.symm⟩
  grads v g hg := by
    have hmem : (v, g) ∈ start := (mem_of_getElem?_insertMany start ∅ hg).resolve_right (by simp)
    refine ⟨h.later.wf hwf, ?_⟩
    rcases h.reads _ hmem with ⟨rfl, hread⟩ | ⟨hv, hread⟩
    · refine ⟨_, hread, fun _ => ?_⟩
      rw [derivative, if_pos .refl, Flow.pathSum_self (dataflow_wired hwf) hr]
    · refine ⟨_, hread, fun _ => ?_⟩
      rw [derivative, if_neg (hlost v hv)]
  terms n ts hts := by simp at hts

/-- What a request is answered for a variable: an expression of the derivative, or what it wants where there is none. -/
def Answered (r : Request) (s : Session) (τ : Ty) (ρ : Valuation) (q : Option ℚ) (g : Option VarId) : Prop :=
  match q with
  | some q => ∃ u, g = some u ∧ s.Reads τ ρ u (some q)
  | none => r.disconnected ≠ "raise" ∧
    (r.returned = "zero" → ∃ u, g = some u ∧ s.Reads τ ρ u (some 0)) ∧
    (r.returned = "None" → g = none) ∧ (r.returned = "Disconnected" → ∃ u, g = some u ∧ s.Reads τ ρ u none)

theorem Answered.later {r : Request} {q : Option ℚ} {g : Option VarId} {t : Session} (h : Answered r s τ ρ q g)
    (hwf : s.arena.Wf) (hL : s.Later t) : Answered r t τ ρ q g := by
  have hmono : ∀ q, (∃ u, g = some u ∧ s.Reads τ ρ u q) → ∃ u, g = some u ∧ t.Reads τ ρ u q :=
    fun q => .imp fun u => .imp_right fun h => h.later hwf hL
  cases q with
  | some q => exact hmono _ h
  | none => exact ⟨h.1, hmono _ ∘ h.2.1, h.2.2.1, hmono _ ∘ h.2.2.2⟩

theorem answer_ends (h : Differentiable k s₀ τ d ρ pat D c wrt) {r : Request} (hr : r.Valid) (hs : s₀.Later s)
    (hv : s.Holds τ v) {g : VarId} {q : Option ℚ} (hg : s.Reads τ ρ g q) (hq : q = none → r.disconnected ≠ "raise") :
    (answer r v g).Ends k s (fun b t => s.Later t ∧ Answered r t τ ρ q b) fun _ _ => False := by
  have ha := h.arithmetic
  unfold answer
  rw [ends_bind, ends_typeOf]
  cases q with
  | some q =>
    have hn := hg.1.number ha.number
    generalize s.arena.typeOf g = σ at hn
    cases hn <;> exact ⟨.refl s, g, rfl, hg⟩
  | none =>
    have hne := hq rfl
    rw [hg.2]
    change (onDisconnected r.disconnected >>= _).Ends k s _ _
    rw [ends_bind]
    refine ends_onDisconnected hr.disconnected (fun _ => ?_) hne
    have hret := hr.returned
    simp only [List.mem_cons, List.not_mem_nil, or_false] at hret
    rcases hret with hret | hret | hret
    · simp only [hret, beq_self_eq_true, if_true, ends_bind]
      exact (floatZeros_ends ha hs hv).imp fun u t h =>
        ⟨h.1, hne, fun _ => ⟨u, rfl, h.2⟩, by simp [hret], by simp [hret]⟩
    · rw [hret]
      exact ⟨.refl s, hne, by simp [hret], fun _ => rfl, by simp [hret]⟩
    · rw [hret]
      exact ⟨.refl s, hne, by simp [hret], by simp [hret], fun _ => ⟨g, rfl, hg⟩⟩

theorem answers_ends {r : Request} (h : Differentiable k s₀ τ d ρ pat D c r.wrt) (hr : r.Valid) (hs : s₀.Later s)
    {gs : Vars} {q : VarId → Option ℚ} (hgs : List.Forall₂ (fun v g => s.Reads τ ρ g (q v)) r.wrt gs)
    (hlost : ∀ v ∈ r.wrt, q v = none → r.disconnected ≠ "raise") :
    ((r.wrt.zip gs).mapM fun p => answer r p.1 p.2).Ends k s
      (fun bs t => s.Later t ∧ List.Forall₂ (fun v => Answered r t τ ρ (q v)) r.wrt bs) fun _ _ => False := by
  have hwf := hs.wf h.wf
  refine (mapM_later (R := fun p b t => t.arena.Wf ∧ Answered r t τ ρ (q p.1) b)
    (fun p b t t' ⟨hwf, hA⟩ hL => ⟨hL.wf hwf, hA.later hwf hL⟩) ?_).imp fun bs t ⟨hL, hbs⟩ => ⟨hL, ?_⟩
  · rintro ⟨v, g⟩ hp t hL
    have hv := (List.of_mem_zip hp).1
    have hg := ((List.forall₂_iff_zip.mp hgs).2 hp).later hwf hL
    exact (answer_ends h hr (hs.trans hL) ((h.wrt v hv).later (hs.trans hL)) hg (hlost v hv)).imp
      fun b t' ⟨hL', hA⟩ => ⟨hL', hL'.wf (hL.wf hwf), hA⟩
  · rw [← List.map_fst_zip hgs.length_eq.le, List.forall₂_map_left_iff]
    exact hbs.imp fun _ _ h => h.2

theorem checkFloat_ends (ha : Arithmetic k s₀ τ d ρ) {g : VarId} {q : Option ℚ} (hg : s.Reads τ ρ g q)
    {Q : Unit → Session → Prop} (hQ : Q () s) : (checkFloat g).Ends k s Q E := by
  unfold checkFloat
  rw [ends_bind, ends_dtype, hg.dtype ha.number]
  cases q with
  | none => exact hQ
  | some q =>
    simp only [Option.map_some, ends_check, ha.float, if_true]
    exact hQ

theorem costName_ends {r : Request} {Q : Option String → Session → Prop} (hQ : ∀ x, Q x s) : (costName r).Ends k s Q E := by
  unfold costName
  split
  · split
    · exact hQ _
    · exact hQ _
  · exact hQ _

theorem startGrads_ends (h : Differentiable k s₀ τ d ρ pat D c wrt) {r : Request} (hcost : r.cost = some c)
    (hknown : r.known = []) (hs : s₀.Later s) (lost : VarId → Prop) :
    (startGrads r).Ends k s (fun start t => Started s₀ t τ ρ lost c start) fun _ _ => False := by
  unfold startGrads
  simp only [hcost, hknown, ends_bind]
  refine (costGrad_ends h hknown hs).imp fun g t hg => ⟨hs.trans hg.1, ⟨g, List.mem_cons_self⟩, fun p hp => ?_⟩
  obtain rfl := List.mem_singleton.mp hp
  exact .inl ⟨rfl, hg.2⟩

theorem run_ends {r : Request} (h : Differentiable k s τ d ρ pat D c r.wrt) (hr : r.Valid) (hcost : r.cost = some c)
    (hknown : r.known = []) (hmix : Flow.Unmixed (dataflow s.arena) pat r.constants.contains c) :
    (run r).Ends k s
      (fun gs t => s.Later t ∧ List.Forall₂ (fun v => Answered r t τ ρ
        (derivative (dataflow s.arena) pat r.constants.contains D c v)) r.wrt gs)
      fun e _ => e.kind = .named "DisconnectedInputError" ∧ r.disconnected = "raise" ∧
        ∃ v ∈ r.wrt, ¬ Flow.Reaches (dataflow s.arena) pat r.constants.contains c v := by
  obtain ⟨rank, hrank, htop⟩ := exists_rank h.wf h.acyclic
  have hfuel := h.wf.two_mul_size_lt
  unfold run
  rw [ends_bind]
  refine checkCost_ends h hcost ?_
  rw [ends_bind, ends_getArena, ends_bind, hcost, hknown]
  change ((dataflow s.arena).uses _ [c] r.wrt _).Ends k s _ _
  have hpat : ∀ n t, (dataflow s.arena).Behind c n → s.Later t →
      (connectionsOf n).Ends k t (fun p t' => p = pat n ∧ s.Later t') fun _ _ => False := fun n t hn ht =>
    (connectionsOf_ends h.pullbacks ht hn (behind_lt h.wf hn)).imp fun p t' ⟨hL, hp⟩ => ⟨hp, ht.trans hL⟩
  refine (Flow.uses_ends (dataflow_wired h.wf) hrank (fun n _ => htop n) hpat (.refl s) (by omega)).mono
    (fun uses t ⟨hL, hu⟩ => ?_) fun _ _ h => h.elim
  have hreaches : ∀ v ∈ r.wrt, (uses.contains v = true ∨ v = c) ↔ Flow.Reaches (dataflow s.arena) pat r.constants.contains c v :=
    fun v hv => by
      rw [Flow.reaches_iff, or_comm]
      exact or_congr_right ⟨hu.used v, fun ⟨q, hq⟩ => hu.asked v hv q hq⟩
  have hused : ∀ v ∈ r.wrt, (uses.contains v || some v == r.cost) = true ↔
      Flow.Reaches (dataflow s.arena) pat r.constants.contains c v := fun v hv => by
    rw [← hreaches v hv, Bool.or_eq_true, hcost, beq_iff_eq, Option.some.injEq]
  rw [ends_bind]
  refine (startGrads_ends h hcost hknown hL fun v =>
    ¬ Flow.Reaches (dataflow s.arena) pat r.constants.contains c v ∧ r.disconnected ≠ "raise").mono (fun start t₁ hstart => ?_)
    fun _ _ h => h.elim
  rw [ends_bind]
  refine (startDisconnected_ends hr hcost h.wf hused hstart).imp fun start t₂ ⟨hstart, hlost⟩ => ?_
  rw [ends_bind]
  refine costName_ends fun cost => ?_
  rw [ends_bind]
  refine forIn_reads (f := fun p : VarId × VarId => checkFloat p.2) (fun p hp => ?_) ?_
  · rcases hstart.reads p hp with ⟨-, hp⟩ | ⟨-, hp⟩ <;> exact checkFloat_ends h.arithmetic hp rfl
  rw [ends_bind]
  refine ((lawful h hmix hrank htop hu cost).gradients_ends (fun v hv => ⟨.inl hv, ?_⟩) hstart.later
    (hstart.sound h.wf hrank fun v hv => hv.1)).mono (fun ⟨gs, _⟩ t₃ ⟨hL₃, hgs⟩ => ?_) fun _ _ h => h.elim
  · have := depth_le (dataflow s.arena) rank s.arena.nodes.size v
    omega
  have hread : List.Forall₂ (fun v g => t₃.Reads τ ρ g (derivative (dataflow s.arena) pat r.constants.contains D c v)) r.wrt gs := by
    refine List.forall₂_iff_zip.mpr ⟨hgs.length_eq, fun {v g} hp => ?_⟩
    obtain ⟨-, q, hq, hval⟩ := (List.forall₂_iff_zip.mp hgs).2 hp
    rw [← hval ?_]
    · exact hq
    by_cases hreach : Flow.Reaches (dataflow s.arena) pat r.constants.contains c v
    · exact ((hreaches v (List.of_mem_zip hp).1).mpr hreach).imp_right .inl
    · exact .inr (.inr hreach)
  refine (answers_ends h hr (hstart.later.trans hL₃) hread fun v hv hnone => hlost v hv fun hreach => ?_).mono
    (fun bs t ⟨hL, hbs⟩ => ⟨(hstart.later.trans hL₃).trans hL, hbs⟩) fun _ _ h => h.elim
  rw [derivative, if_pos hreach] at hnone
  cases hnone

end Run

theorem run_pathSum {k : Kit} {s : Session} {τ : Ty} {d : DType} {ρ : Valuation} {pat : NodeId → List (List Bool)}
    {D : Flow.Edge NodeId → ℚ} {c : VarId} {r : Request} (h : Differentiable k s τ d ρ pat D c r.wrt) (hr : r.Valid)
    (hcost : r.cost = some c) (hknown : r.known = []) (hconst : r.constants = []) :
    (run r).Ends k s
      (fun gs t => s.Later t ∧ List.Forall₂ (fun v => Answered r t τ ρ
        (derivative (dataflow s.arena) pat (fun _ => false) D c v)) r.wrt gs)
      fun e _ => e.kind = .named "DisconnectedInputError" ∧ r.disconnected = "raise" ∧
        ∃ v ∈ r.wrt, ¬ Flow.Reaches (dataflow s.arena) pat (fun _ => false) c v := by
  have hfree : r.constants.contains = fun _ => false := by rw [hconst]; rfl
  have := run_ends h hr hcost hknown (by rw [hfree]; exact fun _ _ _ _ _ _ _ _ => rfl)
  rwa [hfree] at this

/-! ## The square of a number -/

namespace Square

def number : Ty := .scalar .float64

def session : Session := { arena := ({ vars := #[{ type := number }] } : Arena).withNode (.scalar .mul) [⟨0⟩, ⟨0⟩] number }

def times (a b : VarId) : M VarId := do
  let n <- newNode (.scalar .mul) [a, b] [number]
  let u :: _ <- outsOf n | raise .index
  return u

/-- Multiplication with its derivatives, and what a type of numbers can do. -/
def kit : Kit :=
  { Kit.empty with
    makeNode := fun o args _ => (newNode o (args.filterMap fun | .var v => some v | _ => none) [number]).toBase .empty
    connections := fun _ s => .ok none s
    pullback := fun _ ins _ gs => M.toBase (do
      let [a, b] := ins | raise .type
      let [g] := gs | raise .type
      return [<- times g b, <- times g a]) .empty
    call := fun f _ _ => M.toBase (match f with
      | .method _ "ones_like" => do return .var (<- newConstant number (.int 1))
      | .method _ "zeros_like" => do return .var (<- newConstant number (.int 0))
      | .method v _ => return v
      | _ => raise .type) .empty }

/-- Numbers as they are; the number that is squared is three. -/
def reading : Valuation where
  result o qs _ := if o matches .scalar .mul then qs.prod else qs.sum
  constant | .int i => i | _ => 0
  input _ := 3

theorem newConstant_ends {k : Kit} {s : Session} {E : Fault → Session → Prop} (i : Int) :
    (newConstant number (.int i)).Ends k s (fun u t => s.Later t ∧ t.Reads number reading u (some i)) E := by
  have hvar : ∀ x : Variable, ({ s.arena with vars := s.arena.vars.push x } : Arena).var ⟨s.arena.vars.size⟩ = x := fun x => by
    rw [Arena.var_push, if_pos rfl]
  have hlt : s.arena.vars.size < (s.arena.vars.push { type := number, role := .constant (.int i) }).size := by simp
  refine ⟨⟨.push rfl, fun h => h.push rfl, rfl⟩, ⟨hlt, ?_⟩, ?_⟩
  · unfold Arena.typeOf
    rw [hvar]
    rfl
  · refine (congrArg _ ?_).mp (Arena.Evaluates.leaf hlt ?_)
    · unfold Valuation.leaf
      rw [hvar]
      rfl
    · unfold Arena.owner
      rw [hvar]

theorem constant_ends {x : M Value} {s : Session} {E : Fault → Session → Prop} {i : Int} {q : ℚ}
    (h : x kit s = (do return Value.var (<- newConstant number (.int i)) : M Value) .empty s) (hq : (i : ℚ) = q) :
    x.Ends kit s (fun r t => ∃ u : VarId, r = u ∧ s.Later t ∧ t.Reads number reading u (some q)) E := by
  refine .of_eq _ _ h ?_
  rw [ends_bind, ← hq]
  exact (newConstant_ends i).imp fun u t h => ⟨u, rfl, h⟩

theorem times_ends {k : Kit} {s : Session} {E : Fault → Session → Prop} {a b : VarId} {p q : ℚ} (hwf : s.arena.Wf)
    (ha : s.Reads number reading a (some p)) (hb : s.arena.Evaluates reading b q) :
    (times a b).Ends k s (fun u t => s.Later t ∧ t.Reads number reading u (some (p * q))) E := by
  unfold times
  rw [ends_bind]
  refine (newNode_ends (by simp [ha.lt, hb.lt])).imp fun n t ⟨hL, hop, hins, u, houts, hu, hty, _⟩ => ?_
  rw [ends_bind, ends_outsOf, houts]
  refine ⟨hL, ⟨hu, by rw [hty]; rfl⟩, ?_⟩
  have hprod : reading.result (t.arena.op n) [p, q] 0 = p * q := by
    rw [hop]
    show List.prod [p, q] = p * q
    simp
  rw [← hprod]
  exact .pair (hL.wf hwf) houts hins (ha.2.grow hwf hL.arena) (hb.grow hwf hL.arena)

theorem wf : session.arena.Wf := (Arena.Wf.empty.push rfl).withNode (by simp)

theorem inputs_eq {n : NodeId} : session.arena.inputs n = if n.idx = 0 then [⟨0⟩, ⟨0⟩] else [] := by
  unfold Arena.inputs session
  rw [Arena.node_withNode]
  split
  · rw [if_pos (by assumption)]
  · rw [if_neg (by assumption)]
    rfl

theorem not_feeds (m n : NodeId) : ¬ session.arena.Feeds m n := by
  rintro ⟨v, hv, ho⟩
  rw [inputs_eq] at hv
  split at hv <;> simp at hv
  subst hv
  cases ho

theorem behind {n : NodeId} (h : (dataflow session.arena).Behind ⟨1⟩ n) : n = ⟨0⟩ := by
  cases h with
  | maker h => exact (Option.some.inj (maker_eq_some_iff.mp h).1).symm
  | feeds _ hv h => exact absurd ⟨_, hv, (maker_eq_some_iff.mp h).1⟩ (not_feeds _ _)

theorem differentiable : Differentiable kit session number .float64 reading (fun _ => [[true], [true]]) (fun _ => 3) ⟨1⟩ [⟨0⟩] where
  wf := wf
  acyclic n _ h := by
    cases h with
    | single h => exact not_feeds _ _ h
    | tail _ h => exact not_feeds _ _ h
  cost := ⟨by decide, rfl⟩
  wrt v hv := by
    obtain rfl := List.mem_singleton.mp hv
    exact ⟨by decide, rfl⟩
  typed n hn v hv := by
    obtain rfl := behind hn
    have hv : v = ⟨0⟩ ∨ v = ⟨1⟩ := by
      rcases hv with hv | hv
      · exact .inl (by simpa [inputs_eq] using hv)
      · exact .inr (List.mem_singleton.mp hv)
    rcases hv with rfl | rfl <;> exact ⟨by decide, rfl⟩
  testsOff _ := rfl
  arithmetic :=
    { number := .scalar
      float := rfl
      plus := fun p q => by
        show List.sum [p, q] = p + q
        simp
      sum := fun s a b _ ha hb => by
        refine .of_eq (newNode number.sumOp [a, b] [number]) .empty rfl ?_
        exact (newNode_ends (by simp [ha.1, hb.1])).imp
          fun n t ⟨hL, hop, hins, u, houts, hu, hty, _⟩ => ⟨hL, hop, hins, u, houts, hu, by rw [hty]; rfl⟩
      one := fun s v _ _ => constant_ends rfl (by norm_num)
      zero := fun s v _ _ => constant_ends rfl (by norm_num)
      same := fun s v _ hv m hm => by
        simp only [List.mem_cons, List.not_mem_nil, or_false] at hm
        rcases hm with rfl | rfl <;> exact ⟨v, rfl, .refl s, hv, fun _ => id⟩ }
  pullbacks :=
    { connections := fun s n _ hn => ⟨.refl s, by obtain rfl := behind hn; rfl⟩
      rows := fun n hn => by obtain rfl := behind hn; rfl
      pullback := fun s n ins gs qs hs hn hins hgs hlen hwhere => by
        obtain rfl := behind hn
        have hs' := hs.wf wf
        have hx : ∀ x, session.Stands s number reading ⟨0⟩ x → s.arena.Evaluates reading x 3 := fun x h =>
          h.2 3 (.leaf (by decide) rfl)
        obtain ⟨q, rfl⟩ := List.length_eq_one_iff.mp hlen
        obtain ⟨g, rfl, hg⟩ : ∃ g, gs = [g] ∧ s.Reads number reading g q := by
          cases hgs with
          | cons hg h => cases h; exact ⟨_, rfl, hg⟩
        obtain ⟨a, b, rfl, ha, hb⟩ : ∃ a b, ins = [a, b] ∧ s.arena.Evaluates reading a 3 ∧ s.arena.Evaluates reading b 3 := by
          rw [inputs_eq, if_pos rfl] at hins
          cases hins with
          | cons ha h =>
            cases h with
            | cons hb h => cases h; exact ⟨_, _, rfl, hx _ ha, hx _ hb⟩
        obtain ⟨q, rfl⟩ : ∃ p, q = some p := by
          obtain ⟨i, hi⟩ := hwhere
          obtain ⟨o, p, -, hq⟩ := isSome_pulled.mp hi
          cases o with
          | zero => exact ⟨p, Option.some.inj hq⟩
          | succ => cases hq
        refine .of_eq (times g b >>= fun u => times g a >>= fun w => Pure.pure [u, w]) .empty rfl ?_
        rw [ends_bind]
        refine (times_ends hs' hg hb).imp fun u t ⟨hL, hu⟩ => ?_
        rw [ends_bind]
        refine (times_ends (hL.wf hs') (hg.later hs' hL) (ha.grow hs' hL.arena)).imp fun w t' ⟨hL', hw⟩ => ?_
        refine ⟨hL.trans hL', rfl, fun i x hi => ?_⟩
        match i with
        | 0 =>
          obtain rfl := Option.some.inj hi
          have := hu.later (hL.wf hs') hL'
          simpa [pulled, Flow.connects] using this
        | 1 =>
          obtain rfl := Option.some.inj hi
          simpa [pulled, Flow.connects] using hw
        | i + 2 => cases hi }

/-- Along two edges, each of derivative three, from the number to its square. -/
theorem derivative_eq :
    derivative (dataflow session.arena) (fun _ => [[true], [true]]) (fun _ => false) (fun _ => 3) ⟨1⟩ ⟨0⟩ = some 6 := by
  obtain ⟨rank, hrank, -⟩ := exists_rank wf differentiable.acyclic
  have hlink : ∀ i < 2, Flow.Link (dataflow session.arena) (fun _ => [[true], [true]]) (fun _ => false) ⟨⟨0⟩, i, 0⟩ ⟨0⟩ ⟨1⟩ := by
    intro i hi
    have : i = 0 ∨ i = 1 := by omega
    rcases this with rfl | rfl <;> exact ⟨rfl, rfl, rfl, rfl⟩
  have huses : ∀ p, p ∈ [((⟨0⟩ : NodeId), 0), (⟨0⟩, 1)] ↔
      Flow.IsUse (dataflow session.arena) (fun _ => [[true], [true]]) (fun _ => false) ⟨1⟩ ⟨0⟩ p := by
    rintro ⟨n, i⟩
    constructor
    · intro hp
      simp only [List.mem_cons, List.not_mem_nil, or_false, Prod.mk.injEq] at hp
      rcases hp with ⟨rfl, rfl⟩ | ⟨rfl, rfl⟩ <;> exact ⟨0, ⟨1⟩, hlink _ (by decide), .refl⟩
    · rintro ⟨o, y, hl, hy⟩
      obtain rfl := behind (hl.behind (dataflow_wired wf) hy)
      have := (List.getElem?_eq_some_iff.mp hl.source).1
      have : i = 0 ∨ i = 1 := by
        have : i < 2 := this
        omega
      rcases this with rfl | rfl <;> simp
  rw [derivative, if_pos (Flow.reaches_iff.mpr (.inr ⟨_, (huses (⟨0⟩, 0)).mp (by simp)⟩)),
    Flow.pathSum_eq (dataflow_wired wf) hrank (fun _ _ _ _ _ _ _ _ => rfl) (by decide) (by decide) huses]
  have hedge : ∀ i < 2, Flow.edgeSum (dataflow session.arena) (fun _ => [[true], [true]]) (fun _ => false) (fun _ => 3) ⟨1⟩ ⟨0⟩ i = 3 := by
    intro i hi
    have hout : (dataflow session.arena).outputs ⟨0⟩ = [⟨1⟩] := rfl
    have : i = 0 ∨ i = 1 := by omega
    rw [Flow.edgeSum, hout]
    rcases this with rfl | rfl <;> simp [Flow.connects, Flow.pathSum_self (dataflow_wired wf) hrank]
  simp only [List.map_cons, List.map_nil, hedge 0 (by decide), hedge 1 (by decide)]
  norm_num

end Square

/-- The derivative of a square at three is six. -/
theorem run_pathSum_square : (run { cost := some ⟨1⟩, wrt := [⟨0⟩] }).Ends Square.kit Square.session
    (fun gs t => ∃ u, gs = [some u] ∧ t.arena.Evaluates Square.reading u 6) fun _ _ => False := by
  refine (run_pathSum (r := { cost := some ⟨1⟩, wrt := [⟨0⟩] }) Square.differentiable ⟨by decide, by decide⟩ rfl rfl rfl).mono
    (fun gs t ⟨_, hgs⟩ => ?_) fun e t ⟨_, _, v, hv, hno⟩ => ?_
  · cases hgs with
    | cons hg h =>
      cases h
      rw [Square.derivative_eq] at hg
      obtain ⟨u, rfl, hu⟩ := hg
      exact ⟨u, rfl, hu.2⟩
  · obtain rfl := List.mem_singleton.mp hv
    have := Square.derivative_eq
    rw [derivative, if_neg hno] at this
    cases this

end Gradient

end TensorGraph
