import TensorGraph.Script.Program
import TensorGraph.Proofs.Copying
import TensorGraph.Proofs.Terms

/-!
# Expressions for whole numbers

Expressions that are built while a graph is worked on stand for numbers, such as the lengths of a shape. What a variable
computes is fixed by the values of some variables and by what the nodes do. It does not change when more is built, so each operator
has one law, and an expression is taken step by step.
-/

namespace TensorGraph

open M

/-- The value of a variable, given those of some variables: a constant is its data, and a result is what its node
computes from the values of its operands. -/
inductive Session.Computes (k : Kit) (s : Session) (ρ : VarId → Option Value) : VarId → Value → Prop
  | given {v x} : ρ v = some x → s.Computes k ρ v x
  | constant {v x} : ρ v = none → s.arena.owner v = none → s.arena.constant? v = some x → s.Computes k ρ v x
  | result {v n xs y} : ρ v = none → s.arena.owner v = some n → List.Forall₂ (Session.Computes k s ρ) (s.arena.inputs n) xs →
      (opPerform n xs).Ends k s (fun ys _ => ys[(s.arena.var v).index]? = some y) (fun _ _ => False) → s.Computes k ρ v y

/-- An array that holds one whole number. -/
def NdArray.whole (d : DType) (i : Int) (r : Nat) : NdArray := ⟨d, [], #[.int i], r⟩

/-- A variable stands for a whole number, in the session and in all later ones. -/
structure Session.Denotes (s : Session) (k : Kit) (ρ : VarId → Option Value) (v : VarId) (n : DType × Int) : Prop where
  lt : v.idx < s.arena.vars.size
  type : ∃ name, s.arena.typeOf v = .tensor n.1 [] name
  value : ∀ t, s.Later t → ∃ r, t.Computes k ρ v (.array (.whole n.1 n.2 r))

/-- What a value stands for as an operand: a variable for its number, and a number for itself, in the type that it is given. -/
inductive Session.Shows (s : Session) (k : Kit) (ρ : VarId → Option Value) : Value → DType × Int → Prop
  | var {v n} : s.Denotes k ρ v n → s.Shows k ρ (.var v) n
  | number {d i} : s.Shows k ρ (.number d (.int i)) (d, i)
  | plain {d i} : (∀ t K, s.Later t → (autocastInt i).Ends K t (fun a u => t = u ∧ a = .ofElem d (.int i)) fun _ _ => False) →
      s.Shows k ρ (.int i) (d, i)

/-- A session in which expressions can be built over the values of some of its variables. -/
structure Session.Ready (s : Session) (ρ : VarId → Option Value) : Prop where
  wf : s.arena.Wf
  off : s.TestsOff
  fresh : ∀ v, s.arena.vars.size ≤ v.idx → ρ v = none

/-- Ends with a variable that stands for a number. -/
def M.Makes (x : M VarId) (K k : Kit) (ρ : VarId → Option Value) (s : Session) (n : DType × Int) : Prop :=
  x.Ends K s (fun v t => s.Later t ∧ t.Denotes k ρ v n) fun _ _ => False

/-- What an elementwise operator makes of single numbers. -/
structure ScalarOp.Gives (op : ScalarOp) (ns : List (DType × Int)) (n : DType × Int) : Prop where
  some : ns ≠ []
  type : ∀ k s, (op.typesFor ((ns.map (·.1)).map fun d => s!"<{d.name}>") (ns.map (·.1))).Ends k s
    (fun ds t => s = t ∧ ds = [n.1]) fun _ _ => False
  value : ∀ arrays k s, List.Forall₂ (fun a n => ∃ r, a = NdArray.whole n.1 n.2 r) arrays ns →
    (elemwiseArrays op [n.1] arrays).Ends k s (fun as t => s = t ∧ as = [.whole n.1 n.2 0]) fun _ _ => False

variable {k K : Kit} {s t : Session} {ρ : VarId → Option Value} {v w c : VarId} {n : DType × Int} {m : Nat} {op : ScalarOp}
  {ns : List (DType × Int)} {vs : Vars} {E : Fault → Session → Prop} {a b i : Int} {d : DType} {is : List Int}

section Later

theorem Session.Denotes.later (h : s.Denotes k ρ v n) (hL : s.Later t) : t.Denotes k ρ v n where
  lt := h.lt.trans_le hL.arena.vars_le
  type := by rw [hL.arena.typeOf h.lt]; exact h.type
  value u hu := h.value u (hL.trans hu)

theorem Session.Shows.later {x : Value} (h : s.Shows k ρ x n) (hL : s.Later t) : t.Shows k ρ x n := by
  cases h with
  | var h => exact .var (h.later hL)
  | number => exact .number
  | plain h => exact .plain fun u K hu => h u K (hL.trans hu)

theorem Session.Ready.later (h : s.Ready ρ) (hL : s.Later t) : t.Ready ρ where
  wf := hL.wf h.wf
  off := h.off.later hL
  fresh v hv := h.fresh v (hL.arena.vars_le.trans hv)

theorem mapM_forall₂ {α β γ : Type} {xs : List α} {ys : List β} {f : α → M γ} {A : Session → α → β → Prop}
    {B : Session → γ → β → Prop} (hA : ∀ t u x y, t.Later u → A t x y → A u x y) (hB : ∀ t u z y, t.Later u → B t z y → B u z y)
    (hf : ∀ t x y, s.Later t → A t x y → (f x).Ends K t (fun z u => t.Later u ∧ B u z y) E) (h : List.Forall₂ (A s) xs ys) :
    (xs.mapM f).Ends K s (fun zs t => s.Later t ∧ List.Forall₂ (B t) zs ys) E := by
  induction xs generalizing s ys with
  | nil => cases h; exact ⟨.refl s, .nil⟩
  | cons x xs ih =>
    cases h with
    | cons h hrest =>
      rw [List.mapM_cons, ends_bind]
      refine (hf s x _ (.refl s) h).imp fun z t ⟨hL, hz⟩ => ?_
      rw [ends_bind]
      refine (ih (fun u x y hu => hf u x y (hL.trans hu)) (hrest.imp fun _ _ => hA s t _ _ hL)).imp fun zs u ⟨hL', hzs⟩ => ?_
      exact ⟨hL.trans hL', .cons (hB _ _ _ _ hL' hz) hzs⟩

end Later

/-! ## Variables of a tensor type -/

section Reading

variable {bs : List Bool} {o : Option String} (h : s.arena.typeOf v = .tensor d bs o)

include h

theorem ends_dtypeOf {Q : DType → Session → Prop} : (dtypeOf v).Ends k s Q E ↔ Q d s := by
  rw [dtypeOf, ends_bind, ends_typeOf, h]
  exact Iff.rfl

theorem ends_ndimOf {Q : Nat → Session → Prop} : (ndimOf v).Ends k s Q E ↔ Q bs.length s := by
  rw [ndimOf, ends_bind, ends_typeOf, h]
  exact Iff.rfl

theorem ends_bcastOf {Q : List Bool → Session → Prop} : (bcastOf v).Ends k s Q E ↔ Q bs s := by
  rw [bcastOf, ends_bind, ends_typeOf, h]
  exact Iff.rfl

theorem ends_asTensor {Q : VarId → Session → Prop} : (asTensor (.var v)).Ends k s Q E ↔ Q v s := by
  unfold asTensor asTensorDepth
  simp only [ends_bind, ends_typeOf, h]
  exact Iff.rfl

theorem ends_operatorFamily {Q : OperatorFamily → Session → Prop} : (operatorFamily v).Ends k s Q E ↔ Q .tensor s := by
  unfold operatorFamily
  simp only [ends_bind, ends_typeOf, h]
  exact Iff.rfl

end Reading

/-! ## Constants -/

/-- A new constant keeps its data. -/
theorem newConstant_computes {τ : Ty} {x : Value} (hs : s.Ready ρ) : (newConstant τ x).Ends K s (fun c t => s.Later t ∧
    c.idx < t.arena.vars.size ∧ t.arena.typeOf c = τ ∧ ∀ u, t.Later u → u.Computes k ρ c x) E := by
  refine ⟨⟨.push rfl, fun h => h.push rfl, rfl⟩, by simp, ?_, fun t ht => .constant (hs.fresh _ le_rfl) ?_ ?_⟩
  · unfold Arena.typeOf
    rw [Arena.var_push, if_pos rfl]
  · rw [ht.arena.owner (by simp)]
    unfold Arena.owner
    rw [Arena.var_push, if_pos rfl]
  · have hrole := (ht.arena.var ⟨s.arena.vars.size⟩ (by simp)).2.2.2
    rw [Arena.var_push, if_pos rfl] at hrole
    unfold Arena.constant?
    rw [hrole]

theorem arrayConstant_makes (hs : s.Ready ρ) (i : Int) (d : DType) : (arrayConstant (.ofElem d (.int i))).Makes K k ρ s (d, i) :=
  (newConstant_computes hs).imp fun _ _ ⟨hL, hlt, hty, hval⟩ => ⟨hL, hlt, ⟨_, hty⟩, fun t ht => ⟨0, hval t ht⟩⟩

theorem asTensor_makes {x : Value} (hs : s.Ready ρ) (h : s.Shows k ρ x n) : (asTensor x).Makes K k ρ s n := by
  cases h with
  | var h =>
    obtain ⟨name, htype⟩ := h.type
    exact (ends_asTensor htype).mpr ⟨.refl s, h⟩
  | number => exact arrayConstant_makes hs _ _
  | @plain d i h =>
    change (convert (.int i) none >>= _).Ends K s _ _
    rw [ends_bind, convert, ends_bind]
    refine (h s K (.refl s)).imp ?_
    rintro _ _ ⟨rfl, rfl⟩
    exact arrayConstant_makes (K := K) hs i d

/-- The numbers next to zero are given one of two types, as the settings say. -/
theorem shows_plain (hi : i = 1 ∨ i = -1) : ∃ d, (d = .int8 ∨ d = .int64) ∧ s.Shows k ρ (.int i) (d, i) := by
  have hint : intDType i = some .int64 := by obtain rfl | rfl := hi <;> rfl
  obtain ⟨p, hp⟩ : ∃ p, settingText "cast_policy" k s = .ok p s := ⟨_, rfl⟩
  by_cases hpolicy : p = "numpy+floatX"
  · refine ⟨.int64, .inr rfl, .plain fun t K hL => ?_⟩
    unfold autocastInt
    simp only [ends_bind, ends_of_ok (hL.settingText hp), hpolicy, BEq.rfl, if_true, hint]
    exact ⟨rfl, rfl⟩
  · refine ⟨.int8, .inl rfl, .plain fun t K hL => ?_⟩
    unfold autocastInt
    simp only [ends_bind, ends_of_ok (hL.settingText hp), beq_iff_eq, hpolicy, if_false]
    obtain rfl | rfl := hi <;> exact ⟨rfl, rfl⟩

/-! ## Nodes -/

/-- A node whose result is a number in every later session. -/
theorem newNode_makes {o : Op} {ins : Vars} (hs : s.Ready ρ) (hlt : ∀ v ∈ ins, v.idx < s.arena.vars.size)
    (h : ∀ y v t, s.Later t → t.arena.op y = o → t.arena.inputs y = ins → t.arena.outputs y = [v] →
      t.arena.typeOf v = .ofTensor n.1 [] → ∃ xs r, List.Forall₂ (t.Computes k ρ) ins xs ∧
        (opPerform y xs).Ends k t (fun ys _ => ys = [.array (.whole n.1 n.2 r)]) fun _ _ => False) :
    (newNode o ins [.ofTensor n.1 []]).Ends K s (fun y t => t.Ready ρ ∧
      ∃ v, t.arena.outputs y = [v] ∧ s.Later t ∧ t.Denotes k ρ v n) E := by
  refine (newNode_ends hlt).imp fun y u ⟨hL, hop, hins, v, hout, hv, hty, hnew⟩ => ?_
  have hs' := hs.later hL
  refine ⟨hs', v, hout, hL, hv, ⟨_, hty⟩, fun w hw => ?_⟩
  obtain ⟨howner, hidx⟩ := (hs'.wf.result y 0 v).mp (by rw [hout]; rfl)
  have hy := hs'.wf.node_lt howner
  obtain ⟨xs, r, hxs, hrun⟩ := h y v w (hL.trans hw) (by rw [hw.arena.op hy, hop]) (by rw [hw.arena.inputs hy, hins])
    (by rw [hw.arena.outputs hy, hout]) (by rw [hw.arena.typeOf hv, hty])
  refine ⟨r, .result (hs.fresh v hnew) ((hw.arena.owner hv).trans howner) ?_ (hrun.imp ?_)⟩
  · rw [hw.arena.inputs hy, hins]
    exact hxs
  · rintro _ _ rfl
    rw [(hw.arena.var v hv).2.1, hidx]
    rfl

theorem computes_all (h : List.Forall₂ (s.Denotes k ρ) vs ns) (hL : s.Later t) :
    ∃ arrays : List NdArray, List.Forall₂ (t.Computes k ρ) vs (arrays.map .array) ∧
      List.Forall₂ (fun a n => ∃ r, a = NdArray.whole n.1 n.2 r) arrays ns := by
  induction h with
  | nil => exact ⟨[], .nil, .nil⟩
  | cons h _ ih =>
    obtain ⟨arrays, hc, ha⟩ := ih
    obtain ⟨r, hr⟩ := h.value t hL
    exact ⟨_ :: arrays, .cons hr hc, .cons ⟨r, rfl⟩ ha⟩

theorem elemwiseInfo_ends (hop : op.Gives ns n) (hv : List.Forall₂ (s.Denotes k ρ) vs ns) :
    (elemwiseInfo op [] vs).Ends K s (fun r t => s = t ∧ r = ([n.1], [[]], vs)) fun _ _ => False := by
  have htype : ∀ v ∈ vs, ∃ d name, s.arena.typeOf v = .tensor d [] name := fun v hmem =>
    have ⟨n, h⟩ := exists_of_forall₂ hv.flip hmem
    ⟨n.1, h.type⟩
  have hdtypes : vs.map (fun v => (s.arena.typeOf v).dtype?.getD .bool) = ns.map (·.1) := by
    clear htype hop
    induction hv with
    | nil => rfl
    | cons h _ ih =>
      obtain ⟨name, h⟩ := h.type
      rw [List.map_cons, List.map_cons, ih, h]
      rfl
  have hne : vs ≠ [] := fun h => hop.some (List.length_eq_zero_iff.mp (hv.length_eq ▸ congrArg List.length h))
  unfold elemwiseInfo
  rw [ends_bind]
  refine mapM_reads (g := fun v => (s.arena.typeOf v).dtype?.getD .bool) (fun v hv => ?_) ?_
  · obtain ⟨d, name, h⟩ := htype v hv
    rw [ends_dtypeOf h, h]
    exact ⟨rfl, rfl⟩
  rw [hdtypes, ends_bind]
  refine (hop.type K s).imp ?_
  rintro _ _ ⟨rfl, rfl⟩
  rw [ends_bind]
  refine mapM_reads (g := fun _ => 0) (fun v hv => ?_) ?_
  · obtain ⟨d, name, h⟩ := htype v hv
    exact (ends_ndimOf h).mpr ⟨rfl, rfl⟩
  have hmax : (vs.map fun _ => 0).foldl Nat.max 0 = 0 := by
    rw [List.map_const']
    clear htype hdtypes hne hv
    induction vs.length with
    | zero => rfl
    | succ l ih => exact ih
  rw [hmax]
  simp only [List.isEmpty_iff, hne, if_false, ends_bind]
  refine mapM_reads (g := id) (fun v hv => ?_) ?_
  · obtain ⟨d, name, h⟩ := htype v hv
    rw [ends_bind, ends_ndimOf h]
    exact ⟨rfl, rfl⟩
  rw [List.map_id]
  refine mapM_reads (g := fun _ => []) (fun v hv => ?_) ⟨rfl, rfl⟩
  obtain ⟨d, name, h⟩ := htype v hv
  exact (ends_bcastOf h).mpr ⟨rfl, rfl⟩

/-- Running an elementwise operator on single numbers. -/
theorem elemwisePerform_whole {y : NodeId} {arrays : List NdArray} (hop : op.Gives ns n)
    (ha : List.Forall₂ (fun a n => ∃ r, a = NdArray.whole n.1 n.2 r) arrays ns)
    (hin : ∀ v ∈ t.arena.inputs y, ∃ d o, t.arena.typeOf v = .tensor d [] o) (hout : t.arena.outputs y = [v])
    (htype : t.arena.typeOf v = .ofTensor n.1 []) :
    (elemwisePerform op [] y (arrays.map .array)).Ends k t (fun ys _ => ys = [.array (.whole n.1 n.2 0)]) fun _ _ => False := by
  have hhead : (arrays.headD default).ndim = 0 := by
    cases ha with
    | nil => rfl
    | cons h _ => obtain ⟨r, rfl⟩ := h; rfl
  unfold elemwisePerform
  rw [ends_bind, ends_nodeInfo, ends_bind, List.mapM_map]
  refine mapM_reads (g := id) (fun a _ => ⟨rfl, rfl⟩) ?_
  rw [List.map_id, ends_bind]
  refine mapM_reads (g := fun _ => []) (fun v hv => ?_) ?_
  · obtain ⟨d, o, h⟩ := hin v hv
    exact (ends_bcastOf h).mpr ⟨rfl, rfl⟩
  rw [ends_bind, checkStretch, hhead]
  change (List.mapM dtypeOf (t.arena.outputs y) >>= _).Ends k t _ _
  rw [hout, ends_bind, List.mapM_cons, ends_bind, ends_dtypeOf htype]
  change (elemwiseArrays op [n.1] arrays >>= _).Ends k t _ _
  rw [ends_bind]
  refine (hop.value arrays k t ha).imp ?_
  rintro _ _ ⟨rfl, rfl⟩
  rfl

/-- An elementwise operator on values that stand for numbers. -/
theorem ew_makes {args : Values} {sym : String} (hs : s.Ready ρ) (hop : op.Gives ns n) (h : List.Forall₂ (s.Shows k ρ) args ns) :
    (Tensor.ew sym op args).Makes (kit (m + 1)) k ρ s n := by
  unfold Tensor.ew applyTo M.Makes
  rw [ends_bind]
  refine Gradient.applyNode_ends (.of_eq (elemwiseNode (tensorOp sym op) op [] args) (kit m) rfl ?_)
  unfold elemwiseNode
  rw [ends_bind]
  refine (mapM_forall₂ (A := fun t => t.Shows k ρ) (B := fun t => t.Denotes k ρ) (fun _ _ _ _ hL h => h.later hL)
    (fun _ _ _ _ hL h => h.later hL) (fun _ _ _ hL h => asTensor_makes (hs.later hL) h) h).imp fun vs t ⟨hL, hvs⟩ => ?_
  have hlt : ∀ v ∈ vs, v.idx < t.arena.vars.size := fun v hv => (exists_of_forall₂ hvs.flip hv).elim fun _ h => h.lt
  rw [ends_bind]
  refine (elemwiseInfo_ends hop hvs).imp ?_
  rintro _ _ ⟨rfl, rfl⟩
  refine (newNode_makes (k := k) (hs.later hL) hlt fun y v u hu hopy hins hout hty => ?_).imp fun y u ⟨hu, v, hout, hL', hv⟩ => ?_
  · obtain ⟨arrays, hc, ha⟩ := computes_all hvs hu
    refine ⟨arrays.map .array, 0, hc, ?_⟩
    unfold opPerform
    rw [ends_bind, ends_opOf, hopy]
    refine elemwisePerform_whole hop ha (fun w hw => ?_) hout hty
    obtain ⟨n, h⟩ := exists_of_forall₂ hvs.flip (hins ▸ hw)
    rw [hu.arena.typeOf h.lt]
    exact ⟨n.1, h.type⟩
  · refine ⟨hu.off, ?_⟩
    rw [ends_bind, ends_outsOf, hout]
    exact ⟨hL.trans hL', hv⟩

/-! ## Operators that are one function of arrays -/

theorem ends_floatX {Q : DType → Session → Prop} (hQ : ∀ d, Q d s) : floatX.Ends k s Q E := by
  obtain ⟨d, hd⟩ : ∃ d, floatX k s = .ok d s := by
    unfold floatX
    split <;> exact ⟨_, rfl⟩
  exact (ends_of_ok hd).mpr (hQ d)

theorem commonType_ends {ds : List DType} (hd : ∀ d ∈ ds, d = .int8 ∨ d = .int64) {Q : DType → Session → Prop} (hQ : Q .int64 s) :
    (commonType (.int64 :: ds)).Ends k s Q E := by
  have hfold : ds.foldl DType.promote .int64 = .int64 := by
    induction ds with
    | nil => rfl
    | cons d l ih =>
      have hl := List.forall_mem_cons.mp hd
      obtain rfl | rfl := hl.1 <;> exact ih hl.2
  unfold commonType
  simp only [hfold, ends_bind]
  refine (ends_of_ok (x := settingText _) (t := s) rfl).mpr ?_
  simp only [ends_ite, ends_bind]
  split
  · exact hQ
  · exact ends_floatX fun _ => hQ

theorem upcast_ends {ds : List DType} {kind : ScalarKind} {name : String} (hd : ∀ d ∈ ds, d = .int8 ∨ d = .int64)
    (hk : kind = .mul ∨ kind = .maximum ∨ kind = .intDiv) :
    (ScalarOp.outputTypes (.named kind .upcast name) (.int64 :: ds)).Ends k s (fun ds t => s = t ∧ ds = [.int64]) E := by
  obtain rfl | rfl | rfl := hk
  all_goals
    change ((commonType (.int64 :: ds) >>= fun e => Pure.pure [e]) >>= _).Ends k s _ _
    rw [ends_bind, ends_bind]
    exact commonType_ends hd ⟨rfl, rfl⟩

theorem elemwiseArrays_ends {arrays : List NdArray} {typed : Bool} (hf : op.kind.arrayFunction? = some (arrays.length, typed))
    (hn : n.1.isFloat = false) (h : applyKind op.kind none arrays = .ok (.whole n.1 n.2 0)) :
    (elemwiseArrays op [n.1] arrays).Ends k s (fun as t => s = t ∧ as = [.whole n.1 n.2 0]) E := by
  unfold elemwiseArrays
  simp only [hf, BEq.rfl, if_true, List.getD_cons_zero, hn, Bool.and_false, Bool.false_and, Bool.false_eq_true, if_false, h]
  refine ⟨rfl, ?_⟩
  simp [NdArray.cast, NdArray.whole]

section Laws

attribute [local simp] NdArray.whole applyKind ScalarKind.types broadcastShapes zipArrays NdArray.cast NdArray.stretched
  ScalarKind.eval ScalarKind.isLogical ScalarKind.intFn2 ScalarKind.compare DType.promote Bind.bind Except.bind Pure.pure
  Except.pure DType.fit DType.isComplex DType.isFloat DType.isSigned DType.bits DType.itemSize Elem.eq Elem.truthy

theorem applyKind_mul {p q : Nat} :
    applyKind .mul none [.whole .int64 a p, .whole .int64 b q] = .ok (.whole .int64 (DType.int64.wrap (a * b)) 0) := by
  simp

theorem maximum_gives (hd : d = .int8 ∨ d = .int64) : ScalarOp.maximum.Gives [(.int64, a), (d, 1)] (.int64, max a 1) := by
  refine ⟨List.cons_ne_nil _ _, fun k s => ?_, fun arrays k s h => ?_⟩
  · rw [ScalarOp.typesFor, ends_bind]
    exact upcast_ends (by simpa using hd) (by simp)
  · obtain _ | ⟨⟨p, rfl⟩, _ | ⟨⟨q, rfl⟩, _ | _⟩⟩ := h
    refine elemwiseArrays_ends rfl rfl ?_
    obtain rfl | rfl := hd <;> simp [ScalarOp.maximum, ScalarOp.named, DType.wrap]

theorem intDiv_gives : ScalarOp.intDiv.Gives [(.int64, a), (.int64, b)]
    (.int64, if b == 0 then 0 else DType.int64.wrap (a.fdiv b)) := by
  refine ⟨List.cons_ne_nil _ _, fun k s => ?_, fun arrays k s h => ?_⟩
  · rw [ScalarOp.typesFor, ends_bind]
    exact upcast_ends (by simp) (by simp)
  · obtain _ | ⟨⟨p, rfl⟩, _ | ⟨⟨q, rfl⟩, _ | _⟩⟩ := h
    exact elemwiseArrays_ends rfl rfl (by simp [ScalarOp.intDiv, ScalarOp.named])

theorem neg_gives : ScalarOp.neg.Gives [(.int64, a)] (.int64, DType.int64.wrap (-a)) := by
  refine ⟨List.cons_ne_nil _ _, fun k s => ⟨rfl, rfl⟩, fun arrays k s h => ?_⟩
  obtain _ | ⟨⟨p, rfl⟩, _ | _⟩ := h
  exact elemwiseArrays_ends rfl rfl (by simp [ScalarOp.neg, ScalarOp.named])

theorem eq_gives (hd : d = .int8 ∨ d = .int64) :
    ScalarOp.eq.Gives [(.int64, a), (d, -1)] (.bool, if a = -1 then 1 else 0) := by
  refine ⟨List.cons_ne_nil _ _, fun k s => ⟨rfl, rfl⟩, fun arrays k s h => ?_⟩
  obtain _ | ⟨⟨p, rfl⟩, _ | ⟨⟨q, rfl⟩, _ | _⟩⟩ := h
  refine elemwiseArrays_ends rfl rfl ?_
  obtain rfl | rfl := hd <;> simp [ScalarOp.eq, ScalarOp.plain, DType.wrap]

theorem switch_gives {c : Int} : ScalarOp.switch.Gives [(.bool, c), (.int64, a), (.int64, b)] (.int64, if c = 0 then b else a) := by
  refine ⟨List.cons_ne_nil _ _, fun k s => ?_, fun arrays k s h => ?_⟩
  · rw [ScalarOp.typesFor, ends_bind]
    change (commonType [.int64, .int64] >>= fun e => Pure.pure [e]).Ends k s _ _
    rw [ends_bind]
    exact commonType_ends (by simp) ⟨rfl, rfl⟩
  · obtain _ | ⟨⟨p, rfl⟩, _ | ⟨⟨q, rfl⟩, _ | ⟨⟨r, rfl⟩, _ | _⟩⟩⟩ := h
    have hrange : Array.range 1 = #[0] := rfl
    refine elemwiseArrays_ends rfl rfl ?_
    simp [ScalarOp.switch, ScalarOp.plain, shapeSize, hrange]
    split <;> rfl

end Laws

/-- The quotient of two variables. -/
theorem operate_floorDiv_ends (hs : s.Ready ρ) (ha : s.Denotes k ρ v (.int64, a)) (hb : s.Denotes k ρ w (.int64, b)) :
    (operate .floorDiv v w).Ends (kit (m + 1)) s (fun r t => ∃ u : VarId, r = u ∧ s.Later t ∧
      t.Denotes k ρ u (.int64, if b == 0 then 0 else DType.int64.wrap (a.fdiv b))) fun _ _ => False := by
  obtain ⟨o, hv⟩ := ha.type
  obtain ⟨o', hw⟩ := hb.type
  unfold operate
  simp only [ends_bind, ends_operatorFamily hv, ends_operatorFamily hw]
  change (symbolicOperator .floorDiv v w).Ends (kit (m + 1)) s _ _
  unfold symbolicOperator
  simp only [ends_bind, ends_operatorFamily hv]
  change (Tensor.ew "int_div" .intDiv [.var v, .var w] >>= fun v => Pure.pure (Value.var v)).Ends (kit (m + 1)) s _ _
  rw [ends_bind]
  exact (ew_makes hs intDiv_gives (.cons (.var ha) (.cons (.var hb) .nil))).imp fun u t h => ⟨u, rfl, h⟩

/-! ## Products, which take any number of operands -/

/-- A number that an element of the widest signed type can hold. -/
def Fits (i : Int) : Prop := -2 ^ 63 ≤ i ∧ i < 2 ^ 63

theorem wrap_int64 (i : Int) : DType.int64.wrap i = i.bmod 18446744073709551616 := rfl

theorem Fits.wrap (h : Fits i) : DType.int64.wrap i = i := by
  rw [wrap_int64]
  have := h.1
  have := h.2
  exact Int.bmod_eq_of_le (by omega) (by omega)

theorem Fits.elem? (h : Fits i) : (Value.int i).elem? = some (.int64, .int i) := by
  have h : intDType i = some .int64 := by simpa [intDType, Fits] using h
  rw [Value.elem?, h]
  rfl

theorem foldl_mul (is : List Int) (a : Int) :
    (is.map fun i => ((.int64, .int i) : DType × Elem)).foldl (fun x p => do
      ScalarKind.mul.eval .int64 [<- x, DType.int64.fit p.2]) (.ok (.int (DType.int64.wrap a))) =
      .ok (.int (DType.int64.wrap (a * is.prod))) := by
  induction is generalizing a with
  | nil => simp
  | cons i is ih =>
    rw [List.map_cons, List.foldl_cons, List.prod_cons, ← mul_assoc, ← ih]
    congr 1
    change Except.ok (Elem.int (DType.int64.wrap (DType.int64.wrap a * DType.int64.wrap i))) = _
    simp [wrap_int64]

theorem impl_mul_ends (h : ∀ i ∈ is, Fits i) (hne : is ≠ []) :
    (ScalarOp.mul.impl (is.map .int)).Ends k s
      (fun rs t => s = t ∧ rs = [.number .int64 (.int (DType.int64.wrap is.prod))]) E := by
  have htype : ∀ l : List Int, (l.map fun i => (DType.int64, Elem.int i)).foldl (fun (d : DType) p => d.promote p.1) .int64 = .int64 := by
    intro l
    induction l with
    | nil => rfl
    | cons _ _ ih => exact ih
  have hsigned : DType.int64.isSigned = true := rfl
  have hone : Elem.one .int64 = .int (DType.int64.wrap 1) := rfl
  unfold ScalarOp.impl ScalarKind.impl
  simp only [ScalarOp.mul, ScalarOp.named, ends_bind, List.mapM_map]
  refine mapM_reads (g := fun i => (.int64, .int i)) (fun i hi => ?_) ?_
  · rw [Function.comp_apply, (h i hi).elem?]
    exact ⟨rfl, rfl⟩
  obtain ⟨i, l, rfl⟩ := List.exists_cons_of_ne_nil hne
  simp only [List.map_cons, htype, hsigned, Bool.true_or, if_true, hone]
  rw [← List.map_cons (f := fun i => (DType.int64, Elem.int i)), foldl_mul, one_mul]
  exact ⟨rfl, rfl⟩

theorem broadcastShapes_nil {shapes : List (List Nat)} (h : ∀ sh ∈ shapes, sh = []) : broadcastShapes shapes = some [] := by
  have hmax : shapes.foldl (fun m sh => max m sh.length) 0 = 0 := by
    induction shapes with
    | nil => rfl
    | cons sh shapes ih =>
      rw [List.forall_mem_cons] at h
      rw [h.1]
      exact ih h.2
  rw [broadcastShapes, hmax]
  rfl

theorem mul_gives (h : ∀ i ∈ is, Fits i) (hne : is ≠ []) :
    ScalarOp.mul.Gives (is.map (.int64, ·)) (.int64, DType.int64.wrap is.prod) := by
  refine ⟨by simpa using hne, fun k s => ?_, fun arrays k s ha => ?_⟩
  · obtain ⟨i, l, rfl⟩ := List.exists_cons_of_ne_nil hne
    exact upcast_ends (by simp) (.inl rfl)
  rw [List.forall₂_map_right_iff] at ha
  -- two operands are one function of arrays, any other number is taken element by element
  by_cases htwo : is.length = 2
  · obtain ⟨i, j, rfl⟩ := List.length_eq_two.mp htwo
    obtain _ | ⟨⟨p, rfl⟩, _ | ⟨⟨q, rfl⟩, _ | _⟩⟩ := ha
    rw [List.prod_pair]
    exact elemwiseArrays_ends rfl rfl applyKind_mul
  · have hshape : ∀ sh ∈ arrays.map (·.shape), sh = [] := by
      intro sh hsh
      obtain ⟨a, hmem, rfl⟩ := List.mem_map.mp hsh
      obtain ⟨n, r, rfl⟩ := exists_of_forall₂ ha.flip hmem
      rfl
    have hcols : (arrays.map fun a => (a.dtype, a.stretched [])).map (fun x => (x.2.getD 0 (.int 0)).plain x.1) = is.map .int := by
      clear hshape hne h htwo
      induction ha with
      | nil => rfl
      | cons h _ ih =>
        obtain ⟨r, rfl⟩ := h
        rw [List.map_cons, List.map_cons, ih]
        rfl
    have hrange : List.range (shapeSize []) = [0] := rfl
    have hwrap : DType.int64.wrap (DType.int64.wrap is.prod) = DType.int64.wrap is.prod := by simp [wrap_int64]
    rw [← ha.length_eq] at htwo
    unfold elemwiseArrays
    simp only [ScalarOp.mul, ScalarOp.named, ScalarKind.arrayFunction?, beq_iff_eq, htwo, if_false, broadcastShapes_nil hshape,
      hrange, List.forIn_cons, ends_bind, hcols]
    refine (impl_mul_ends h hne).imp ?_
    rintro _ _ ⟨rfl, rfl⟩
    exact ⟨rfl, congrArg (fun i => [NdArray.whole .int64 i 0]) hwrap⟩

/-! ## Entries of a vector -/

/-- A vector of whole numbers. -/
def NdArray.vector (is : List Int) (r : Nat) : NdArray := ⟨.int64, [is.length], (is.map .int).toArray, r⟩

theorem toInts_vector {g : Nat} : (NdArray.vector is g).toInts = is := by
  simp [NdArray.toInts, NdArray.vector, Function.comp_def, Elem.toInt]

theorem selectPlaces_vector {l i : Nat} (hi : i < l) : selectPlaces [l] [.pos i] = .ok ⟨[], #[i]⟩ := by
  have hpos : positionOf l i = .ok i := by
    have hplace : placeOf l i = i := by simp [placeOf]
    simp [positionOf, hplace, hi]
  have hnone : broadcastShapes [] = some [] := rfl
  have hrange : Array.range (shapeSize []) = #[0] := rfl
  have hflat : flatIndex [] [] = 0 := rfl
  simp [selectPlaces, expandMasks, expandMasks.go, completeSels, Sel.uses, stepsOf, stepsOf.go, rowStrides, hpos, hnone, hrange,
    hflat, Bind.bind, Except.bind, Pure.pure, Except.pure]

theorem select_vector {g i : Nat} (hi : i < is.length) :
    (NdArray.vector is g).select [.pos i] = .ok (.whole .int64 (is.getD i 0) g) := by
  rw [NdArray.select, NdArray.vector, selectPlaces_vector hi]
  simp [NdArray.whole, NdArray.at', hi, Bind.bind, Except.bind, Pure.pure, Except.pure]

theorem templateOperands_ends (hc : s.arena.typeOf c = .scalar .int64) {Q : Vars → Session → Prop} (hQ : Q [c] s) :
    (templateOperands 1 [.pos .int64] [.var c]).Ends k s Q E := by
  unfold templateOperands
  rw [List.mapM_cons, List.mapM_nil]
  simp only [ends_bind, ends_typeOf, hc, Ty.isTensor, Bool.false_eq_true, if_false]
  unfold asScalar
  simp only [ends_bind, ends_typeOf, hc, ends_pure]
  change ((forIn [(c, DType.int64)] PUnit.unit _ : M PUnit) >>= _).Ends k s _ _
  rw [List.forIn_cons]
  simp only [ends_bind, ends_typeOf, hc]
  exact hQ

/-- The entry of a vector at a position. -/
theorem atPos_makes {g i : Nat} {b : Bool} {name : Option String} (hs : s.Ready ρ) (hv : v.idx < s.arena.vars.size)
    (hty : s.arena.typeOf v = .tensor .int64 [b] name) (hρ : ρ v = some (.array (.vector is g))) (hi : i < is.length) :
    (Tensor.atPos v i).Makes (kit (m + 1)) k ρ s (.int64, is.getD i 0) := by
  unfold Tensor.atPos Tensor.indexConstant apply1 applyTo M.Makes
  rw [ends_bind]
  refine (newConstant_computes (k := k) hs).imp fun c t ⟨hL, hc, htc, hval⟩ => ?_
  have htv := (hL.arena.typeOf hv).trans hty
  rw [ends_bind]
  refine Gradient.applyNode_ends (.of_eq (subtensorNode [.pos .int64] [.var v, .var c]) (kit m) rfl ?_)
  unfold subtensorNode
  dsimp only
  rw [ends_bind, ends_asTensor htv, ends_bind, ends_bcastOf htv, ends_bind]
  refine templateOperands_ends htc ?_
  rw [ends_bind]
  change (dtypeOf v >>= _).Ends (kit m) t _ _
  rw [ends_bind, ends_dtypeOf htv]
  refine (newNode_makes (n := (.int64, is.getD i 0)) (k := k) (hs.later hL) (by simp [hc, hv.trans_le hL.arena.vars_le]) ?_).imp ?_
  · intro y u t' ht' hop _ _ _
    refine ⟨[.array (.vector is g), .number .int64 (.int i)], g, .cons (.given hρ) (.cons (hval t' ht') .nil), ?_⟩
    unfold opPerform
    rw [ends_bind, ends_opOf, hop]
    change ((liftFault ((NdArray.vector is g).select [.pos i]) >>= _) >>= _).Ends k t' _ _
    rw [select_vector hi]
    rfl
  · rintro y u ⟨hu, v, hout, hL', hv⟩
    refine ⟨hu.off, ?_⟩
    rw [ends_bind, ends_outsOf, hout]
    exact ⟨hL.trans hL', hv⟩

end TensorGraph
