import Mathlib.Data.List.Forall2
import TensorGraph.Gradient.Grad
import TensorGraph.Proofs.Paths
import TensorGraph.Proofs.Sessions

/-!
# Expressions as numbers

Expressions over a type of exact numbers are read as rational numbers (`Arena.Evaluates`). `Arithmetic` says that numbers
of the type can be added, copied and filled, and `Pullbacks` that each operator gives back to its inputs the gradients
of its outputs, times its local derivatives.
-/

namespace TensorGraph

open M

/-- How expressions are read as numbers: what each output of an operator is, which number a constant is, and what the
other variables without an owner stand for. -/
structure Valuation where
  result : Op → List ℚ → Nat → ℚ
  constant : Value → ℚ
  input : VarId → ℚ

def Valuation.leaf (ρ : Valuation) (a : Arena) (v : VarId) : ℚ :=
  match (a.var v).role with
  | .constant x => ρ.constant x
  | _ => ρ.input v

/-- The number that a variable stands for. -/
inductive Arena.Evaluates (a : Arena) (ρ : Valuation) : VarId → ℚ → Prop
  | leaf {v} : v.idx < a.vars.size → a.owner v = none → a.Evaluates ρ v (ρ.leaf a v)
  | result {v n qs} : a.owner v = some n → qs.length = (a.inputs n).length →
      (∀ (i : Nat) x q, (a.inputs n)[i]? = some x → qs[i]? = some q → a.Evaluates ρ x q) →
      a.Evaluates ρ v (ρ.result (a.op n) qs (a.var v).index)

theorem Arena.Evaluates.lt {a : Arena} {ρ : Valuation} {v : VarId} {q : ℚ} (h : a.Evaluates ρ v q) : v.idx < a.vars.size := by
  cases h with
  | leaf hv _ => exact hv
  | result ho _ _ => exact lt_of_owner ho

/-- What is added to an arena does not change what its variables stand for. -/
theorem Arena.Evaluates.grow {a b : Arena} {ρ : Valuation} {v : VarId} {q : ℚ} (h : a.Evaluates ρ v q) (hwf : a.Wf)
    (hg : a.Grows b) : b.Evaluates ρ v q := by
  induction h with
  | @leaf v hv ho =>
    have hleaf : ρ.leaf a v = ρ.leaf b v := by unfold Valuation.leaf; rw [(hg.var v hv).2.2.2]
    rw [hleaf]
    exact .leaf (hv.trans_le hg.vars_le) ((hg.owner hv).trans ho)
  | @result v n qs ho hlen _ ih =>
    have hn := hwf.node_lt ho
    have hv := lt_of_owner ho
    rw [← hg.op hn, ← (hg.var v hv).2.1]
    refine .result ((hg.owner hv).trans ho) (by rw [hg.inputs hn, hlen]) fun i x q hx hq => ?_
    rw [hg.inputs hn] at hx
    exact ih i x q hx hq

/-- The only result of a node with two operands. -/
theorem Arena.Evaluates.pair {a : Arena} {ρ : Valuation} {n : NodeId} {u x y : VarId} {p q : ℚ} (hwf : a.Wf)
    (houts : a.outputs n = [u]) (hins : a.inputs n = [x, y]) (hx : a.Evaluates ρ x p) (hy : a.Evaluates ρ y q) :
    a.Evaluates ρ u (ρ.result (a.op n) [p, q] 0) := by
  obtain ⟨ho, hidx⟩ := (hwf.result n 0 u).mp (by rw [houts]; rfl)
  rw [← hidx]
  refine .result ho (by rw [hins]; rfl) fun i z r hz hr => ?_
  rw [hins] at hz
  match i with
  | 0 =>
    obtain rfl := Option.some.inj hz
    obtain rfl := Option.some.inj hr
    exact hx
  | 1 =>
    obtain rfl := Option.some.inj hz
    obtain rfl := Option.some.inj hr
    exact hy
  | i + 2 => cases hz

/-- Types of single continuous numbers. -/
inductive Ty.Number (d : DType) : Ty → Prop
  | tensor (name : Option String) : Ty.Number d (.tensor d [] name)
  | scalar : Ty.Number d (.scalar d)

/-- The operator by which numbers of a type are added. -/
def Ty.sumOp : Ty → Op
  | .scalar _ => .scalar .add
  | _ => addOp

variable (s : Session) (τ : Ty) (ρ : Valuation) (v : VarId)

/-- A variable of a type, up to its name. -/
def Session.Holds : Prop := v.idx < s.arena.vars.size ∧ (s.arena.typeOf v == τ) = true

/-- What a gradient stands for: a number, or nothing if it is disconnected. -/
def Session.Reads : Option ℚ → Prop
  | none => v.idx < s.arena.vars.size ∧ s.arena.typeOf v = .disconnected
  | some q => s.Holds τ v ∧ s.arena.Evaluates ρ v q

/-- A variable of a later session stands for the same number as one of an earlier session. -/
def Session.Stands (s t : Session) (τ : Ty) (ρ : Valuation) (v u : VarId) : Prop :=
  t.Holds τ u ∧ ∀ q, s.arena.Evaluates ρ v q → t.arena.Evaluates ρ u q

section Typed

variable {s t : Session} {τ : Ty} {d : DType} {ρ : Valuation} {v : VarId} {q : Option ℚ}

theorem Session.Holds.later (h : s.Holds τ v) (hL : s.Later t) : t.Holds τ v :=
  ⟨h.1.trans_le hL.arena.vars_le, by rw [hL.arena.typeOf h.1]; exact h.2⟩

theorem Session.Reads.later (h : s.Reads τ ρ v q) (hwf : s.arena.Wf) (hL : s.Later t) : t.Reads τ ρ v q := by
  cases q with
  | none => exact ⟨h.1.trans_le hL.arena.vars_le, (hL.arena.typeOf h.1).trans h.2⟩
  | some q => exact ⟨h.1.later hL, h.2.grow hwf hL.arena⟩

/-- A type that equals a type of numbers is one. -/
theorem Ty.Number.of_beq {σ : Ty} (hτ : τ.Number d) (h : (σ == τ) = true) : σ.Number d ∧ σ.sumOp = τ.sumOp := by
  have h : Ty.same σ τ = true := (Bool.and_eq_true_iff.mp h).1
  cases hτ with
  | tensor name =>
    cases σ <;> simp only [Ty.same, Bool.false_eq_true] at h
    case tensor d' b' _ =>
      obtain ⟨h1, h2⟩ := Bool.and_eq_true_iff.mp h
      obtain rfl := eq_of_beq h1
      obtain rfl := eq_of_beq h2
      exact ⟨.tensor _, rfl⟩
  | scalar =>
    cases σ <;> simp only [Ty.same, Bool.false_eq_true] at h
    case scalar d' =>
      obtain rfl := eq_of_beq h
      exact ⟨.scalar, rfl⟩

theorem DType.not_discrete_of_float (h : d.isFloat = true) : d.isDiscrete = false := by
  revert h
  cases d <;> decide

theorem Session.Holds.number (h : s.Holds τ v) (hτ : τ.Number d) : (s.arena.typeOf v).Number d := (hτ.of_beq h.2).1

theorem Ty.Number.dtype {σ : Ty} (hσ : σ.Number d) : σ.dtype? = some d := by cases hσ <;> rfl

theorem Session.Reads.lt (h : s.Reads τ ρ v q) : v.idx < s.arena.vars.size := by
  cases q with
  | none => exact h.1
  | some q => exact h.1.1

theorem Session.Reads.isDisconnected (h : s.Reads τ ρ v q) (hτ : τ.Number d) :
    (s.arena.typeOf v == .disconnected) = q.isNone := by
  cases q with
  | none => rw [h.2]; rfl
  | some q =>
    have hn := h.1.number hτ
    generalize s.arena.typeOf v = σ at hn
    cases hn <;> rfl

theorem Session.Reads.dtype (h : s.Reads τ ρ v q) (hτ : τ.Number d) : (s.arena.typeOf v).dtype? = q.map fun _ => d := by
  cases q with
  | none => rw [h.2]; rfl
  | some q => exact (h.1.number hτ).dtype

theorem Session.Reads.not_null (h : s.Reads τ ρ v q) (hτ : τ.Number d) (w : String) : s.arena.typeOf v ≠ .null w := by
  intro e
  cases q with
  | none => rw [h.2] at e; cases e
  | some q =>
    have hn := h.1.number hτ
    rw [e] at hn
    cases hn

end Typed

/-! ## What is asked of types and operators -/

/-- What comes back to an input from the gradients of the outputs that it is connected with: nothing, if none of them has one. -/
def pulled (p : List (List Bool)) (D : Nat → ℚ) (qs : List (Option ℚ)) (i : Nat) : Option ℚ :=
  let terms := qs.zipIdx.filterMap fun (q, o) => if Flow.connects p i o then q.map (· * D o) else none
  if terms.isEmpty then none else some terms.sum

/-- Numbers of the type can be added, copied and filled, exactly. -/
structure Arithmetic (k : Kit) (s₀ : Session) (τ : Ty) (d : DType) (ρ : Valuation) : Prop where
  number : τ.Number d
  float : d.isFloat = true
  plus : ∀ p q, ρ.result τ.sumOp [p, q] 0 = p + q
  sum : ∀ s a b, s₀.Later s → s.Holds τ a → s.Holds τ b →
    (M.ask fun k => k.makeNode τ.sumOp [.var a, .var b] []).Ends k s
      (fun n t => s.Later t ∧ t.arena.op n = τ.sumOp ∧ t.arena.inputs n = [a, b] ∧
        ∃ u, t.arena.outputs n = [u] ∧ t.Holds τ u) fun _ _ => False
  one : ∀ s v, s₀.Later s → s.Holds τ v →
    (callMethod v "ones_like" [] [("dtype", d.name)]).Ends k s
      (fun r t => ∃ u : VarId, r = u ∧ s.Later t ∧ t.Reads τ ρ u (some 1)) fun _ _ => False
  zero : ∀ s v, s₀.Later s → s.Holds τ v →
    (callMethod v "zeros_like" []).Ends k s
      (fun r t => ∃ u : VarId, r = u ∧ s.Later t ∧ t.Reads τ ρ u (some 0)) fun _ _ => False
  same : ∀ s v, s₀.Later s → s.Holds τ v → ∀ m ∈ [("astype", [Value.str d.name]), ("copy", [])],
    (callMethod v m.1 m.2).Ends k s
      (fun r t => ∃ u : VarId, r = u ∧ s.Later t ∧ s.Stands t τ ρ v u) fun _ _ => False

/-- The operators behind a cost say which inputs are connected with which outputs, and give back to an input the sum of the
gradients of the outputs that it is connected with, times the local derivatives. -/
structure Pullbacks (k : Kit) (s₀ : Session) (τ : Ty) (ρ : Valuation) (c : VarId) (pat : NodeId → List (List Bool))
    (D : Flow.Edge NodeId → ℚ) : Prop where
  connections : ∀ s n, s₀.Later s → (Gradient.dataflow s₀.arena).Behind c n → (connections? n).Ends k s
    (fun p t => s.Later t ∧ pat n =
      p.getD (List.replicate (s₀.arena.inputs n).length (List.replicate (s₀.arena.outputs n).length true))) fun _ _ => False
  rows : ∀ n, (Gradient.dataflow s₀.arena).Behind c n → (pat n).length = (s₀.arena.inputs n).length
  pullback : ∀ s n ins gs qs, s₀.Later s → (Gradient.dataflow s₀.arena).Behind c n →
    List.Forall₂ (s₀.Stands s τ ρ) (s₀.arena.inputs n) ins → List.Forall₂ (s.Reads τ ρ) gs qs →
    qs.length = (s₀.arena.outputs n).length → (∃ i, (pulled (pat n) (fun o => D ⟨n, i, o⟩) qs i).isSome = true) →
    (M.ask fun k => k.pullback (s₀.arena.op n) ins (s₀.arena.outputs n) gs).Ends k s
      (fun ts t => s.Later t ∧ ts.length = ins.length ∧
        ∀ (i : Nat) u, ts[i]? = some u → t.Reads τ ρ u (pulled (pat n) (fun o => D ⟨n, i, o⟩) qs i)) fun _ _ => False

/-- Test values are not computed. -/
def Session.TestsOff : Prop := ∀ k, settingText "compute_test_value" k s = .ok "off" s

theorem Session.Later.settingText {s t : Session} {k K : Kit} {name p : String} (hL : s.Later t)
    (h : TensorGraph.settingText name k s = .ok p s) : TensorGraph.settingText name K t = .ok p t := by
  change EStateM.Result.ok (((t.settings.lookup name).getD _).str?.getD "") t = _
  rw [hL.settings]
  exact congrArg (EStateM.Result.ok · t) (EStateM.Result.ok.inj h).1

theorem Session.TestsOff.later {s t : Session} (h : s.TestsOff) (hL : s.Later t) : t.TestsOff := fun k => hL.settingText (h k)

end TensorGraph
