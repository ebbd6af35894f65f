import TensorGraph.Compile.Inputs
import TensorGraph.Proofs.Sessions

/-!
# Values of expressions, and what can be copied

An interpretation gives values to the variables without an owner and to the results of operators. `Means` is the value of a
variable under an interpretation when some variables are replaced by others; an acyclic expression has exactly one. A set of
variables is `Copyable` if the copying of expressions stays inside it and meets no obstacle there.
-/

namespace TensorGraph

open M
open Relation (TransGen)

structure Interpretation (α : Type) where
  leaf : VarId → α
  result : Op → List α → Nat → α

/-- The interpretation that gives the variables of a table the values of what the table has for them. -/
def Interpretation.put {α : Type} (ρ : Interpretation α) (T : List (VarId × VarId)) (val : VarId → α) : Interpretation α :=
  { ρ with leaf := fun v => (T.lookup v).elim (ρ.leaf v) val }

theorem Interpretation.leaf_put {α : Type} {ρ : Interpretation α} {T : List (VarId × VarId)} {val : VarId → α} {v : VarId} :
    (ρ.put T val).leaf v = (T.lookup v).elim (ρ.leaf v) val := rfl

namespace Arena

/-- The value of a variable when each variable met on the way down that has a substitute in the table stands for the
value of the substitute. Inside substitutes nothing is replaced. -/
inductive Means {α : Type} (a : Arena) (ρ : Interpretation α) : List (VarId × VarId) → VarId → α → Prop
  | replaced {T v y q} : T.lookup v = some y → Means a ρ [] y q → Means a ρ T v q
  | leaf {T v} : T.lookup v = none → a.owner v = none → Means a ρ T v (ρ.leaf v)
  | result {T v n} (val : VarId → α) : T.lookup v = none → a.owner v = some n →
      (∀ x ∈ a.inputs n, Means a ρ T x (val x)) →
      Means a ρ T v (ρ.result (a.op n) ((a.inputs n).map val) (a.var v).index)

variable {α : Type} {a b : Arena} {ρ ρ' : Interpretation α} {T T' : List (VarId × VarId)}
  {v x : VarId} {q p : α} {m n : NodeId} {ins : Vars}

theorem Means.unique (h : a.Means ρ T v q) (h' : a.Means ρ T v p) : q = p := by
  induction h generalizing p with
  | replaced hy _ ih =>
    cases h' with
    | replaced hy' h' => cases hy.symm.trans hy'; exact ih h'
    | leaf hn _ => cases hy.symm.trans hn
    | result _ hn _ _ => cases hy.symm.trans hn
  | leaf hn ho =>
    cases h' with
    | replaced hy' _ => cases hn.symm.trans hy'
    | leaf _ _ => rfl
    | result _ _ ho' _ => cases ho.symm.trans ho'
  | result val hn ho _ ih =>
    cases h' with
    | replaced hy' _ => cases hn.symm.trans hy'
    | leaf _ ho' => cases ho.symm.trans ho'
    | result val' _ ho' h' =>
      cases ho.symm.trans ho'
      rw [List.map_congr_left fun x hx => ih x hx (h' x hx)]

theorem Means.result_map {l : Vars} {f : VarId → VarId} {val : VarId → α} (hn : T.lookup v = none) (ho : a.owner v = some n)
    (hl : a.inputs n = l.map f) (h : ∀ x ∈ l, a.Means ρ T (f x) (val x)) :
    a.Means ρ T v (ρ.result (a.op n) (l.map val) (a.var v).index) := by
  have : Nonempty α := ⟨ρ.leaf v⟩
  choose! val' hval using fun x (hx : ∃ q, a.Means ρ T x q) => hx
  have hmap : l.map val = (a.inputs n).map val' := by
    rw [hl, List.map_map]
    exact List.map_congr_left fun x hx => (h x hx).unique (hval _ ⟨_, h x hx⟩)
  rw [hmap]
  refine .result val' hn ho fun x hx => ?_
  obtain ⟨y, hy, rfl⟩ := List.mem_map.mp (hl ▸ hx)
  exact hval _ ⟨_, h y hy⟩

/-- Values carry over to a larger arena, another table and other values of the variables without an owner, as long as
these agree on what is replaced and on where expressions end. -/
theorem Means.carry {R : VarId → Prop} (h : a.Means ρ T v q) (hρ : ρ'.result = ρ.result) (hab : a.Extends b) (ha : a.Wf)
    (hR : ∀ v n, R v → a.owner v = some n → ∀ x ∈ a.inputs n, R x)
    (hrep : ∀ v y q, R v → T.lookup v = some y → a.Means ρ [] y q → b.Means ρ' T' v q)
    (hleaf : ∀ v, R v → T.lookup v = none → a.owner v = none → b.Means ρ' T' v (ρ.leaf v))
    (hres : ∀ v n, R v → T.lookup v = none → a.owner v = some n → T'.lookup v = none)
    (hv : R v) : b.Means ρ' T' v q := by
  induction h with
  | replaced hy h _ => exact hrep _ _ _ hv hy h
  | leaf hn ho => exact hleaf _ hv hn ho
  | result val hn ho _ ih =>
    have hnode := ha.node_lt ho
    rw [← hρ, ← hab.inputs hnode, ← hab.op hnode, ← hab.var _ (lt_of_owner ho)]
    refine .result val (hres _ _ hv hn ho) ((hab.owner (lt_of_owner ho)).trans ho) fun x hx => ?_
    rw [hab.inputs hnode] at hx
    exact ih x hx hrep hleaf hres (hR _ _ hv ho x hx)

theorem Means.extend (hab : a.Extends b) (ha : a.Wf) (hv : v.idx < a.vars.size) (h : a.Means ρ [] v q) : b.Means ρ [] v q :=
  h.carry (R := (·.idx < a.vars.size)) rfl hab ha (fun _ n _ _ => ha.operand n) (fun _ _ _ _ hy => by cases hy)
    (fun _ hv _ ho => .leaf rfl ((hab.owner hv).trans ho)) (fun _ _ _ _ _ => rfl) hv

/-- Variables without an owner are replaced by giving them the values of their substitutes. -/
theorem Means.release {val : VarId → α} (ha : a.Wf) (hT : ∀ x y, T.lookup x = some y → a.owner x = none ∧ a.Means ρ [] y (val y))
    (h : a.Means (ρ.put T val) [] v q) : a.Means ρ T v q := by
  refine h.carry (R := fun _ => True) rfl (.refl _) ha (fun _ _ _ _ _ _ => trivial) (fun _ _ _ _ hy => by cases hy)
    (fun x _ _ ho => ?_) (fun x n _ _ ho => ?_) trivial
  · rw [Interpretation.leaf_put]
    cases hy : T.lookup x with
    | none => exact .leaf hy ho
    | some y => exact .replaced hy (hT x y hy).2
  · cases hy : T.lookup x with
    | none => rfl
    | some y => cases (hT x y hy).1.symm.trans ho

/-- The number of nodes on the way to a variable, at most. -/
noncomputable def height (a : Arena) (v : VarId) : Nat := (a.owner v).elim 0 (a.depth · + 1)

theorem height_of_owner (ho : a.owner v = some n) : a.height v = a.depth n + 1 := by rw [height, ho]; rfl

theorem height_le (a : Arena) (v : VarId) : a.height v ≤ a.nodes.size + 1 := by
  cases ho : a.owner v with
  | none => simp [height, ho]
  | some n => rw [height_of_owner ho]; exact Nat.succ_le_succ (a.depth_le n)

theorem height_le_depth (ha : a.Wf) (hx : x ∈ a.inputs n) (hm : ∀ m, a.owner x = some m → ¬ TransGen a.Feeds m m) :
    a.height x ≤ a.depth n := by
  cases ho : a.owner x with
  | none => simp [height, ho]
  | some m => rw [height_of_owner ho]; exact depth_lt_depth ha hx ho (hm m ho)

/-- A set that holds the operands and results of the owners of its members. -/
def Closed (a : Arena) (R : VarId → Prop) : Prop := ∀ v n, R v → a.owner v = some n → ∀ x ∈ a.inputs n ++ a.outputs n, R x

theorem Extends.closed {R : VarId → Prop} (hab : a.Extends b) (ha : a.Wf) (h : a.Closed R) (hR : ∀ v, R v → v.idx < a.vars.size) :
    b.Closed R := fun v n hv ho => by
  rw [hab.owner (hR v hv)] at ho
  rw [hab.inputs (ha.node_lt ho), hab.outputs (ha.node_lt ho)]
  exact h v n hv ho

section Feeds

variable (hab : a.Extends b) (ha : a.Wf) (hnew : ∀ n, a.nodes.size ≤ n.idx → ∀ x ∈ b.inputs n, x.idx < a.vars.size)

include hab ha hnew

/-- If new nodes have old operands, only old nodes feed others. -/
theorem Extends.feeds_lt (h : b.Feeds m n) : m.idx < a.nodes.size := by
  obtain ⟨x, hx, ho⟩ := h
  have hx : x.idx < a.vars.size := by
    by_cases hn : n.idx < a.nodes.size
    · exact ha.operand n x (hab.inputs hn ▸ hx)
    · exact hnew n (Nat.not_lt.mp hn) x hx
  exact ha.node_lt ((hab.owner hx).symm.trans ho)

theorem Extends.transGen_feeds (h : TransGen b.Feeds m n) (hn : n.idx < a.nodes.size) : TransGen a.Feeds m n := by
  have hstep : ∀ {m n}, b.Feeds m n → n.idx < a.nodes.size → a.Feeds m n := by
    rintro m n ⟨x, hx, ho⟩ hn
    rw [hab.inputs hn] at hx
    exact ⟨x, hx, (hab.owner (ha.operand n x hx)).symm.trans ho⟩
  induction h with
  | single hf => exact .single (hstep hf hn)
  | tail _ hf ih => exact (ih (hab.feeds_lt ha hnew hf)).tail (hstep hf hn)

end Feeds

/-- The members of a set of variables of an arena, and all variables that a larger arena has besides. -/
def Grown (a b : Arena) (R : VarId → Prop) (v : VarId) : Prop := v.idx < b.vars.size ∧ (v.idx < a.vars.size → R v)

theorem Grown.mono {c : Arena} {R : VarId → Prop} (h : a.Grown b R v) (hbc : b.Extends c) : a.Grown c R v :=
  ⟨h.1.trans_le hbc.vars_le, h.2⟩

theorem Extends.push {x : Variable} : a.Extends { a with vars := a.vars.push x } where
  vars_le := by simp
  nodes_le := le_rfl
  var v hv := by rw [var_push, if_neg (by omega)]
  node _ _ := rfl

theorem isShared_eq_false (h : ∀ b, (a.var v).role ≠ .shared b) : a.isShared v = false := by
  unfold isShared
  split
  case h_1 b hb => exact absurd hb (h b)
  case h_2 => rfl

/-! ## Copies of nodes -/

theorem node_pushCopy : (a.pushCopy n ins).1.node m = if m.idx = a.nodes.size then
    { a.node n with inputs := ins.toArray, outputs := (a.node n).outputs.mapIdx fun i _ => ⟨a.vars.size + i⟩ } else a.node m := by
  simp only [node, pushCopy, Array.getD_eq_getD_getElem?, Array.getElem?_push, Array.mapIdx_mapIdx]
  split <;> rfl

theorem var_pushCopy (ins : Vars) {i : Nat} {o : VarId} (ho : (a.outputs n)[i]? = some o) :
    (a.pushCopy n ins).1.var ⟨a.vars.size + i⟩ = { (a.var o).copied with owner := some ⟨a.nodes.size⟩, index := i } := by
  have ho : (a.node n).outputs[i]? = some o := by rwa [outputs, Array.getElem?_toList] at ho
  simp [var, pushCopy, Array.getD_eq_getD_getElem?, Array.getElem?_append_right, ho]

theorem adds_pushCopy : a.Adds (a.pushCopy n ins).1 ins (a.outputs n).length where
  vars_le := by simp [pushCopy]
  nodes_le := by simp [pushCopy]
  var v hv := by simp [var, pushCopy, Array.getD_eq_getD_getElem?, Array.getElem?_append_left, hv]
  node m hm := by rw [node_pushCopy, if_neg (by omega)]
  inputs_new := by unfold Arena.inputs; rw [node_pushCopy, if_pos rfl]
  outputs_new := by
    unfold Arena.outputs
    rw [node_pushCopy, if_pos rfl]
    refine List.ext_getElem (by simp) fun i _ _ => by simp
  result i hi := by
    have := var_pushCopy ins (List.getElem?_eq_getElem hi)
    rw [Arena.owner, this]
    exact ⟨rfl, rfl⟩
  vars_eq := by simp [pushCopy, Arena.outputs]
  nodes_eq := by simp [pushCopy]
  links_eq := by simp [pushCopy, Arena.outputs]

end Arena

/-! ## What can be copied -/

namespace Session

/-- A type takes a value without an effect, also in sessions with more expressions. -/
def Takes (k : Kit) (s : Session) (τ : Ty) (x : Value) : Prop := ∀ b, s.arena.Extends b →
  (τ.filter x).Ends k { s with arena := b } (fun _ t => t = { s with arena := b }) fun _ _ => False

/-- A closed set of variables. Types equal themselves, no node depends on itself, and the default update of a shared
variable is a variable of its type in the set or a value that its type takes. -/
structure Copyable (k : Kit) (s : Session) (R : VarId → Prop) : Prop where
  wf : s.arena.Wf
  typed : ∀ v, R v → v.idx < s.arena.vars.size ∧ (s.arena.typeOf v == s.arena.typeOf v) = true
  closed : s.arena.Closed R
  acyclic : ∀ v n, R v → s.arena.owner v = some n → ¬ TransGen s.arena.Feeds n n
  update : ∀ v u, R v → s.arena.owner v = none → s.arena.isShared v = true →
    (s.arena.var v).attrs.lookup "default_update" = some u →
      (∃ w, u = .var w ∧ R w ∧ (s.arena.typeOf w == s.arena.typeOf v) = true) ∨
      (∀ w, u ≠ .var w) ∧ s.Takes k (s.arena.typeOf v) u

namespace Copyable

variable {α : Type} {k : Kit} {s : Session} {R R' : VarId → Prop} {b : Arena} {v : VarId} {n : NodeId}

theorem operand (h : s.Copyable k R) (hv : R v) (ho : s.arena.owner v = some n) {x : VarId} (hx : x ∈ s.arena.inputs n) : R x :=
  h.closed v n hv ho x (List.mem_append_left _ hx)

theorem height_le_depth (h : s.Copyable k R) (hv : R v) (ho : s.arena.owner v = some n) {x : VarId} (hx : x ∈ s.arena.inputs n) :
    s.arena.height x ≤ s.arena.depth n :=
  Arena.height_le_depth h.wf hx fun m => h.acyclic x m (h.operand hv ho hx)

theorem exists_means_of (h : s.Copyable k R) (ρ : Interpretation α) {T : List (VarId × VarId)}
    (hT : ∀ x y, T.lookup x = some y → ∃ q, s.arena.Means ρ [] y q) (hv : R v) : ∃ q, s.arena.Means ρ T v q := by
  induction hd : s.arena.height v using Nat.strong_induction_on generalizing v with
  | _ d ih =>
    cases hy : T.lookup v with
    | some y => exact (hT v y hy).imp fun _ => .replaced hy
    | none =>
      cases ho : s.arena.owner v with
      | none => exact ⟨_, .leaf hy ho⟩
      | some n =>
        have hin : ∀ x ∈ s.arena.inputs n, ∃ q, s.arena.Means ρ T x q := fun x hx => by
          have hle := h.height_le_depth hv ho hx
          rw [Arena.height_of_owner ho] at hd
          exact ih _ (by omega) (h.operand hv ho hx) rfl
        have : Nonempty α := ⟨ρ.leaf v⟩
        choose! val hval using hin
        exact ⟨_, .result val hy ho hval⟩

theorem exists_means (h : s.Copyable k R) (ρ : Interpretation α) (T : List (VarId × VarId))
    (hT : ∀ x y, T.lookup x = some y → R y) (hv : R v) :
    ∃ q, s.arena.Means ρ T v q :=
  h.exists_means_of ρ (fun _ _ hy => h.exists_means_of ρ (fun _ _ hy => by cases hy) (hT _ _ hy)) hv

theorem exists_values (h : s.Copyable k R) (ρ : Interpretation α) : ∃ val : VarId → α, ∀ y, R y → s.arena.Means ρ [] y (val y) := by
  have : Nonempty α := ⟨ρ.leaf default⟩
  choose! val hval using fun y (hy : R y) => h.exists_means ρ [] (fun _ _ h => by cases h) hy
  exact ⟨val, hval⟩

/-- Adding variables and nodes whose operands are in the set keeps it copyable. -/
theorem grow (h : s.Copyable k R) (hb : s.arena.Extends b) (hwf : b.Wf)
    (hold : ∀ v, v.idx < s.arena.vars.size → (R' v ↔ R v))
    (hnew : ∀ v, R' v → s.arena.vars.size ≤ v.idx →
      v.idx < b.vars.size ∧ (b.typeOf v == b.typeOf v) = true ∧ (b.owner v = none → b.isShared v = false))
    (hnodes : ∀ n, s.arena.nodes.size ≤ n.idx → (∀ x ∈ b.inputs n, R x) ∧ ∀ x ∈ b.outputs n, R' x) :
    { s with arena := b }.Copyable k R' := by
  have hkeep : ∀ {v}, R v → R' v := fun {v} hv => (hold v (h.typed v hv).1).mpr hv
  -- a result of an old node is old
  have howner : ∀ {v n}, b.owner v = some n → n.idx < s.arena.nodes.size → v.idx < s.arena.vars.size := fun {v n} ho hn => by
    rw [← hwf.mem_outputs, hb.outputs hn, h.wf.mem_outputs] at ho
    exact Arena.lt_of_owner ho
  have hin : ∀ n, s.arena.nodes.size ≤ n.idx → ∀ x ∈ b.inputs n, x.idx < s.arena.vars.size := fun n hn x hx =>
    (h.typed x ((hnodes n hn).1 x hx)).1
  refine ⟨hwf, fun v hv => ?_, fun v n hv ho x hx => ?_, fun v n hv ho hp => ?_, fun v u hv ho hs hu => ?_⟩
  · by_cases hlt : v.idx < s.arena.vars.size
    · rw [show Arena.typeOf _ v = _ from hb.typeOf hlt]
      exact ⟨hlt.trans_le hb.vars_le, (h.typed v ((hold v hlt).mp hv)).2⟩
    · obtain ⟨hlt, ht, -⟩ := hnew v hv (Nat.not_lt.mp hlt)
      exact ⟨hlt, ht⟩
  · by_cases hn : n.idx < s.arena.nodes.size
    · have hlt := howner ho hn
      rw [show Arena.inputs _ n = _ from hb.inputs hn, show Arena.outputs _ n = _ from hb.outputs hn] at hx
      exact hkeep (h.closed v n ((hold v hlt).mp hv) ((hb.owner hlt).symm.trans ho) x hx)
    · obtain ⟨hin, hout⟩ := hnodes n (Nat.not_lt.mp hn)
      exact (List.mem_append.mp hx).elim (fun hx => hkeep (hin x hx)) (hout x)
  · obtain ⟨_, hf, -⟩ := TransGen.head'_iff.mp hp
    have hn := hb.feeds_lt h.wf hin hf
    have hlt := howner ho hn
    exact h.acyclic v n ((hold v hlt).mp hv) ((hb.owner hlt).symm.trans ho) (hb.transGen_feeds h.wf hin hp hn)
  · by_cases hlt : v.idx < s.arena.vars.size
    · have hvar : b.var v = s.arena.var v := hb.var v hlt
      have hv := (hold v hlt).mp hv
      simp only [Arena.owner, Arena.isShared, Arena.typeOf, hvar] at ho hs hu ⊢
      refine (h.update v u hv ho hs hu).imp ?_ fun hu => ⟨hu.1, fun c hc => hu.2 c (hb.trans hc)⟩
      rintro ⟨w, rfl, hw, ht⟩
      refine ⟨w, rfl, hkeep hw, ?_⟩
      rw [show (b.var w).type = _ from hb.typeOf (h.typed w hw).1]
      exact ht
    · rw [(hnew v hv (Nat.not_lt.mp hlt)).2.2 ho] at hs
      cases hs

theorem grown_self (h : s.Copyable k R) : s.arena.Grown s.arena R = R :=
  funext fun v => propext ⟨fun hv => hv.2 hv.1, fun hv => ⟨(h.typed v hv).1, fun _ => hv⟩⟩

section Grown

variable {a : Arena} (h : s.Copyable k (a.Grown s.arena R))

include h

theorem push {x : Variable} (hx : x.owner = none) (hr : ∀ b, x.role ≠ .shared b) (ht : (x.type == x.type) = true) :
    { s with arena := { s.arena with vars := s.arena.vars.push x } }.Copyable k
      (a.Grown { s.arena with vars := s.arena.vars.push x } R) := by
  refine h.grow .push (h.wf.push hx) (fun v hv => and_congr_left' (by simp; omega)) (fun v hv hle => ⟨hv.1, ?_⟩) fun n hn => ?_
  · obtain rfl : v = ⟨s.arena.vars.size⟩ := congrArg VarId.mk (by have := hv.1; simp at this; omega)
    have hvar : Arena.var { s.arena with vars := s.arena.vars.push x } ⟨s.arena.vars.size⟩ = x := by
      rw [Arena.var_push, if_pos rfl]
    rw [Arena.typeOf, hvar]
    exact ⟨ht, fun _ => Arena.isShared_eq_false (hvar.symm ▸ hr)⟩
  · constructor
    · intro x hx
      cases (Arena.inputs_of_le hn : s.arena.inputs n = []) ▸ hx
    · intro x hx
      cases (Arena.outputs_of_le hn : s.arena.outputs n = []) ▸ hx

theorem copy (ha : a.vars.size ≤ s.arena.vars.size) (hv : a.Grown s.arena R v) (ho : s.arena.owner v = some n) {ins : Vars}
    (hins : ∀ x ∈ ins, a.Grown s.arena R x) :
    { s with arena := (s.arena.pushCopy n ins).1 }.Copyable k (a.Grown (s.arena.pushCopy n ins).1 R) := by
  have hb : s.arena.Adds (s.arena.pushCopy n ins).1 ins (s.arena.outputs n).length := Arena.adds_pushCopy
  refine h.grow hb.toExtends (hb.wf h.wf fun x hx => (hins x hx).1)
    (fun v hv => and_congr_left' (iff_of_true (hv.trans_le hb.vars_le) hv)) (fun v hv hle => ⟨hv.1, ?_⟩) fun m hm => ?_
  · obtain ⟨i, hi⟩ := Nat.exists_eq_add_of_le hle
    obtain rfl : v = ⟨s.arena.vars.size + i⟩ := congrArg VarId.mk hi
    have hlen : i < (s.arena.outputs n).length := by have := hb.vars_eq ▸ hv.1; omega
    have hvar := Arena.var_pushCopy ins (List.getElem?_eq_getElem hlen)
    rw [Arena.typeOf, Arena.owner, hvar]
    exact ⟨(h.typed _ (h.closed _ n ‹_› ho _ (List.mem_append_right _ (List.getElem_mem hlen)))).2, fun hno => by cases hno⟩
  · by_cases hm' : m.idx < (s.arena.pushCopy n ins).1.nodes.size
    · obtain rfl : m = ⟨s.arena.nodes.size⟩ := congrArg NodeId.mk (by have := hb.nodes_eq; omega)
      refine ⟨fun x hx => hins x (hb.inputs_new ▸ hx), fun x hx => ?_⟩
      rw [hb.outputs_new] at hx
      obtain ⟨i, hi, rfl⟩ := List.mem_map.mp hx
      refine ⟨hb.vars_eq.symm ▸ Nat.add_lt_add_left (List.mem_range.mp hi) _, fun hlt => absurd hlt ?_⟩
      exact Nat.not_lt.mpr (ha.trans (Nat.le_add_right _ _))
    · rw [Arena.inputs_of_le (Nat.not_lt.mp hm'), Arena.outputs_of_le (Nat.not_lt.mp hm')]
      exact ⟨fun _ hx => absurd hx List.not_mem_nil, fun _ hx => absurd hx List.not_mem_nil⟩

end Grown

end Copyable

end Session

end TensorGraph
