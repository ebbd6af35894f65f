import Mathlib.Algebra.BigOperators.Finprod
import Mathlib.Algebra.BigOperators.Ring.Finset
import Mathlib.Algebra.Field.Rat
import Mathlib.Data.Set.Finite.Lattice
import Mathlib.Data.Finset.Range
import TensorGraph.Gradient.Flow

/-!
# Paths along which a gradient flows

An edge leads from an input of a node to one of its outputs that the pattern of the node connects with it.
The derivative of a variable by another is the sum, over all paths of edges between them, of the product of
the local derivatives along the path. Where the nodes behind a variable have no cycle the paths to it are
finitely many, and the sum over them follows their first edges (`pathSum_eq`).
-/

namespace TensorGraph.Flow

variable {V N : Type}

/-- From an input of a node to one of its outputs. -/
structure Edge (N : Type) where
  node : N
  input : Nat
  output : Nat
deriving DecidableEq

/-- Outputs know their maker and their place in it. -/
def Dataflow.Wired (d : Dataflow V N) : Prop :=
  ∀ n o y, (d.outputs n)[o]? = some y ↔ d.maker y = some (n, o)

/-- Nodes behind a variable. -/
inductive Dataflow.Behind (d : Dataflow V N) (c : V) : N → Prop
  | maker {n o} : d.maker c = some (n, o) → d.Behind c n
  | feeds {n n' o v} : d.Behind c n → v ∈ d.inputs n → d.maker v = some (n', o) → d.Behind c n'

/-- A rank of the nodes behind a variable that rises along every edge. -/
structure Dataflow.Ranked (d : Dataflow V N) (c : V) (rank : N → Nat) : Prop where
  rises : ∀ n n' o v, d.Behind c n → v ∈ d.inputs n → d.maker v = some (n', o) → rank n' < rank n

/-- How far a variable is from those without a maker, by the rank of its maker. -/
def Dataflow.height (d : Dataflow V N) (rank : N → Nat) (v : V) : Nat := (d.maker v).elim 0 fun p => rank p.1 + 1

section Paths

variable (d : Dataflow V N) (pat : N → List (List Bool)) (blocked : V → Bool)

/-- An edge leads from one variable to another if the node connects them. None leads to a blocked variable. -/
structure Link (e : Edge N) (v y : V) : Prop where
  source : (d.inputs e.node)[e.input]? = some v
  target : (d.outputs e.node)[e.output]? = some y
  joined : connects (pat e.node) e.input e.output = true
  free : blocked y = false

/-- A path of edges from a variable to another. -/
inductive Path (c : V) : V → List (Edge N) → Prop
  | nil : Path c c []
  | cons {e v y es} : Link d pat blocked e v y → Path c y es → Path c v (e :: es)

/-- Some path leads from a variable to another. -/
def Reaches (c v : V) : Prop := ∃ es, Path d pat blocked c v es

/-- The sum, over all paths from a variable to another, of the product of the local derivatives along the path. -/
noncomputable def pathSum (D : Edge N → ℚ) (c v : V) : ℚ :=
  ∑ᶠ es ∈ {es | Path d pat blocked c v es}, (es.map D).prod

end Paths

variable {d : Dataflow V N} {pat : N → List (List Bool)} {blocked : V → Bool} {c v y : V} {e : Edge N}
  {es : List (Edge N)} {rank : N → Nat} {D : Edge N → ℚ}

theorem Link.maker (hd : d.Wired) (h : Link d pat blocked e v y) : d.maker y = some (e.node, e.output) :=
  (hd _ _ _).mp h.target

theorem Reaches.refl : Reaches d pat blocked c c := ⟨[], .nil⟩

theorem Reaches.step (h : Link d pat blocked e v y) (hy : Reaches d pat blocked c y) : Reaches d pat blocked c v :=
  hy.imp' (e :: ·) fun _ => .cons h

theorem Path.maker_behind (hd : d.Wired) (h : Path d pat blocked c v es) {n o} (hv : d.maker v = some (n, o)) :
    d.Behind c n := by
  induction h generalizing n o with
  | nil => exact .maker hv
  | cons hl _ ih => exact .feeds (ih (hl.maker hd)) (List.mem_of_getElem? hl.source) hv

theorem Link.behind (hd : d.Wired) (h : Link d pat blocked e v y) (hy : Reaches d pat blocked c y) :
    d.Behind c e.node := hy.elim fun _ hp => hp.maker_behind hd (h.maker hd)

theorem Dataflow.Ranked.height_le (hr : d.Ranked c rank) {n : N} (hn : d.Behind c n) (hv : v ∈ d.inputs n) :
    d.height rank v ≤ rank n := by
  unfold Dataflow.height
  cases hm : d.maker v with
  | none => exact Nat.zero_le _
  | some p => exact hr.rises n p.1 p.2 v hn hv hm

theorem Dataflow.height_eq {n : N} {o : Nat} (hv : d.maker v = some (n, o)) : d.height rank v = rank n + 1 := by
  rw [Dataflow.height, hv]
  rfl

theorem Link.height_lt (hd : d.Wired) (hr : d.Ranked c rank) (h : Link d pat blocked e v y)
    (hy : Reaches d pat blocked c y) : d.height rank v < d.height rank y := by
  rw [Dataflow.height_eq (h.maker hd)]
  exact Nat.lt_succ_of_le (hr.height_le (h.behind hd hy) (List.mem_of_getElem? h.source))

theorem Path.height_add_length (hd : d.Wired) (hr : d.Ranked c rank) (h : Path d pat blocked c v es) :
    d.height rank v + es.length ≤ d.height rank c := by
  induction h with
  | nil => exact le_rfl
  | cons hl hp ih =>
    have := hl.height_lt hd hr ⟨_, hp⟩
    rw [List.length_cons]
    omega

/-- Only the empty path leads from a variable to itself. -/
theorem path_self_iff (hd : d.Wired) (hr : d.Ranked c rank) : Path d pat blocked c c es ↔ es = [] := by
  constructor
  · intro h
    have := h.height_add_length hd hr
    exact List.length_eq_zero_iff.mp (by omega)
  · rintro rfl
    exact .nil

theorem pathSum_self (hd : d.Wired) (hr : d.Ranked c rank) : pathSum d pat blocked D c c = 1 := by
  unfold pathSum
  rw [show {es | Path d pat blocked c c es} = {[]} from Set.ext fun _ => path_self_iff hd hr, finsum_mem_singleton]
  rfl

theorem pathSum_of_not_reaches (h : ¬ Reaches d pat blocked c v) : pathSum d pat blocked D c v = 0 := by
  unfold pathSum
  rw [show {es | Path d pat blocked c v es} = ∅ from Set.eq_empty_of_forall_notMem fun es hes => h ⟨es, hes⟩,
    finsum_mem_empty]

/-! ## Paths are finitely many -/

/-- From the end backwards a path can be prolonged in finitely many ways. -/
theorem finite_paths_of_length (hd : d.Wired) (l : Nat) :
    {p : V × List (Edge N) | Path d pat blocked c p.1 p.2 ∧ p.2.length = l}.Finite := by
  induction l with
  | zero =>
    refine (Set.finite_singleton (c, [])).subset fun p ⟨hp, hl⟩ => ?_
    obtain ⟨v, es⟩ := p
    obtain rfl : es = [] := List.length_eq_zero_iff.mp hl
    cases hp
    rfl
  | succ l ih =>
    let longer (p : V × List (Edge N)) : Set (V × List (Edge N)) :=
      {q | ∃ n o, d.maker p.1 = some (n, o) ∧ ∃ i, (d.inputs n)[i]? = some q.1 ∧ q.2 = ⟨n, i, o⟩ :: p.2}
    have hlonger : ∀ p, (longer p).Finite := by
      intro p
      cases hm : d.maker p.1 with
      | none =>
        refine Set.finite_empty.subset ?_
        rintro q ⟨n, o, h, -⟩
        rw [hm] at h
        cases h
      | some no =>
        obtain ⟨n, o⟩ := no
        refine ((d.inputs n).zipIdx.map fun q => (q.1, (⟨n, q.2, o⟩ : Edge N) :: p.2)).finite_toSet.subset ?_
        rintro ⟨x, es⟩ ⟨n', o', h, i, hi, rfl⟩
        obtain ⟨rfl, rfl⟩ := Prod.mk.inj (Option.some.inj (hm.symm.trans h))
        exact List.mem_map.mpr ⟨(x, i), List.mk_mem_zipIdx_iff_getElem?.mpr hi, rfl⟩
    refine (ih.biUnion fun p _ => hlonger p).subset ?_
    rintro ⟨v, es⟩ ⟨hp, hl⟩
    cases hp with
    | nil => cases hl
    | @cons e _ y es hlink hp =>
      refine Set.mem_biUnion (x := (y, es)) ⟨hp, Nat.succ.inj hl⟩ ⟨e.node, e.output, hlink.maker hd, e.input, hlink.source, ?_⟩
      rfl

theorem finite_paths (hd : d.Wired) (hr : d.Ranked c rank) (v : V) : {es | Path d pat blocked c v es}.Finite := by
  have hall : (⋃ l ∈ {l | l ≤ d.height rank c},
      {p : V × List (Edge N) | Path d pat blocked c p.1 p.2 ∧ p.2.length = l}).Finite :=
    (Set.finite_le_nat _).biUnion fun l _ => finite_paths_of_length hd l
  refine (hall.image Prod.snd).subset fun es hes => ⟨(v, es), ?_, rfl⟩
  have := Path.height_add_length hd hr hes
  exact Set.mem_biUnion (x := es.length) (show es.length ≤ d.height rank c by omega) ⟨hes, rfl⟩

/-! ## Sums over first edges -/

section First

variable (d pat blocked) (D : Edge N → ℚ) (c : V)

/-- What comes back to an input of a node from the outputs that it is connected with. -/
noncomputable def edgeSum (n : N) (i : Nat) : ℚ :=
  ∑ o ∈ Finset.range (d.outputs n).length,
    if connects (pat n) i o then ((d.outputs n)[o]?.elim 0 (pathSum d pat blocked D c)) * D ⟨n, i, o⟩ else 0

end First

/-- The uses of a variable from which the gradient flows back. -/
def IsUse (d : Dataflow V N) (pat : N → List (List Bool)) (blocked : V → Bool) (c v : V) (p : N × Nat) : Prop :=
  ∃ o y, Link d pat blocked ⟨p.1, p.2, o⟩ v y ∧ Reaches d pat blocked c y

/-- An input that is connected with an output that leads on is not connected with a blocked one that would lead on. -/
def Unmixed (d : Dataflow V N) (pat : N → List (List Bool)) (blocked : V → Bool) (c : V) : Prop :=
  ∀ v p, IsUse d pat blocked c v p → ∀ o y, (d.outputs p.1)[o]? = some y → connects (pat p.1) p.2 o = true →
    Reaches d pat blocked c y → blocked y = false

theorem reaches_iff : Reaches d pat blocked c v ↔ v = c ∨ ∃ p, IsUse d pat blocked c v p := by
  constructor
  · rintro ⟨es, hp⟩
    cases hp with
    | nil => exact .inl rfl
    | cons hl hp => exact .inr ⟨(_, _), _, _, hl, _, hp⟩
  · rintro (rfl | ⟨p, o, y, hl, hy⟩)
    · exact .refl
    · exact hy.step hl

/-- The edges by which a path can begin. -/
private def firstEdges [DecidableEq N] (d : Dataflow V N) (pat : N → List (List Bool)) (uses : List (N × Nat)) :
    List (Edge N) :=
  uses.flatMap fun p => ((List.range (d.outputs p.1).length).filter (connects (pat p.1) p.2)).map fun o => ⟨p.1, p.2, o⟩

private theorem mem_firstEdges [DecidableEq N] {uses : List (N × Nat)} : e ∈ firstEdges d pat uses ↔
    (e.node, e.input) ∈ uses ∧ e.output < (d.outputs e.node).length ∧ connects (pat e.node) e.input e.output = true := by
  simp only [firstEdges, List.mem_flatMap, List.mem_map, List.mem_filter, List.mem_range]
  constructor
  · rintro ⟨p, hp, o, ho, rfl⟩
    exact ⟨hp, ho⟩
  · rintro ⟨hp, ho⟩
    exact ⟨_, hp, e.output, ho, rfl⟩

private theorem nodup_firstEdges [DecidableEq N] {uses : List (N × Nat)} (h : uses.Nodup) :
    (firstEdges d pat uses).Nodup := by
  refine List.nodup_flatMap.mpr ⟨fun p _ => ?_, ?_⟩
  · exact (List.nodup_range.filter _).map fun o o' ho => (Edge.mk.injEq .. ▸ ho).2.2
  · refine h.imp fun {p q} hpq => ?_
    rw [Function.onFun, List.disjoint_left]
    intro e he he'
    obtain ⟨o, -, rfl⟩ := List.mem_map.mp he
    obtain ⟨o', -, ho⟩ := List.mem_map.mp he'
    obtain ⟨h1, h2, -⟩ := Edge.mk.injEq .. ▸ ho
    exact hpq (Prod.ext h1.symm h2.symm)

/-- The sum over the paths from a variable follows the uses of the variable. -/
theorem pathSum_eq [DecidableEq N] (hd : d.Wired) (hr : d.Ranked c rank) (hmix : Unmixed d pat blocked c) (hv : v ≠ c)
    {uses : List (N × Nat)} (hnd : uses.Nodup) (huses : ∀ p, p ∈ uses ↔ IsUse d pat blocked c v p) :
    pathSum d pat blocked D c v = (uses.map fun p => edgeSum d pat blocked D c p.1 p.2).sum := by
  let after (e : Edge N) : Set (List (Edge N)) :=
    {es | ∃ y, (d.outputs e.node)[e.output]? = some y ∧ Path d pat blocked c y es}
  have hafter : ∀ e, (after e).Finite ∧
      ∑ᶠ es ∈ after e, (es.map D).prod = (d.outputs e.node)[e.output]?.elim 0 (pathSum d pat blocked D c) := by
    intro e
    cases he : (d.outputs e.node)[e.output]? with
    | none =>
      have : after e = ∅ := Set.eq_empty_of_forall_notMem fun es ⟨y, hy, _⟩ => by rw [he] at hy; cases hy
      rw [this, finsum_mem_empty]
      exact ⟨Set.finite_empty, rfl⟩
    | some y =>
      have : after e = {es | Path d pat blocked c y es} := by
        ext es
        constructor
        · rintro ⟨y', hy, hp⟩
          obtain rfl := Option.some.inj (he.symm.trans hy)
          exact hp
        · exact fun hp => ⟨y, he, hp⟩
      rw [this]
      exact ⟨finite_paths hd hr y, rfl⟩
  have hsplit : {es | Path d pat blocked c v es} =
      ⋃ e ∈ {e | e ∈ firstEdges d pat uses}, (e :: ·) '' after e := by
    ext es
    simp only [Set.mem_ofPred_eq, Set.mem_iUnion, exists_prop]
    constructor
    · intro hp
      cases hp with
      | nil => exact (hv rfl).elim
      | @cons e _ y es hl hp =>
        have huse := (huses (e.node, e.input)).mpr ⟨e.output, y, hl, es, hp⟩
        exact ⟨e, mem_firstEdges.mpr ⟨huse, (List.getElem?_eq_some_iff.mp hl.target).1, hl.joined⟩, es,
          ⟨y, hl.target, hp⟩, rfl⟩
    · rintro ⟨e, he, es, ⟨y, hy, hp⟩, rfl⟩
      obtain ⟨huse, -, hj⟩ := mem_firstEdges.mp he
      have huse := (huses _).mp huse
      obtain ⟨o, y', hl, -⟩ := id huse
      exact .cons ⟨hl.source, hy, hj, hmix v _ huse _ y hy hj ⟨es, hp⟩⟩ hp
  have hdisj : {e | e ∈ firstEdges d pat uses}.PairwiseDisjoint fun e => (e :: ·) '' after e := by
    intro e _ e' _ hne
    rw [Function.onFun, Set.disjoint_left]
    rintro _ ⟨es, -, rfl⟩ ⟨es', -, h⟩
    exact hne (List.cons.inj h).1.symm
  have hedge : ∀ e, ∑ᶠ es ∈ (e :: ·) '' after e, (es.map D).prod =
      (d.outputs e.node)[e.output]?.elim 0 (pathSum d pat blocked D c) * D e := by
    intro e
    rw [finsum_mem_image fun es _ es' _ h => (List.cons.inj h).2, ← (hafter e).2, mul_comm]
    simp only [List.map_cons, List.prod_cons]
    exact (mul_finsum_mem _ (D e)).symm
  have hcoe : {e | e ∈ firstEdges d pat uses} = ((firstEdges d pat uses).toFinset : Set (Edge N)) := by
    ext e
    simp
  unfold pathSum
  rw [hsplit, finsum_mem_biUnion hdisj (List.finite_toSet _) fun e _ => (hafter e).1.image _, hcoe,
    finsum_mem_coe_finset, Finset.sum_congr rfl fun e _ => hedge e, List.sum_toFinset _ (nodup_firstEdges hnd)]
  rw [firstEdges, List.map_flatMap, List.flatMap_def, List.sum_flatten, List.map_map]
  congr 1
  refine List.map_congr_left fun p _ => ?_
  rw [Function.comp_apply, List.map_map, edgeSum, ← List.sum_toFinset _ (List.nodup_range.filter _), List.toFinset_filter,
    show (List.range (d.outputs p.1).length).toFinset = Finset.range (d.outputs p.1).length by ext; simp, Finset.sum_filter]
  rfl

end TensorGraph.Flow
