import TensorGraph.Proofs.Order

/-!
# The order by sources

All items are listed first, by a walk that follows what items depend on. Then sources are taken: an item
becomes one when the last item that it waits for is taken. What was never taken has a cycle below it, so the order
is found exactly when there is none. In an arena the items are variables and nodes; dropping the variables
from an order of items leaves an order of nodes.
-/

namespace TensorGraph

open Relation

section Walk

variable {α : Type} [BEq α] [LawfulBEq α] [Hashable α] {deps : α → List α} {P : α → Prop} {bound : Nat}

/-- Where a walk through what items depend on stands: `acc` is what it has seen, all within `P`, and what
these items depend on was seen or is still to come. -/
structure Walked (deps : α → List α) (P : α → Prop) (todo : List α) (seen : Std.HashSet α) (acc : List α) :
    Prop where
  seen : ∀ x, seen.contains x = true ↔ x ∈ acc
  nodup : acc.Nodup
  within : ∀ x ∈ acc ++ todo, P x
  closed : ∀ x ∈ acc, ∀ y ∈ deps x, y ∈ acc ++ todo

/-- A walk with fuel for all the items within `P` ends with nothing left to visit. -/
theorem walkStack_ends (hP : ∀ x, P x → ∀ y ∈ deps x, P y)
    (hbound : ∀ l : List α, l.Nodup → (∀ x ∈ l, P x) → l.length ≤ bound) (fuel : Nat) (todo : List α)
    (seen : Std.HashSet α) (acc : List α) (h : Walked deps P todo seen acc) (hfuel : bound ≤ fuel + acc.length) :
    ∃ seen' found, walkStack deps fuel todo seen acc = found.reverse ∧ Walked deps P [] seen' found ∧
      ∀ x ∈ acc ++ todo, x ∈ found := by
  fun_induction walkStack deps fuel todo seen acc with
  | case1 fuel seen acc => exact ⟨seen, acc, rfl, h, by simp⟩
  | case2 fuel seen acc x todo hx ih =>
    have hx : x ∈ acc := (h.seen x).mp hx
    have hmem : ∀ y, y ∈ acc ++ x :: todo → y ∈ acc ++ todo := by grind
    obtain ⟨seen', found, he, hw, hf⟩ := ih ⟨h.seen, h.nodup, fun y hy => h.within y (by grind),
      fun y hy z hz => hmem z (h.closed y hy z hz)⟩ hfuel
    exact ⟨seen', found, he, hw, fun y hy => hf y (hmem y hy)⟩
  | case3 seen acc x todo hx =>
    have hx : x ∉ acc := fun hm => hx ((h.seen x).mpr hm)
    have := hbound (x :: acc) (List.nodup_cons.mpr ⟨hx, h.nodup⟩) fun y hy => h.within y (by grind)
    simp at this
    omega
  | case4 seen acc x todo hx fuel ih =>
    have hx : x ∉ acc := fun hm => hx ((h.seen x).mpr hm)
    have hPx : P x := h.within x (by simp)
    have hmem : ∀ y, y ∈ acc ++ x :: todo → y ∈ (x :: acc) ++ ((deps x).reverse ++ todo) := by grind
    obtain ⟨seen', found, he, hw, hf⟩ := ih
      ⟨by have := h.seen; grind, List.nodup_cons.mpr ⟨hx, h.nodup⟩, by have := h.within; have := hP x hPx; grind,
        by have := h.closed; grind⟩ (by simp; omega)
    exact ⟨seen', found, he, hw, fun y hy => hf y (hmem y hy)⟩

/-- Items on which some of the roots depend. -/
def Reaches (deps : α → List α) (roots : List α) (x : α) : Prop :=
  ∃ r ∈ roots, ReflTransGen (fun y x => y ∈ deps x) x r

theorem walkStack_reaches {roots : List α}
    (hbound : ∀ l : List α, l.Nodup → (∀ x ∈ l, Reaches deps roots x) → l.length ≤ bound) :
    (walkStack deps bound roots.reverse {} []).Nodup ∧
      ∀ x, x ∈ walkStack deps bound roots.reverse {} [] ↔ Reaches deps roots x := by
  have hstep : ∀ x, Reaches deps roots x → ∀ y ∈ deps x, Reaches deps roots y := by
    rintro x ⟨r, hr, hp⟩ y hy
    exact ⟨r, hr, .head hy hp⟩
  have hstart : Walked deps (Reaches deps roots) roots.reverse {} [] :=
    ⟨by simp, List.nodup_nil, fun x hx => ⟨x, by simpa using hx, .refl⟩, by simp⟩
  obtain ⟨seen, found, he, hw, hf⟩ := walkStack_ends hstep hbound bound _ _ _ hstart (Nat.le_add_right ..)
  rw [he]
  refine ⟨List.nodup_reverse.mpr hw.nodup, fun x => ⟨fun hx => hw.within x (by simpa using hx), ?_⟩⟩
  rintro ⟨r, hr, hp⟩
  rw [List.mem_reverse]
  induction hp using ReflTransGen.head_induction_on with
  | refl => exact hf r (by simpa using hr)
  | head hy _ ih => simpa using hw.closed _ ih _ hy

end Walk

section Drain

variable {α : Type} [BEq α] [LawfulBEq α] [Hashable α] {deps : α → List α} {clients : Std.HashMap α (List α)}
  {found queue : List α} {d : Drain α} {x : α}

/-- What holds while sources are taken: an item waits for those of its dependencies that were not
taken; the items that wait for none were taken, are in the queue or have just become sources. -/
structure Draining (deps : α → List α) (found : List α) (queue : List α) (d : Drain α) : Prop where
  taken : ∀ x, d.taken.contains x = true ↔ x ∈ d.order
  layered : Layered (fun y x => y ∈ deps x) d.order
  within : ∀ x ∈ d.order, x ∈ found
  waits : ∀ c ∈ found, ∀ y, y ∈ d.waits.getD c [] ↔ y ∈ deps c ∧ y ∉ d.order
  sources : ∀ x ∈ queue ++ d.next, x ∈ found ∧ ∀ y ∈ deps x, y ∈ d.order
  complete : ∀ x ∈ found, (∀ y ∈ deps x, y ∈ d.order) → x ∈ d.order ++ (queue ++ d.next)

theorem mem_waits_settle {c c' y : α} :
    y ∈ (d.settle x c).waits.getD c' [] ↔ y ∈ d.waits.getD c' [] ∧ (c' = c → y ≠ x) := by
  rw [Drain.settle, Std.HashMap.getD_insert]
  by_cases hc : c = c'
  · simp [hc]
  · simp [hc, Ne.symm hc]

theorem mem_next_settle {c c' : α} :
    c' ∈ (d.settle x c).next ↔ c' ∈ d.next ∨ c' = c ∧ ∀ y ∈ d.waits.getD c [], y = x := by
  have hleft : ((d.waits.getD c []).filter fun y => !(y == x)).isEmpty = true ↔ ∀ y ∈ d.waits.getD c [], y = x := by
    simp
  rw [← hleft, Drain.settle]
  split <;> grind

/-- What clients wait for once `x` is taken, and which of them become sources. -/
theorem settle_foldl (cs : List α) :
    (cs.foldl (Drain.settle x) d).taken = d.taken ∧ (cs.foldl (Drain.settle x) d).order = d.order ∧
      (∀ c y, y ∈ (cs.foldl (Drain.settle x) d).waits.getD c [] ↔ y ∈ d.waits.getD c [] ∧ (c ∈ cs → y ≠ x)) ∧
      ∀ c, c ∈ (cs.foldl (Drain.settle x) d).next ↔ c ∈ d.next ∨ c ∈ cs ∧ ∀ y ∈ d.waits.getD c [], y = x := by
  induction cs generalizing d with
  | nil => simp
  | cons c cs ih =>
    obtain ⟨ht, ho, hw, hn⟩ := ih (d := d.settle x c)
    refine ⟨ht, ho, fun c' y => ?_, fun c' => ?_⟩
    · rw [List.foldl_cons, hw, mem_waits_settle]
      grind
    · rw [List.foldl_cons, hn, mem_next_settle]
      simp only [mem_waits_settle]
      grind

variable (hclients : ∀ x c, c ∈ clients.getD x [] ↔ c ∈ found ∧ x ∈ deps c)
include hclients

/-- Taking a source keeps the invariant: its clients wait for one item less. -/
theorem Draining.take (h : Draining deps found (x :: queue) d) : Draining deps found queue (d.take clients x) := by
  obtain ⟨hx, hdeps⟩ := h.sources x (by simp)
  by_cases ht : d.taken.contains x = true
  · have hmem : x ∈ d.order := (h.taken x).mp ht
    rw [Drain.take, if_pos ht]
    refine ⟨h.taken, h.layered, h.within, h.waits, fun y hy => h.sources y (by grind), fun y hy hd => ?_⟩
    have := h.complete y hy hd
    grind
  · have hmem : x ∉ d.order := mt (h.taken x).mpr ht
    rw [Drain.take, if_neg ht]
    obtain ⟨htaken, horder, hwaits, hnext⟩ := settle_foldl (x := x) (clients.getD x [])
      (d := { d with taken := d.taken.insert x, order := x :: d.order })
    constructor
    · intro y
      rw [htaken, horder, Std.HashSet.contains_insert, Bool.or_eq_true, h.taken y, List.mem_cons, beq_iff_eq, eq_comm]
    · rw [horder]
      exact ⟨hmem, hdeps, h.layered⟩
    · rw [horder]
      exact List.forall_mem_cons.mpr ⟨hx, h.within⟩
    · intro c hc y
      rw [hwaits, h.waits c hc y, hclients, horder]
      grind
    · intro y hy
      have hy : y ∈ x :: queue ++ d.next ∨ y ∈ clients.getD x [] ∧ ∀ z ∈ d.waits.getD y [], z = x := by
        have := hnext y
        grind
      rw [horder]
      rcases hy with hy | ⟨hc, hy⟩
      · exact (h.sources y hy).imp_right fun hs z hz => List.mem_cons_of_mem _ (hs z hz)
      · have hyf : y ∈ found := ((hclients x y).mp hc).1
        refine ⟨hyf, fun z hz => ?_⟩
        have := h.waits y hyf z
        grind
    · intro y hy hd
      rw [horder] at hd ⊢
      by_cases hx : x ∈ deps y
      · have hc : y ∈ clients.getD x [] := (hclients x y).mpr ⟨hy, hx⟩
        have := (hnext y).mpr (.inr ⟨hc, fun z hz => ?_⟩)
        · grind
        · have := (h.waits y hy z).mp hz
          grind
      · have := h.complete y hy
        have := hnext y
        grind

theorem Draining.round (h : Draining deps found queue d) : Draining deps found [] (queue.foldl (Drain.take clients) d) := by
  induction queue generalizing d with
  | nil => exact h
  | cons x queue ih => exact ih (h.take hclients)

omit hclients in
/-- A round takes an item, or it has no sources for the next. -/
theorem round_grows (clients : Std.HashMap α (List α)) (d : Drain α) (queue : List α) :
    queue.foldl (Drain.take clients) d = d ∨ d.order.length < (queue.foldl (Drain.take clients) d).order.length := by
  induction queue generalizing d with
  | nil => exact .inl rfl
  | cons x queue ih =>
    have hstep : d.take clients x = d ∨ d.order.length < (d.take clients x).order.length := by
      rw [Drain.take]
      split
      · exact .inl rfl
      · rw [(settle_foldl _).2.1]
        exact .inr (Nat.lt_succ_self _)
    rw [List.foldl_cons]
    rcases hstep with he | hlt
    · rw [he]
      exact ih d
    · rcases ih (d.take clients x) with he | hlt'
      · exact .inr (by rwa [he])
      · exact .inr (hlt.trans hlt')

/-- The rounds end with every item taken whose dependencies were. -/
theorem drainSources_ends (fuel : Nat) (h : Draining deps found queue { d with next := [] })
    (hfuel : found.length < fuel + d.order.length) :
    ∃ e, drainSources clients fuel queue d = e.order.reverse ∧ Draining deps found [] e ∧ e.next = [] := by
  induction fuel generalizing queue d with
  | zero =>
    have : d.order.length ≤ found.length := (h.layered.nodup.subperm h.within).length_le
    omega
  | succ fuel ih =>
    have hround := h.round hclients
    rw [drainSources]
    split
    · rename_i he
      exact ⟨_, rfl, hround, List.isEmpty_iff.mp he⟩
    · rename_i hne
      apply ih
      · exact ⟨hround.taken, hround.layered, hround.within, hround.waits,
          by simpa using hround.sources, by simpa using hround.complete⟩
      · rcases round_grows clients { d with next := [] } queue with he | hlt
        · exact absurd (by rw [he]; rfl) hne
        · have : d.order.length < _ := hlt
          omega

end Drain

section General

variable {α : Type} [BEq α] [LawfulBEq α] [Hashable α] {deps : α → List α} (items : List α) (x c : α)

/-- A client is listed as often as it lists the item. -/
theorem count_dependentsOf :
    ((dependentsOf deps items).getD x []).count c = items.count c * (deps c).count x := by
  have hone : ∀ (z : α) (l : List α) (m : Std.HashMap α (List α)),
      ((l.foldr (fun d m => m.insert d (z :: m.getD d [])) m).getD x []).count c =
        (m.getD x []).count c + if z == c then l.count x else 0 := by
    intro z l m
    induction l with
    | nil => simp
    | cons y l ih =>
      rw [List.foldr_cons, Std.HashMap.getD_insert, List.count_cons]
      split <;> grind
  induction items with
  | nil => simp [dependentsOf]
  | cons z items ih =>
    rw [dependentsOf] at ih ⊢
    rw [List.foldr_cons, hone, ih, List.count_cons]
    grind

theorem mem_dependentsOf :
    c ∈ (dependentsOf deps items).getD x [] ↔ c ∈ items ∧ x ∈ deps c := by
  rw [← List.count_pos_iff, count_dependentsOf, Nat.pos_iff_ne_zero, Ne, Nat.mul_eq_zero, not_or, List.count_eq_zero,
    List.count_eq_zero, not_not, not_not]

/-- Every item is taken in the end, or one of them has a cycle below it. -/
theorem drainSources_schedules {found : List α} (hnodup : found.Nodup)
    (hclosed : ∀ x ∈ found, ∀ y ∈ deps x, y ∈ found) :
    ∃ order, Layered (fun y x => y ∈ deps x) order ∧ (∀ x ∈ order, x ∈ found) ∧
      (∀ x ∈ found, Acc (fun y x => y ∈ deps x) x → x ∈ order) ∧
      drainSources (dependentsOf deps found) (found.length + 1) (found.filter fun x => (deps x).isEmpty)
        { waits := Std.HashMap.ofList (found.map fun x => (x, deps x)) } = order.reverse := by
  have hstart : Draining deps found (found.filter fun x => (deps x).isEmpty)
      { waits := Std.HashMap.ofList (found.map fun x => (x, deps x)) } := by
    constructor
    · simp
    · trivial
    · simp
    · intro c hc y
      simp [getD_ofList_map hnodup deps [] hc]
    · simp +contextual
    · intro x hx hd
      have : deps x = [] := List.eq_nil_iff_forall_not_mem.mpr fun y hy => List.not_mem_nil (hd y hy)
      simp [hx, this]
  obtain ⟨e, he, hd, hnext⟩ := drainSources_ends (mem_dependentsOf found) (found.length + 1)
    (d := { waits := Std.HashMap.ofList (found.map fun x => (x, deps x)) }) hstart (Nat.lt_succ_self _)
  refine ⟨e.order, hd.layered, hd.within, fun x hx hacc => ?_, he⟩
  induction hacc with
  | intro x _ ih =>
    have := hd.complete x hx fun y hy => ih y hy (hclosed x hx y hy)
    simpa [hnext] using this

theorem generalToposort_schedules {roots : List α} {bound : Nat}
    (hbound : ∀ l : List α, l.Nodup → (∀ x ∈ l, Reaches deps roots x) → l.length ≤ bound) :
    (∃ order, generalToposort bound roots deps = some order ∧
      Schedules (fun y x => y ∈ deps x) (Reaches deps roots) order) ∨
    generalToposort bound roots deps = none ∧ ∃ x, Reaches deps roots x ∧ ¬ Acc (fun y x => y ∈ deps x) x := by
  obtain ⟨hnodup, hfound⟩ := walkStack_reaches hbound
  have hclosed : ∀ x ∈ walkStack deps bound roots.reverse {} [], ∀ y ∈ deps x,
      y ∈ walkStack deps bound roots.reverse {} [] := by
    intro x hx y hy
    obtain ⟨r, hr, hp⟩ := (hfound x).mp hx
    exact (hfound y).mpr ⟨r, hr, .head hy hp⟩
  rw [generalToposort]
  generalize walkStack deps bound roots.reverse {} [] = found at *
  obtain ⟨order, hl, hsub, hall, he⟩ := drainSources_schedules hnodup hclosed
  simp only [he, List.length_reverse, beq_iff_eq]
  have hsubperm := hl.nodup.subperm hsub
  split
  · rename_i hlen
    have hperm : order.Perm found := hsubperm.perm_of_length_le (Nat.le_of_eq hlen.symm)
    exact .inl ⟨_, rfl, hl.schedules fun x => hperm.mem_iff.trans (hfound x)⟩
  · rename_i hlen
    refine .inr ⟨rfl, ?_⟩
    by_contra! hacc
    have : found.length ≤ order.length :=
      (hnodup.subperm fun x hx => hall x hx (hacc x ((hfound x).mp hx))).length_le
    exact hlen (Nat.le_antisymm hsubperm.length_le this)

end General

/-! ## Variables and nodes -/

namespace Arena

variable {a : Arena} {met settled : NodeId → Prop} {ords : Orderings} {ins outs : Vars} {m n : NodeId} {v : VarId}
  {x : Item}

theorem mem_prerequisites : m ∈ (prerequisites ords).getD n [] ↔ ∃ l, (n, l) ∈ ords ∧ m ∈ l := by
  have hfold : ∀ t : Std.HashMap NodeId (List NodeId),
      m ∈ (ords.foldl (fun t e => t.insert e.1 (t.getD e.1 [] ++ e.2)) t).getD n [] ↔
        m ∈ t.getD n [] ∨ ∃ l, (n, l) ∈ ords ∧ m ∈ l := by
    induction ords with
    | nil => simp
    | cons e ords ih =>
      intro t
      rw [List.foldl_cons, ih, Std.HashMap.getD_insert]
      by_cases he : e.1 = n
      · subst he
        simp only [BEq.rfl, if_true, List.mem_append, List.mem_cons]
        grind
      · grind
  exact (hfold ∅).trans (by simp)

/-- An item depends directly on another. -/
def ItemDep (a : Arena) (ins : Vars) (ords : Orderings) (y x : Item) : Prop :=
  y ∈ a.itemNeeds (.ofList ins) (prerequisites ords) x

theorem itemDep_var (hins : a.Settled met ins outs settled) (hv : v ∈ outs ∨ ∃ n, met n ∧ v ∈ a.inputs n) :
    a.ItemDep ins ords x (.var v) ↔ ∃ m, x = .node m ∧ a.owner v = some m ∧ ¬ settled m := by
  rw [ItemDep, itemNeeds]
  cases ho : a.owner v with
  | none => simp
  | some m =>
    have := hins v m ho hv
    simp only [Std.HashSet.contains_ofList]
    split <;> simp_all

theorem itemDep_node : a.ItemDep ins ords x (.node n) ↔
    (∃ v ∈ a.inputs n, x = .var v) ∨ ∃ m, x = .node m ∧ ∃ l, (n, l) ∈ ords ∧ m ∈ l := by
  simp only [ItemDep, itemNeeds, List.mem_append, List.mem_map, mem_prerequisites]
  grind

theorem itemDep_of_before (hins : a.Settled met ins outs settled) (hn : met n) (h : a.Before settled ords m n) :
    TransGen (a.ItemDep ins ords) (.node m) (.node n) := by
  rcases h with ⟨⟨v, hv, ho⟩, hs⟩ | hl
  · exact .tail (.single ((itemDep_var hins (.inr ⟨n, hn, hv⟩)).mpr ⟨m, rfl, ho, hs⟩)) (itemDep_node.mpr (.inl ⟨v, hv, rfl⟩))
  · exact .single (itemDep_node.mpr (.inr ⟨m, rfl, hl⟩))

theorem acc_node_of_before (hins : a.Settled met ins outs settled) (hclosed : ∀ m n, met n → a.Before settled ords m n → met m)
    (hn : met n) (h : Acc (a.Before settled ords) n) : Acc (a.ItemDep ins ords) (.node n) := by
  induction h with
  | intro n _ ih =>
    refine ⟨_, fun y hy => ?_⟩
    rcases itemDep_node.mp hy with ⟨v, hv, rfl⟩ | ⟨m, rfl, hl⟩
    · refine ⟨_, fun z hz => ?_⟩
      obtain ⟨m, rfl, ho, hs⟩ := (itemDep_var hins (.inr ⟨n, hn, hv⟩)).mp hz
      have hb : a.Before settled ords m n := .inl ⟨⟨v, hv, ho⟩, hs⟩
      exact ih m hb (hclosed m n hn hb)
    · exact ih m (.inr hl) (hclosed m n hn (.inr hl))

variable (hins : a.Settled (a.Pulled settled ords outs) ins outs settled)
include hins

theorem pulled_of_reaches (h : Reaches (a.itemNeeds (.ofList ins) (prerequisites ords)) (outs.map .var) x) :
    (∀ n, x = .node n → a.Pulled settled ords outs n) ∧
      ∀ v, x = .var v → (v ∈ outs ∨ ∃ n, a.Pulled settled ords outs n ∧ v ∈ a.inputs n) ∧
        ∀ m, a.owner v = some m → ¬ settled m → a.Pulled settled ords outs m := by
  obtain ⟨r, hr, hp⟩ := h
  obtain ⟨u, hu, rfl⟩ := List.mem_map.mp hr
  induction hp using ReflTransGen.head_induction_on with
  | refl =>
    refine ⟨fun n hn => Item.noConfusion hn, fun v hv => ?_⟩
    cases hv
    exact ⟨.inl hu, fun m ho hs => ⟨u, hu, m, ho, hs, .refl⟩⟩
  | @head y z hd _ ih =>
    cases z with
    | var v =>
      obtain ⟨hv, hpull⟩ := ih.2 v rfl
      obtain ⟨m, rfl, ho, hs⟩ := (itemDep_var hins hv).mp hd
      refine ⟨fun n hn => ?_, fun v hv => Item.noConfusion hv⟩
      cases hn
      exact hpull m ho hs
    | node n =>
      have hn : a.Pulled settled ords outs n := ih.1 n rfl
      rcases itemDep_node.mp hd with ⟨v, hv, rfl⟩ | ⟨m, rfl, hl⟩
      · refine ⟨fun n hn => Item.noConfusion hn, fun v' hv' => ?_⟩
        cases hv'
        exact ⟨.inr ⟨n, hn, hv⟩, fun m ho hs => hn.before (.inl ⟨⟨v, hv, ho⟩, hs⟩)⟩
      · refine ⟨fun n' hn' => ?_, fun v hv => Item.noConfusion hv⟩
        cases hn'
        exact hn.before (.inr hl)

theorem reaches_node_iff :
    Reaches (a.itemNeeds (.ofList ins) (prerequisites ords)) (outs.map .var) (.node n) ↔
      a.Pulled settled ords outs n := by
  refine ⟨fun h => (pulled_of_reaches hins h).1 n rfl, ?_⟩
  rintro ⟨v, hv, r, ho, hs, hp⟩
  have hlift : ReflTransGen (a.ItemDep ins ords) (.node n) (.node r) := by
    induction hp using ReflTransGen.head_induction_on with
    | refl => exact .refl
    | head hb hp ih => exact (itemDep_of_before hins ⟨v, hv, r, ho, hs, hp⟩ hb).to_reflTransGen.trans ih
  exact ⟨.var v, List.mem_map_of_mem hv, hlift.tail ((itemDep_var hins (.inl hv)).mpr ⟨r, rfl, ho, hs⟩)⟩

omit hins in
/-- All items that the results depend on are variables and nodes of the arena. -/
theorem length_le_of_reaches (hwf : a.Wf) (hnode : ∀ n, a.Pulled settled ords outs n → n.idx < a.nodes.size)
    (hins : a.Settled (a.Pulled settled ords outs) ins outs settled) (l : List Item) (hl : l.Nodup)
    (h : ∀ x ∈ l, Reaches (a.itemNeeds (.ofList ins) (prerequisites ords)) (outs.map .var) x) :
    l.length ≤ a.vars.size + a.nodes.size + outs.length := by
  have hsub : l ⊆ (List.range a.vars.size).map (fun i => .var ⟨i⟩) ++
      (List.range a.nodes.size).map (fun i => .node ⟨i⟩) ++ outs.map .var := by
    intro x hx
    simp only [List.mem_append, List.mem_map, List.mem_range]
    cases x with
    | node n => exact .inl (.inr ⟨n.idx, hnode n ((reaches_node_iff hins).mp (h _ hx)), rfl⟩)
    | var v =>
      rcases ((pulled_of_reaches hins (h _ hx)).2 v rfl).1 with hv | ⟨n, _, hv⟩
      · exact .inr ⟨v, hv, rfl⟩
      · exact .inl (.inl ⟨v.idx, hwf.operand n v hv, rfl⟩)
  simpa [Nat.add_assoc] using (hl.subperm hsub).length_le

omit hins in
@[simp] theorem node?_eq_some : x.node? = some n ↔ x = .node n := by
  cases x <;> simp [Item.node?]

theorem schedules_nodes {order : List Item}
    (h : Schedules (a.ItemDep ins ords) (Reaches (a.itemNeeds (.ofList ins) (prerequisites ords)) (outs.map .var)) order) :
    Schedules (a.Before settled ords) (a.Pulled settled ords outs)
      (order.filterMap Item.node?) where
  nodup := by
    refine h.nodup.filterMap fun x y n hx hy => ?_
    rw [node?_eq_some.mp hx, node?_eq_some.mp hy]
  mem n := by
    rw [← reaches_node_iff hins, ← h.mem]
    simp
  after xs n ys hs m hm := by
    obtain ⟨us, ws, rfl, rfl, hw⟩ := List.filterMap_eq_append_iff.mp hs
    obtain ⟨vs, y, zs, rfl, hv, hy, _⟩ := List.filterMap_eq_cons_iff.mp hw
    rw [node?_eq_some.mp hy, ← List.append_assoc] at h
    have hn : a.Pulled settled ords outs n := (reaches_node_iff hins).mp ((h.mem _).mp (by simp))
    have hmem : Item.node m ∈ us ++ vs := h.after_transGen rfl (itemDep_of_before hins hn hm)
    have : m ∈ (us ++ vs).filterMap Item.node? := List.mem_filterMap.mpr ⟨_, hmem, rfl⟩
    rwa [List.filterMap_append, List.filterMap_eq_nil_iff.mpr hv, List.append_nil] at this

theorem acc_of_reaches (hacc : ∀ n, a.Pulled settled ords outs n → Acc (a.Before settled ords) n)
    (h : Reaches (a.itemNeeds (.ofList ins) (prerequisites ords)) (outs.map .var) x) : Acc (a.ItemDep ins ords) x := by
  obtain ⟨hnode, hvar⟩ := pulled_of_reaches hins h
  cases x with
  | node n => exact acc_node_of_before hins (fun _ _ => Pulled.before) (hnode n rfl) (hacc n (hnode n rfl))
  | var v =>
    obtain ⟨hv, hpull⟩ := hvar v rfl
    refine ⟨_, fun y hy => ?_⟩
    obtain ⟨m, rfl, ho, hs⟩ := (itemDep_var hins hv).mp hy
    exact acc_node_of_before hins (fun _ _ => Pulled.before) (hpull m ho hs) (hacc m (hpull m ho hs))

variable (hwf : a.Wf) (hnode : ∀ n, a.Pulled settled ords outs n → n.idx < a.nodes.size)
include hwf hnode

/-- Where nothing that the results depend on comes before itself, the order by sources is found. -/
theorem toposortWith_schedules (hacc : ∀ n, a.Pulled settled ords outs n → Acc (a.Before settled ords) n) :
    ∃ order, a.toposortWith ins outs ords = some order ∧
      Schedules (a.Before settled ords) (a.Pulled settled ords outs) order := by
  rcases generalToposort_schedules (length_le_of_reaches hwf hnode hins) with ⟨order, he, h⟩ | ⟨_, x, hx, hnot⟩
  · exact ⟨_, by rw [toposortWith, he]; rfl, schedules_nodes hins h⟩
  · exact absurd (acc_of_reaches hins hacc hx) hnot

theorem toposortWith_eq_none (hn : a.Pulled settled ords outs n) (hc : TransGen (a.Before settled ords) n n) :
    a.toposortWith ins outs ords = none := by
  rcases generalToposort_schedules (length_le_of_reaches hwf hnode hins) with ⟨order, _, h⟩ | ⟨he, _⟩
  · exact absurd hc ((schedules_nodes hins h).not_transGen hn)
  · rw [toposortWith, he]
    rfl

end Arena

end TensorGraph
