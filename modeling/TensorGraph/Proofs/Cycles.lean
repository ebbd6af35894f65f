import TensorGraph.Proofs.Scheduling

/-!
# Cycles among the items of a graph

To see whether a graph has a cycle it is enough to count: each item starts with the number of its
dependencies, and visiting an item takes one off the count of a client for each time that the client
lists it. An item is free when its count is zero. The items that become free are those that depend on
no cycle, so all of them do exactly when the order by sources is found.
-/

namespace TensorGraph

open Relation

section Counting

variable {α : Type} [DecidableEq α] [Hashable α] {deps : α → List α} {clients : Std.HashMap α (List α)}
  {items free visited : List α} {counts : Std.HashMap α Nat} {x : α}

/-- Counting down for a list of clients: which of them become free, each once. -/
theorem countDown_foldl (cs free : List α) (counts : Std.HashMap α Nat) (h : ∀ c, cs.count c ≤ counts.getD c 0) :
    (∀ c, (cs.foldl countDown (free, counts)).2.getD c 0 = counts.getD c 0 - cs.count c) ∧
      ∃ new : List α, (cs.foldl countDown (free, counts)).1 = new ++ free ∧ new.Nodup ∧
        ∀ c, c ∈ new ↔ c ∈ cs ∧ cs.count c = counts.getD c 0 := by
  induction cs generalizing free counts with
  | nil => exact ⟨by simp, [], by simp⟩
  | cons c cs ih =>
    have hc := h c
    have hother : ∀ d, d ≠ c → cs.count d ≤ counts.getD d 0 := fun d hd => by simpa [hd.symm] using h d
    rw [List.count_cons_self] at hc
    have hcounts : ∀ d, (counts.insert c (counts.getD c 0 - 1)).getD d 0 =
        if c = d then counts.getD c 0 - 1 else counts.getD d 0 := fun d => by simp [Std.HashMap.getD_insert]
    obtain ⟨hleft, new, hnew, hd, hmem⟩ := ih (if counts.getD c 0 - 1 == 0 then c :: free else free)
      (counts.insert c (counts.getD c 0 - 1)) fun d => by
        rw [hcounts]
        split <;> grind
    rw [List.foldl_cons]
    refine ⟨fun d => ?_, ?_⟩
    · rw [countDown, hleft, hcounts, List.count_cons]
      split <;> grind
    · rw [countDown, hnew]
      simp only [hcounts] at hmem
      by_cases hz : counts.getD c 0 - 1 = 0
      · have hcs : c ∉ cs := fun hm => by have := List.count_pos_iff.mpr hm; omega
        refine ⟨new ++ [c], by simp [hz], ?_, fun d => ?_⟩
        · exact List.nodup_append.mpr ⟨hd, List.nodup_singleton c, by grind⟩
        · rw [List.mem_append, hmem, List.mem_singleton, List.mem_cons, List.count_cons]
          grind
      · refine ⟨new, by simp [hz], hd, fun d => ?_⟩
        have hpos := List.count_pos_iff (a := c) (l := cs)
        rw [hmem, List.mem_cons, List.count_cons]
        grind

/-- What holds while free items are visited: an item waits for as many of its dependencies as were not
visited, and the items that wait for none were visited or are free. -/
structure Visiting (deps : α → List α) (items free visited : List α) (counts : Std.HashMap α Nat) : Prop where
  layered : Layered (fun y x => y ∈ deps x) visited
  nodup : (free ++ visited).Nodup
  waits : ∀ c ∈ items, counts.getD c 0 = (deps c).countP fun y => y ∉ visited
  mem : ∀ c, c ∈ free ++ visited ↔ c ∈ items ∧ counts.getD c 0 = 0

theorem Visiting.ready (h : Visiting deps items free visited counts) {c : α} (hc : c ∈ free ++ visited) :
    ∀ y ∈ deps c, y ∈ visited := by
  obtain ⟨hi, hz⟩ := (h.mem c).mp hc
  rw [h.waits c hi, List.countP_eq_zero] at hz
  exact fun y hy => by simpa using hz y hy

variable (hclients : ∀ x c, (clients.getD x []).count c = if c ∈ items then (deps c).count x else 0)
include hclients

/-- Visiting a free item keeps the invariant. -/
theorem Visiting.visit (h : Visiting deps items (x :: free) visited counts) :
    ∃ free' counts', (clients.getD x []).foldl countDown (free, counts) = (free', counts') ∧
      Visiting deps items free' (x :: visited) counts' := by
  obtain ⟨hfresh, hrest⟩ := List.nodup_cons.mp h.nodup
  have hx : x ∉ visited := fun hx => hfresh (List.mem_append_right _ hx)
  have hsplit : ∀ c ∈ items, counts.getD c 0 = ((deps c).countP fun y => y ∉ x :: visited) + (deps c).count x :=
    fun c hc => (h.waits c hc).trans (countP_not_mem hx _)
  obtain ⟨hcounts, new, hnew, hd, hmem⟩ := countDown_foldl (clients.getD x []) free counts fun c => by
    rw [hclients]
    split
    · have := hsplit c ‹_›
      omega
    · exact Nat.zero_le _
  refine ⟨_, _, rfl, ⟨⟨hx, h.ready (by simp), h.layered⟩, ?_, fun c hc => ?_, fun c => ?_⟩⟩
  · rw [hnew, List.append_assoc]
    have hold : (free ++ x :: visited).Nodup := List.nodup_middle.mpr h.nodup
    refine List.nodup_append.mpr ⟨hd, hold, fun c hc d hcd he => ?_⟩
    -- an item that becomes free now still waited for `x`
    subst he
    obtain ⟨hcs, heq⟩ := (hmem c).mp hc
    have := List.count_pos_iff.mpr hcs
    have := ((h.mem c).mp (by grind)).2
    omega
  · rw [hcounts, hclients, if_pos hc, hsplit c hc, Nat.add_sub_cancel]
  · have hfree := h.mem c
    have hpos := List.count_pos_iff (a := c) (l := clients.getD x [])
    have hle := hsplit c
    have hcount := hclients x c
    have := hmem c
    rw [hnew, hcounts]
    simp only [List.mem_append, List.mem_cons] at hfree ⊢
    split at hcount <;> grind

/-- The items visited in the end: all those whose dependencies were. -/
theorem visitFree_ends (fuel : Nat) (h : Visiting deps items free visited counts)
    (hfuel : items.length < fuel + visited.length) :
    ∃ all, visitFree clients fuel (free, counts) visited.length = all.length ∧ Layered (fun y x => y ∈ deps x) all ∧
      (∀ x ∈ all, x ∈ items) ∧ ∀ x ∈ items, (∀ y ∈ deps x, y ∈ all) → x ∈ all := by
  induction fuel generalizing free visited counts with
  | zero =>
    have hsub : ∀ x ∈ visited, x ∈ items := fun x hx => ((h.mem x).mp (List.mem_append_right _ hx)).1
    have := (h.layered.nodup.subperm hsub).length_le
    omega
  | succ fuel ih =>
    cases free with
    | nil =>
      refine ⟨visited, rfl, h.layered, fun x hx => ((h.mem x).mp hx).1, fun x hx hd => ?_⟩
      refine (h.mem x).mpr ⟨hx, ?_⟩
      rw [h.waits x hx, List.countP_eq_zero]
      exact fun y hy => by simpa using hd y hy
    | cons x free =>
      obtain ⟨free', counts', he, hv⟩ := h.visit hclients
      rw [visitFree, he]
      exact ih hv (by rw [List.length_cons]; omega)

omit hclients

/-- The items that are visited, each after what it depends on; there is a cycle if not all of them are. -/
theorem exists_visited (hnodup : items.Nodup) :
    ∃ all, Layered (fun y x => y ∈ deps x) all ∧ all.Subperm items ∧
      (∀ x ∈ items, (∀ y ∈ deps x, y ∈ all) → x ∈ all) ∧ (hasCycle items deps = true ↔ all.length ≠ items.length) := by
  have hcounts : ∀ c ∈ items, (Std.HashMap.ofList (items.map fun x => (x, (deps x).length))).getD c 0 = (deps c).length :=
    fun c hc => getD_ofList_map hnodup _ 0 hc
  have hclients : ∀ x c, ((dependentsOf deps items).getD x []).count c = if c ∈ items then (deps c).count x else 0 := fun x c => by
    rw [count_dependentsOf, hnodup.count, ite_mul, Nat.one_mul, Nat.zero_mul]
  have hstart : Visiting deps items (items.filter fun x => (deps x).isEmpty) []
      (.ofList (items.map fun x => (x, (deps x).length))) := by
    refine ⟨trivial, by simpa using hnodup.filter _, fun c hc => by simp [hcounts c hc], fun c => ?_⟩
    rw [List.append_nil, List.mem_filter]
    exact and_congr_right fun hc => by rw [hcounts c hc, List.isEmpty_iff, List.length_eq_zero_iff]
  obtain ⟨all, he, hl, hsub, hall⟩ := visitFree_ends hclients (items.length + 1) hstart (Nat.lt_succ_self _)
  refine ⟨all, hl, hl.nodup.subperm hsub, hall, ?_⟩
  rw [hasCycle, show (0 : Nat) = ([] : List α).length from rfl, he, bne_iff_ne]

/-- An item that depends on a cycle is never visited. -/
theorem hasCycle_of_not_acc (hnodup : items.Nodup) (hx : x ∈ items) (hacc : ¬ Acc (fun y x => y ∈ deps x) x) :
    hasCycle items deps = true := by
  obtain ⟨all, hl, hsub, _, hiff⟩ := exists_visited hnodup
  refine hiff.mpr fun hlen => hacc (hl.acc ?_)
  exact (hsub.perm_of_length_le (Nat.le_of_eq hlen.symm)).mem_iff.mpr hx

/-- All items become free unless one of them depends on a cycle. -/
theorem hasCycle_eq_true (hnodup : items.Nodup) (hclosed : ∀ x ∈ items, ∀ y ∈ deps x, y ∈ items) :
    hasCycle items deps = true ↔ ∃ x ∈ items, ¬ Acc (fun y x => y ∈ deps x) x := by
  refine ⟨fun h => ?_, fun ⟨x, hx, hacc⟩ => hasCycle_of_not_acc hnodup hx hacc⟩
  obtain ⟨all, _, hsub, hall, hiff⟩ := exists_visited hnodup
  by_contra! hacc
  have hmem : ∀ x ∈ items, x ∈ all := by
    intro x hx
    have hx' := hacc x hx
    induction hx' with
    | intro x _ ih => exact hall x hx fun y hy => ih y hy (hclosed x hx y hy)
  exact hiff.mp h (Nat.le_antisymm hsub.length_le (hnodup.subperm hmem).length_le)

end Counting

namespace FunctionGraph

variable {x : FunctionGraph} {a : Arena} {ords : Arena.Orderings} {n : NodeId}

/-- The variables of a graph: the operands of its nodes are among them, and the nodes that compute them
are in the graph. -/
structure Covers (x : FunctionGraph) (a : Arena) : Prop where
  operand : ∀ n v, x.nodes.contains n = true → v ∈ a.inputs n → x.vars.contains v = true
  owner : ∀ v n, x.vars.contains v = true → a.owner v = some n → x.nodes.contains n = true

/-- The variables and nodes of a graph. -/
def items (x : FunctionGraph) : List Item := x.vars.toList.map .var ++ x.nodes.toList.map .node

theorem nodup_items : x.items.Nodup := by
  refine List.nodup_append.mpr ⟨OrdSet.nodup_toList.map (fun _ _ h => by cases h; rfl),
    OrdSet.nodup_toList.map (fun _ _ h => by cases h; rfl), ?_⟩
  simp only [List.mem_map]
  rintro _ ⟨v, _, rfl⟩ _ ⟨n, _, rfl⟩ h
  cases h

@[simp] theorem mem_items_var {v : VarId} : .var v ∈ x.items ↔ x.vars.contains v = true := by
  simp [items, OrdSet.mem_toList]

@[simp] theorem mem_items_node : .node n ∈ x.items ↔ x.nodes.contains n = true := by
  simp [items, OrdSet.mem_toList]

theorem itemDep_var_nil {v : VarId} {y : Item} :
    a.ItemDep [] ords y (.var v) ↔ ∃ m, y = .node m ∧ a.owner v = some m := by
  simp [Arena.ItemDep, Arena.itemNeeds, eq_comm, and_comm]

theorem settled_nil : a.Settled (fun _ => True) [] [] fun _ => False := fun v n _ _ => by simp

variable (hx : x.Consistent a) (hv : x.Covers a) (hords : x.Among ords)
include hx hv hords

theorem items_closed {i j : Item} (hi : i ∈ x.items) (hj : a.ItemDep [] ords j i) : j ∈ x.items := by
  cases i with
  | var v =>
    obtain ⟨m, rfl, ho⟩ := itemDep_var_nil.mp hj
    exact mem_items_node.mpr (hv.owner v m (mem_items_var.mp hi) ho)
  | node n =>
    have hn := mem_items_node.mp hi
    rcases Arena.itemDep_node.mp hj with ⟨v, hmem, rfl⟩ | ⟨m, rfl, hl⟩
    · exact mem_items_var.mpr (hv.operand n v hn hmem)
    · exact mem_items_node.mpr (hx.closed hords hn (.inr hl))

theorem acc_items (hac : ∀ n, x.nodes.contains n = true → ¬ TransGen (a.Precedes ords) n n) {i : Item}
    (hi : i ∈ x.items) : Acc (a.ItemDep [] ords) i := by
  have hnode : ∀ n, x.nodes.contains n = true → Acc (a.ItemDep [] ords) (.node n) :=
    fun n hn => Arena.acc_node_of_before settled_nil (fun _ _ _ _ => trivial) trivial (hx.acc hords hac hn)
  cases i with
  | node n => exact hnode n (mem_items_node.mp hi)
  | var v =>
    refine ⟨_, fun j hj => ?_⟩
    obtain ⟨m, rfl, ho⟩ := itemDep_var_nil.mp hj
    exact hnode m (hv.owner v m (mem_items_var.mp hi) ho)

/-- Variables and nodes have a cycle exactly when the nodes alone have one. -/
theorem hasCycle_items :
    hasCycle x.items (a.itemNeeds (.ofList []) (Arena.prerequisites ords)) = true ↔
      ∃ n, x.nodes.contains n = true ∧ TransGen (a.Precedes ords) n n := by
  rw [hasCycle_eq_true nodup_items fun i hi j hj => items_closed hx hv hords hi hj]
  constructor
  · rintro ⟨i, hi, hnot⟩
    by_contra! hac
    exact hnot (acc_items hx hv hords hac hi)
  · rintro ⟨n, hn, hc⟩
    refine ⟨.node n, mem_items_node.mpr hn, fun hacc => not_transGen_of_acc hacc ?_⟩
    exact TransGen.lift' Item.node (fun _ _ hb => Arena.itemDep_of_before settled_nil trivial hb) n n hc

omit hv in
theorem toposortWith_eq_none_iff (hwf : a.Wf) :
    a.toposortWith x.inputs x.outputs ords = none ↔
      ∃ n, x.nodes.contains n = true ∧ TransGen (a.Precedes ords) n n := by
  have hnode : ∀ n, a.Pulled (fun _ => False) ords x.outputs n → n.idx < a.nodes.size :=
    fun n hn => hx.node_lt hwf ((hx.pulled_iff hords).mp hn)
  constructor
  · intro hnone
    by_contra! hac
    obtain ⟨order, he, _⟩ := Arena.toposortWith_schedules hx.settled hwf hnode
      fun n hn => hx.acc hords hac ((hx.pulled_iff hords).mp hn)
    simp [he] at hnone
  · rintro ⟨n, hn, hc⟩
    exact Arena.toposortWith_eq_none hx.settled hwf hnode ((hx.pulled_iff hords).mpr hn) hc

end FunctionGraph

/-- The count of dependencies finds a cycle exactly when some node of the graph has to run before itself, and
exactly when the order by sources is not found. -/
theorem cyclic_iff (g : GraphId) (k : Kit) (s : Session) (ords : Arena.Orderings) (x : FunctionGraph)
    (hg : s.graphs.getD g.idx default = x) (hwf : s.arena.Wf) (hx : x.Consistent s.arena) (hv : x.Covers s.arena)
    (hin : x.Among ords) :
    ∃ found, Memory.cyclic g ords k s = .ok found s ∧
      (found = true ↔ ∃ n, x.nodes.contains n = true ∧ TransGen (s.arena.Precedes ords) n n) ∧
      (found = true ↔ s.arena.toposortWith x.inputs x.outputs ords = none) := by
  subst hg
  have hcycle := FunctionGraph.hasCycle_items hx hv hin
  exact ⟨_, rfl, hcycle, hcycle.trans (FunctionGraph.toposortWith_eq_none_iff hx hin hwf).symm⟩

namespace Pair

/-- The graph of both nodes with all its variables. -/
def held : FunctionGraph :=
  { two with vars := (((OrdSet.empty.insert ⟨0⟩).insert ⟨1⟩).insert ⟨2⟩).insert ⟨3⟩ }

theorem held_consistent : held.Consistent joined := ⟨two_consistent.inputs, two_consistent.nodes⟩

theorem held_covers : held.Covers joined where
  operand n v hn hm := by
    rcases mem_two.mp hn with rfl | rfl
    · have : v ∈ [(⟨1⟩ : VarId), ⟨2⟩] := hm
      grind [held, OrdSet.contains_insert]
    · have : v ∈ [(⟨0⟩ : VarId)] := hm
      grind [held, OrdSet.contains_insert]
  owner v n _ ho := by
    refine mem_two.mpr ?_
    rcases joined_owner.mp ho with ⟨_, rfl⟩ | ⟨rfl, _⟩
    · exact .inl rfl
    · exact .inr rfl

/-- Demanded against the flow of data, the first node would have to run before itself; demanded along with it,
however often, it would not. -/
theorem cyclic_iff_held :
    (Memory.cyclic ⟨0⟩ [(⟨0⟩, [⟨1⟩])] kit (session held ⟨0⟩ ⟨1⟩) = .ok true (session held ⟨0⟩ ⟨1⟩) ∧
      joined.toposortWith [⟨0⟩] [⟨3⟩] [(⟨0⟩, [⟨1⟩])] = none) ∧
    Memory.cyclic ⟨0⟩ [(⟨1⟩, [⟨0⟩, ⟨0⟩])] kit (session held ⟨1⟩ ⟨0⟩) = .ok false (session held ⟨1⟩ ⟨0⟩) := by
  constructor
  · obtain ⟨found, he, hc, ht⟩ := cyclic_iff ⟨0⟩ kit (session held ⟨0⟩ ⟨1⟩) [(⟨0⟩, [⟨1⟩])] held rfl joined_wf held_consistent
      held_covers (two_among (mem_two.mpr (.inl rfl)))
    have hfound : found = true := hc.mpr ⟨⟨0⟩, mem_two.mpr (.inr rfl),
      .head (.inl ⟨feeds_one, id⟩) (.single (.inr ⟨[⟨1⟩], by simp, by simp⟩))⟩
    exact ⟨hfound ▸ he, ht.mp hfound⟩
  · have hin : held.Among [(⟨1⟩, [⟨0⟩, ⟨0⟩])] := by
      intro n l hl _ m hm
      obtain ⟨rfl, rfl⟩ := Prod.mk.inj (List.mem_singleton.mp hl)
      exact mem_two.mpr (.inr (by simpa using hm))
    obtain ⟨found, he, hc, _⟩ := cyclic_iff ⟨0⟩ kit (session held ⟨1⟩ ⟨0⟩) [(⟨1⟩, [⟨0⟩, ⟨0⟩])] held rfl joined_wf
      held_consistent held_covers hin
    have hfeeds : ∀ m n, joined.Precedes [(⟨1⟩, [⟨0⟩, ⟨0⟩])] m n → joined.Feeds m n := by
      rintro m n (⟨hf, _⟩ | ⟨l, hl, hm⟩)
      · exact hf
      · obtain ⟨rfl, rfl⟩ := Prod.mk.inj (List.mem_singleton.mp hl)
        obtain rfl : m = ⟨0⟩ := by simpa using hm
        exact feeds_one
    have hfound : found = false := by
      refine Bool.eq_false_iff.mpr fun h => ?_
      obtain ⟨n, _, hn⟩ := hc.mp h
      exact not_transGen_joined n (TransGen.mono hfeeds n n hn)
    exact hfound ▸ he

end Pair

end TensorGraph
