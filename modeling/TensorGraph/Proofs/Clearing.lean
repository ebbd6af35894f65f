import TensorGraph.Compile.Evaluate
import TensorGraph.Proofs.Scheduling

/-!
# Clearing cells does not change results

When the nodes of a graph run one after the other, the cell of an intermediate result can be cleared after
the last node that reads it. Two runs in the same order, one with and one without clearing, are compared
step by step: they see the same operands, so they end alike, with the same session and the same value
for each output of the graph.
-/

namespace TensorGraph

theorem getElem?_insertAll {β : Type} {m : Std.HashMap VarId β} {vs : Vars} {v : VarId} (x : β) :
    (vs.foldl (·.insert · x) m)[v]? = if v ∈ vs then some x else m[v]? := by
  induction vs generalizing m with
  | nil => simp
  | cons u vs ih =>
    rw [List.foldl_cons, ih, Std.HashMap.getElem?_insert]
    grind

namespace ValueMap

variable {m m' : ValueMap} {vs : Vars} {xs : Values} {v : VarId}

theorem put_congr (h : m[v]? = m'[v]?) : (m.put vs xs)[v]? = (m'.put vs xs)[v]? := by
  unfold put
  induction vs.zip xs generalizing m m' with
  | nil => exact h
  | cons e l ih =>
    refine ih ?_
    rw [Std.HashMap.getElem?_insert, Std.HashMap.getElem?_insert, h]

theorem getElem?_put (hv : v ∉ vs) : (m.put vs xs)[v]? = m[v]? := by
  have hzip : ∀ e ∈ vs.zip xs, e.1 ≠ v := fun e he hv' => hv (hv' ▸ (List.of_mem_zip he).1)
  unfold put
  generalize vs.zip xs = l at hzip
  induction l generalizing m with
  | nil => rfl
  | cons e l ih =>
    rw [List.foldl_cons, ih fun e he => hzip e (List.mem_cons_of_mem _ he), Std.HashMap.getElem?_insert]
    simp [hzip e (List.mem_cons_self ..)]

end ValueMap

namespace Arena

variable {a : Arena} {order : List NodeId} {outs : Vars} {n : NodeId} {v : VarId}

theorem lastUser_eq_find? : (a.lastUser order)[v]? = order.reverse.find? fun n => decide (v ∈ a.inputs n) := by
  unfold lastUser
  induction order using List.reverseRecOn with
  | nil => simp
  | append_singleton order m ih =>
    rw [List.foldl_append, List.foldl_cons, List.foldl_nil, getElem?_insertAll, ih, List.reverse_append,
      List.reverse_singleton, List.singleton_append, List.find?_cons]
    by_cases hv : v ∈ a.inputs m <;> simp [hv]

theorem lastUser_splits (h : (a.lastUser order)[v]? = some n) :
    v ∈ a.inputs n ∧ ∃ xs ys, order = xs ++ n :: ys ∧ ∀ m ∈ ys, v ∉ a.inputs m := by
  rw [lastUser_eq_find?, List.find?_eq_some_iff_append, decide_eq_true_eq] at h
  obtain ⟨hv, as, bs, hs, hno⟩ := h
  refine ⟨hv, bs.reverse, as.reverse, ?_, fun m hm => ?_⟩
  · rw [← List.reverse_reverse order, hs]
    simp
  · simpa using hno m (List.mem_reverse.mp hm)

theorem exists_lastUser (hn : n ∈ order) (hv : v ∈ a.inputs n) : ∃ m ∈ order, (a.lastUser order)[v]? = some m := by
  rw [lastUser_eq_find?]
  cases h : order.reverse.find? fun n => decide (v ∈ a.inputs n) with
  | none => exact absurd hv (by simpa using List.find?_eq_none.mp h n (List.mem_reverse.mpr hn))
  | some m => exact ⟨m, List.mem_reverse.mp (List.mem_of_find?_eq_some h), rfl⟩

/-- The cells that are cleared after a node. -/
def old (a : Arena) (order : List NodeId) (outs : Vars) (n : NodeId) : Vars :=
  (a.inputs n).filter fun v => (a.computedBy order).contains v && !outs.contains v && (a.lastUser order)[v]? == some n

theorem thunks_true : a.thunks order outs true = order.map fun n => ⟨n, a.inputs n, a.outputs n, a.old order outs n⟩ := rfl

theorem thunks_false : a.thunks order outs false = order.map fun n => ⟨n, a.inputs n, a.outputs n, []⟩ :=
  List.map_congr_left fun n _ => congrArg (Thunk.mk n _ _) (List.filter_false _)

theorem mem_old : v ∈ a.old order outs n ↔
    (∃ m ∈ order, v ∈ a.outputs m) ∧ v ∉ outs ∧ (a.lastUser order)[v]? = some n := by
  have hread : (a.lastUser order)[v]? = some n → v ∈ a.inputs n := fun h => (lastUser_splits h).1
  simp only [old, List.mem_filter, computedBy, Std.HashSet.contains_ofList, Bool.and_eq_true, List.contains_iff_mem,
    List.mem_flatMap, Bool.not_eq_true', beq_iff_eq, ← Bool.not_eq_true]
  grind

/-- A node that comes after the last to read a variable does not read it. -/
theorem not_mem_inputs_of_old (hd : order.Nodup) {xs ys : List NodeId} (hs : order = xs ++ n :: ys)
    (hv : v ∈ a.old order outs n) {m : NodeId} (hm : m ∈ ys) : v ∉ a.inputs m := by
  obtain ⟨_, us, ws, hs', hno⟩ := lastUser_splits (mem_old.mp hv).2.2
  have hn : n ∉ us ∧ n ∉ ws := by
    rw [hs', List.nodup_middle, List.nodup_cons, List.mem_append] at hd
    exact not_or.mp hd.1
  obtain ⟨rfl, _, rfl⟩ := (List.append_cons_inj_of_notMem hn.1 hn.2).mp (hs'.symm.trans hs)
  exact hno m hm

end Arena

/-! ## Two runs side by side -/

/-- Two computations end with values that are related, or with the same fault, and leave the same session. -/
def Alike {α : Type} (R : α → α → Prop) : EStateM.Result Fault Session α → EStateM.Result Fault Session α → Prop
  | .ok x s, .ok y t => R x y ∧ s = t
  | .error e s, .error f t => e = f ∧ s = t
  | _, _ => False

section Runs

variable {α β : Type} {R : α → α → Prop} {S : β → β → Prop} {k : Kit} {s : Session}

theorem Alike.refl (r : EStateM.Result Fault Session α) : Alike Eq r r := by
  cases r with
  | ok x s => exact ⟨rfl, rfl⟩
  | error e s => exact ⟨rfl, rfl⟩

theorem Alike.bind {x y : M α} {f g : α → M β} (h : Alike R (x k s) (y k s))
    (hf : ∀ u w t, R u w → Alike S (f u k t) (g w k t)) : Alike S ((x >>= f) k s) ((y >>= g) k s) := by
  change Alike S (M.bind x f k s) (M.bind y g k s)
  unfold M.bind
  cases hx : x k s with
  | ok u t =>
    cases hy : y k s with
    | ok w t' =>
      rw [hx, hy] at h
      obtain ⟨hr, rfl⟩ := h
      exact hf u w t hr
    | error => rw [hx, hy] at h; exact h.elim
  | error e t =>
    cases hy : y k s with
    | ok => rw [hx, hy] at h; exact h.elim
    | error f t' => rw [hx, hy] at h; exact h

/-- The cells `gone` are null in the second map, and all others are as in the first. -/
structure Cleared (gone : Vars) (m m' : ValueMap) : Prop where
  null : ∀ v ∈ gone, m'[v]? = some .null
  kept : ∀ v, v ∉ gone → m'[v]? = m[v]?

variable {a : Arena} {gone reads writes : Vars} {m m' : ValueMap} {n : NodeId}

theorem Cleared.content (h : Cleared gone m m') {v : VarId} (hv : v ∉ gone) : a.content m' v = a.content m v := by
  simp only [Arena.content, Std.HashMap.getD_eq_getD_getElem?, h.kept v hv]

theorem Cleared.step (h : Cleared gone m m') (hw : ∀ v ∈ writes, v ∉ gone) (xs : Values) (more : Vars) :
    Cleared (gone ++ more) ((m.put writes xs).clear []) ((m'.put writes xs).clear more) where
  null v hv := by
    rw [ValueMap.clear, getElem?_insertAll]
    split
    case isTrue => rfl
    case isFalse hm =>
      have hv : v ∈ gone := (List.mem_append.mp hv).resolve_right hm
      rw [ValueMap.getElem?_put fun hv' => hw v hv' hv, h.null v hv]
  kept v hv := by
    obtain ⟨hg, hm⟩ := not_or.mp (mt List.mem_append.mpr hv)
    rw [ValueMap.clear, getElem?_insertAll, if_neg hm]
    exact ValueMap.put_congr (h.kept v hg)

/-- One step: a node that reads and writes none of the cells that are gone does the same in both runs. -/
theorem runThunk_alike (more : Vars) (h : Cleared gone m m') (hr : ∀ v ∈ reads, v ∉ gone) (hw : ∀ v ∈ writes, v ∉ gone) :
    Alike (Cleared (gone ++ more)) (runThunk a m ⟨n, reads, writes, []⟩ k s)
      (runThunk a m' ⟨n, reads, writes, more⟩ k s) := by
  have hreads : reads.map (a.content m') = reads.map (a.content m) := List.map_congr_left fun v hv => h.content (hr v hv)
  unfold runThunk
  rw [hreads]
  refine (Alike.refl _).bind fun xs ys t he => ?_
  exact ⟨he ▸ h.step hw xs more, rfl⟩

end Runs

section Streamline

variable {a : Arena} {order : List NodeId} {outs : Vars} {items : NodeId → Prop} {k : Kit} {s : Session}
  {m m' : ValueMap} (hwf : a.Wf) (ho : Schedules a.Feeds items order)
include hwf ho

/-- A node touches none of the cells that were cleared before it: their last reader came before, and so did the
node that writes them. -/
theorem not_mem_gone {done rest : List NodeId} {n : NodeId} {v : VarId} (hs : order = done ++ n :: rest)
    (hv : v ∈ a.inputs n ∨ v ∈ a.outputs n) : v ∉ done.flatMap (a.old order outs) := by
  intro hg
  obtain ⟨p, hp, hold⟩ := List.mem_flatMap.mp hg
  obtain ⟨xs, ys, rfl⟩ := List.append_of_mem hp
  rw [List.append_assoc, List.cons_append] at hs
  rcases hv with hv | hv
  · exact Arena.not_mem_inputs_of_old ho.nodup hs hold (by simp) hv
  · have hread : v ∈ a.inputs p := (Arena.lastUser_splits (Arena.mem_old.mp hold).2.2).1
    have hn : n ∈ xs := ho.after xs p _ hs n ⟨v, hread, hwf.mem_outputs.mp hv⟩
    have hd := ho.nodup
    rw [hs, List.nodup_append] at hd
    exact hd.2.2 n hn n (by simp) rfl

theorem streamline_alike (outs : Vars) (rest done : List NodeId) (hs : order = done ++ rest)
    (h : Cleared (done.flatMap (a.old order outs)) m m') :
    Alike (Cleared (order.flatMap (a.old order outs)))
      (streamline a (rest.map fun n => ⟨n, a.inputs n, a.outputs n, []⟩) m k s)
      (streamline a (rest.map fun n => ⟨n, a.inputs n, a.outputs n, a.old order outs n⟩) m' k s) := by
  induction rest generalizing done m m' s with
  | nil =>
    rw [List.append_nil] at hs
    exact ⟨hs ▸ h, rfl⟩
  | cons n rest ih =>
    have hstep := runThunk_alike (a := a) (k := k) (s := s) (n := n) (a.old order outs n) h
      (fun v hv => not_mem_gone hwf ho hs (.inl hv)) fun v hv => not_mem_gone hwf ho hs (.inr hv)
    refine hstep.bind fun m m' t hm => ih (done ++ [n]) (by simp [hs]) ?_
    simpa using hm

end Streamline

variable {a : Arena} {order : List NodeId} {outs : Vars}

theorem old_computed (hwf : a.Wf) {n : NodeId} {v : VarId} (hv : v ∈ a.old order outs n) : a.owner v ≠ none := by
  obtain ⟨m, _, hm⟩ := (Arena.mem_old.mp hv).1
  rw [hwf.mem_outputs.mp hm]
  exact Option.some_ne_none m

theorem reads_not_old (hd : order.Nodup) {ts us : List Thunk} {t u : Thunk} {v : VarId}
    (hs : a.thunks order outs true = ts ++ t :: us) (hu : u ∈ us) (hv : v ∈ t.old) : v ∉ u.reads := by
  rw [Arena.thunks_true, List.map_eq_append_iff] at hs
  obtain ⟨xs, zs, hs, _, hz⟩ := hs
  obtain ⟨n, ys, rfl, rfl, rfl⟩ := List.map_eq_cons_iff.mp hz
  obtain ⟨m, hm, rfl⟩ := List.mem_map.mp hu
  exact Arena.not_mem_inputs_of_old hd hs hv hm

/-- Whether cells are cleared or not, running the nodes of a graph in an order by dependence ends alike. Inputs,
constants and outputs are never cleared, no node reads a cell that was, and the cells of all other results
that are read are null in the end. -/
theorem runOrdered_alike (g : GraphId) (order : List NodeId) (r : Run) (k : Kit) (s : Session) (x : FunctionGraph)
    (hg : s.graphs.getD g.idx default = x) (hwf : s.arena.Wf) (hx : x.Consistent s.arena)
    (hconst : ∀ v c, s.arena.constant? v = some c → s.arena.owner v = none)
    (ho : Schedules s.arena.Feeds (fun n => x.nodes.contains n = true) order) :
    (∀ t ∈ s.arena.thunks order x.outputs true, ∀ v ∈ t.old,
      v ∉ x.inputs ∧ s.arena.constant? v = none ∧ v ∉ x.outputs) ∧
    (∀ ts t us, s.arena.thunks order x.outputs true = ts ++ t :: us → ∀ u ∈ us, ∀ v ∈ t.old, v ∉ u.reads) ∧
    Alike (fun plain clearing =>
        (∀ v ∈ x.outputs, s.arena.content clearing.values v = s.arena.content plain.values v) ∧
        ∀ m n v, x.nodes.contains m = true → x.nodes.contains n = true → v ∈ s.arena.outputs m → v ∈ s.arena.inputs n →
          v ∉ x.outputs → clearing.values[v]? = some .null)
      (runOrdered g order false r k s) (runOrdered g order true r k s) := by
  subst hg
  refine ⟨fun t ht v hv => ?_, fun ts t us hs u hu v hv => reads_not_old ho.nodup hs hu hv, ?_⟩
  · rw [Arena.thunks_true] at ht
    obtain ⟨n, _, rfl⟩ := List.mem_map.mp ht
    have hc := old_computed hwf hv
    refine ⟨fun hi => hc (hx.inputs v hi), ?_, (Arena.mem_old.mp hv).2.1⟩
    exact Option.eq_none_iff_forall_ne_some.mpr fun c he => hc (hconst v c he)
  · have hstart : Cleared [] r.values r.values := ⟨fun _ hv => absurd hv List.not_mem_nil, fun _ _ => rfl⟩
    have hrun := streamline_alike (k := k) (s := s) hwf ho (s.graphs.getD g.idx default).outputs order [] rfl hstart
    rw [← Arena.thunks_true, ← Arena.thunks_false] at hrun
    refine Alike.bind (x := streamline s.arena (s.arena.thunks order _ false) r.values)
      (y := streamline s.arena (s.arena.thunks order _ true) r.values) hrun fun m m' t hm => ⟨⟨?_, ?_⟩, rfl⟩
    · intro v hv
      refine hm.content fun hg => ?_
      obtain ⟨n, _, hold⟩ := List.mem_flatMap.mp hg
      exact (Arena.mem_old.mp hold).2.1 hv
    · intro p n v hp hn hout hin hv
      obtain ⟨q, hq, hlast⟩ := Arena.exists_lastUser ((ho.mem n).mpr hn) hin
      exact hm.null v (List.mem_flatMap.mpr ⟨q, hq, Arena.mem_old.mpr ⟨⟨p, (ho.mem p).mpr hp, hout⟩, hv, hlast⟩⟩)

/-! ## The node with two results and the one that reads both -/

namespace Pair

def start : Run := { values := .ofList [(⟨0⟩, .int 2)] }

theorem schedules_joined : Schedules joined.Feeds (fun n => two.nodes.contains n = true) [⟨0⟩, ⟨1⟩] where
  nodup := by decide
  mem n := by
    rw [mem_two]
    simp [or_comm]
  after xs n ys hs m hm := by
    obtain ⟨rfl, rfl⟩ := joined_feeds hm
    cases xs with
    | nil => cases hs
    | cons z zs =>
      obtain ⟨rfl, _⟩ := List.cons.inj hs
      exact List.mem_cons_self ..

theorem constant?_joined (v : VarId) : joined.constant? v = none := by
  rcases v with ⟨_ | _ | _ | _ | i⟩
  · rfl
  · rfl
  · rfl
  · rfl
  · have : joined.var ⟨i + 4⟩ = default := by
      have hsize : joined.vars.size = 4 := rfl
      simp [Arena.var, Array.getD, hsize]
    rw [Arena.constant?, this]
    rfl

theorem runOrdered_alike_joined :
    (∀ t ∈ joined.thunks [⟨0⟩, ⟨1⟩] two.outputs true, ∀ v ∈ t.old,
      v ∉ two.inputs ∧ joined.constant? v = none ∧ v ∉ two.outputs) ∧
    (∀ ts t us, joined.thunks [⟨0⟩, ⟨1⟩] two.outputs true = ts ++ t :: us → ∀ u ∈ us, ∀ v ∈ t.old, v ∉ u.reads) ∧
    Alike (fun plain clearing =>
        (∀ v ∈ two.outputs, joined.content clearing.values v = joined.content plain.values v) ∧
        ∀ m n v, two.nodes.contains m = true → two.nodes.contains n = true → v ∈ joined.outputs m →
          v ∈ joined.inputs n → v ∉ two.outputs → clearing.values[v]? = some .null)
      (runOrdered ⟨0⟩ [⟨0⟩, ⟨1⟩] false start kit (session two ⟨1⟩ ⟨0⟩))
      (runOrdered ⟨0⟩ [⟨0⟩, ⟨1⟩] true start kit (session two ⟨1⟩ ⟨0⟩)) :=
  runOrdered_alike ⟨0⟩ [⟨0⟩, ⟨1⟩] start kit (session two ⟨1⟩ ⟨0⟩) two rfl joined_wf two_consistent
    (fun v c h => by rw [show (session two ⟨1⟩ ⟨0⟩).arena = joined from rfl, constant?_joined] at h; cases h) schedules_joined

end Pair

end TensorGraph
