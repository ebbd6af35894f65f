import Mathlib.Data.Int.CardIntervalMod
import Mathlib.Data.ZMod.Basic
import TensorGraph.Proofs.Ends
import TensorGraph.Proofs.Recurrences

/-!
# Streams apart from each other

A step applies one matrix to each recurrence, so a jump by `2 ^ e` steps applies the matrix that `e` squarings make of it. The stored
matrices are such powers. A draw goes round the streams, and each is advanced by the samples that it gave.
-/

namespace TensorGraph

open M

namespace Random

/-! ## Jumps -/

variable (m : Nat) (p rows : List (List Int)) (v : List Int)

/-- The rows of a matrix applied to a vector, modulo `m`. -/
def linear : List Int := rows.map fun r => (r.zipWith (· * ·) v).sum % m

/-- The square of a matrix with three columns, modulo `m`. -/
def square : List (List Int) :=
  p.map fun r => (List.range 3).map fun j => (r.zipWith (fun a c => a * c.getD j 0) p).sum % m

/-- A vector of three numbers below `m`. -/
def Triple : Prop := v.length = 3 ∧ ∀ x ∈ v, 0 ≤ x ∧ x < m

def Square : Prop := p.length = 3 ∧ ∀ r ∈ p, r.length = 3

def Held (i : Int) : Prop := -2 ^ 63 ≤ i ∧ i < 2 ^ 63

theorem Held.word {i : Int} (h : Held i) : word i = i := Int64.toInt_ofInt_of_le h.1 h.2

/-- Every product and every partial sum of a matrix and a vector is held by 64 bits. -/
def NoOverflow (m : Int) : Prop :=
  ∀ r ∈ rows, (∀ y ∈ r.zipWith (· * ·) v, Held y) ∧ ∀ k, Held ((products r v m).take k).sum

section Matrix

variable {m : Nat} {p rows : List (List Int)} {r v : List Int}

theorem linear_linear (hp : Square p) (hv : v.length = 3) : linear m p (linear m p v) = linear m (square m p) v := by
  obtain ⟨q1, q2, q3, rfl⟩ := List.length_eq_three.mp hp.1
  obtain ⟨a, b, c, rfl⟩ := List.length_eq_three.mp (hp.2 q1 (by simp))
  obtain ⟨d, e, f, rfl⟩ := List.length_eq_three.mp (hp.2 q2 (by simp))
  obtain ⟨g, h, i, rfl⟩ := List.length_eq_three.mp (hp.2 q3 (by simp))
  obtain ⟨x, y, z, rfl⟩ := List.length_eq_three.mp hv
  simp only [linear, square, List.map_map]
  refine List.map_congr_left fun r hr => ?_
  obtain ⟨s, t, u, rfl⟩ := List.length_eq_three.mp (hp.2 r hr)
  simp [List.range_succ]
  rw [← ZMod.intCast_eq_intCast_iff']
  push_cast [ZMod.intCast_mod]
  ring

theorem iterate_square (hp : Square p) (e : Nat) : Square ((square m)^[e] p) ∧
    ∀ v : List Int, v.length = 3 → linear m ((square m)^[e] p) v = (linear m p)^[2 ^ e] v := by
  induction e with
  | zero => exact ⟨hp, fun _ _ => rfl⟩
  | succ e ih =>
    rw [Function.iterate_succ_apply']
    refine ⟨by simp [Square, square, ih.1.1], fun v hv => ?_⟩
    rw [← linear_linear ih.1 hv, ih.2 _ (by simp [linear, ih.1.1]), ih.2 v hv, pow_succ, mul_two, Function.iterate_add_apply]

theorem held_mul {a x : Int} (hm : m < 2 ^ 31) (ha : 0 ≤ a ∧ a < m) (hx : 0 ≤ x ∧ x < m) : Held (a * x) := by
  have h : a * x < 2 ^ 31 * 2 ^ 31 := mul_lt_mul'' (by omega) (by omega) ha.1 hx.1
  have h0 := mul_nonneg ha.1 hx.1
  constructor <;> omega

/-- The products of a row and a vector, their sums and the remainder of the whole sum are exact. -/
theorem row_exact (hm : 0 < m) (hm' : m < 2 ^ 31) (hr : Triple m r) (hv : Triple m v) :
    ((∀ y ∈ r.zipWith (· * ·) v, Held y) ∧ ∀ k, Held ((products r v m).take k).sum) ∧
      (Int32.ofInt ((word ((products r v m).foldl (· + ·) 0)).fmod m)).toInt = (r.zipWith (· * ·) v).sum % m := by
  obtain ⟨x, y, z, rfl⟩ := List.length_eq_three.mp hv.1
  obtain ⟨a, b, c, rfl⟩ := List.length_eq_three.mp hr.1
  have ha := hr.2
  have hx := hv.2
  simp only [List.forall_mem_cons] at ha hx
  have h1 := held_mul hm' ha.1 hx.1
  have h2 := held_mul hm' ha.2.1 hx.2.1
  have h3 := held_mul hm' ha.2.2.1 hx.2.2.1
  have hmod (t : Int) : 0 ≤ t % m ∧ t % m < m := ⟨Int.emod_nonneg t (by omega), Int.emod_lt_of_pos t (by omega)⟩
  have hprod : products [a, b, c] [x, y, z] m = [a * x % m, b * y % m, c * z % m] := by
    simp [products, h1.word, h2.word, h3.word, Int.fmod_eq_emod_of_nonneg]
  have hsum (k : Nat) : Held ([a * x % m, b * y % m, c * z % m].take k).sum := by
    have := hmod (a * x)
    have := hmod (b * y)
    have := hmod (c * z)
    rcases k with _ | _ | _ | k <;> simp [Held] <;> omega
  have hall : Held [a * x % m, b * y % m, c * z % m].sum := hsum 3
  have hlt := hmod [a * x % m, b * y % m, c * z % m].sum
  rw [hprod, ← List.sum_eq_foldl, hall.word, Int.fmod_eq_emod_of_nonneg _ (by omega), Int32.toInt_ofInt_of_le (by omega) (by omega)]
  refine ⟨⟨by simp [h1, h2, h3], hsum⟩, ?_⟩
  simp only [List.sum_cons]
  rw [Int.emod_add_emod, ← Int.add_emod_emod]
  simp

theorem dotModulo_eq (hm : 0 < m) (hm' : m < 2 ^ 31) (hr : ∀ r ∈ rows, Triple m r) (hv : Triple m v) :
    NoOverflow rows v m ∧ dotModulo rows v m = linear m rows v :=
  ⟨fun r h => (row_exact hm hm' (hr r h) hv).1, List.map_congr_left fun r h => (row_exact hm hm' (hr r h) hv).2⟩

end Matrix

/-- One step of both recurrences. -/
def single : Jump where
  first := [[0, 4194304, 129], [1, 0, 0], [0, 1, 0]]
  second := [[32768, 0, 32769], [1, 0, 0], [0, 1, 0]]

/-- A state after a number of steps. -/
def advance (k : Nat) (s : StreamState) : StreamState := (fun s => (step s).1)^[k] s

variable {s : StreamState}

theorem advance_advance (s : StreamState) (i j : Nat) : advance i (advance j s) = advance (i + j) s :=
  (Function.iterate_add_apply _ i j s).symm

theorem advance_succ (s : StreamState) (k : Nat) : advance (k + 1) s = (step (advance k s)).1 :=
  Function.iterate_succ_apply' (fun s => (step s).1) k s

theorem advance_linear (h : s.InRange) (k : Nat) : (advance k s).InRange ∧
    (advance k s).first = (linear 2147483647 single.first)^[k] s.first ∧
    (advance k s).second = (linear 2147462579 single.second)^[k] s.second := by
  induction k with
  | zero => exact ⟨h, rfl, rfl⟩
  | succ k ih =>
    obtain ⟨hk, h1, h2⟩ := ih
    have hstep := toInts_step hk
    have hrange := inRange_step hk
    rw [advance_succ, Function.iterate_succ_apply', Function.iterate_succ_apply', ← h1, ← h2]
    generalize (step (advance k s)).1 = t at hstep hrange ⊢
    refine ⟨hrange, ?_⟩
    obtain ⟨hr1, hr2⟩ := hrange
    simp only [StreamState.toInts, StreamState.first, StreamState.second, linear, single, List.map, List.zipWith, List.sum_cons,
      List.sum_nil, List.cons.injEq, List.forall_mem_cons, and_true] at hstep hr1 hr2 ⊢
    omega

/-- The matrices of a jump are those of a step, squared `e` times. -/
structure Jump.Skips (j : Jump) (e : Nat) : Prop where
  first : (square 2147483647)^[e] single.first = j.first
  second : (square 2147462579)^[e] single.second = j.second
  below : (∀ r ∈ j.first, Triple 2147483647 r) ∧ ∀ r ∈ j.second, Triple 2147462579 r

theorem toNextStream_skips : toNextStream.Skips 72 := by
  constructor <;> (try simp only [Triple]) <;> decide +kernel

theorem beyondStreams_skips : beyondStreams.Skips 134 := by
  have h := toNextStream_skips
  constructor
  · rw [Function.iterate_add_apply (square _) 62 72, h.first]
    decide +kernel
  · rw [Function.iterate_add_apply (square _) 62 72, h.second]
    decide +kernel
  · simp only [Triple]
    decide +kernel

/-- No number of a jump from a state leaves its 64 bits. -/
def Jump.Safe (j : Jump) (s : StreamState) : Prop :=
  NoOverflow j.first s.first modulus1.toInt ∧ NoOverflow j.second s.second modulus2.toInt

theorem ofInts?_toInts (s : StreamState) : StreamState.ofInts? s.toInts = some s := by
  simp [StreamState.toInts, StreamState.ofInts?]

theorem Jump.Skips.apply {j : Jump} {e : Nat} (h : j.Skips e) (hs : s.InRange) : j.Safe s ∧ j.apply s = advance (2 ^ e) s := by
  obtain ⟨hn1, h1⟩ := dotModulo_eq (v := s.first) (by decide) (by decide) h.below.1 ⟨rfl, hs.first⟩
  obtain ⟨hn2, h2⟩ := dotModulo_eq (v := s.second) (by decide) (by decide) h.below.2 ⟨rfl, hs.second⟩
  obtain ⟨-, hf, hg⟩ := advance_linear hs (2 ^ e)
  rw [← (iterate_square (by simp [Square, single]) e).2 _ rfl, h.first, ← h1] at hf
  rw [← (iterate_square (by simp [Square, single]) e).2 _ rfl, h.second, ← h2] at hg
  have hints : j.ints s.toInts = (advance (2 ^ e) s).toInts := by
    change _ = (advance (2 ^ e) s).first ++ (advance (2 ^ e) s).second
    rw [hf, hg]
    rfl
  refine ⟨⟨hn1, hn2⟩, ?_⟩
  rw [Jump.apply, hints, ofInts?_toInts]
  rfl

theorem streams_eq (hs : s.InRange) (n : Nat) : streams s n = (List.range n).map fun i => advance (i * 2 ^ 72) s := by
  induction n generalizing s with
  | zero => rfl
  | succ n ih =>
    rw [streams, (toNextStream_skips.apply hs).2, ih (advance_linear hs _).1, List.range_succ_eq_map, List.map_cons, List.map_map]
    refine congrArg₂ List.cons (by rw [Nat.zero_mul]; rfl) (List.map_congr_left fun i _ => ?_)
    rw [Function.comp_apply, advance_advance, Nat.succ_mul]

/-! ## Draws -/

/-- Samples go round the streams. -/
theorem draw_eq {states : Array StreamState} (h : 0 < states.size) (n : Nat) : draw states n =
    (((List.range n).map fun j => (step (advance (j / states.size) (states.getD (j % states.size) default))).2).toArray,
      states.mapIdx fun i s => advance (Nat.count (· % states.size = i) n) s) := by
  induction n with
  | zero => exact Prod.ext rfl (Array.ext (by simp [draw]) fun i _ _ => by simp [draw, advance])
  | succ n ih =>
    have hn := Nat.mod_lt n h
    have hcount : Nat.count (· % states.size = n % states.size) n = n / states.size := by
      simpa [Nat.ModEq] using Nat.count_modEq_card n h (n % states.size)
    have hget : (states.mapIdx fun i s => advance (Nat.count (· % states.size = i) n) s).getD (n % states.size) default =
        advance (n / states.size) (states.getD (n % states.size) default) := by
      simp only [Array.getD_eq_getD_getElem?, Array.getElem?_mapIdx, Array.getElem?_eq_getElem hn, Option.map_some,
        Option.getD_some, hcount]
    rw [draw, List.range_succ, List.foldl_append, ← draw, ih]
    simp only [List.foldl_cons, List.foldl_nil, hget]
    refine Prod.ext (by simp only [List.map_append, List.map_cons, List.map_nil, List.push_toArray]) ?_
    refine Array.ext (by simp) fun i hi _ => ?_
    rw [Array.getElem_setIfInBounds (by simpa using hi), Array.getElem_mapIdx, Array.getElem_mapIdx, Nat.count_succ]
    split
    case isTrue hni =>
      subst hni
      rw [hcount, advance_succ]
      rfl
    case isFalse => rfl

theorem mapM_chunks (states : List StreamState) :
    (chunks 6 states.length (stateArray states).toInts).mapM StreamState.ofInts? = some states := by
  have h : (stateArray states).toInts = states.flatMap StreamState.toInts := by
    simp [stateArray, NdArray.toInts, Function.comp_def, Elem.toInt]
  rw [h]
  clear h
  induction states with
  | nil => rfl
  | cons s states ih =>
    have hlen : s.toInts.length = 6 := rfl
    rw [List.length_cons, List.flatMap_cons, chunks, List.take_left' hlen, List.drop_left' hlen, List.mapM_cons, ih, ofInts?_toInts]
    rfl

end Random

/-- The type takes arrays with elements of a type and with a shape. -/
def Ty.Accepts (τ : Ty) (d : DType) (shape : List Nat) : Prop :=
  ∃ bs name, τ = .tensor d bs name ∧ shape.length = bs.length ∧ ∀ p ∈ bs.zip shape, p.1 = true → p.2 = 1

variable {k : Kit} {s : Session}

theorem Ty.Accepts.ends_filter {τ : Ty} {a : NdArray} {Q : Value → Session → Prop} {E : Fault → Session → Prop}
    (h : τ.Accepts a.dtype a.shape) : (τ.filter (.array a)).Ends k s Q E ↔ Q (.array a) s := by
  obtain ⟨bs, name, rfl, hlen, hone⟩ := h
  have hany : ((bs.zip a.shape).any fun p => p.1 && p.2 != 1) = false := by
    rw [List.any_eq_false]
    intro p hp
    simpa using hone p hp
  simp only [Ty.filter, filterTensor, NdArray.ndim, hlen, hany, beq_self_eq_true, bne_self_eq_false, if_true,
    Bool.false_eq_true, if_false, ends_bind, ends_pure]

namespace Random

theorem uniformPerform_eq {d : DType} {n : NodeId} {u v : VarId} {states : List StreamState} {size : NdArray} {dims : List Nat}
    {Q : Values → Session → Prop} {E : Fault → Session → Prop} (hpos : 0 < states.length) (hd : d.isFloat = true)
    (hdims : size.toInts = dims.map Int.ofNat) (hN : dims.prod < 2 ^ 31) (hsize : tooLarge d dims = false)
    (houts : s.arena.outputs n = [u, v]) (hu : (s.arena.typeOf u).Accepts .int32 [states.length, 6])
    (hv : (s.arena.typeOf v).Accepts d dims) :
    (uniformPerform d n [.array (stateArray states), .array size]).Ends k s Q E ↔
      Q [.array (stateArray (draw states.toArray dims.prod).2.toList),
        .array ⟨d, dims, (draw states.toArray dims.prod).1.map (fraction d), 0⟩] s := by
  have hprod : (size.toInts.foldl (· * ·) 1).bmod (.pow 2 64) = (dims.prod : Int) := by
    rw [hdims, ← List.prod_eq_foldl, show (dims.map Int.ofNat).prod = dims.prod from (map_list_prod (Nat.castRingHom ℤ) dims).symm]
    generalize dims.prod = N at hN
    exact Int.bmod_eq_of_le (by simp) (by simp; omega)
  have hshape : size.toInts.map Int.toNat = dims := by
    rw [hdims, List.map_map]
    exact List.map_id dims
  have hneg : (size.toInts.any fun x => decide (x < 0)) = false := by
    rw [hdims, List.any_map, List.any_eq_false]
    intro x _
    simp
  have hlen : (draw states.toArray dims.prod).2.toList.length = states.length := by
    rw [draw_eq (by simpa using hpos)]
    simp
  have hlarge : ¬ (dims.prod : Int) > modulus1.toInt := by
    rw [toInt_modulus1]
    omega
  have hstates : (stateArray states).shape = [states.length, 6] ∧ (stateArray states).dtype = .int32 := ⟨rfl, rfl⟩
  simp only [uniformPerform, arrayOf, ends_bind, ends_pure, hprod, hshape, hneg, hsize, hlarge, if_false, hstates, hd, Bool.not_true,
    Bool.and_false, Bool.or_false, Bool.false_eq_true, ends_check, beq_self_eq_true, Bool.or_true, if_true, mapM_chunks, houts,
    ends_outsOf, List.zip_cons_cons, List.zip_nil_left, Int.toNat_natCast, List.mapM_cons, List.mapM_nil, ends_typeOf]
  rw [Ty.Accepts.ends_filter (by rw [← hlen] at hu; exact hu), Ty.Accepts.ends_filter hv]

/-- The source of streams holds a state. -/
def Holds (s : Session) (r : RecordId) (st : StreamState) : Prop :=
  (s.records.getD r.idx default).fields.lookup "rstate" = some (.array (.ofInts .int32 st.toInts))

/-- The session in which the source has come to a state. -/
def moved (s : Session) (r : RecordId) (st : StreamState) : Session :=
  { s with records := s.records.modify r.idx fun x =>
      { x with fields := alistSet "rstate" (.array (.ofInts .int32 st.toInts)) x.fields } }

section Source

variable {r : RecordId} {st : StreamState} (h : Holds s r st)

include h

theorem ends_sourceState {Q : StreamState → Session → Prop} {E : Fault → Session → Prop} :
    (sourceState r).Ends k s Q E ↔ Q st s := by
  have hfield : field r "rstate" k s = .ok (.array (.ofInts .int32 st.toInts)) s := by
    change EStateM.Result.ok (((s.records.getD r.idx default).fields.lookup "rstate").getD .null) s = _
    rw [h]
    rfl
  have hints : (NdArray.ofInts .int32 st.toInts).toInts = st.toInts := by
    simp [NdArray.ofInts, NdArray.toInts, Function.comp_def, Elem.toInt]
  simp only [sourceState, ends_bind, ends_of_ok hfield, arrayOf, ends_pure, hints, ofInts?_toInts]

theorem ends_skipAhead {Q : Unit → Session → Prop} {E : Fault → Session → Prop} (hst : st.InRange) :
    (skipAhead r).Ends k s Q E ↔ Q () (moved s r (advance (2 ^ 134) st)) := by
  rw [skipAhead, ends_bind, ends_sourceState h, (beyondStreams_skips.apply hst).2]
  exact Iff.rfl

theorem ends_substreams {n : Nat} {further : Bool} {Q : Value → Session → Prop} {E : Fault → Session → Prop} (hst : st.InRange)
    (hn : 0 < n) (hsize : tooLarge .int32 [n, 6] = false) : (substreams r (.int n) further).Ends k s Q E ↔
      Q (.array (stateArray ((List.range n).map fun i => advance (i * 2 ^ 72) st)))
        (if further then moved s r (advance (2 ^ 134) st) else s) := by
  have hcheck : (decide ((n : Int) < .pow 2 72) && decide ((n : Int) > 0)) = true := by
    have : 4 * n * 6 < 2 ^ 63 := by simpa [tooLarge, DType.itemSize, hn.ne'] using hsize
    simp [Int.pow_eq]
    omega
  simp only [substreams, Value.int?, ends_bind, ends_check, hcheck, if_true, Int.toNat_natCast, hsize,
    Bool.false_eq_true, if_false, ends_sourceState h, streams_eq hst]
  cases further with
  | false => exact Iff.rfl
  | true =>
    rw [if_pos rfl, ends_bind, ends_skipAhead h hst]
    exact Iff.rfl

end Source

/-- Streams start `2 ^ 72` steps apart, the source goes on by `2 ^ 134` steps, and a draw takes its samples from the streams in turn. -/
theorem streams_spaced {r : RecordId} {st : StreamState} (hst : st.InRange) (h : Holds s r st) :
    (∀ n : Nat, 0 < n → tooLarge .int32 [n, 6] = false → ∀ further, (substreams r (.int n) further).Ends k s (fun a t =>
      a = .array (stateArray ((List.range n).map fun i => advance (i * 2 ^ 72) st)) ∧
        t = if further then moved s r (advance (2 ^ 134) st) else s) fun _ _ => False) ∧
    (skipAhead r).Ends k s (fun _ t => t = moved s r (advance (2 ^ 134) st)) (fun _ _ => False) ∧
    (∀ i, toNextStream.Safe (advance (i * 2 ^ 72) st)) ∧ beyondStreams.Safe st ∧
    ∀ (d : DType) (n : NodeId) (u v : VarId) (states : List StreamState) (size : NdArray) (dims : List Nat),
      0 < states.length → d.isFloat = true → size.toInts = dims.map Int.ofNat → dims.prod < 2 ^ 31 → tooLarge d dims = false →
      s.arena.outputs n = [u, v] → (s.arena.typeOf u).Accepts .int32 [states.length, 6] → (s.arena.typeOf v).Accepts d dims →
      (uniformPerform d n [.array (stateArray states), .array size]).Ends k s (fun out t => t = s ∧ out =
        [.array (stateArray (states.mapIdx fun i st => advance (Nat.count (· % states.length = i) dims.prod) st)),
          .array ⟨d, dims, ((List.range dims.prod).map fun j => fraction d
            (step (advance (j / states.length) (states.getD (j % states.length) default))).2).toArray, 0⟩]) fun _ _ => False := by
  refine ⟨fun n hn hsize further => ?_, ?_, fun i => (toNextStream_skips.apply (advance_linear hst (i * 2 ^ 72)).1).1,
    (beyondStreams_skips.apply hst).1, ?_⟩
  · rw [ends_substreams h hst hn hsize]
    exact ⟨rfl, rfl⟩
  · rw [ends_skipAhead h hst]
  intro d n u v states size dims hpos hd hdims hN hsize houts hu hv
  refine (uniformPerform_eq hpos hd hdims hN hsize houts hu hv).mpr ⟨rfl, ?_⟩
  rw [draw_eq (by simpa using hpos)]
  simp [Function.comp_def]

/-! ## A source at the largest state, and a node that draws from two streams -/

def drawing : Session where
  arena := { vars := #[{ type := .ofTensor .int32 [false, false] }, { type := .ofTensor .float64 [false] }],
             nodes := #[{ op := .mrgUniform .float64 [false] false, inputs := #[], outputs := #[⟨0⟩, ⟨1⟩] }] }
  records := #[⟨"", [("rstate", .array (.ofInts .int32 largest.toInts))]⟩]

theorem streams_spaced_two : (largest.InRange ∧ Holds drawing ⟨0⟩ largest) ∧
    (substreams ⟨0⟩ (.int 2) true).Ends Kit.empty drawing
      (fun a _ => a = .array (stateArray ((List.range 2).map fun i => advance (i * 2 ^ 72) largest))) (fun _ _ => False) ∧
    (uniformPerform .float64 ⟨0⟩ [.array (stateArray [largest, default]), .array (.ofInts .int64 [3])]).Ends Kit.empty drawing
      (fun out _ => out.head? = some (.array (stateArray [advance 2 largest, advance 1 default]))) fun _ _ => False := by
  have hst : largest.InRange := by constructor <;> decide
  have h : Holds drawing ⟨0⟩ largest := rfl
  obtain ⟨hsub, -, -, -, hdraw⟩ := streams_spaced (k := Kit.empty) hst h
  refine ⟨⟨hst, h⟩, (hsub 2 (by decide) (by decide) true).imp fun _ _ ha => ha.1, ?_⟩
  refine (hdraw .float64 ⟨0⟩ ⟨0⟩ ⟨1⟩ [largest, default] (.ofInts .int64 [3]) [3] (by decide) rfl rfl (by decide) (by decide) rfl
    ⟨_, _, rfl, rfl, by simp⟩ ⟨_, _, rfl, rfl, by simp⟩).imp fun out _ ho => ?_
  rw [ho.2]
  rfl

/-- More samples than the first modulus are refused, and so are as many streams as there are steps between two of them. -/
theorem streams_limited : (uniformPerform .float64 ⟨0⟩ [.array (stateArray [largest]), .array (.ofInts .int64 [2147483648])]).Ends
      Kit.empty drawing (fun _ _ => False) (fun e _ => e.kind = .value) ∧
    (substreams ⟨0⟩ (.int (2 ^ 72)) true).Ends Kit.empty drawing (fun _ _ => False) fun e _ => e.kind = .assertion :=
  ⟨rfl, rfl⟩

end Random

end TensorGraph
