import TensorGraph.Net.Conv
import TensorGraph.Proofs.Floats
import TensorGraph.Proofs.Sessions

/-!
# Shapes of convolutions

With steps of one a convolution loses no length: the shape of the images follows from those of the kernels and of the result, and the
shape of the kernels from those of the images and of the result, except where half of the kernel is padded: two kernels can then
have the same result. Gaps in a kernel are divided out by a division of floats, which is exact here, so the length of such a
kernel is told as a float.
-/

namespace TensorGraph.Net

/-- One dimension of a convolution with steps of one. -/
structure Axis where
  (image kernel dilation : Int)
  border : AxisBorder Int

namespace Axis

variable (a : Axis)

/-- The length of the kernel with its gaps. -/
def extent : Int := (a.kernel - 1) * a.dilation + 1

def pads : Int × Int :=
  match a.border with
  | .valid => (0, 0)
  | .half => (a.extent / 2, a.extent / 2)
  | .full => (a.extent - 1, a.extent - 1)
  | .pad l r => (l, r)

def result : Int := a.image - a.extent + a.pads.1 + a.pads.2 + 1

/-- What is told of the length of the kernel: nothing where half of it was padded; the length; or, where it has gaps, a float
of that value. -/
inductive Told : Option Value → Prop
  | half : a.border = .half → Told none
  | plain : a.border ≠ .half → a.dilation = 1 → Told (some (.int a.kernel))
  | gaps {x : Float} : a.border ≠ .half → 1 < a.dilation → floatValue? x = some (a.kernel : ℚ) → Told (some (.float x))

/-- There is a kernel, and no padding is below zero. -/
structure Proper : Prop where
  kernel : 1 ≤ a.kernel
  dilation : 1 ≤ a.dilation
  pad : ∀ l r, a.border = .pad l r → 0 ≤ l ∧ 0 ≤ r

theorem Proper.pads_nonneg {a : Axis} (h : a.Proper) : 0 ≤ a.pads.1 ∧ 0 ≤ a.pads.2 := by
  have hextent : 0 ≤ (a.kernel - 1) * a.dilation := by
    have := h.kernel
    have := h.dilation
    exact Int.mul_nonneg (by omega) (by omega)
  unfold pads extent
  cases hb : a.border with
  | valid => simp
  | half => dsimp only; omega
  | full => dsimp only; omega
  | pad l r => exact h.pad l r hb

end Axis

def AxisBorder.map {α β : Type} (f : α → β) : AxisBorder α → AxisBorder β
  | .valid => .valid
  | .half => .half
  | .full => .full
  | .pad l r => .pad (f l) (f r)

/-! ## Lengths along one dimension -/

/-- Arithmetic that is exact on the values which stand for whole numbers. -/
structure Lengths.Exact {m : Type → Type} [Monad m] {α : Type} (L : Lengths m α) (e : Int → α) : Prop where
  lit : ∀ i, L.lit i = e i
  add : ∀ i j, L.add (e i) (e j) = pure (e (i + j))
  sub : ∀ i j, L.sub (e i) (e j) = pure (e (i - j))
  mul : ∀ i j, L.mul (e i) (e j) = pure (e (i * j))
  half : ∀ i, L.floorDiv (e i) (e 2) = pure (e (i / 2))
  same : ∀ i j, L.same (e i) (e j) = pure (i == j)
  less : ∀ i j, L.less (e i) (e j) = pure (decide (i < j))

theorem exact_values : valueLengths.Exact .int where
  lit _ := rfl
  add _ _ := rfl
  sub _ _ := rfl
  mul _ _ := rfl
  half i := by rw [← Int.fdiv_eq_ediv_of_nonneg i (by decide)]; rfl
  same _ _ := rfl
  less _ _ := rfl

namespace Lengths.Exact

variable {m : Type → Type} [Monad m] [LawfulMonad m] {α : Type} {L : Lengths m α} {e : Int → α} {a : Axis} (hL : L.Exact e)

include hL

theorem dilated : L.dilated (e a.kernel) (e a.dilation) = pure (e a.extent) := by
  simp only [Lengths.dilated, hL.lit, hL.sub, hL.mul, hL.add, pure_bind, Axis.extent]

theorem checkedPads {l r : Int} (hl : 0 ≤ l) (hr : 0 ≤ r) : L.checkedPads (e l) (e r) = pure (e l, e r) := by
  simp [Lengths.checkedPads, hL.lit, hL.less, not_lt.mpr hl, not_lt.mpr hr]

theorem pads (h : a.Proper) : L.pads (e a.extent) (a.border.map e) = pure (e a.pads.1, e a.pads.2) := by
  unfold Axis.pads
  cases hb : a.border with
  | valid => simp only [AxisBorder.map, Lengths.pads, hL.lit]
  | half => simp only [AxisBorder.map, Lengths.pads, hL.lit, hL.half, pure_bind]
  | full => simp only [AxisBorder.map, Lengths.pads, hL.lit, hL.sub, pure_bind]
  | pad l r => exact hL.checkedPads (h.pad l r hb).1 (h.pad l r hb).2

theorem convolved (h : a.Proper) :
    L.convolved (e a.image) (e a.kernel) (a.border.map e) (e 1) (e a.dilation) = pure (e a.result) := by
  simp only [Lengths.convolved, hL.dilated, hL.pads h, hL.lit, hL.sub, hL.add, hL.same, pure_bind, beq_iff_eq, BEq.rfl, if_true]
  by_cases hl : a.pads.1 = 0 <;> by_cases hr : a.pads.2 = 0 <;> simp [hl, hr, Axis.result]

theorem imageOf (h : a.Proper) :
    L.imageOf (e a.kernel) (e a.result) (a.border.map e) (e 1) (e a.dilation) = pure (some (e a.image)) := by
  obtain ⟨hl, hr⟩ := h.pads_nonneg
  have himage : a.result + a.extent - 1 = a.image + a.pads.1 + a.pads.2 := by unfold Axis.result; omega
  simp only [Lengths.imageOf, hL.dilated, hL.pads h, hL.lit, hL.sub, hL.add, hL.same, hL.less, pure_bind, BEq.rfl, Bool.not_true,
    Bool.false_eq_true, if_false, decide_eq_true_eq, himage]
  -- only a padding above zero is taken off again
  by_cases hl' : 0 < a.pads.1 <;> by_cases hr' : 0 < a.pads.2 <;> simp [hl', hr'] <;> congr 3 <;> omega

theorem kernelOf {ratio : α → α → m α} {x : α} (h : a.Proper)
    (hgaps : 1 < a.dilation → (do L.add (<- ratio (e ((a.kernel - 1) * a.dilation)) (e a.dilation)) (e 1)) = pure x) :
    L.kernelOf ratio (e a.image) (e a.result) (a.border.map e) (e 1) (e a.dilation) =
      pure (if a.border matches .half then none else some (if 1 < a.dilation then x else e a.kernel)) := by
  have hquotient : (do
      let known <- if decide (1 < a.dilation) then ratio (e ((a.kernel - 1) * a.dilation)) (e a.dilation)
        else pure (e ((a.kernel - 1) * a.dilation))
      return some (<- L.add known (e 1))) = pure (some (if 1 < a.dilation then x else e a.kernel)) := by
    by_cases hd : 1 < a.dilation
    · have h := congrArg (fun r => do return some (<- r)) (hgaps hd)
      simpa only [hd, decide_true, if_true, bind_assoc, pure_bind] using h
    · have hd' : a.dilation = 1 := by have := h.dilation; omega
      simp [hd', hL.add]
  simp only [Lengths.kernelOf, hL.lit, hL.same, hL.less, pure_bind, BEq.rfl, Bool.not_true, Bool.false_eq_true, if_false]
  cases hb : a.border with
  | half => rfl
  | valid =>
    have hknown : a.image - a.result = (a.kernel - 1) * a.dilation := by simp only [Axis.result, Axis.pads, Axis.extent, hb]; omega
    simpa [AxisBorder.map, hL.sub, hknown] using hquotient
  | full =>
    have hknown : a.result - a.image = (a.kernel - 1) * a.dilation := by simp only [Axis.result, Axis.pads, Axis.extent, hb]; omega
    simpa [AxisBorder.map, hL.sub, hknown] using hquotient
  | pad l r =>
    have hknown : a.image + l + r - a.result = (a.kernel - 1) * a.dilation := by
      simp only [Axis.result, Axis.pads, Axis.extent, hb]; omega
    have hpads := hL.checkedPads (h.pad l r hb).1 (h.pad l r hb).2
    simpa [AxisBorder.map, hL.sub, hL.add, hpads, hknown] using hquotient

end Lengths.Exact

section Gaps

/-- A division of plain numbers that leaves no remainder. -/
theorem operate_trueDiv {q d : Int} (hq : 0 ≤ q) (hd : 0 < d) :
    operate .trueDiv (.int (q * d)) (.int d) = pure (.float (floatOfRatio false (q.toNat * d.toNat) d.toNat)) := by
  have hx : ¬ q * d < 0 := not_lt.mpr (Int.mul_nonneg hq hd.le)
  have hy : ¬ d < 0 := by omega
  have hzero : (d == 0) = false := by simpa using hd.ne'
  have habs : (q * d).natAbs = q.toNat * d.toNat := by rw [Int.natAbs_mul]; congr 1 <;> omega
  have hd' : d.natAbs = d.toNat := by omega
  have happly : PlainNumber.apply .trueDiv (.int (q * d)) (.int d) =
      .ok (.float (floatOfRatio false (q.toNat * d.toNat) d.toNat)) := by
    simp only [PlainNumber.apply, PlainNumber.isZero, hzero, Bool.false_eq_true, if_false, hx, hy, decide_false, bne_self_eq_false,
      Bool.false_and, habs, hd']
  change (do return (<- liftFault (PlainNumber.apply .trueDiv (.int (q * d)) (.int d))).toValue) = _
  rw [happly]
  rfl

/-- One is added to a quotient of floats, without rounding. -/
theorem holdsNat_ratio_add_one {q d : Nat} (hd : 0 < d) (hq : q < 2 ^ 53) :
    HoldsNat (floatOfRatio false (q * d) d + floatOfInt 1) (q + 1) := by
  have hone : HoldsNat (floatOfInt 1) 1 := floatOfRatio_mul (q := 1) (d := 1) (by decide) (by decide) (by decide)
  rcases Nat.eq_zero_or_pos q with rfl | hpos
  · rw [Nat.zero_mul, floatOfRatio_zero]
    exact hone.zero_add rfl
  · exact (floatOfRatio_mul hpos hd hq).add hone hq

/-- A kernel of at most `2 ^ 53` entries is told, where half of it was not padded. -/
theorem kernelOf_told {a : Axis} (h : a.Proper) (hlen : 1 < a.dilation → a.kernel ≤ 2 ^ 53) :
    ∃ told, valueLengths.kernelOf (operate .trueDiv) (.int a.image) (.int a.result) (a.border.map .int) (.int 1) (.int a.dilation) =
      pure told ∧ a.Told told := by
  have hkernel := h.kernel
  set x := floatOfRatio false ((a.kernel - 1).toNat * a.dilation.toNat) a.dilation.toNat + floatOfInt 1
  refine ⟨_, exact_values.kernelOf (x := .float x) h fun hd => ?_, ?_⟩
  · rw [operate_trueDiv (by omega) (by omega)]
    rfl
  · by_cases hb : a.border = .half
    · simpa [hb] using Axis.Told.half hb
    · rw [if_neg (by cases hborder : a.border <;> simp_all)]
      split
      case isTrue hd =>
        have hlen := hlen hd
        have hvalue := (holdsNat_ratio_add_one (q := (a.kernel - 1).toNat) (d := a.dilation.toNat) (by omega) (by omega)).value
        refine .gaps hb hd (hvalue.trans (congrArg some ?_))
        exact_mod_cast show (((a.kernel - 1).toNat + 1 : Nat) : Int) = a.kernel by omega
      case isFalse hd => exact .plain hb (by have := h.dilation; omega)

end Gaps

/-! ## Shapes -/

/-- What is written for the border of one dimension. -/
inductive Bordered : Value → AxisBorder Int → Prop
  | valid : Bordered "valid" .valid
  | half : Bordered "half" .half
  | full : Bordered "full" .full
  | both {p} : Bordered (.int p) (.pad p p)
  | sides {l r} : Bordered (.tuple [.int l, .int r]) (.pad l r)

/-- What is written for the borders of all dimensions: one for all of them, or one for each. -/
inductive Borders (axes : List Axis) : Value → Prop
  | same {v} : (∀ vs, v ≠ .tuple vs) → (∀ a ∈ axes, Bordered v a.border) → Borders axes v
  | each {vs} : List.Forall₂ (fun v a => Bordered v a.border) vs axes → Borders axes (.tuple vs)

/-- A dimension with two of its lengths. -/
def Axis.between {α : Type} (e : Int → α) (p q : Axis → Int) (a : Axis) : ConvAxis α :=
  { first := some (e (p a)), second := some (e (q a)), border := some (a.border.map e), step := some (e 1),
    dilation := some (e a.dilation) }

/-- One number for each dimension. -/
def along (axes : List Axis) (p : Axis → Int) : Values := axes.map fun a => .int (p a)

/-- A shape: two numbers, and one length for each dimension. -/
def shapeOf (axes : List Axis) (x y : Int) (p : Axis → Int) : Values := .int x :: .int y :: along axes p

section Shapes

variable {axes : List Axis} {border : Value} {p q : Axis → Int}

theorem Bordered.axisBorder {v : Value} {b : AxisBorder Int} (h : Bordered v b) : axisBorder v = pure (some (b.map .int)) := by
  cases h <;> rfl

theorem entryAt_of {l : Values} {i : Nat} {v : Value} (h : l[i]? = some v) : entryAt l i = pure v := by
  simp [entryAt, h]

theorem getElem?_along (i : Nat) (a : Axis) (h : axes[i]? = some a) : (along axes p)[i]? = some (.int (p a)) := by
  rw [along, List.getElem?_map, h]
  rfl

theorem length_shapeOf {x y : Int} : (shapeOf axes x y p).length - 2 = axes.length := by
  simp [shapeOf, along]

/-- The last dimensions of a shape are its entries after the first two. -/
theorem getElem?_lastDims {x y : Int} (i : Nat) (a : Axis) (h : axes[i]? = some a) :
    (lastDims (shapeOf axes x y p) axes.length)[i]? = some (.int (p a)) := by
  have hpos : 0 < axes.length := (Nat.zero_le i).trans_lt (List.getElem?_eq_some_iff.mp h).1
  have hdrop : (shapeOf axes x y p).length - axes.length = 2 := by simp [shapeOf, along]; omega
  simp only [lastDims, beq_iff_eq, hpos.ne', if_false, hdrop]
  exact getElem?_along i a h

theorem convAxes_along {xs ys : Values} (hb : Borders axes border) (hx : ∀ (i : Nat) a, axes[i]? = some a → xs[i]? = some (.int (p a)))
    (hy : ∀ (i : Nat) a, axes[i]? = some a → ys[i]? = some (.int (q a))) :
    convAxes xs ys border (.tuple (along axes fun _ => 1)) (.tuple (along axes Axis.dilation)) =
      pure (axes.map (Axis.between Value.int p q)) := by
  have hiterate : ∀ vs, iterate (.tuple vs) = pure vs := fun _ => rfl
  have hnull : (Value.tuple (along axes Axis.dilation)).isNull = false := rfl
  have hones : along axes (fun _ => 1) = axes.map fun _ => .int 1 := rfl
  have hfst : axes.map (Axis.between Value.int p q) = axes.zipIdx.map (Axis.between Value.int p q ∘ Prod.fst) := by
    rw [← List.map_map, List.zipIdx_map_fst]
  simp only [convAxes, hiterate, hnull, Bool.false_eq_true, if_false, pure_bind]
  rw [mapIdxM, hones, List.zipIdx_map, List.mapM_map, hfst]
  refine mapM_eq_pure fun pair hpair => ?_
  obtain ⟨a, i⟩ := pair
  have ha : axes[i]? = some a := List.mem_zipIdx_iff_getElem?.mp hpair
  have hd := getElem?_along (p := Axis.dilation) i a ha
  dsimp only [Function.comp_apply, Prod.map, id]
  cases hb with
  | same hv h =>
    split
    · exact absurd rfl (hv _)
    · rw [entryAt_of (hx i a ha), entryAt_of (hy i a ha), entryAt_of hd, (h a (List.mem_of_getElem? ha)).axisBorder]
      rfl
  | @each vs h =>
    obtain ⟨hi, rfl⟩ := List.getElem?_eq_some_iff.mp ha
    have hi' : i < vs.length := h.length_eq ▸ hi
    have hborder : Bordered vs[i] axes[i].border := h.get hi' hi
    dsimp only
    rw [entryAt_of (List.getElem?_eq_getElem hi'), entryAt_of (hx i _ ha), entryAt_of (hy i _ ha), entryAt_of hd, pure_bind,
      hborder.axisBorder]
    rfl

/-- What follows along each dimension. -/
theorem follow_all {m : Type → Type} [Monad m] [LawfulMonad m] {α : Type} {e : Int → α}
    {f : α → α → AxisBorder α → α → α → m (Option α)} {g : Axis → Option α}
    (h : ∀ a ∈ axes, f (e (p a)) (e (q a)) (a.border.map e) (e 1) (e a.dilation) = pure (g a)) :
    (axes.map (Axis.between e p q)).mapM (·.follow f) = pure (axes.map g) := by
  rw [List.mapM_map]
  exact mapM_eq_pure h

theorem shapeEntry_zero {x y : Int} : shapeEntry (shapeOf axes x y p) 0 = pure (some (.int x)) := rfl

theorem shapeEntry_one {x y : Int} : shapeEntry (shapeOf axes x y p) 1 = pure (some (.int y)) := rfl

theorem drop_shapeOf {x y : Int} : (shapeOf axes x y p).drop 2 = along axes p := rfl

theorem perGroup_mul (i : Int) {n : Int} (hn : 1 ≤ n) :
    valueLengths.perGroup valueLengths.mul (.int n) (some (.int i)) = pure (some (.int (i * n))) := by
  simp only [Lengths.perGroup, Option.mapM_some, exact_values.lit, exact_values.less, exact_values.mul, pure_bind, decide_eq_true_eq]
  split
  · rfl
  · obtain rfl : n = 1 := by omega
    rw [mul_one]
    rfl

section Recovered

variable {batch kernels channels groups : Int} (hb : Borders axes border) (hproper : ∀ a ∈ axes, a.Proper)

include hb hproper

theorem resultShape_along : resultShape (shapeOf axes batch (channels * groups) Axis.image) (shapeOf axes kernels channels Axis.kernel)
    border (.tuple (along axes fun _ => 1)) (.tuple (along axes Axis.dilation)) = pure (shapeOf axes batch kernels Axis.result) := by
  have haxes := convAxes_along hb (getElem?_along (p := Axis.image))
    (getElem?_lastDims (p := Axis.kernel) (x := kernels) (y := channels))
  have hlengths := follow_all (e := Value.int) (p := Axis.image) (q := Axis.kernel)
    (f := fun x k b s d => do return some (<- valueLengths.convolved x k b s d)) (g := fun a => some (.int a.result))
    fun a ha => by rw [exact_values.convolved (hproper a ha), pure_bind]
  simp only [resultShape, shapeEntry_zero, length_shapeOf, drop_shapeOf, haxes, pure_bind, Lengths.resultShape, hlengths]
  simp [shapeValues, shapeOf, along, Function.comp_def]

theorem imageShape_along (hg : 1 ≤ groups) :
    imageShape (shapeOf axes kernels channels Axis.kernel) (shapeOf axes batch kernels Axis.result) border (.tuple (along axes fun _ => 1)) (.tuple (along axes Axis.dilation)) (.int groups) =
      pure (shapeOf axes batch (channels * groups) Axis.image) := by
  have haxes := convAxes_along hb (getElem?_lastDims (p := Axis.kernel) (x := kernels) (y := channels))
    (getElem?_along (p := Axis.result))
  have hlengths := follow_all (e := Value.int) (p := Axis.kernel) (q := Axis.result) (f := valueLengths.imageOf)
    (g := fun a => some (.int a.image)) fun a ha => exact_values.imageOf (hproper a ha)
  simp only [imageShape, shapeEntry_zero, shapeEntry_one, length_shapeOf, drop_shapeOf, haxes, pure_bind, Lengths.imageShape,
    perGroup_mul channels hg, hlengths]
  simp [shapeValues, shapeOf, along, Function.comp_def]

theorem kernelShape_along (hlen : ∀ a ∈ axes, 1 < a.dilation → a.kernel ≤ 2 ^ 53) : ∃ lengths,
    kernelShape (shapeOf axes batch channels Axis.image) (shapeOf axes batch kernels Axis.result) border
      (.tuple (along axes fun _ => 1)) (.tuple (along axes Axis.dilation)) (.int 1) false =
        pure (shapeValues (some (.int kernels) :: some (.int channels) :: lengths)) ∧ List.Forall₂ Axis.Told axes lengths := by
  have haxes := convAxes_along hb (getElem?_along (p := Axis.image)) (getElem?_along (p := Axis.result))
  have htold : ∀ a ∈ axes, ∃ told, valueLengths.kernelOf (operate .trueDiv) (.int a.image) (.int a.result) (a.border.map .int)
    (.int 1) (.int a.dilation) = pure told ∧ a.Told told := fun a ha => kernelOf_told (hproper a ha) (hlen a ha)
  choose! told htold using htold
  have hlengths := follow_all (e := Value.int) (p := Axis.image) (q := Axis.result) (f := valueLengths.kernelOf (operate .trueDiv))
    (g := told) fun a ha => (htold a ha).1
  have hgroups : valueLengths.perGroup valueLengths.floorDiv (.int 1) (some (.int kernels)) = pure (some (.int kernels)) := rfl
  refine ⟨axes.map told, ?_, ?_⟩
  · simp only [kernelShape, shapeEntry_one, drop_shapeOf, haxes, pure_bind, Lengths.kernelShape, hgroups, hlengths,
      Bool.false_eq_true, if_false]
  · rw [List.forall₂_map_right_iff, List.forall₂_same]
    exact fun a ha => (htold a ha).2

end Recovered

/-- The shapes of images and kernels follow from that of the result. -/
theorem convShapes_recovered {batch kernels channels groups : Int} (hb : Borders axes border) (hproper : ∀ a ∈ axes, a.Proper)
    (hg : 1 ≤ groups) :
    let image := shapeOf axes batch (channels * groups) Axis.image
    let kernel := shapeOf axes kernels channels Axis.kernel
    let top := shapeOf axes batch kernels Axis.result
    let steps := Value.tuple (along axes fun _ => 1)
    let dilations := Value.tuple (along axes Axis.dilation)
    resultShape image kernel border steps dilations = pure top ∧
    imageShape kernel top border steps dilations (.int groups) = pure image ∧
    (groups = 1 → (∀ a ∈ axes, 1 < a.dilation → a.kernel ≤ 2 ^ 53) → ∃ lengths,
      kernelShape image top border steps dilations (.int groups) false =
        pure (shapeValues (some (.int kernels) :: some (.int channels) :: lengths)) ∧ List.Forall₂ Axis.Told axes lengths) := by
  refine ⟨resultShape_along hb hproper, imageShape_along hb hproper hg, ?_⟩
  rintro rfl hlen
  rw [mul_one]
  exact kernelShape_along hb hproper hlen

theorem convShapes_recovered_two :
    let axes := [Axis.mk 7 3 2 (.pad 1 2), Axis.mk 6 2 1 .full]
    (∀ a ∈ axes, a.Proper) ∧
    imageShape (shapeOf axes 8 4 Axis.kernel) (shapeOf axes 5 8 Axis.result) (.tuple [.tuple [.int 1, .int 2], "full"])
      (.tuple [.int 1, .int 1]) (.tuple [.int 2, .int 1]) (.int 2) = pure [.int 5, .int 8, .int 7, .int 6] := by
  have hproper : ∀ a ∈ [Axis.mk 7 3 2 (.pad 1 2), Axis.mk 6 2 1 .full], a.Proper := by
    intro a ha
    rw [List.mem_pair] at ha
    obtain rfl | rfl := ha
    · exact ⟨by decide, by decide, fun l r h => by cases h; decide⟩
    · exact ⟨by decide, by decide, fun l r h => by cases h⟩
  exact ⟨hproper, (@convShapes_recovered _ _ 5 8 4 2 (.each (.cons .sides (.cons .full .nil))) hproper (by decide)).2.1⟩

/-- Where half of a kernel was padded, its length is not told. -/
theorem kernelShape_half :
    resultShape [.int 5, .int 1, .int 6] [.int 1, .int 1, .int 3] "half" (.tuple [.int 1]) (.tuple [.int 1]) =
      pure [.int 5, .int 1, .int 6] ∧
    kernelShape [.int 5, .int 1, .int 6] [.int 5, .int 1, .int 6] "half" (.tuple [.int 1]) (.tuple [.int 1]) (.int 1) false =
      pure [.int 1, .int 1, .null] := ⟨rfl, rfl⟩

end Shapes

end TensorGraph.Net
