import Mathlib.Algebra.Order.Ring.Int
import Mathlib.Data.Nat.Cast.Order.Ring
import Mathlib.Data.Prod.Lex
import Mathlib.Order.Compare
import LitMesh.Light

/-!
# Comparing weights

Weights are binary32 numbers, and lights are ordered by what `<` and `==` say of them. Numbers other
than NaN stand in line: each has a `height` in a linear order, `<` compares the heights (`lt_iff`),
and `==` holds of equal ones (`beq_iff`). The two zeros share a height. A comparison with NaN never
holds (`not_lt_of_isNaN`, `beq_of_isNaN`).

What ordering lights needs to know follows from that: `<` is asymmetric (`lt_asymm`), not being
less is transitive through a number (`not_lt_trans`), and numbers are equal exactly if neither is
less (`beq_iff_not_lt`).
-/

namespace LitMesh.Weight

open Float.Model (Format UnpackedFloat)

/-! ## Heights -/

/-- Infinities lie outside of finite numbers, and those around zero. Finite ones are told apart by
exponent, then mantissa, mirrored below zero. NaN has no height of its own. -/
def heightOf : UnpackedFloat → Int ×ₗ Int ×ₗ Int
  | .infinity .negative => toLex (-2, toLex (0, 0))
  | .finite .negative mantissa exponent _ => toLex (-1, toLex (-exponent, -mantissa))
  | .zero _ | .notANumber => toLex (0, toLex (0, 0))
  | .finite .positive mantissa exponent _ => toLex (1, toLex (exponent, mantissa))
  | .infinity .positive => toLex (2, toLex (0, 0))

def height (x : Float32) : Int ×ₗ Int ×ₗ Int := heightOf x.toModel.unpack

theorem heightOf_negative (m : Nat) (e : Int) (hm : 0 < m) :
    heightOf (.finite .negative m e hm) = toLex (-1, toLex (-e, -(m : Int))) := rfl

theorem heightOf_positive (m : Nat) (e : Int) (hm : 0 < m) :
    heightOf (.finite .positive m e hm) = toLex (1, toLex (e, (m : Int))) := rfl

theorem compare_toLex {α β : Type} [LinearOrder α] [LinearOrder β] (a b : α) (x y : β) :
    compare (toLex (a, x)) (toLex (b, y)) = (compare a b).then (compare x y) := by
  rw [Prod.Lex.compare_def]
  rfl

theorem compare_neg (i j : Int) : compare (-i) (-j) = (compare i j).swap := by
  have hanti : StrictAnti fun i : Int => -i := fun _ _ h => Int.neg_lt_neg h
  rw [← cmp_eq_compare, ← cmp_eq_compare, cmp_swap]
  exact hanti.cmp_map_eq i j

theorem compare_natCast (m n : Nat) : compare (m : Int) n = compare m n := by
  rw [← cmp_eq_compare, ← cmp_eq_compare]
  exact Nat.strictMono_cast.cmp_map_eq m n

theorem compare_eq {a b : UnpackedFloat} (ha : a.isNaN = false) (hb : b.isNaN = false) :
    a.compare b = some (compare (heightOf a) (heightOf b)) := by
  cases a with
  | notANumber => cases ha
  | infinity s =>
    cases b with
    | notANumber => cases hb
    | infinity t => cases s <;> cases t <;> rfl
    | zero t => cases s <;> rfl
    | finite t n f hn => cases s <;> cases t <;> rfl
  | zero s =>
    cases b with
    | notANumber => cases hb
    | infinity t => cases t <;> rfl
    | zero t => rfl
    | finite t n f hn => cases t <;> rfl
  | finite s m e hm =>
    cases b with
    | notANumber => cases hb
    | infinity t => cases s <;> cases t <;> rfl
    | zero t => cases s <;> rfl
    -- of two finite numbers of one sign, exponents are compared before mantissas
    | finite t n f hn =>
      cases s with
      | negative =>
        cases t with
        | negative =>
          rw [heightOf_negative, heightOf_negative, compare_toLex, compare_toLex,
            compare_neg e f, compare_neg m n, compare_natCast]
          exact congrArg some (Ordering.swap_then (compare e f) (compare m n))
        | positive => rfl
      | positive =>
        cases t with
        | negative => rfl
        | positive =>
          rw [heightOf_positive, heightOf_positive, compare_toLex, compare_toLex,
            compare_natCast]
          rfl

theorem compare_of_isNaN {a b : UnpackedFloat} (h : a.isNaN = true ∨ b.isNaN = true) :
    a.compare b = none := by
  cases a with
  | notANumber => rfl
  | _ =>
    cases b with
    | notANumber => rfl
    | _ => rcases h with h | h <;> cases h

/-! ## Comparisons -/

variable {x y z : Float32}

theorem lt_iff_compare : x < y ↔ x.toModel.unpack.compare y.toModel.unpack = some .lt := by
  show Float32.lt x y = true ↔ _
  rw [Float32.lt, decide_eq_true_eq]
  exact beq_iff_eq

theorem beq_iff_compare :
    (x == y) = true ↔ x.toModel.unpack.compare y.toModel.unpack = some .eq := by
  show Float32.Model.beq x.toModel y.toModel = true ↔ _
  exact beq_iff_eq

theorem not_lt_of_isNaN (h : x.isNaN = true ∨ y.isNaN = true) : ¬ x < y := by
  rw [lt_iff_compare, compare_of_isNaN h]
  exact nofun

theorem beq_of_isNaN (h : x.isNaN = true ∨ y.isNaN = true) : (x == y) = false := by
  rw [Bool.eq_false_iff, ne_eq, beq_iff_compare, compare_of_isNaN h]
  exact nofun

theorem lt_iff (hx : x.isNaN = false) (hy : y.isNaN = false) : x < y ↔ height x < height y := by
  rw [lt_iff_compare, compare_eq hx hy, Option.some_inj]
  exact compare_lt_iff_lt

theorem beq_iff (hx : x.isNaN = false) (hy : y.isNaN = false) :
    (x == y) = true ↔ height x = height y := by
  rw [beq_iff_compare, compare_eq hx hy, Option.some_inj]
  exact compare_eq_iff_eq

theorem isNaN_of_lt (h : x < y) : x.isNaN = false ∧ y.isNaN = false := by
  constructor
  · exact Bool.eq_false_iff.2 fun hx => not_lt_of_isNaN (.inl hx) h
  · exact Bool.eq_false_iff.2 fun hy => not_lt_of_isNaN (.inr hy) h

theorem lt_asymm (h : x < y) : ¬ y < x := by
  obtain ⟨hx, hy⟩ := isNaN_of_lt h
  rw [lt_iff hx hy] at h
  rw [lt_iff hy hx]
  exact h.asymm

/-- Not being less is transitive, as long as what stands between is a number. -/
theorem not_lt_trans (hy : y.isNaN = false) (hxy : ¬ x < y) (hyz : ¬ y < z) : ¬ x < z := by
  intro h
  obtain ⟨hx, hz⟩ := isNaN_of_lt h
  rw [lt_iff hx hy, not_lt] at hxy
  rw [lt_iff hy hz, not_lt] at hyz
  rw [lt_iff hx hz] at h
  exact absurd h (not_lt.2 (hyz.trans hxy))

theorem beq_iff_not_lt (hx : x.isNaN = false) (hy : y.isNaN = false) :
    (x == y) = true ↔ ¬ x < y ∧ ¬ y < x := by
  rw [beq_iff hx hy, lt_iff hx hy, lt_iff hy hx, not_lt, not_lt, le_antisymm_iff]
  exact and_comm

/-! ## Zeros -/

theorem eq_zero_of_heightOf {a : UnpackedFloat} (ha : a.isNaN = false)
    (h : heightOf a = toLex (0, toLex (0, 0))) : ∃ s, a = .zero s := by
  have hclass : (ofLex (heightOf a)).1 = 0 := congrArg (fun p => (ofLex p).1) h
  cases a with
  | notANumber => cases ha
  | zero s => exact ⟨s, rfl⟩
  | infinity s => cases s <;> cases hclass
  | finite s m e hm => cases s <;> cases hclass

/-- A zero is all zeros but for its sign. -/
theorem unpack_eq_zero {spec : Format} {b : BitVec spec.numBits} {s : UnpackedFloat.Sign}
    (h : UnpackedFloat.unpack spec b = .zero s) :
    UnpackedFloat.unpackExponent b = BitVec.ofNat _ 0 ∧
      UnpackedFloat.unpackMantissa b = BitVec.ofNat _ 0 := by
  unfold UnpackedFloat.unpack at h
  dsimp only at h
  -- the exponent tells the classes apart: all ones, all zeros, or anything between
  by_cases hspecial : UnpackedFloat.unpackExponent b = -BitVec.ofNat _ 1
  · rw [if_pos hspecial] at h
    by_cases hmantissa : UnpackedFloat.unpackMantissa b = BitVec.ofNat _ 0
    · rw [if_pos hmantissa] at h
      cases h
    · rw [if_neg hmantissa] at h
      cases h
  · rw [if_neg hspecial] at h
    by_cases hexponent : UnpackedFloat.unpackExponent b = BitVec.ofNat _ 0
    · rw [if_pos hexponent] at h
      by_cases hmantissa : UnpackedFloat.unpackMantissa b = BitVec.ofNat _ 0
      · exact ⟨hexponent, hmantissa⟩
      · rw [dif_neg hmantissa] at h
        cases h
    · rw [if_neg hexponent] at h
      cases h

/-- Two bit patterns stand for a zero: all bits clear, or all but the sign. -/
theorem bits_of_unpack_eq_zero {bits : UInt32} {s : UnpackedFloat.Sign}
    (h : UnpackedFloat.unpack Format.binary32 bits.toBitVec = .zero s) :
    bits = 0 ∨ bits = 0x80000000 := by
  obtain ⟨hexponent, hmantissa⟩ := unpack_eq_zero h
  have hlow := congrArg BitVec.toNat hmantissa
  have hhigh := congrArg BitVec.toNat hexponent
  simp only [UnpackedFloat.unpackMantissa, UnpackedFloat.unpackExponent, BitVec.extractLsb,
    BitVec.cast_eq, BitVec.extractLsb'_toNat, UInt32.toNat_toBitVec, BitVec.toNat_ofNat,
    Nat.shiftRight_eq_div_pow] at hlow hhigh
  have hlt := bits.toNat_lt
  -- with both fields clear, only the sign bit is left
  have hbits : bits.toNat = 0 ∨ bits.toNat = 2147483648 := by omega
  rcases hbits with hbits | hbits
  · exact .inl (UInt32.toNat_inj.1 hbits)
  · exact .inr (UInt32.toNat_inj.1 hbits)

theorem eq_of_toBits_eq (h : x.toModel.toBits = y.toModel.toBits) : x = y := by
  obtain ⟨⟨xbits, hx⟩⟩ := x
  obtain ⟨⟨ybits, hy⟩⟩ := y
  cases h
  rfl

theorem exists_unpack_eq_zero (h : (x == 0) = true) : ∃ s, x.toModel.unpack = .zero s := by
  have hx : x.isNaN = false := Bool.eq_false_iff.2 fun hx => by
    rw [beq_of_isNaN (.inl hx)] at h
    cases h
  exact eq_zero_of_heightOf hx ((beq_iff hx (by decide)).1 h)

theorem beq_zero_iff : (x == 0) = true ↔ x = 0 ∨ x = -0 := by
  constructor
  · intro h
    obtain ⟨s, hs⟩ := exists_unpack_eq_zero h
    rcases bits_of_unpack_eq_zero hs with hbits | hbits
    · exact .inl (eq_of_toBits_eq hbits)
    · exact .inr (eq_of_toBits_eq hbits)
  · rintro (rfl | rfl) <;> decide

end LitMesh.Weight
