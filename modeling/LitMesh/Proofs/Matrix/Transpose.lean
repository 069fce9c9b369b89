import LitMesh.Matrix

/-!
# Transposing products

Rounded addition is not associative, so two ways to compute an entry of a product agree only if they
add the same terms in the same order. Transposing keeps that order: an entry of `a * b` and its
mirror image in `b.transpose * a.transpose` are dot products of the same row and column, summed from
`x` to `w`, and differ only in which factor of a term stands first. So the transpose of a product is
the product of the transposes in the opposite order, to the last bit (`Mat4.transpose_mul`), and so
it is for a product of many matrices (`Mat4.transpose_foldl`).

Addition need not be more than a function for that. Of multiplication it takes that factors may be
exchanged (`Binary32.mul_comm`), which holds with equality of numbers: there is one NaN among them,
whatever bits it came from.
-/

namespace LitMesh

/-! ## Exchanging factors -/

namespace Binary32

open Float.Model (Format UnpackedFloat)
open Float.Model.UnpackedFloat (Sign)

theorem sign_mul_comm (s t : Sign) : s * t = t * s := by cases s <;> cases t <;> rfl

theorem unpacked_mul_comm (spec : Format) (a b : UnpackedFloat) : a.mul spec b = b.mul spec a := by
  cases a with
  | notANumber => cases b <;> rfl
  | infinity s =>
    cases b with
    | infinity t | finite t => exact congrArg UnpackedFloat.infinity (sign_mul_comm s t)
    | zero | notANumber => rfl
  | zero s =>
    cases b with
    | zero t | finite t => exact congrArg UnpackedFloat.zero (sign_mul_comm s t)
    | infinity | notANumber => rfl
  | finite s m e =>
    cases b with
    | notANumber => rfl
    | infinity t => exact congrArg UnpackedFloat.infinity (sign_mul_comm s t)
    | zero t => exact congrArg UnpackedFloat.zero (sign_mul_comm s t)
    -- the exact product is symmetric, and rounding sees nothing else
    | finite t n f =>
      show UnpackedFloat.roundWithAccuracy spec (s * t) (m * n) (e + f) .exact =
        UnpackedFloat.roundWithAccuracy spec (t * s) (n * m) (f + e) .exact
      rw [sign_mul_comm s t, Nat.mul_comm m n, Int.add_comm e f]

theorem mul_comm (x y : Float32) : x * y = y * x :=
  congrArg (fun u => Float32.ofModel (.pack u))
    (unpacked_mul_comm .binary32 x.toModel.unpack y.toModel.unpack)

end Binary32

theorem Vec4.dot_comm (a b : Vec4) : a.dot b = b.dot a := by
  simp only [dot, Binary32.mul_comm]

namespace Mat4

/-! ## Entries -/

theorem col_transpose (m : Mat4) (i : Fin 4) : m.transpose.col i = m.row i := by
  match i with
  | 0 => rfl
  | 1 => rfl
  | 2 => rfl
  | 3 => rfl

theorem row_mul (a b : Mat4) (i : Fin 4) : (a * b).row i = applyRow (a.row i) b := by
  match i with
  | 0 => rfl
  | 1 => rfl
  | 2 => rfl
  | 3 => rfl

theorem entry_applyRow (r : Vec4) (m : Mat4) (k : Fin 4) :
    (applyRow r m).entry k = r.dot (m.col k) := by
  match k with
  | 0 => rfl
  | 1 => rfl
  | 2 => rfl
  | 3 => rfl

/-- An entry of a product is the dot product of a row and a column. -/
theorem entry_mul (a b : Mat4) (i k : Fin 4) :
    ((a * b).row i).entry k = (a.row i).dot (b.col k) := by
  rw [row_mul, entry_applyRow]

/-! ## Products -/

theorem transpose_mul (a b : Mat4) : (a * b).transpose = b.transpose * a.transpose := by
  refine ext_row fun k => Vec4.ext_entry fun i => ?_
  calc ((a * b).transpose.row k).entry i
      = ((a * b).row i).entry k := by rw [row_transpose, row_col]
    _ = (a.row i).dot (b.col k) := entry_mul a b i k
    _ = (b.col k).dot (a.row i) := Vec4.dot_comm _ _
    _ = (b.transpose.row k).dot (a.transpose.col i) := by rw [row_transpose, col_transpose]
    _ = ((b.transpose * a.transpose).row k).entry i := (entry_mul _ _ k i).symm

/-- What is multiplied on at the right turns up at the left. -/
theorem transpose_foldl (c : Mat4) (ms : List Mat4) : (ms.foldl (· * ·) c).transpose =
    (ms.map transpose).foldl (fun product m => m * product) c.transpose := by
  induction ms generalizing c with
  | nil => rfl
  | cons m ms ih => rw [List.foldl_cons, ih, transpose_mul, List.map_cons, List.foldl_cons]

/-- **Transposing reverses products**, in rounded arithmetic and to the last bit. It is undone by
transposing again. A product that starts from `c` and takes up one matrix after the other at its
right is transposed to that of the transposes, which stand in the opposite order and are multiplied
from right to left, down to the transpose of `c` at the end. -/
theorem transpose_reverses (a b c : Mat4) (ms : List Mat4) :
    (a * b).transpose = b.transpose * a.transpose ∧
    a.transpose.transpose = a ∧
    (ms.foldl (· * ·) c).transpose = (ms.map transpose).reverse.foldr (· * ·) c.transpose := by
  refine ⟨transpose_mul a b, transpose_transpose a, ?_⟩
  rw [List.foldr_reverse]
  exact transpose_foldl c ms

end Mat4

end LitMesh
