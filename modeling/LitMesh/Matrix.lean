import LitMesh.Vector

/-!
# Matrices

Four-by-four matrices under the row-vector convention: a point is a row, multiplied from the left,
and a translation lives in the last row. Shaders use the opposite convention and are handed the
transpose.

A product entry is the dot product of a row of the left factor with a column of the right one, so
sums run in the same order wherever a matrix is applied.
-/

namespace LitMesh

/-- A matrix as its four rows. -/
structure Mat4 where
  row0 : Vec4
  row1 : Vec4
  row2 : Vec4
  row3 : Vec4
deriving BEq, DecidableEq

namespace Mat4

def identity : Mat4 := ⟨⟨1, 0, 0, 0⟩, ⟨0, 1, 0, 0⟩, ⟨0, 0, 1, 0⟩, ⟨0, 0, 0, 1⟩⟩

def zero : Mat4 := ⟨.zero, .zero, .zero, .zero⟩

instance : Inhabited Mat4 := ⟨identity⟩

/-- Moves points by `v`. -/
def translation (v : Vec3) : Mat4 := { identity with row3 := v.extend 1 }

/-- Stretches each axis by the matching component of `v`. -/
def scaling (v : Vec3) : Mat4 :=
  ⟨⟨v.x, 0, 0, 0⟩, ⟨0, v.y, 0, 0⟩, ⟨0, 0, v.z, 0⟩, ⟨0, 0, 0, 1⟩⟩

/-! ## Rows and columns -/

/-- The rows from top to bottom. -/
def rows (m : Mat4) : List Vec4 := [m.row0, m.row1, m.row2, m.row3]

/-- The `i`-th row, counting from the top. -/
def row (m : Mat4) : Fin 4 → Vec4
  | 0 => m.row0
  | 1 => m.row1
  | 2 => m.row2
  | 3 => m.row3

/-- The `k`-th column, counting from the left. -/
def col (m : Mat4) (k : Fin 4) : Vec4 :=
  ⟨m.row0.entry k, m.row1.entry k, m.row2.entry k, m.row3.entry k⟩

/-- The `i`-th row, if there is one. -/
def getRow (m : Mat4) (i : Nat) : Except EntryError Vec4 :=
  if h : i < 4 then .ok (m.row ⟨i, h⟩) else .error .row

/-- The `k`-th column, if there is one. -/
def getCol (m : Mat4) (k : Nat) : Except EntryError Vec4 :=
  if h : k < 4 then .ok (m.col ⟨k, h⟩) else .error .component

/-- The entry in row `i` and column `k`; a missing row is reported before a missing column. -/
def get (m : Mat4) (i k : Nat) : Except EntryError Float32 := do
  let r ← m.getRow i
  r.get k

theorem row_col (m : Mat4) (i k : Fin 4) : (m.col k).entry i = (m.row i).entry k := by
  match i with
  | 0 => rfl
  | 1 => rfl
  | 2 => rfl
  | 3 => rfl

/-- A matrix is determined by its rows. -/
theorem ext_row {a b : Mat4} (h : ∀ i, a.row i = b.row i) : a = b := by
  cases a; cases b
  simpa [row] using And.intro (h 0) ⟨h 1, h 2, h 3⟩

/-! ## Transpose, application and product -/

/-- The matrix whose rows are the columns of `m`. -/
def transpose (m : Mat4) : Mat4 := ⟨m.col 0, m.col 1, m.col 2, m.col 3⟩

theorem row_transpose (m : Mat4) (k : Fin 4) : m.transpose.row k = m.col k := by
  match k with
  | 0 => rfl
  | 1 => rfl
  | 2 => rfl
  | 3 => rfl

theorem transpose_transpose (m : Mat4) : m.transpose.transpose = m := rfl

/-- Where `m` takes the point `p`. The fourth coordinate of the image is dropped, not divided by. -/
def transformPoint (m : Mat4) (p : Vec3) : Vec3 :=
  let v := p.extend 1
  ⟨v.dot (m.col 0), v.dot (m.col 1), v.dot (m.col 2)⟩

/-- The row vector `r` times `m`. -/
def applyRow (r : Vec4) (m : Mat4) : Vec4 :=
  ⟨r.dot (m.col 0), r.dot (m.col 1), r.dot (m.col 2), r.dot (m.col 3)⟩

/-- The product that applies `a` first and `b` second. -/
def mul (a b : Mat4) : Mat4 :=
  ⟨applyRow a.row0 b, applyRow a.row1 b, applyRow a.row2 b, applyRow a.row3 b⟩

instance : Mul Mat4 := ⟨mul⟩

end Mat4

end LitMesh
