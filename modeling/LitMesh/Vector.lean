/-!
# Vectors

Vectors of three and four binary32 components. Every operation rounds after each step and works
from `x` towards `w`, so a result is determined to the last bit.

There are two equalities. `==` compares component by component as IEEE 754 does: the two zeros are
equal, and a vector with a NaN component differs from itself. `=` tells the zeros apart and takes
every NaN for the same, since `Float32` has only one; on all other numbers it compares
representations.
-/

namespace LitMesh

/-! ## Checked reads -/

/-- Why one entry of a vector or a matrix cannot be read. -/
inductive EntryError
  /-- The component index exceeds three. -/
  | component
  /-- The row index exceeds three. -/
  | row
deriving DecidableEq

/-- What is said about a refused read; a missing row goes without words. -/
def EntryError.message : EntryError → Option String
  | .component => some "Index out of bounds for Vec4"
  | .row => none

/-! ## Three components -/

/-- A point, a direction or a scale. -/
structure Vec3 where
  x : Float32
  y : Float32
  z : Float32
deriving BEq, DecidableEq

/-- Four components, as a constant register holds them. -/
structure Vec4 where
  x : Float32
  y : Float32
  z : Float32
  w : Float32
deriving BEq, DecidableEq

namespace Vec3

def zero : Vec3 := ⟨0, 0, 0⟩

instance : Inhabited Vec3 := ⟨zero⟩

def add (a b : Vec3) : Vec3 := ⟨a.x + b.x, a.y + b.y, a.z + b.z⟩

def sub (a b : Vec3) : Vec3 := ⟨a.x - b.x, a.y - b.y, a.z - b.z⟩

def scale (a : Vec3) (s : Float32) : Vec3 := ⟨a.x * s, a.y * s, a.z * s⟩

instance : Add Vec3 := ⟨add⟩

instance : Sub Vec3 := ⟨sub⟩

instance : HMul Vec3 Float32 Vec3 := ⟨scale⟩

/-- The dot product, summed from `x` to `z`. -/
def dot (a b : Vec3) : Float32 := a.x * b.x + a.y * b.y + a.z * b.z

/-- The Euclidean length: the rounded root of the rounded square. -/
def length (a : Vec3) : Float32 := (a.dot a).sqrt

/-- The vector with a fourth component. -/
def extend (a : Vec3) (w : Float32) : Vec4 := ⟨a.x, a.y, a.z, w⟩

end Vec3

/-! ## Four components -/

namespace Vec4

def zero : Vec4 := ⟨0, 0, 0, 0⟩

instance : Inhabited Vec4 := ⟨zero⟩

/-- The first three components. -/
def truncate (a : Vec4) : Vec3 := ⟨a.x, a.y, a.z⟩

/-- The dot product, summed from `x` to `w`. -/
def dot (a b : Vec4) : Float32 := a.x * b.x + a.y * b.y + a.z * b.z + a.w * b.w

/-- The components in order. -/
def toList (a : Vec4) : List Float32 := [a.x, a.y, a.z, a.w]

/-- The `k`-th component, counting from `x`. -/
def entry (a : Vec4) : Fin 4 → Float32
  | 0 => a.x
  | 1 => a.y
  | 2 => a.z
  | 3 => a.w

/-- The `i`-th component, if there is one. -/
def get (a : Vec4) (i : Nat) : Except EntryError Float32 :=
  if h : i < 4 then .ok (a.entry ⟨i, h⟩) else .error .component

/-- A vector is determined by its components. -/
theorem ext_entry {a b : Vec4} (h : ∀ k, a.entry k = b.entry k) : a = b := by
  cases a; cases b
  simpa [entry] using And.intro (h 0) ⟨h 1, h 2, h 3⟩

end Vec4

end LitMesh
