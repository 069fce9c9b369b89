import LitMesh.Color

/-!
# Structured data

Values as interchange formats hold them: numbers, text, lists, and objects with named members. A
record is read from an object by name, where members that it does not know are ignored, or from a
list by position.
-/

namespace LitMesh

/-- The first of two members with the same name counts. -/
inductive Data
  | null
  | bool (b : Bool)
  | int (n : Int)
  | real (x : Float)
  | text (s : String)
  | list (items : List Data)
  | object (members : List (String × Data))

namespace Data

/-- An unsigned integer of 32 bits. A number with a fraction part is none, even if it is zero. -/
def word32? : Data → Option UInt32
  | int n => if 0 ≤ n ∧ n < 4294967296 then some (UInt32.ofNat n.toNat) else none
  | _ => none

/-- A number rounded to binary32. -/
def float32? : Data → Option Float32
  | int n => some (Float32.ofInt n)
  | real x => some x.toFloat32
  | _ => none

/-- The members with the given names, or the items of a list of just that many. -/
def parts? (names : List String) : Data → Option (List Data)
  | object members => names.mapM fun name => members.lookup name
  | list items => if items.length = names.length then some items else none
  | _ => none

/-- A record of numbers. -/
def floats? (names : List String) (d : Data) : Option (List Float32) := do
  let parts ← d.parts? names
  parts.mapM float32?

def ofFloats (names : List String) (values : List Float32) : Data :=
  object (names.zip (values.map fun x => real x.toFloat))

end Data

/-! ## Vectors and colors -/

def Vec3.fieldNames : List String := ["x", "y", "z"]

def Vec4.fieldNames : List String := ["x", "y", "z", "w"]

def Color.fieldNames : List String := ["r", "g", "b", "a"]

def Vec3.ofData? (d : Data) : Option Vec3 :=
  match d.floats? fieldNames with
  | some [x, y, z] => some ⟨x, y, z⟩
  | _ => none

def Vec4.ofData? (d : Data) : Option Vec4 :=
  match d.floats? fieldNames with
  | some [x, y, z, w] => some ⟨x, y, z, w⟩
  | _ => none

def Color.ofData? (d : Data) : Option Color :=
  match d.floats? fieldNames with
  | some [r, g, b, a] => some ⟨r, g, b, a⟩
  | _ => none

def Vec3.toData (v : Vec3) : Data := .ofFloats fieldNames [v.x, v.y, v.z]

def Vec4.toData (v : Vec4) : Data := .ofFloats fieldNames [v.x, v.y, v.z, v.w]

def Color.toData (c : Color) : Data := .ofFloats fieldNames [c.r, c.g, c.b, c.a]

end LitMesh
