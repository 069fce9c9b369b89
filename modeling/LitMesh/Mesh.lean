import LitMesh.Device.State

/-!
# Meshes

A mesh names the buffers that hold its vertices and indices, the layout of one vertex, and how much
of each buffer there is to draw. Its indices list triangles.
-/

namespace LitMesh

/-! ## Vertex formats -/

/-- The set of attributes a vertex carries, one bit each. -/
structure VertexFormat where
  bits : UInt32
deriving DecidableEq

namespace VertexFormat

/-- Three floats of position. -/
def position : VertexFormat := ⟨1⟩

/-- Two floats of texture coordinates. -/
def texcoord : VertexFormat := ⟨2⟩

/-- Four floats holding the normal frame as a quaternion. -/
def normalQuat : VertexFormat := ⟨4⟩

/-- What a lit mesh needs: position, texture coordinates and normal frame. -/
def phong : VertexFormat := ⟨position.bits ||| texcoord.bits ||| normalQuat.bits⟩

/-- Whether every attribute of `b` is one of `a`. -/
def contains (a b : VertexFormat) : Bool := a.bits &&& b.bits == b.bits

/-- The bytes that one vertex takes; unknown bits take none. -/
def stride (f : VertexFormat) : UInt32 :=
  (if f.contains position then 12 else 0) + (if f.contains texcoord then 8 else 0) +
    (if f.contains normalQuat then 16 else 0)

/-- The bits in base two, at least four digits. -/
def binary (f : VertexFormat) : String :=
  let digits := Nat.toDigits 2 f.bits.toNat
  String.ofList (List.replicate (4 - digits.length) '0' ++ digits)

instance : ToString VertexFormat := ⟨fun f => s!"VertexFormat(0b{f.binary})"⟩

end VertexFormat

/-! ## Meshes -/

structure Mesh where
  vertexFormat : VertexFormat
  vertexBuffer : BufferId
  indexBuffer : BufferId
  vertexCount : UInt32
  indexCount : UInt32
deriving DecidableEq

/-- The number of whole triangles; up to two trailing indices go unused. -/
def Mesh.triangleCount (m : Mesh) : UInt32 := m.indexCount / 3

end LitMesh
