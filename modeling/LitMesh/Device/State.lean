/-!
# Device state

What a device is told in terms of: handles of the resources that it owns, its coarse modes, its
texture samplers, and the parameters of a draw.
-/

namespace LitMesh

/-! ## Handles

A handle is a number to everyone but the device that issued it. The four kinds do not mix. -/

/-- A buffer of vertex or index data. -/
structure BufferId where
  val : UInt64
deriving DecidableEq

structure TextureId where
  val : UInt64
deriving DecidableEq

structure VertexProgramId where
  val : UInt64
deriving DecidableEq

structure PixelProgramId where
  val : UInt64
deriving DecidableEq

instance : ToString BufferId := ⟨fun b => s!"BufferId({b.val.toNat})"⟩

instance : ToString PixelProgramId := ⟨fun p => s!"PixelProgramId({p.val.toNat})"⟩

/-! ## Modes -/

/-- Which faces are not drawn. -/
inductive CullMode
  | none | front | back
deriving DecidableEq

inductive FillMode
  | solid | wireframe
deriving DecidableEq

instance : Inhabited CullMode := ⟨.none⟩

instance : Inhabited FillMode := ⟨.solid⟩

def CullMode.name : CullMode → String
  | none => "None"
  | front => "Front"
  | back => "Back"

def FillMode.name : FillMode → String
  | solid => "Solid"
  | wireframe => "Wireframe"

/-- The fill mode that a wireframe switch asks for. -/
def FillMode.ofWireframe : Bool → FillMode
  | true => wireframe
  | false => solid

/-- A change to one of the two modes. -/
inductive StateChange
  | cull (mode : CullMode)
  | fill (mode : FillMode)
deriving DecidableEq

/-- A value of each mode. The default is what a device starts with. -/
structure Modes where
  cull : CullMode := .none
  fill : FillMode := .solid
deriving DecidableEq

instance : Inhabited Modes := ⟨{}⟩

def Modes.apply (m : Modes) : StateChange → Modes
  | .cull mode => { m with cull := mode }
  | .fill mode => { m with fill := mode }

/-! ## Samplers -/

/-- The texture samplers of the pixel shaders. -/
inductive Sampler
  | diffuse | specular | bumpHeight | selfIllumination
deriving DecidableEq

namespace Sampler

/-- The samplers in register order. -/
def all : List Sampler := [diffuse, specular, bumpHeight, selfIllumination]

def index : Sampler → Fin 4
  | diffuse => ⟨0, by decide⟩
  | specular => ⟨1, by decide⟩
  | bumpHeight => ⟨2, by decide⟩
  | selfIllumination => ⟨3, by decide⟩

def name : Sampler → String
  | diffuse => "Diffuse"
  | specular => "Specular"
  | bumpHeight => "BumpHeight"
  | selfIllumination => "SelfIllumination"

theorem index_injective {a b : Sampler} (h : a.index = b.index) : a = b := by
  cases a <;> cases b <;> first | rfl | exact absurd h (by decide)

end Sampler

/-! ## Draws -/

inductive Topology
  | triangleList | triangleStrip
deriving DecidableEq

/-- The parameters of an indexed draw. -/
structure DrawCall where
  topology : Topology
  baseVertex : Int32
  minIndex : UInt32
  numVertices : UInt32
  startIndex : UInt32
  primitiveCount : UInt32
deriving DecidableEq

end LitMesh
