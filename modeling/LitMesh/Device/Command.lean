import LitMesh.Device.State
import LitMesh.Mesh
import LitMesh.Vector

/-!
# Device commands

The ten calls that a device takes, each with its arguments, and the errors it answers them with.
-/

namespace LitMesh

/-! ## Errors -/

/-- Why a device did not carry out a call. -/
inductive DeviceError
  /-- The device refused the named call for the stated reason. -/
  | rejected (call reason : String)
  /-- A handle names no live resource. -/
  | invalidHandle
  /-- An upload of `count` registers from `register` on does not fit the register file. -/
  | registerOutOfRange (register count : UInt32)
  /-- The device is lost and takes no calls until it is reset. -/
  | deviceLost
deriving DecidableEq

def DeviceError.message : DeviceError → String
  | rejected call reason => s!"Device call '{call}' failed: {reason}"
  | invalidHandle => "Invalid resource handle."
  | registerOutOfRange register count =>
    s!"Constant upload of {count.toNat} register(s) at c{register.toNat} is out of range"
  | deviceLost => "The graphics device was lost."

/-! ## Commands -/

inductive Command
  | setVertexFormat (format : VertexFormat)
  | setVertexProgram (program : VertexProgramId)
  | setPixelProgram (program : PixelProgramId)
  | setVertexConstants (register : UInt32) (data : List Vec4)
  | setPixelConstants (register : UInt32) (data : List Vec4)
  | setRenderState (change : StateChange)
  | setTexture (sampler : Sampler) (texture : Option TextureId)
  | setStreamSource (stream : UInt32) (buffer : BufferId) (offset stride : UInt32)
  | setIndices (buffer : BufferId)
  | drawIndexedPrimitive (draw : DrawCall)
deriving DecidableEq

/-! ## Kinds -/

/-- A command without its arguments. -/
inductive CommandKind
  | setVertexFormat | setVertexProgram | setPixelProgram | setVertexConstants
  | setPixelConstants | setRenderState | setTexture | setStreamSource | setIndices
  | drawIndexedPrimitive
deriving DecidableEq

def Command.kind : Command → CommandKind
  | setVertexFormat _ => .setVertexFormat
  | setVertexProgram _ => .setVertexProgram
  | setPixelProgram _ => .setPixelProgram
  | setVertexConstants _ _ => .setVertexConstants
  | setPixelConstants _ _ => .setPixelConstants
  | setRenderState _ => .setRenderState
  | setTexture _ _ => .setTexture
  | setStreamSource _ _ _ _ => .setStreamSource
  | setIndices _ => .setIndices
  | drawIndexedPrimitive _ => .drawIndexedPrimitive

namespace CommandKind

def all : List CommandKind :=
  [setVertexFormat, setVertexProgram, setPixelProgram, setVertexConstants, setPixelConstants,
    setRenderState, setTexture, setStreamSource, setIndices, drawIndexedPrimitive]

/-- The name of a kind in a list of commands. -/
def name : CommandKind → String
  | setVertexFormat => "SetVertexFormat"
  | setVertexProgram => "SetVertexProgram"
  | setPixelProgram => "SetPixelProgram"
  | setVertexConstants => "SetVertexConstants"
  | setPixelConstants => "SetPixelConstants"
  | setRenderState => "SetRenderState"
  | setTexture => "SetTexture"
  | setStreamSource => "SetStreamSource"
  | setIndices => "SetIndices"
  | drawIndexedPrimitive => "DrawIndexedPrimitive"

/-- The name of a call in an error. -/
def callName : CommandKind → String
  | setVertexFormat => "set_vertex_format"
  | setVertexProgram => "set_vertex_program"
  | setPixelProgram => "set_pixel_program"
  | setVertexConstants => "set_vertex_constants"
  | setPixelConstants => "set_pixel_constants"
  | setRenderState => "set_render_state"
  | setTexture => "set_texture"
  | setStreamSource => "set_stream_source"
  | setIndices => "set_indices"
  | drawIndexedPrimitive => "draw_indexed_primitive"

end CommandKind

/-! ## Sets of kinds -/

/-- A set of kinds of command. It is determined by its members (`KindSet.ext`); the order in which
they were put in leaves no trace. -/
structure KindSet where
  has : CommandKind → Bool

namespace KindSet

instance : Membership CommandKind KindSet := ⟨fun s k => s.has k = true⟩

instance (k : CommandKind) (s : KindSet) : Decidable (k ∈ s) :=
  inferInstanceAs (Decidable (s.has k = true))

instance : EmptyCollection KindSet := ⟨⟨fun _ => false⟩⟩

def insert (s : KindSet) (k : CommandKind) : KindSet := ⟨fun j => j == k || s.has j⟩

def erase (s : KindSet) (k : CommandKind) : KindSet := ⟨fun j => j != k && s.has j⟩

variable {s t : KindSet} {j k : CommandKind}

@[ext] theorem ext (h : ∀ k, k ∈ s ↔ k ∈ t) : s = t := by
  cases s; cases t
  exact congrArg mk (funext fun k => Bool.eq_iff_iff.2 (h k))

theorem notMem_empty : k ∉ (∅ : KindSet) := Bool.false_ne_true

@[simp] theorem mem_insert : j ∈ s.insert k ↔ j = k ∨ j ∈ s := by
  simp only [insert, Membership.mem, Bool.or_eq_true, beq_iff_eq]

end KindSet

end LitMesh
