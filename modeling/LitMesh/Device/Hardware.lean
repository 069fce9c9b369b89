import LitMesh.Device.Command
import LitMesh.Device.RegisterFile

/-!
# Hardware

The state behind a device and what each command does to it. Whether a command is refused
(`Hardware.refusal?`) is decided before anything is written (`Hardware.apply`), so a refused command
leaves no trace.

A command can be refused for several causes at once, and the first of them is reported: the device
is lost, failures of that kind are injected, the command's own arguments are wrong.
-/

namespace LitMesh

/-! ## Parts -/

/-- The vertex buffer of stream 0, the offset of its first vertex, and the bytes per vertex. -/
structure StreamSource where
  buffer : BufferId
  offset : UInt32
  stride : UInt32
deriving DecidableEq

/-- What is bound for the next draw. A device starts with nothing bound, and a reset returns
there. -/
structure Bindings where
  textures : Vector (Option TextureId) 4 := Vector.replicate 4 none
  modes : Modes := {}
  vertexFormat : Option VertexFormat := none
  vertexProgram : Option VertexProgramId := none
  pixelProgram : Option PixelProgramId := none
  streamSource : Option StreamSource := none
  indexBuffer : Option BufferId := none
deriving DecidableEq

/-- The resources a device has created, the newest first, and the next numbers it will give out. -/
structure Resources where
  buffers : List (BufferId × List UInt8) := []
  textures : List TextureId := []
  nextBuffer : UInt64 := 1
  nextTexture : UInt64 := 1
deriving DecidableEq

namespace Resources

/-- The bytes of a buffer, if there is such a buffer. -/
def contents? (r : Resources) (id : BufferId) : Option (List UInt8) := r.buffers.lookup id

def hasBuffer (r : Resources) (id : BufferId) : Bool := (r.contents? id).isSome

def hasTexture (r : Resources) (id : TextureId) : Bool := r.textures.contains id

/-- Adds a buffer under the next free number. -/
def addBuffer (r : Resources) (bytes : List UInt8) : Resources :=
  { r with buffers := (⟨r.nextBuffer⟩, bytes) :: r.buffers, nextBuffer := r.nextBuffer + 1 }

/-- Adds a texture under the next free number. -/
def addTexture (r : Resources) : Resources :=
  { r with textures := ⟨r.nextTexture⟩ :: r.textures, nextTexture := r.nextTexture + 1 }

end Resources

/-- The failures in force: the kinds of command made to fail, and whether the device is lost. -/
@[ext]
structure Faults where
  injected : KindSet := ∅
  lost : Bool := false

namespace Faults

def inject (f : Faults) (k : CommandKind) : Faults := { f with injected := f.injected.insert k }

def release (f : Faults) (k : CommandKind) : Faults := { f with injected := f.injected.erase k }

/-- Why a command of kind `k` fails whatever its arguments. Loss is reported before injection. -/
def refusal? (f : Faults) (k : CommandKind) : Option DeviceError :=
  if f.lost then some .deviceLost
  else if k ∈ f.injected then some (.rejected k.callName "injected failure")
  else none

end Faults

/-! ## Commands -/

structure Hardware where
  vertexRegisters : RegisterFile
  pixelRegisters : RegisterFile
  bindings : Bindings := {}
  resources : Resources := {}
  faults : Faults := {}
  drawCount : UInt32 := 0

namespace Hardware

def bufferRefusal? (h : Hardware) (id : BufferId) : Option DeviceError :=
  if h.resources.hasBuffer id then none else some .invalidHandle

/-- Why a command is refused for what it asks, faults aside. -/
def argumentRefusal? (h : Hardware) : Command → Option DeviceError
  | .setVertexConstants register data => h.vertexRegisters.refusal? register data
  | .setPixelConstants register data => h.pixelRegisters.refusal? register data
  | .setTexture _ (some id) => if h.resources.hasTexture id then none else some .invalidHandle
  | .setStreamSource stream buffer _ _ =>
    if stream = 0 then h.bufferRefusal? buffer
    else
      some (.rejected CommandKind.setStreamSource.callName
        s!"stream {stream.toNat} is not supported")
  | .setIndices buffer => h.bufferRefusal? buffer
  | .drawIndexedPrimitive _ =>
    if h.bindings.streamSource.isSome && h.bindings.indexBuffer.isSome then none
    else
      some (.rejected CommandKind.drawIndexedPrimitive.callName
        "no vertex or index buffer bound")
  | _ => none

/-- Why a command is refused, if it is. -/
def refusal? (h : Hardware) (c : Command) : Option DeviceError :=
  (h.faults.refusal? c.kind).or (h.argumentRefusal? c)

/-- With no fault in its way, a command is refused only for what it asks. -/
theorem refusal?_of_no_fault {h : Hardware} {c : Command} (hlost : h.faults.lost = false)
    (hkind : c.kind ∉ h.faults.injected) : h.refusal? c = h.argumentRefusal? c := by
  have hfault : h.faults.refusal? c.kind = none := by
    rw [Faults.refusal?, hlost, if_neg Bool.false_ne_true, if_neg hkind]
  rw [refusal?, hfault, Option.none_or]

/-- The state after a command that is not refused. -/
def apply (h : Hardware) : Command → Hardware
  | .setVertexFormat format =>
    { h with bindings := { h.bindings with vertexFormat := some format } }
  | .setVertexProgram program =>
    { h with bindings := { h.bindings with vertexProgram := some program } }
  | .setPixelProgram program =>
    { h with bindings := { h.bindings with pixelProgram := some program } }
  | .setVertexConstants register data =>
    { h with vertexRegisters := h.vertexRegisters.write register.toNat data }
  | .setPixelConstants register data =>
    { h with pixelRegisters := h.pixelRegisters.write register.toNat data }
  | .setRenderState change =>
    { h with bindings := { h.bindings with modes := h.bindings.modes.apply change } }
  | .setTexture sampler texture =>
    let textures := h.bindings.textures.set sampler.index texture sampler.index.isLt
    { h with bindings := { h.bindings with textures } }
  | .setStreamSource _ buffer offset stride =>
    { h with bindings := { h.bindings with streamSource := some ⟨buffer, offset, stride⟩ } }
  | .setIndices buffer => { h with bindings := { h.bindings with indexBuffer := some buffer } }
  | .drawIndexedPrimitive _ => { h with drawCount := h.drawCount + 1 }

/-- Attempts a command: its effect if nothing refuses it, otherwise no effect and the reason. -/
def exec (h : Hardware) (c : Command) : Except DeviceError Unit × Hardware :=
  match h.refusal? c with
  | some e => (.error e, h)
  | none => (.ok (), h.apply c)

theorem exec_of_refused {h : Hardware} {c : Command} {e : DeviceError}
    (hr : h.refusal? c = some e) : h.exec c = (.error e, h) := by
  rw [exec, hr]

theorem exec_of_accepted {h : Hardware} {c : Command} (hr : h.refusal? c = none) :
    h.exec c = (.ok (), h.apply c) := by
  rw [exec, hr]

/-- Ends a loss and clears everything that was bound. Registers, resources, injected failures and
the count of draws stay. -/
def reset (h : Hardware) : Hardware :=
  { h with bindings := {}, faults := { h.faults with lost := false } }

end Hardware

end LitMesh
