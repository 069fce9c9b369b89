import LitMesh.Device.Hardware
import LitMesh.Run

/-!
# Devices

A device keeps a log of the commands it was given. A command enters the log before it is looked at,
so one that fails is logged as well. Resources are created beside the commands; a buffer is created
from bytes, or from values that are laid out as bytes.
-/

namespace LitMesh

/-! ## Bytes -/

namespace Bytes

/-- Least significant byte first. -/
def ofWord16 (w : UInt16) : List UInt8 := [w.toUInt8, (w >>> 8).toUInt8]

/-- Least significant byte first. -/
def ofWord32 (w : UInt32) : List UInt8 :=
  [w.toUInt8, (w >>> 8).toUInt8, (w >>> 16).toUInt8, (w >>> 24).toUInt8]

end Bytes

/-- What a buffer is created from. A vector comes as the binary32 patterns of its four components:
there are many patterns of NaN, which a `Float32` does not tell apart. -/
inductive BufferData
  | bytes (data : List UInt8)
  | words16 (data : List UInt16)
  | words32 (data : List UInt32)
  | vectors (data : List (Vector UInt32 4))

/-- The values of the data in order, each as its bytes. -/
def BufferData.toBytes : BufferData → List UInt8
  | bytes data => data
  | words16 data => data.flatMap Bytes.ofWord16
  | words32 data => data.flatMap Bytes.ofWord32
  | vectors data => data.flatMap fun v => v.toList.flatMap Bytes.ofWord32

/-! ## Devices -/

structure Device where
  hardware : Hardware
  commands : Array Command := #[]

namespace Device

/-- A device with the given numbers of vertex and pixel registers. -/
def ofSizes (vertex pixel : Nat) : Device := ⟨⟨.ofSize vertex, .ofSize pixel, {}, {}, {}, 0⟩, #[]⟩

/-- A device with the registers of shader model 3. -/
def new : Device := ofSizes 256 32

instance : Inhabited Device := ⟨new⟩

/-! ## Commands -/

/-- Logs a command and attempts it. -/
def call (d : Device) (c : Command) : Except DeviceError Unit × Device :=
  let result := d.hardware.exec c
  (result.1, ⟨result.2, d.commands.push c⟩)

@[simp] theorem commands_call (d : Device) (c : Command) :
    (d.call c).2.commands = d.commands.push c := rfl

@[simp] theorem hardware_call (d : Device) (c : Command) :
    (d.call c).2.hardware = (d.hardware.exec c).2 := rfl

theorem call_of_refused {d : Device} {c : Command} {e : DeviceError}
    (hr : d.hardware.refusal? c = some e) :
    d.call c = (.error e, { d with commands := d.commands.push c }) := by
  rw [call, Hardware.exec_of_refused hr]

theorem call_of_accepted {d : Device} {c : Command} (hr : d.hardware.refusal? c = none) :
    d.call c = (.ok (), ⟨d.hardware.apply c, d.commands.push c⟩) := by
  rw [call, Hardware.exec_of_accepted hr]

/-- How many logged commands are of kind `k`. -/
def count (d : Device) (k : CommandKind) : Nat := d.commands.countP fun c => c.kind = k

/-! ## Resources -/

/-- Creates a buffer and answers its handle. -/
def createBuffer (d : Device) (bytes : List UInt8) : Outcome Device BufferId :=
  let id : BufferId := ⟨d.hardware.resources.nextBuffer⟩
  ⟨id, { d with hardware.resources := d.hardware.resources.addBuffer bytes },
    [⟨.trace, .device, s!"RecordingDevice: created {id} ({bytes.length} bytes)"⟩]⟩

/-- Creates a texture and answers its handle. -/
def createTexture (d : Device) : TextureId × Device :=
  (⟨d.hardware.resources.nextTexture⟩,
    { d with hardware.resources := d.hardware.resources.addTexture })

/-! ## Actions -/

/-- Everything that can be done to a device. -/
inductive Action
  | call (c : Command)
  | createBuffer (bytes : List UInt8)
  | createTexture
  | failOn (k : CommandKind)
  | succeedOn (k : CommandKind)
  | lose
  | reset
  | clearCommands

/-- Creates a buffer that holds the bytes of the given data. -/
def Action.createBufferFrom (data : BufferData) : Action := .createBuffer data.toBytes

inductive Answer
  | done
  | called (result : Except DeviceError Unit)
  | buffer (id : BufferId)
  | texture (id : TextureId)

def act (d : Device) : Action → Outcome Device Answer
  | .call c => ⟨.called (d.call c).1, (d.call c).2, []⟩
  | .createBuffer bytes => (d.createBuffer bytes).lift id .buffer
  | .createTexture => ⟨.texture d.createTexture.1, d.createTexture.2, []⟩
  | .failOn k => ⟨.done, { d with hardware.faults := d.hardware.faults.inject k }, []⟩
  | .succeedOn k => ⟨.done, { d with hardware.faults := d.hardware.faults.release k }, []⟩
  | .lose => ⟨.done, { d with hardware.faults.lost := true }, []⟩
  | .reset => ⟨.done, { d with hardware := d.hardware.reset }, []⟩
  | .clearCommands => ⟨.done, { d with commands := #[] }, []⟩

/-- Performs actions one after the other. -/
def run (d : Device) (as : List Action) : Outcome Device (List Answer) := runAll act d as

/-- The actions of a run, each with its answer. -/
def history (d : Device) (as : List Action) : List (Action × Answer) := historyOf act d as

end Device

end LitMesh
