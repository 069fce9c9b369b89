import LitMesh.Config.Ron
import LitMesh.Scene

/-!
# The demo

The front and the back face of a cube, textured, in four frames under two or three lights. The demo
reads a configuration, renders on a fresh context, and tells in its log what the device got to see.
-/

namespace LitMesh.Demo

/-! ## Input -/

/-- Where the configuration comes from: there is none, or a file with these bytes, if it could be
read. -/
inductive Input
  | default
  | file (path : String) (bytes : Option ByteArray)

/-- Why the demo ends early. -/
inductive Failure
  | unreadable (path : String)
  | unusable (path : String) (cause : ConfigError)
deriving DecidableEq

def Failure.message : Failure → String
  | unreadable path => s!"failed to read {path}"
  | unusable path _ => s!"failed to load mesh view config from {path}"

/-- A view of the mesh whose configuration is that of the input. -/
def Input.view (mesh : Mesh) : Input → Except Failure View
  | default => .ok (.new mesh)
  | file path bytes =>
    match bytes.bind String.fromUTF8? with
    | none => .error (.unreadable path)
    | some source =>
      match (Config.ofRon? source).bind (View.ofConfig? mesh) with
      | .ok v => .ok v
      | .error cause => .error (.unusable path cause)

/-! ## The cube -/

/-- The corners of the front and the back face: position, texture coordinates, normal frame. -/
def vertices : List (List Float32) :=
  [[-0.5, -0.5, 0.5, 0, 1, 0, 0, 0, 1],
    [0.5, -0.5, 0.5, 1, 1, 0, 0, 0, 1],
    [0.5, 0.5, 0.5, 1, 0, 0, 0, 0, 1],
    [-0.5, 0.5, 0.5, 0, 0, 0, 0, 0, 1],
    [-0.5, -0.5, -0.5, 1, 1, 0, 1, 0, 0],
    [0.5, -0.5, -0.5, 0, 1, 0, 1, 0, 0],
    [0.5, 0.5, -0.5, 0, 0, 0, 1, 0, 0],
    [-0.5, 0.5, -0.5, 1, 0, 0, 1, 0, 0]]

/-- Two triangles for each face. -/
def indices : List UInt16 := [0, 1, 2, 2, 3, 0, 5, 4, 7, 7, 6, 5]

/-- What the demo draws with. -/
structure Stock where
  device : Device
  mesh : Mesh
  diffuse : TextureId
  specular : TextureId

/-- Creates the buffers and the textures on a fresh device. -/
def stock : Outcome Stock Unit :=
  let patterns := vertices.flatten.map Float32.toBits
  let vb := Device.new.createBuffer (BufferData.words32 patterns).toBytes
  let ib := vb.state.createBuffer (BufferData.words16 indices).toBytes
  let (diffuse, d) := ib.state.createTexture
  let (specular, d) := d.createTexture
  ⟨(), ⟨d, ⟨.phong, vb.answer, ib.answer, UInt32.ofNat vertices.length,
    UInt32.ofNat indices.length⟩, diffuse, specular⟩, vb.log ++ ib.log⟩

/-- A matt surface with a diffuse and a specular map. -/
def material (s : Stock) : Material :=
  { diffuseColor := .rgb 0.8 0.7 0.6 : Material }
    |>.withMap .diffuse s.diffuse |>.withMap .specular s.specular

/-! ## Frames -/

/-- The scene before the first frame. -/
def opening (s : Stock) (v : View) : Scene :=
  let scene : Scene :=
    { context := { device := s.device, shaders := .full ⟨0⟩ }, views := [some v] }
  (scene.run [.edit 0 (.setMaterial (some (material s))),
    .edit 0 (.setAmbient 0.1 0.1 0.15),
    .edit 0 (.setCullMode .back),
    .edit 0 (.setPointLight 0 ⟨2, 2, 2⟩ 1 1 1 1),
    .edit 0 (.setPointLight 1 ⟨-2, 1, 0⟩ 1 0.5 0.2 3)]).state

/-- What changes from one frame to the next. -/
def edits : Nat → List View.Edit
  | 1 => [.setPointLight 2 ⟨0, 4, 0⟩ 0.2 0.2 1 2]
  | 2 => [.setWireframe true]
  | 3 => [.setMaterial none]
  | _ => []

/-- The log entries that sum up a frame. -/
def summary (frame : Nat) (report : Report) (c : Context) : List Record :=
  let uploads := c.device.count .setVertexConstants + c.device.count .setPixelConstants
  let totals : Record := ⟨.info, .demo,
    s!"frame {frame}: drawn={report.drawIssued} resorted={report.lightsResorted} " ++
    s!"state_changes={report.stateChanges} failures={report.failures.length} " ++
    s!"commands={c.device.commands.size} constant_uploads={uploads}"⟩
  let shader := c.shaders.lastBound.toList.map fun key =>
    (⟨.info, .demo, s!"frame {frame}: pixel shader {key}"⟩ : Record)
  let failures := report.failures.map fun f =>
    (⟨.warn, .demo, s!"frame {frame}: {f.step.name} failed: {f.error.message}"⟩ : Record)
  totals :: shader ++ failures

/-- Renders one frame. -/
def drawFrame (s : Scene) (frame : Nat) : Outcome Scene Unit :=
  let o := s.run ([.context (.device .clearCommands),
      .context (.setWorld (.translation ⟨Float32.ofNat frame, 0, -5⟩))] ++
    (edits frame).map (.edit 0) ++ [.render 0 false])
  let reports := o.answer.filterMap fun
    | .rendered report => some report
    | _ => none
  ⟨(), o.state, o.log ++ reports.flatMap fun r => summary frame r o.state.context⟩

/-- Renders frames one after the other. -/
def drawFrames (s : Scene) : List Nat → Outcome Scene Unit
  | [] => ⟨(), s, []⟩
  | frame :: rest =>
    let first := drawFrame s frame
    let later := drawFrames first.state rest
    ⟨(), later.state, first.log ++ later.log⟩

/-! ## The run -/

/-- The records of a run of the demo. -/
def run (input : Input) : Except Failure (List Record) :=
  match input.view stock.state.mesh with
  | .error e => .error e
  | .ok v =>
    let shown : Record := ⟨.info, .demo, "Using mesh view config:\n" ++ v.config.toRon⟩
    let frames := drawFrames (opening stock.state v) (List.range 4)
    let draws := frames.state.context.device.hardware.drawCount.toNat
    let done : Record := ⟨.info, .demo, s!"Done: {draws} draw call(s) reached the device."⟩
    .ok (shown :: stock.log ++ frames.log ++ [done])

end LitMesh.Demo
