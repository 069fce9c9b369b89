import LitMesh.Config
import LitMesh.Light.Set
import LitMesh.Material

/-!
# Views

A view draws one mesh with one material and up to three point lights. Editing a view touches no
device: what an edit changes takes effect with the next render.
-/

namespace LitMesh

/-- The configuration of a view is usable and stays as it is. -/
structure View where
  mesh : Mesh
  config : Config
  valid : config.Valid
  material : Option Material := none
  ambient : Color := .black
  lights : LightSet := .new
  cullMode : CullMode := .none
  wireframe : Bool := false
deriving DecidableEq

namespace View

/-- A view with the default configuration. -/
def new (mesh : Mesh) : View := { mesh, config := {}, valid := Config.valid_default }

/-- A view with the given configuration, provided it is usable. -/
def ofConfig? (mesh : Mesh) (config : Config) : Except ConfigError View :=
  match h : config.defect? with
  | none => .ok { mesh, config, valid := h }
  | some defect => .error (.invalid defect)

/-- The fill mode that the view asks for. -/
def fillMode (v : View) : FillMode := .ofWireframe v.wireframe

/-- The modes that the view asks for. -/
def modes (v : View) : Modes := ⟨v.cullMode, v.fillMode⟩

/-! ## Edits -/

inductive Edit
  | setMaterial (material : Option Material)
  | setCullMode (mode : CullMode)
  | setWireframe (on : Bool)
  | setAmbient (r g b : Float32)
  | setPointLight (i : Nat) (position : Vec3) (r g b weight : Float32)

/-- Performs an edit. Only a light in a slot that does not exist is refused, and then nothing
changes. -/
def edit (v : View) : Edit → Outcome View (Except LightIndexError Unit)
  | .setMaterial material => ⟨.ok (), { v with material }, []⟩
  | .setCullMode mode => ⟨.ok (), { v with cullMode := mode }, []⟩
  | .setWireframe on => ⟨.ok (), { v with wireframe := on }, []⟩
  | .setAmbient r g b => ⟨.ok (), { v with ambient := .rgb r g b }, []⟩
  | .setPointLight i position r g b weight =>
    match v.lights.set i ⟨position, .rgb r g b, weight⟩ with
    | .ok lights => ⟨.ok (), { v with lights }, []⟩
    | .error e =>
      ⟨.error e, v, [⟨.warn, .view, s!"MeshRenderView: rejected point light: {e.message}"⟩]⟩

end View

end LitMesh
