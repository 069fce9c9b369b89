import LitMesh.Config.Layout
import LitMesh.Mesh

/-!
# View configurations

What a view has to know beyond its mesh: the register layout of the shaders and the distance between
vertices. The defaults fit the stock shaders and the vertices of a lit mesh.
-/

namespace LitMesh

structure Config where
  registers : Layout := {}
  vertexStride : UInt32 := VertexFormat.phong.stride
deriving DecidableEq

/-- Why a configuration cannot be had. -/
inductive ConfigError
  /-- The text is malformed. -/
  | parse
  /-- The configuration is unusable. -/
  | invalid (defect : Defect)
deriving DecidableEq

namespace ConfigError

/-- The message for an unusable configuration, given what is wrong with it. -/
def invalidMessage (reason : String) : String := s!"invalid mesh view config: {reason}"

def message : ConfigError → String
  | parse => "failed to parse mesh view config"
  | invalid defect => invalidMessage defect.message

end ConfigError

namespace Config

instance : Inhabited Config := ⟨{}⟩

/-- The first defect of a configuration, if it has one. -/
def defect? (c : Config) : Option Defect :=
  if c.vertexStride = 0 then some .zeroStride else c.registers.defect?

/-- The configuration can be used. -/
def Valid (c : Config) : Prop := c.defect? = none

instance (c : Config) : Decidable c.Valid := inferInstanceAs (Decidable (_ = _))

theorem valid_default : Valid {} := by decide

/-- Accepts a usable configuration. -/
def validate (c : Config) : Except ConfigError Config :=
  match c.defect? with
  | none => .ok c
  | some defect => .error (.invalid defect)

end Config

end LitMesh
