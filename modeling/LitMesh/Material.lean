import LitMesh.Color
import LitMesh.Device.State

/-!
# Materials

A material is a solid color, up to four texture maps, and a flag that says whether its specular
color has a meaningful alpha. Each map has a sampler of its own.
-/

namespace LitMesh

/-! ## Maps -/

/-- What a texture map of a material is for. -/
inductive MapType
  | diffuse | specular | bump | selfIllumination
deriving DecidableEq

namespace MapType

/-- The maps in sampler order. -/
def all : List MapType := [diffuse, specular, bump, selfIllumination]

/-- The sampler that reads a map. -/
def sampler : MapType → Sampler
  | diffuse => .diffuse
  | specular => .specular
  | bump => .bumpHeight
  | selfIllumination => .selfIllumination

def name : MapType → String
  | diffuse => "Diffuse"
  | specular => "Specular"
  | bump => "Bump"
  | selfIllumination => "SelfIllumination"

theorem sampler_injective {a b : MapType} (h : a.sampler = b.sampler) : a = b := by
  cases a <;> cases b <;> first | rfl | exact absurd h (by decide)

end MapType

/-! ## Materials -/

/-- The maps are kept by the number of their sampler. -/
structure Material where
  diffuseColor : Color
  specularAlpha : Bool := false
  maps : Vector (Option TextureId) 4 := Vector.replicate 4 none
deriving BEq, DecidableEq

namespace Material

/-- Plain white without maps. -/
instance : Inhabited Material := ⟨{ diffuseColor := .white }⟩

/-- The texture of a map, if it has one. -/
def map (m : Material) (t : MapType) : Option TextureId := m.maps[t.sampler.index]

def hasMap (m : Material) (t : MapType) : Bool := (m.map t).isSome

/-- Replaces the texture of a map, or takes it away. -/
def setMap (m : Material) (t : MapType) (texture : Option TextureId) : Material :=
  { m with maps := m.maps.set t.sampler.index texture }

def withMap (m : Material) (t : MapType) (texture : TextureId) : Material :=
  m.setMap t (some texture)

def withSpecularAlpha (m : Material) (on : Bool) : Material := { m with specularAlpha := on }

def withColor (m : Material) (c : Color) : Material := { m with diffuseColor := c }

/-- Writing one map is seen there and nowhere else. -/
theorem map_setMap (m : Material) (t u : MapType) (texture : Option TextureId) :
    (m.setMap t texture).map u = if t = u then texture else m.map u := by
  simp only [map, setMap, Fin.getElem_fin, Vector.getElem_set]
  by_cases h : t = u
  · rw [if_pos h, if_pos (by rw [h])]
  · rw [if_neg h, if_neg]
    exact fun hi => h (MapType.sampler_injective (Sampler.index_injective (Fin.ext hi)))

end Material

/-! ## Edits -/

/-- One edit of a material. -/
inductive MaterialEdit
  | setMap (t : MapType) (texture : Option TextureId)
  | withMap (t : MapType) (texture : TextureId)
  | withSpecularAlpha (on : Bool)
  | withColor (c : Color)

def Material.edit (m : Material) : MaterialEdit → Material
  | .setMap t texture => m.setMap t texture
  | .withMap t texture => m.withMap t texture
  | .withSpecularAlpha on => m.withSpecularAlpha on
  | .withColor c => m.withColor c

end LitMesh
