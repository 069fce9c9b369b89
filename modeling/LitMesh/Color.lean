import LitMesh.Vector

/-!
# Colors

Colors in linear light. Channels are unbounded: a light's color is scaled by its weight before a
shader sees it.
-/

namespace LitMesh

/-- Red, green and blue intensity and an opacity. -/
structure Color where
  r : Float32
  g : Float32
  b : Float32
  a : Float32
deriving BEq, DecidableEq

namespace Color

/-- The opaque color with the given channels. -/
def rgb (r g b : Float32) : Color := ⟨r, g, b, 1⟩

def white : Color := rgb 1 1 1

def black : Color := rgb 0 0 0

instance : Inhabited Color := ⟨black⟩

/-- Scales the three color channels by `s` and makes the result opaque. -/
def scaledRgb (c : Color) (s : Float32) : Color := rgb (c.r * s) (c.g * s) (c.b * s)

def withAlpha (c : Color) (a : Float32) : Color := { c with a }

/-- Scales all four channels by `s`. -/
def scale (c : Color) (s : Float32) : Color := ⟨c.r * s, c.g * s, c.b * s, c.a * s⟩

instance : HMul Color Float32 Color := ⟨scale⟩

/-- The color as a constant register holds it. -/
def toVec4 (c : Color) : Vec4 := ⟨c.r, c.g, c.b, c.a⟩

instance : Coe Color Vec4 := ⟨toVec4⟩

end Color

end LitMesh
