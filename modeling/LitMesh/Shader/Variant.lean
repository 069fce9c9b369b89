import LitMesh.Light
import LitMesh.Material

/-!
# Shader variants

One pixel shader is compiled for each combination of features: how many lights are active, where
specular intensity comes from, whether normals are bumped, and whether a self-illumination map is
sampled. A variant is numbered by writing its features as the digits of a mixed-radix number.
-/

namespace LitMesh

/-! ## Features -/

/-- Where specular intensity comes from: nowhere, a map, a map times the alpha of the specular
color, or the specular color alone. -/
inductive SpecularMode
  | none | texture | mix | color
deriving DecidableEq

namespace SpecularMode

instance : Inhabited SpecularMode := ⟨none⟩

/-- The mode of a material, from its specular map and its specular alpha. -/
def ofFlags : (hasMap hasAlpha : Bool) → SpecularMode
  | true, true => mix
  | true, false => texture
  | false, true => color
  | false, false => none

def ordinal : SpecularMode → Nat
  | none => 0
  | texture => 1
  | mix => 2
  | color => 3

def name : SpecularMode → String
  | none => "None"
  | texture => "Texture"
  | mix => "Mix"
  | color => "Color"

theorem ordinal_lt (s : SpecularMode) : s.ordinal < 4 := by cases s <;> decide

theorem ordinal_injective {s t : SpecularMode} (h : s.ordinal = t.ordinal) : s = t := by
  cases s <;> cases t <;> first | rfl | exact absurd h (by decide)

end SpecularMode

/-- Whether normals are read from a bump map. -/
inductive BumpMode
  | none | specified
deriving DecidableEq

namespace BumpMode

instance : Inhabited BumpMode := ⟨none⟩

def ofFlag : Bool → BumpMode
  | true => specified
  | false => none

def ordinal : BumpMode → Nat
  | none => 0
  | specified => 1

def name : BumpMode → String
  | none => "None"
  | specified => "Specified"

theorem ordinal_lt (b : BumpMode) : b.ordinal < 2 := by cases b <;> decide

theorem ordinal_injective {b c : BumpMode} (h : b.ordinal = c.ordinal) : b = c := by
  cases b <;> cases c <;> first | rfl | exact absurd h (by decide)

end BumpMode

/-! ## Keys -/

/-- The features of one variant. -/
structure VariantKey where
  lights : UInt8
  specular : SpecularMode
  bump : BumpMode
  selfIllum : Bool
deriving DecidableEq

namespace VariantKey

/-- How many variants there are. -/
def count : Nat := (maxPointLights + 1) * 4 * 2 * 2

/-- The key for these features, with no more lights than a view has slots. -/
def new (lights : UInt8) (specular : SpecularMode) (bump : BumpMode) (selfIllum : Bool) :
    VariantKey :=
  ⟨min lights (UInt8.ofNat maxPointLights), specular, bump, selfIllum⟩

/-- The number of a variant, light count first and self-illumination last. -/
def index (k : VariantKey) : Nat :=
  ((k.lights.toNat * 4 + k.specular.ordinal) * 2 + k.bump.ordinal) * 2 + k.selfIllum.toNat

/-- The key numbers a variant that exists. Every key built by `new` does. -/
abbrev InTable (k : VariantKey) : Prop := k.index < count

theorem inTable_of_lights_le {k : VariantKey} (h : k.lights.toNat ≤ maxPointLights) :
    k.InTable := by
  have hs := k.specular.ordinal_lt
  have hb := k.bump.ordinal_lt
  have hi : k.selfIllum.toNat ≤ 1 := Bool.toNat_le k.selfIllum
  simp only [InTable, index, count, maxPointLights] at *
  omega

/-- The number of a variant tells all of its features. -/
theorem index_injective {j k : VariantKey} (h : j.index = k.index) : j = k := by
  obtain ⟨jl, js, jb, ji⟩ := j
  obtain ⟨kl, ks, kb, ki⟩ := k
  have h1 := js.ordinal_lt
  have h2 := ks.ordinal_lt
  have h3 := jb.ordinal_lt
  have h4 := kb.ordinal_lt
  have h5 : ji.toNat ≤ 1 := Bool.toNat_le ji
  have h6 : ki.toNat ≤ 1 := Bool.toNat_le ki
  simp only [index] at h
  have hl : jl = kl := UInt8.toNat_inj.1 (by omega)
  have hs : js = ks := SpecularMode.ordinal_injective (by omega)
  have hb : jb = kb := BumpMode.ordinal_injective (by omega)
  have hi : ji.toNat = ki.toNat := by omega
  have hi : ji = ki := by cases ji <;> cases ki <;> first | rfl | exact absurd hi (by decide)
  rw [hl, hs, hb, hi]

theorem lights_new (l : UInt8) (s : SpecularMode) (b : BumpMode) (i : Bool) :
    (new l s b i).lights.toNat = min l.toNat maxPointLights := by
  show (if l ≤ 3 then l else 3 : UInt8).toNat = min l.toNat 3
  have h3 : (3 : UInt8).toNat = 3 := rfl
  split <;> rename_i h <;> rw [UInt8.le_iff_toNat_le, h3] at h <;> omega

theorem inTable_new (l : UInt8) (s : SpecularMode) (b : BumpMode) (i : Bool) :
    (new l s b i).InTable :=
  inTable_of_lights_le (by rw [lights_new]; exact Nat.min_le_right ..)

instance : ToString VariantKey :=
  ⟨fun k => s!"[lights={k.lights.toNat}, specular={k.specular.name}, bump={k.bump.name}, " ++
    s!"self_illum={k.selfIllum}]"⟩

end VariantKey

/-! ## The variant of a material -/

/-- The variant that draws a material under `active` lights. A count beyond a byte saturates. -/
def variantKey (active : Nat) (m : Material) : VariantKey :=
  .new (UInt8.ofNat (min active 255)) (.ofFlags (m.hasMap .specular) m.specularAlpha)
    (.ofFlag (m.hasMap .bump)) (m.hasMap .selfIllumination)

theorem inTable_variantKey (active : Nat) (m : Material) : (variantKey active m).InTable :=
  VariantKey.inTable_new ..

/-- However many lights are active, the variant counts those that a view has slots for. -/
theorem lights_variantKey (active : Nat) (m : Material) :
    (variantKey active m).lights.toNat = min active maxPointLights := by
  have hbyte : (UInt8.ofNat (min active 255)).toNat = min active 255 :=
    UInt8.toNat_ofNat_of_lt' (Nat.lt_succ_of_le (Nat.min_le_right active 255))
  rw [variantKey, VariantKey.lights_new, hbyte, Nat.min_assoc]
  rfl

end LitMesh
