import LitMesh.Color

/-!
# Point lights

A point light has one number for two purposes: its weight is the light's priority among the slots
of a view and also its intensity. A weight of zero, of either sign, switches the light off.

A view uploads its lights heaviest first. The order is found by exchanging neighbours: three
comparisons settle three slots, and only a strictly heavier light moves forward, so slots of equal
weight stay in slot order. A comparison with a NaN weight never holds and moves nothing.
-/

namespace LitMesh

/-- How many point lights a view has slots for. -/
abbrev maxPointLights : Nat := 3

structure PointLight where
  position : Vec3
  color : Color
  weight : Float32
deriving BEq, DecidableEq

namespace PointLight

/-- A black light at the origin, switched off. -/
def off : PointLight := ⟨.zero, .black, 0⟩

instance : Inhabited PointLight := ⟨off⟩

def isActive (l : PointLight) : Bool := l.weight != 0

/-- The vertex-stage register of the light: its position, and its weight in `w`. -/
def positionRegister (l : PointLight) : Vec4 := l.position.extend l.weight

/-- The color at full intensity, opaque. -/
def weightedColor (l : PointLight) : Color := l.color.scaledRgb l.weight

end PointLight

/-! ## The order of lights -/

/-- One of the light slots of a view. -/
abbrev Slot : Type := Fin maxPointLights

/-- The slots by rank: the slot of rank 0 comes first. -/
abbrev Order : Type := Vector Slot maxPointLights

/-- The light of every slot. -/
abbrev Lights : Type := Vector PointLight maxPointLights

namespace Order

/-- Every slot at its own rank. -/
def slots : Order := #v[0, 1, 2]

/-- Exchanges the slots of ranks `k` and `k + 1` if the later one is strictly heavier. -/
def settle (weight : Slot → Float32) (order : Order) (k : Fin 2) : Order :=
  have h : k.val + 1 < maxPointLights := Nat.succ_lt_succ k.isLt
  if weight order[k.val] < weight order[k.val + 1] then order.swap k (k + 1) else order

/-- The slots by descending weight: the heaviest sinks to rank 0, then the next to rank 1. -/
def byWeight (weight : Slot → Float32) : Order :=
  ([1, 0, 1] : List (Fin 2)).foldl (settle weight) slots

/-- An exchange loses no slot and doubles none. -/
theorem settle_perm (weight : Slot → Float32) (order : Order) (k : Fin 2) :
    (order.settle weight k).toList.Perm order.toList := by
  unfold settle
  dsimp only
  split
  · exact (Vector.swap_perm _ _).toList
  · exact .refl _

/-- Every slot has one rank, whatever the weights. -/
theorem byWeight_perm (weight : Slot → Float32) : (byWeight weight).toList.Perm slots.toList := by
  simp only [byWeight, List.foldl_cons, List.foldl_nil]
  exact ((settle_perm ..).trans (settle_perm ..)).trans (settle_perm ..)

instance : ToString Order := ⟨fun o => s!"[{o[0].val}, {o[1].val}, {o[2].val}]"⟩

end Order

/-- The order of the lights and how many of them are active. -/
structure Resolved where
  order : Order
  active : Nat
deriving DecidableEq

/-- Both halves of a resolution, from the same lights. -/
def Resolved.ofLights (lights : Lights) : Resolved where
  order := .byWeight fun s => lights[s].weight
  active := lights.toList.countP PointLight.isActive

theorem Resolved.active_le (lights : Lights) : (ofLights lights).active ≤ maxPointLights := by
  have := List.countP_le_length (p := PointLight.isActive) (l := lights.toList)
  simpa [ofLights] using this

end LitMesh
