import LitMesh.Light
import LitMesh.Log

/-!
# Light sets

The lights of one view, together with the last order that was worked out for them. Writing a light
marks that order stale, and it is worked out again only when somebody asks for it. Sets are values:
any number of them can be kept, copied and exchanged side by side.
-/

namespace LitMesh

/-- A light was addressed in a slot that does not exist. -/
structure LightIndexError where
  index : Nat
  max : Nat
deriving DecidableEq

def LightIndexError.message (e : LightIndexError) : String :=
  s!"light index {e.index} is out of range (expected 0..{e.max})"

structure LightSet where
  lights : Lights
  last : Resolved
  stale : Bool
deriving DecidableEq

namespace LightSet

/-- Three lights that are off, not yet resolved. -/
def new : LightSet := ⟨Vector.replicate maxPointLights .off, ⟨.slots, 0⟩, true⟩

instance : Inhabited LightSet := ⟨new⟩

/-- The light in slot `i`, if there is one. -/
def get? (s : LightSet) (i : Nat) : Option PointLight := s.lights[i]?

/-- Replaces the light in slot `i` and marks the order stale. -/
def set (s : LightSet) (i : Nat) (light : PointLight) : Except LightIndexError LightSet :=
  if h : i < maxPointLights then
    .ok { s with lights := s.lights.set i light, stale := true }
  else
    .error ⟨i, maxPointLights⟩

/-- Works the order out again if it is stale; answers whether it did. -/
def resolveOrder (s : LightSet) : Outcome LightSet Bool :=
  if s.stale then
    let now := Resolved.ofLights s.lights
    ⟨true, { s with last := now, stale := false },
      [⟨.trace, .lights, s!"LightSet: re-sorted lights {now.order}, {now.active} active"⟩]⟩
  else
    ⟨false, s, []⟩

/-- Resolves the set if need be and answers the order and the number of active lights. -/
def resolved (s : LightSet) : Outcome LightSet Resolved :=
  let o := s.resolveOrder
  ⟨o.state.last, o.state, o.log⟩

theorem lights_resolveOrder (s : LightSet) : s.resolveOrder.state.lights = s.lights := by
  unfold resolveOrder
  split <;> rfl

theorem stale_resolveOrder (s : LightSet) : s.resolveOrder.state.stale = false := by
  unfold resolveOrder
  split
  · rfl
  · rename_i h
    simpa using h

end LightSet

/-! ## Many sets -/

/-- Light sets under numbers. -/
abbrev LightRack : Type := Nat → LightSet

namespace LightRack

/-- A rack of fresh sets. -/
def new : LightRack := fun _ => .new

/-- Puts something else under one number. -/
def put {α : Type} (f : Nat → α) (n : Nat) (a : α) : Nat → α := fun k => if k = n then a else f k

@[simp] theorem put_self {α : Type} (f : Nat → α) (n : Nat) (a : α) : put f n a n = a :=
  if_pos rfl

theorem put_of_ne {α : Type} (f : Nat → α) {n k : Nat} (a : α) (h : k ≠ n) : put f n a k = f k :=
  if_neg h

inductive Action
  | set (n i : Nat) (light : PointLight)
  | resolveOrder (n : Nat)
  | resolved (n : Nat)
  | clone (source target : Nat)
  | exchange (m n : Nat)

inductive Answer
  | done
  | refused (e : LightIndexError)
  | flag (b : Bool)
  | order (r : Resolved)

/-- Performs one action on the sets that it names. -/
def act (r : LightRack) : Action → Outcome LightRack Answer
  | .set n i light =>
    match (r n).set i light with
    | .ok s => ⟨.done, put r n s, []⟩
    | .error e => ⟨.refused e, r, []⟩
  | .resolveOrder n => (r n).resolveOrder.lift (put r n) .flag
  | .resolved n => (r n).resolved.lift (put r n) .order
  | .clone source target => ⟨.done, put r target (r source), []⟩
  | .exchange m n => ⟨.done, put (put r m (r n)) n (r m), []⟩

end LightRack

end LitMesh
