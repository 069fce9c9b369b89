import LitMesh.Proofs.Render.Alike
import LitMesh.Proofs.Scene.Lights
import LitMesh.Proofs.Scene.Undrawn

/-!
# Views keep out of each other's way

Views share a device, a shader table and a cache, and each leaves its traces there. Yet what one
view does reaches the others in a few places only. Take everything out of a run that was done to one
view: the others are as before at any time (`Beside.run`), and their renders report the same and
write the same, but for the modes, which depend on the cache, and for a draw whose buffers could not
be bound, which makes do with those of the view before (`apart_run`).
-/

namespace LitMesh

/-! ## Reports -/

/-- The reports agree: on everything but the modes and the number of their changes, and on the draw
unless the first of them says that a buffer could not be bound. -/
structure Report.Agrees (r r' : Report) : Prop where
  skipped : r.skipped = r'.skipped
  drawIssued : r.drawIssued = r'.drawIssued
  lightsResorted : r.lightsResorted = r'.lightsResorted
  failures : ∀ f : Failure, f.step ≠ .setCullMode → f.step ≠ .setFillMode →
    (f.step = .draw →
      ∀ g ∈ r.failures, g.step ≠ .bindVertexBuffer ∧ g.step ≠ .bindIndexBuffer) →
    (f ∈ r.failures ↔ f ∈ r'.failures)

theorem Report.Agrees.refl (r : Report) : r.Agrees r := ⟨rfl, rfl, rfl, fun _ _ _ _ => .rfl⟩

namespace View

variable {c c' : Context}

theorem agrees_draw (v : View) (m : Material) (a : c.Alike c') :
    (v.draw m c).answer.Agrees (v.draw m c').answer where
  skipped := (v.skipped_draw m c).trans (v.skipped_draw m c').symm
  drawIssued := rfl
  lightsResorted := rfl
  failures _ := mem_failures_draw_congr a

theorem render_congr (v : View) (a : c.Alike c') (busy : Bool) :
    (v.render c busy).state.1 = (v.render c' busy).state.1 ∧
      (v.render c busy).answer.Agrees (v.render c' busy).answer := by
  cases hm : v.material with
  | none =>
    simp only [render, hm]
    exact ⟨trivial, .refl _⟩
  | some m =>
    cases busy with
    | true =>
      simp only [render, hm]
      exact ⟨rfl, .refl _⟩
    | false =>
      rw [render_of_material hm, render_of_material hm]
      exact ⟨rfl, v.agrees_draw m a⟩

end View

namespace Scene

variable {s s' : Scene} {other : Nat} {a : Action}

/-! ## Steps -/

/-- The action is done to the view in the given place. -/
def Action.uses (place : Nat) : Action → Bool
  | .context _ => false
  | .edit p _ | .render p _ => p = place

/-- The scenes have the same views, but for one place, and contexts that are alike. -/
structure Beside (other : Nat) (s s' : Scene) : Prop where
  context : s.context.Alike s'.context
  views : ∀ place ≠ other, s.view? place = s'.view? place

namespace Beside

theorem refl (other : Nat) (s : Scene) : Beside other s s := ⟨.refl s.context, fun _ _ => rfl⟩

theorem setView (h : Beside other s s') {place : Nat} {v : View} (hv : s.view? place = some v)
    (hv' : s'.view? place = some v) (w : View) {c c' : Context} (hc : c.Alike c') :
    Beside other { s.setView place w with context := c }
      { s'.setView place w with context := c' } where
  context := hc
  views p hp := by
    have hset := view?_setView hv w p
    have hset' := view?_setView hv' w p
    rw [← h.views p hp] at hset'
    exact hset.trans hset'.symm

theorem setView_other (h : Beside other s s') {v : View} (hv : s.view? other = some v) (w : View)
    {c : Context} (hc : c.Alike s'.context) :
    Beside other { s.setView other w with context := c } s' where
  context := hc
  views p hp := ((view?_setView hv w p).trans (if_neg hp.symm)).trans (h.views p hp)

/-- What is done to both scenes, and not to the view in the other place. -/
theorem act (h : Beside other s s') (ha : a.uses other = false) :
    Beside other (s.act a).state (s'.act a).state := by
  cases a with
  | context a => exact ⟨h.context.act a, h.views⟩
  | edit p e =>
    have hp : p ≠ other := by simpa [Action.uses] using ha
    cases hv : s.view? p with
    | none =>
      have hv' : s'.view? p = none := (h.views p hp).symm.trans hv
      simp only [Scene.act, hv, hv']
      exact h
    | some v =>
      have hv' : s'.view? p = some v := (h.views p hp).symm.trans hv
      rw [act_edit hv, act_edit hv']
      exact h.setView hv hv' _ h.context
  | render p busy =>
    have hp : p ≠ other := by simpa [Action.uses] using ha
    cases hv : s.view? p with
    | none =>
      have hv' : s'.view? p = none := (h.views p hp).symm.trans hv
      simp only [Scene.act, hv, hv']
      exact h
    | some v =>
      have hv' : s'.view? p = some v := (h.views p hp).symm.trans hv
      obtain ⟨hview, -⟩ := v.render_congr h.context busy
      have hcontext := (v.alike_render s.context busy).trans
        (h.context.trans (v.alike_render s'.context busy).symm)
      rw [act_render_eq hv, act_render_eq hv']
      simp only [Outcome.lift, ← hview]
      exact h.setView hv hv' _ hcontext

/-- What is done to the view in the other place, and in one scene only. -/
theorem act_other (h : Beside other s s') (ha : a.uses other = true) :
    Beside other (s.act a).state s' := by
  cases a with
  | context a => cases ha
  | edit p e =>
    obtain rfl : p = other := by simpa [Action.uses] using ha
    cases hv : s.view? p with
    | none =>
      simp only [Scene.act, hv]
      exact h
    | some v =>
      rw [act_edit hv]
      exact h.setView_other hv _ h.context
  | render p busy =>
    obtain rfl : p = other := by simpa [Action.uses] using ha
    cases hv : s.view? p with
    | none =>
      simp only [Scene.act, hv]
      exact h
    | some v =>
      rw [act_render_eq hv]
      exact h.setView_other hv _ ((v.alike_render s.context busy).trans h.context)

/-! ## Runs -/

theorem run (h : Beside other s s') (as : List Action) :
    Beside other (s.run as).state (s'.run (as.filter fun a => !a.uses other)).state := by
  induction as generalizing s s' with
  | nil => exact h
  | cons a rest ih =>
    cases ha : a.uses other with
    | true =>
      rw [List.filter_cons_of_neg (by simp [ha])]
      exact ih (h.act_other ha)
    | false =>
      rw [List.filter_cons_of_pos (by simp [ha])]
      exact ih (h.act ha)

end Beside

/-- **Views that share a context do not interfere.** Whatever is done to a scene, take out of it
what is done to one view. Then at any time every other view is as before, and renders as before: its
report agrees, and every step of its draw that does not fail writes the same, the modes and the draw
itself excepted. -/
theorem apart_run (s : Scene) (other : Nat) (past : List Action) :
    let full := (s.run past).state
    let without := (s.run (past.filter fun a => !a.uses other)).state
    ∀ place ≠ other, full.view? place = without.view? place ∧
      ∀ v, full.view? place = some v → ∀ busy,
        let o := v.render full.context busy
        let o' := v.render without.context busy
        o.state.1 = o'.state.1 ∧ o.answer.Agrees o'.answer ∧
          (o.answer.drawIssued = true → ∀ step ∈ Step.pipeline,
            step ≠ .setCullMode → step ≠ .setFillMode → step ≠ .draw →
              (∀ f ∈ o.answer.failures, f.step ≠ step) → ∀ l ∈ v.target step,
                o.state.2.device.hardware.read l = o'.state.2.device.hardware.read l) := by
  intro full without place hplace
  have hbeside : Beside other full without := (Beside.refl other s).run past
  refine ⟨hbeside.views place hplace, ?_⟩
  intro v hv busy o o'
  obtain ⟨hview, hagrees⟩ := v.render_congr hbeside.context busy
  refine ⟨hview, hagrees, ?_⟩
  intro hdrawn step hstep hcull hfill hdraw hclear l hl
  rw [View.drawIssued_render] at hdrawn
  obtain ⟨hsome, hfree⟩ := Bool.and_eq_true_iff.1 hdrawn
  obtain ⟨m, hm⟩ := Option.isSome_iff_exists.1 hsome
  obtain rfl : busy = false := by simpa using hfree
  simp only [o, o', View.render_of_material hm] at hclear ⊢
  have hattempted (c : Context) : step ∈ v.attempted c := (View.mem_attempted hcull hfill).2 hstep
  exact View.read_draw_congr hbeside.context ((v.mem_preparations _).2 ⟨hattempted _, hdraw⟩)
    ((v.mem_preparations _).2 ⟨hattempted _, hdraw⟩)
    (View.cause?_eq_none (hattempted _) hclear) hl

/-- Another view draws with a map of its own, textures begin to fail, and the other view changes its
mode. The first view reports the same failures as without it, and binds the same vertex format. -/
theorem apart_run_maps :
    let v := { View.new ⟨.phong, ⟨1⟩, ⟨2⟩, 4, 6⟩ with material := some default }
    let w := { v with material := some (Material.withMap default .diffuse ⟨7⟩) }
    let s : Scene := ⟨{ device := .ofSizes 0 0, shaders := .empty ⟨0⟩ }, [some v, some w]⟩
    let past := [.render 1 false, .context (.device (.failOn .setTexture)),
      .edit 1 (.setCullMode .back), .render 1 false]
    let o := v.render (s.run past).state.context false
    let o' := v.render (s.run [.context (.device (.failOn .setTexture))]).state.context false
    o.answer.Agrees o'.answer ∧
      o.state.2.device.hardware.read .vertexFormat =
        o'.state.2.device.hardware.read .vertexFormat := by
  intro v w s past o o'
  obtain ⟨-, hrender⟩ := apart_run s 1 past 0 (by decide)
  obtain ⟨-, hagrees, hwrites⟩ := hrender v rfl false
  have hbeside := (Beside.refl 1 s).run past
  have hwithout : past.filter (fun a => !a.uses 1) =
    [.context (.device (.failOn .setTexture))] := rfl
  rw [hwithout] at hagrees hwrites hbeside
  refine ⟨hagrees, ?_⟩
  simp only [o, o']
  refine hwrites (v.drawIssued_render _ false) .bindVertexFormat (by decide) nofun nofun nofun ?_ _
    (List.mem_singleton_self _)
  intro f hf hstep
  rw [View.render_of_material rfl] at hf
  obtain ⟨-, hcause⟩ := View.mem_failures_draw.1 hf
  rw [hstep, View.cause?_congr hbeside.context (by decide)] at hcause
  cases hcause

end Scene

end LitMesh
