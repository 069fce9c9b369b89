import LitMesh.Proofs.Light.Weight
import LitMesh.Proofs.Render.Effects
import LitMesh.Proofs.Scene.Lights
import LitMesh.Proofs.Scene.Undrawn

/-!
# What inactive lights contribute

A render uploads the weighted colors of all lights in slot order, for the pixel stage to add up. An
inactive light takes part in that, with its color times zero. A zero leaves a zero of every finite
factor, but of an infinite one it leaves NaN, as of NaN itself (`Binary32.mul_zero`), and a view
takes colors as they come. So the register of an inactive light is opaque, and it is black exactly
in the channels in which the color is finite (`Scene.inactive_black_iff`).
-/

namespace LitMesh

/-! ## Products with zero -/

namespace Binary32

open Float.Model (Format UnpackedFloat)
open Float.Model.UnpackedFloat (Sign)

theorem unpacked_mul_zero (spec : Format) (a : UnpackedFloat) (s : Sign) :
    (a.isFinite = true ∧ ∃ t, a.mul spec (.zero s) = .zero t) ∨
      (a.isFinite = false ∧ a.mul spec (.zero s) = .notANumber) := by
  cases a with
  | zero t | finite t => exact .inl ⟨rfl, t * s, rfl⟩
  | infinity | notANumber => exact .inr ⟨rfl, rfl⟩

/-- Times a zero of either sign, a finite number is a zero and anything else is NaN. -/
theorem mul_zero (x : Float32) {w : Float32} (hw : (w == 0) = true) :
    (x * w == 0) = x.isFinite ∧ (x * w).isNaN = !x.isFinite := by
  obtain ⟨s, hs⟩ := Weight.exists_unpack_eq_zero hw
  have hmul : x * w = .ofModel (.pack (x.toModel.unpack.mul .binary32 (.zero s))) :=
    congrArg (fun u => Float32.ofModel (.pack (x.toModel.unpack.mul .binary32 u))) hs
  rcases unpacked_mul_zero .binary32 x.toModel.unpack s with ⟨hx, t, ht⟩ | ⟨hx, hnan⟩
  · rw [hmul, ht, show x.isFinite = true from hx]
    cases t <;> decide
  · rw [hmul, hnan, show x.isFinite = false from hx]
    decide

end Binary32

/-! ## Lights -/

namespace PointLight

theorem entry_weightedColor (l : PointLight) (k : Fin 3) :
    l.weightedColor.toVec4.entry k.castSucc = l.color.toVec4.entry k.castSucc * l.weight := by
  match k with
  | 0 => rfl
  | 1 => rfl
  | 2 => rfl

theorem beq_zero_of_inactive {l : PointLight} (h : l.isActive = false) :
    (l.weight == 0) = true := by
  simpa [isActive, bne] using h

end PointLight

theorem View.answer_setPointLight_eq_ok_iff (v : View) (i : Nat) (position : Vec3)
    (r g b weight : Float32) :
    (v.edit (.setPointLight i position r g b weight)).answer = .ok () ↔ i < maxPointLights := by
  simp only [edit]
  by_cases hi : i < maxPointLights
  · rw [LightSet.set_of_lt hi]
    exact iff_of_true rfl hi
  · rw [LightSet.set_of_le (Nat.not_lt.1 hi)]
    refine iff_of_false (fun h => ?_) hi
    cases h

/-! ## Registers -/

theorem View.get?_lightColor_render {v : View} {c : Context} {busy : Bool}
    (hissued : (v.render c busy).answer.drawIssued = true)
    (hclear : ∀ f ∈ (v.render c busy).answer.failures, f.step ≠ .uploadLightColors) (slot : Slot) :
    (v.render c busy).state.2.device.hardware.pixelRegisters.get?
      (v.config.registers.lightColor + UInt32.ofNat slot) =
      some (v.lights.lights.get slot).weightedColor.toVec4 := by
  rw [drawIssued_render] at hissued
  obtain ⟨m, hdraw⟩ := exists_draw_of_canDraw hissued c
  rw [hdraw] at hclear ⊢
  have hprep : .uploadLightColors ∈ v.preparations c :=
    (v.mem_preparations c).2 ⟨List.mem_filter.2 ⟨by decide, rfl⟩, nofun⟩
  have hholds : (v.draw m c).state.2.device.hardware.pixelRegisters.Holds
      v.config.registers.lightColor.toNat v.lightColors :=
    effect_draw_of_mem_preparations hprep hclear
  -- a usable block ends within the register numbers
  have hstop := Layout.stop_le v.valid.registers .lightColor
  have hlength := v.length_lightColors
  rw [hholds.get?_add (by rw [hlength]; exact hstop) (by rw [hlength]; exact slot.isLt)]
  simp only [lightColors, List.getElem_map]
  rfl

/-! ## Runs -/

namespace Scene

theorem get?_lightColor_act {s : Scene} {place : Nat} {v : View} (hv : s.view? place = some v)
    (busy : Bool) (hissued : (v.render s.context busy).answer.drawIssued = true)
    (hclear : ∀ f ∈ (v.render s.context busy).answer.failures, f.step ≠ .uploadLightColors)
    (slot : Slot) :
    (s.act (.render place busy)).state.context.device.hardware.pixelRegisters.get?
      (v.config.registers.lightColor + UInt32.ofNat slot) =
      some (v.lights.lights.get slot).weightedColor.toVec4 := by
  rw [act_render_eq hv]
  exact View.get?_lightColor_render hissued hclear slot

/-- **An inactive light is black exactly where its color is finite.** Take a view that was new to
begin with, in any scene and after any run. It accepts any light for a slot that exists. Take a
render that draws it and does not report the upload of the light colors. If the light placed last in
a slot is inactive, then the register of that slot is opaque. Whatever the position of the light and
the sign of its weight, a channel of the register compares equal to zero if that of the color is
finite, and is NaN if it is not. -/
theorem inactive_black_iff (s : Scene) (place : Nat) (v : View) (hv : s.view? place = some v)
    (hnew : v.lights = .new) (as : List Action) (busy : Bool) :
    let before := (s.run as).state
    let rendered := before.act (.render place busy)
    let lights := LightEvent.lightsAfter (lightEvents place (s.history as))
    ∃ w report, before.view? place = some w ∧ rendered.answer = .rendered report ∧
      (∀ i position r g b weight,
        (w.edit (.setPointLight i position r g b weight)).answer = .ok () ↔ i < 3) ∧
      (report.drawIssued = true → (∀ f ∈ report.failures, f.step ≠ .uploadLightColors) →
        ∀ slot, (lights.get slot).isActive = false →
          ∃ register, rendered.state.context.device.hardware.pixelRegisters.get?
              (w.config.registers.lightColor + UInt32.ofNat slot) = some register ∧
            register.w = 1 ∧
            ∀ k : Fin 3,
              let channel := (lights.get slot).color.toVec4.entry k.castSucc
              let rest := register.entry k.castSucc
              (rest == 0) = channel.isFinite ∧ rest.isNaN = !channel.isFinite) := by
  intro before rendered lights
  obtain ⟨w, hw, hfollows⟩ := lightsFollow_run hv hnew as
  have hanswer : rendered.answer = .rendered (w.render before.context busy).answer :=
    congrArg Outcome.answer (act_render_eq hw busy)
  refine ⟨w, _, hw, hanswer, w.answer_setPointLight_eq_ok_iff, ?_⟩
  intro hissued hclear slot hinactive
  have hget := get?_lightColor_act hw busy hissued hclear slot
  rw [hfollows.lights] at hget
  refine ⟨(lights.get slot).weightedColor.toVec4, hget, rfl, ?_⟩
  -- each channel is that of the light times a zero
  intro k channel rest
  have hrest : rest = channel * (lights.get slot).weight :=
    PointLight.entry_weightedColor (lights.get slot) k
  rw [hrest]
  exact Binary32.mul_zero channel (PointLight.beq_zero_of_inactive hinactive)

/-- A light of weight `-0` that is finite in red, infinite in green and NaN in blue. -/
theorem inactive_black_iff_red :
    let v := { View.new ⟨.phong, ⟨1⟩, ⟨2⟩, 4, 6⟩ with material := some default }
    let c : Context := { device := .ofSizes 0 7, shaders := .empty ⟨0⟩ }
    let e := View.Edit.setPointLight 2 ⟨1, 2, 3⟩ (-2) (1 / 0) (0 / 0) (-0)
    ∃ register, ((run ⟨c, [some v]⟩ [.edit 0 e]).state.act
        (.render 0 false)).state.context.device.hardware.pixelRegisters.get? 6 = some register ∧
      (register.x == 0) = true ∧ register.y.isNaN = true ∧ register.z.isNaN = true ∧
      register.w = 1 := by
  intro v c e
  let w := (v.edit e).state
  have hclear : ∀ f ∈ (w.render c false).answer.failures, f.step ≠ .uploadLightColors := by
    decide +kernel
  have hnumber : w.config.registers.lightColor + UInt32.ofNat (2 : Slot) = 6 := by decide
  obtain ⟨w', report, hw, hanswer, -, hregisters⟩ :=
    inactive_black_iff ⟨c, [some v]⟩ 0 v rfl rfl [.edit 0 e] false
  obtain rfl : w = w' := Option.some.inj hw
  obtain rfl : (w.render c false).answer = report := Answer.rendered.inj hanswer
  obtain ⟨register, hget, halpha, hchannels⟩ := hregisters rfl hclear 2 (by decide)
  rw [hnumber] at hget
  refine ⟨register, hget, ?_, ?_, ?_, halpha⟩
  · exact (hchannels 0).1.trans (by decide +kernel)
  · exact (hchannels 1).2.trans (by decide +kernel)
  · exact (hchannels 2).2.trans (by decide +kernel)

/-- If a light is switched off but its color is infinite, then its slot is not black. -/
theorem inactive_not_always_black :
    ¬ ∀ (s : Scene) (place : Nat) (v : View), s.view? place = some v → v.lights = .new →
      ∀ (as : List Action) (busy : Bool) (w : View) (report : Report),
        let before := (s.run as).state
        let rendered := before.act (.render place busy)
        let lights := LightEvent.lightsAfter (lightEvents place (s.history as))
        before.view? place = some w → rendered.answer = .rendered report →
        report.drawIssued = true → (∀ f ∈ report.failures, f.step ≠ .uploadLightColors) →
        ∀ slot, (lights.get slot).isActive = false →
          ∃ register, rendered.state.context.device.hardware.pixelRegisters.get?
              (w.config.registers.lightColor + UInt32.ofNat slot) = some register ∧
            (register == Color.black.toVec4) = true := by
  intro h
  let v := { View.new ⟨.phong, ⟨1⟩, ⟨2⟩, 4, 6⟩ with material := some default }
  let s : Scene := ⟨{ device := .ofSizes 0 7, shaders := .empty ⟨0⟩ }, [some v]⟩
  let e := View.Edit.setPointLight 0 .zero (1 / 0) 1 1 0
  let w := (v.edit e).state
  have hw : (s.run [.edit 0 e]).state.view? 0 = some w := rfl
  have hclear : ∀ f ∈ (w.render (s.run [.edit 0 e]).state.context false).answer.failures,
      f.step ≠ .uploadLightColors := by decide +kernel
  obtain ⟨register, hget, hblack⟩ :=
    h s 0 v rfl rfl [.edit 0 e] false w (w.render (s.run [.edit 0 e]).state.context false).answer
      hw rfl rfl hclear 0 (by decide)
  have hcolor := get?_lightColor_act hw false rfl hclear 0
  obtain rfl := Option.some.inj (hget.symm.trans hcolor)
  exact absurd hblack (by decide +kernel)

end Scene

end LitMesh
