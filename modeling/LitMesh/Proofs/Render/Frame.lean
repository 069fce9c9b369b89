import LitMesh.Proofs.Render.Alike

/-!
# What a render leaves alone

A render writes the registers of its five blocks and what is bound for a draw. A location of the
device that no step owns is as it was (`View.read_render_of_owner`); so is what no location holds,
since contexts stay alike (`View.alike_render`); and of the view a render touches nothing but what
its lights remember of their order (`View.view_render`).
-/

namespace LitMesh.View

variable {v : View} {c : Context} {busy : Bool}

theorem owner_vertexRegister {i : Nat}
    (hlights : i < v.config.registers.lights.toNat ∨ v.config.registers.lights.toNat + 6 ≤ i)
    (hambient : i ≠ v.config.registers.ambientColor.toNat)
    (hworld : i < v.config.registers.worldMatrix.toNat ∨
      v.config.registers.worldMatrix.toNat + 3 ≤ i) : v.owner (.vertexRegister i) = none := by
  simp only [owner]
  rw [if_neg (by omega), if_neg hambient, if_neg (by omega)]

theorem owner_pixelRegister {i : Nat} (hconstant : i ≠ v.config.registers.constantColor.toNat)
    (hcolors : i < v.config.registers.lightColor.toNat ∨
      v.config.registers.lightColor.toNat + 3 ≤ i) : v.owner (.pixelRegister i) = none := by
  simp only [owner]
  rw [if_neg hconstant, if_neg (by omega)]

theorem read_render_of_owner {l : Location} (hl : v.owner l = none) :
    (v.render c busy).state.2.device.hardware.read l = c.device.hardware.read l := by
  simp only [render]
  split
  · rfl
  · split
    · rfl
    · refine read_draw_of_owner fun s _ hs => ?_
      rw [hl] at hs
      cases hs

theorem view_render (v : View) (c : Context) (busy : Bool) : (v.render c busy).state.1 = v ∨
    (v.render c busy).state.1 = { v with lights := v.lights.resolveOrder.state } := by
  simp only [render]
  split
  · exact .inl rfl
  · split
    · exact .inl rfl
    · exact .inr rfl

/-- **A render writes nothing outside its blocks.** Take any view and any context, whatever the
sizes of the register files, whatever has failed before or fails now. Every vertex register outside
of the blocks of lights, ambient color and world matrix is as it was, and so is every pixel register
outside of those of constant color and light colors. Resources and the numbers to be given out, the
failures in force, the entries of the shader table and the world transform stay. Of the view only
the order of the lights, their count and the mark of being stale change. -/
theorem render_frame (v : View) (c : Context) (busy : Bool) :
    let registers := v.config.registers
    let before := c.device.hardware
    let after := (v.render c busy).state.2
    (∀ i : Nat, (i < registers.lights.toNat ∨ registers.lights.toNat + 6 ≤ i) →
      i ≠ registers.ambientColor.toNat →
      (i < registers.worldMatrix.toNat ∨ registers.worldMatrix.toNat + 3 ≤ i) →
      after.device.hardware.vertexRegisters.registers[i]? = before.vertexRegisters.registers[i]?) ∧
    (∀ i : Nat, i ≠ registers.constantColor.toNat →
      (i < registers.lightColor.toNat ∨ registers.lightColor.toNat + 3 ≤ i) →
      after.device.hardware.pixelRegisters.registers[i]? = before.pixelRegisters.registers[i]?) ∧
    after.device.hardware.vertexRegisters.size = before.vertexRegisters.size ∧
    after.device.hardware.pixelRegisters.size = before.pixelRegisters.size ∧
    after.device.hardware.resources = before.resources ∧
    after.device.hardware.faults = before.faults ∧
    after.shaders.variants = c.shaders.variants ∧
    after.shaders.vertexProgram = c.shaders.vertexProgram ∧ after.world = c.world ∧
    ∃ last stale,
      (v.render c busy).state.1 = { v with lights := ⟨v.lights.lights, last, stale⟩ } := by
  intro registers before after
  have halike : after.Alike c := v.alike_render c busy
  refine ⟨fun i hlights hambient hworld => ?_, fun i hconstant hcolors => ?_,
    halike.hardware.vertexSize, halike.hardware.pixelSize, halike.hardware.resources,
    halike.hardware.faults, halike.variants, halike.vertexProgram, halike.world, ?_⟩
  · exact read_render_of_owner (owner_vertexRegister hlights hambient hworld)
  · exact read_render_of_owner (owner_pixelRegister hconstant hcolors)
  -- of the view, at most the remembered order and its mark are new
  · rcases v.view_render c busy with h | h
    · exact ⟨v.lights.last, v.lights.stale, h⟩
    · refine ⟨v.lights.resolveOrder.state.last, v.lights.resolveOrder.state.stale, ?_⟩
      rw [h, ← v.lights.lights_resolveOrder]

/-- The register behind the world matrix is not touched by a matrix that has four rows. -/
theorem render_frame_fourth_row :
    let v := { View.new ⟨.phong, ⟨1⟩, ⟨2⟩, 4, 6⟩ with material := some default }
    (v.render .new false).state.2.device.hardware.vertexRegisters.registers[33]? =
      Context.new.device.hardware.vertexRegisters.registers[33]? := by
  intro v
  obtain ⟨hvertex, -⟩ := render_frame v .new false
  exact hvertex 33 (.inr (by decide)) (by decide) (.inr (by decide))

end LitMesh.View
