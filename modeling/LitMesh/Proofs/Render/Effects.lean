import LitMesh.Proofs.Device.Registers
import LitMesh.Proofs.Render.Draw

/-!
# What the steps of a render achieve

Every step has an effect that it is meant to have on the device (`View.Effect`), and a report of a
render can be taken at its word (`effect_render`): a step that is not among the failures has its
whole effect in the device as the render leaves it, and a step that is among them has left its
locations alone. A change of mode that was not attempted counts among the former: if the cache
agreed with the device, then the mode was right already.
-/

namespace LitMesh

/-- The file holds `data` in consecutive registers from `start` on. -/
def RegisterFile.Holds (f : RegisterFile) (start : Nat) (data : List Vec4) : Prop :=
  ∀ i (h : i < data.length), f.registers[start + i]? = some data[i]

theorem RegisterFile.Holds.get?_add {f : RegisterFile} {start : UInt32} {data : List Vec4}
    (h : f.Holds start.toNat data) (hstop : start.toNat + data.length ≤ 4294967295) {i : Nat}
    (hi : i < data.length) : f.get? (start + UInt32.ofNat i) = some data[i] := by
  rw [RegisterFile.get?_add _ (by omega), h i hi]

theorem RegisterFile.holds_of_eq_write {f g : RegisterFile} {start : Nat} {data : List Vec4}
    (hfit : start + data.length ≤ f.size)
    (hg : ∀ i < data.length, g.registers[start + i]? = (f.write start data).registers[start + i]?) :
    g.Holds start data := by
  intro i hi
  rw [hg i hi, getElem?_write_inside _ _ _ hfit hi, List.getElem?_eq_getElem hi]

namespace View

/-- What the device `h` is like after a step of a render with material `m` on `c`, if the step
succeeded and nothing has undone it. -/
def Effect (v : View) (m : Material) (c : Context) (h : Hardware) (step : Step) : Prop :=
  let r := v.config.registers
  match step with
  | .acquireContext => True
  | .bindVertexFormat => h.bindings.vertexFormat = some v.mesh.vertexFormat
  | .bindVertexProgram => h.bindings.vertexProgram = some c.shaders.vertexProgram
  | .uploadLight rank =>
    ∀ slot : Slot, slot.val = rank →
      let light := v.lights.lights.get (v.lights.resolved.answer.order.get slot)
      h.vertexRegisters.Holds (r.lights.toNat + 2 * rank)
        [light.position.extend light.weight, ⟨light.color.r, light.color.g, light.color.b, 1⟩]
  | .uploadAmbientColor =>
    h.vertexRegisters.Holds r.ambientColor.toNat [⟨v.ambient.r, v.ambient.g, v.ambient.b, 1⟩]
  | .uploadMaterialColor =>
    h.pixelRegisters.Holds r.constantColor.toNat [m.diffuseColor.toVec4]
  | .bindPixelShader => ∃ program,
    c.shaders.get (v.variant m) (v.inTable_variant m) = .compiled program ∧
      h.bindings.pixelProgram = some program
  | .uploadLightColors =>
    h.pixelRegisters.Holds r.lightColor.toNat (v.lights.lights.toList.map fun light =>
      ⟨light.color.r * light.weight, light.color.g * light.weight, light.color.b * light.weight, 1⟩)
  | .bindTexture sampler => h.bindings.textures.get sampler.index = m.map sampler.mapType
  | .uploadWorldMatrix =>
    h.vertexRegisters.Holds r.worldMatrix.toNat
      [c.world.transpose.row0, c.world.transpose.row1, c.world.transpose.row2]
  | .setCullMode => h.bindings.modes.cull = v.cullMode
  | .setFillMode => h.bindings.modes.fill = v.fillMode
  | .bindVertexBuffer =>
    h.bindings.streamSource = some ⟨v.mesh.vertexBuffer, 0, v.config.vertexStride⟩
  | .bindIndexBuffer => h.bindings.indexBuffer = some v.mesh.indexBuffer
  | .draw => h.drawCount = c.device.hardware.drawCount + 1

variable {v : View} {m : Material} {c : Context}

/-! ## Steps that succeed and steps that fail -/

theorem failure?_eq_map {s : Step} {t : Task} (ht : v.task? m c s = some t) :
    v.failure? m c s = (t.error? c).map (⟨s, ·⟩) := by
  rw [failure?, ht, Option.bind_some, Task.failure?, v.step?_of_task? m c ht]
  rfl

theorem step_of_failure? {s : Step} {f : Failure} (hf : v.failure? m c s = some f) :
    f.step = s := by
  obtain ⟨t, ht, -⟩ := Option.bind_eq_some_iff.1 hf
  rw [failure?_eq_map ht] at hf
  obtain ⟨e, -, rfl⟩ := Option.map_eq_some_iff.1 hf
  rfl

theorem failure?_eq_none_iff {s : Step} (hs : s ∈ Step.pipeline) :
    v.failure? m c s = none ↔
      ∃ cmd, v.command? m c s = some cmd ∧ c.device.hardware.refusal? cmd = none := by
  obtain ⟨t, ht⟩ := v.exists_task_of_mem_pipeline m c hs
  rw [failure?_eq_map ht, Option.map_eq_none_iff, Task.error?_eq_none_iff (v.step?_of_task? m c ht)]
  simp only [command?, ht, Option.bind_some]

/-- A step before the draw is reported if and only if it fails on the first context. -/
theorem exists_mem_failures_draw {s : Step} (hs : s ∈ v.preparations c) :
    (∃ f ∈ (v.draw m c).answer.failures, f.step = s) ↔ v.failure? m c s ≠ none := by
  obtain ⟨-, hne⟩ := (v.mem_preparations c).1 hs
  rw [failures_draw]
  constructor
  · rintro ⟨f, hf, rfl⟩
    -- an entry for a step before the draw cannot be the one of the draw
    rcases List.mem_append.1 hf with hf | hf
    · obtain ⟨t, -, ht⟩ := List.mem_filterMap.1 hf
      obtain rfl := step_of_failure? ht
      rw [ht]
      exact nofun
    · obtain ⟨e, -, rfl⟩ := Option.map_eq_some_iff.1 (Option.mem_toList.1 hf)
      exact absurd rfl hne
  · intro hfails
    obtain ⟨f, hf⟩ := Option.ne_none_iff_exists'.1 hfails
    exact ⟨f, List.mem_append_left _ (List.mem_filterMap.2 ⟨s, hs, hf⟩), step_of_failure? hf⟩

theorem read_draw_of_failed {s : Step} {l : Location} (hs : s ∈ v.preparations c)
    (hfails : v.failure? m c s ≠ none) (hl : l ∈ v.target s) :
    (v.draw m c).state.2.device.hardware.read l = c.device.hardware.read l := by
  obtain ⟨hattempted, hne⟩ := (v.mem_preparations c).1 hs
  have hpipeline := v.mem_pipeline_of_mem_attempted c hattempted
  -- a step without a command wrote nothing, and neither did a command that was refused
  cases hcmd : v.command? m c s with
  | none =>
    refine read_draw_of_owner fun t _ ht => ?_
    obtain rfl : s = t := Option.some.inj ((v.owner_of_mem_target hpipeline hl).symm.trans ht)
    exact hcmd
  | some cmd =>
    rw [read_draw_of_mem_target hattempted hne hcmd hl]
    cases hr : c.device.hardware.refusal? cmd with
    | none => exact absurd ((failure?_eq_none_iff hpipeline).2 ⟨cmd, hcmd, hr⟩) hfails
    | some e => rw [Hardware.exec_of_refused hr]

/-! ## Effects -/

theorem holds_of_read_vertex {before after : Hardware} {register : UInt32} {data : List Vec4}
    (hr : before.refusal? (.setVertexConstants register data) = none)
    (hread : ∀ l ∈ Location.vertexBlock register.toNat data.length,
      after.read l = (before.apply (.setVertexConstants register data)).read l) :
    after.vertexRegisters.Holds register.toNat data := by
  have hfit := RegisterFile.refusal?_eq_none_iff.1 (Option.or_eq_none_iff.1 hr).2
  refine RegisterFile.holds_of_eq_write hfit fun i hi => ?_
  have hmem : .vertexRegister (register.toNat + i) ∈
      Location.vertexBlock register.toNat data.length :=
    Location.mem_vertexBlock.2 ⟨_, rfl, by omega, by omega⟩
  exact hread _ hmem

theorem holds_of_read_pixel {before after : Hardware} {register : UInt32} {data : List Vec4}
    (hr : before.refusal? (.setPixelConstants register data) = none)
    (hread : ∀ l ∈ Location.pixelBlock register.toNat data.length,
      after.read l = (before.apply (.setPixelConstants register data)).read l) :
    after.pixelRegisters.Holds register.toNat data := by
  have hfit := RegisterFile.refusal?_eq_none_iff.1 (Option.or_eq_none_iff.1 hr).2
  refine RegisterFile.holds_of_eq_write hfit fun i hi => ?_
  have hmem : .pixelRegister (register.toNat + i) ∈
      Location.pixelBlock register.toNat data.length :=
    Location.mem_pixelBlock.2 ⟨_, rfl, by omega, by omega⟩
  exact hread _ hmem

theorem effect_of_read {s : Step} {cmd : Command} {h : Hardware} (hs : s ∈ v.preparations c)
    (hcmd : v.command? m c s = some cmd) (hr : c.device.hardware.refusal? cmd = none)
    (hread : ∀ l ∈ v.target s, h.read l = (c.device.hardware.apply cmd).read l) :
    v.Effect m c h s := by
  obtain ⟨hattempted, hne⟩ := (v.mem_preparations c).1 hs
  rw [← v.target_of_command? m c hcmd] at hread
  -- the effect of a step is what its own command leaves in the locations of the step
  cases s with
  | acquireContext => trivial
  | uploadLight rank =>
    rintro slot rfl
    obtain rfl : Command.setVertexConstants (v.lightRegister slot) _ = cmd := by
      simpa only [command?, task?, dif_pos slot.isLt, Option.bind_some, Task.command?,
        Option.some.injEq] using hcmd
    have hholds := holds_of_read_vertex hr hread
    rw [toNat_lightRegister] at hholds
    exact hholds
  | uploadAmbientColor | uploadWorldMatrix =>
    obtain rfl := Option.some.inj hcmd
    exact holds_of_read_vertex hr hread
  | uploadMaterialColor | uploadLightColors =>
    obtain rfl := Option.some.inj hcmd
    exact holds_of_read_pixel hr hread
  | bindPixelShader =>
    obtain ⟨program, hprogram, rfl⟩ := Option.map_eq_some_iff.1 hcmd
    refine ⟨program, ?_, hread .pixelProgram (List.mem_singleton_self _)⟩
    simp only [VariantTable.program?] at hprogram
    split at hprogram
    · rename_i hget
      rw [hget, Option.some.inj hprogram]
    · cases hprogram
  | bindTexture sampler =>
    obtain rfl := Option.some.inj hcmd
    exact (hread (.texture sampler) (List.mem_singleton_self _)).trans (Vector.getElem_set_self _)
  | draw => exact absurd rfl hne
  | _ =>
    obtain rfl := Option.some.inj hcmd
    exact hread _ (List.mem_singleton_self _)

theorem drawCount_prepared : (v.prepared m c).drawCount = c.device.hardware.drawCount := by
  refine Hardware.read_execAll_of_notMem (l := .drawCount) fun cmd hcmd hmem => ?_
  obtain ⟨s, hs, hcmd⟩ := List.mem_filterMap.1 hcmd
  obtain ⟨hattempted, hne⟩ := (v.mem_preparations c).1 hs
  rw [v.target_of_command? m c hcmd] at hmem
  have hdraw := v.owner_of_mem_target (v.mem_pipeline_of_mem_attempted c hattempted) hmem
  exact hne (Option.some.inj hdraw).symm

theorem drawCount_draw : (v.draw m c).state.2.device.hardware.drawCount =
    if (v.prepared m c).refusal? (.drawIndexedPrimitive v.drawCall) = none then
      c.device.hardware.drawCount + 1
    else c.device.hardware.drawCount := by
  rw [hardware_draw_eq_exec, ← drawCount_prepared (m := m)]
  cases hr : (v.prepared m c).refusal? (.drawIndexedPrimitive v.drawCall) with
  | none => rw [Hardware.exec_of_accepted hr]; rfl
  | some e => rw [Hardware.exec_of_refused hr]; rfl

/-- A step that was attempted before the draw and is not reported has its effect, whatever the cache
says. -/
theorem effect_draw_of_mem_preparations {s : Step} (hs : s ∈ v.preparations c)
    (hclear : ∀ f ∈ (v.draw m c).answer.failures, f.step ≠ s) :
    v.Effect m c (v.draw m c).state.2.device.hardware s := by
  obtain ⟨hattempted, hdraw⟩ := (v.mem_preparations c).1 hs
  have hunreported : ¬ ∃ f ∈ (v.draw m c).answer.failures, f.step = s := fun ⟨f, hf, hstep⟩ =>
    hclear f hf hstep
  rw [exists_mem_failures_draw hs, not_not,
    failure?_eq_none_iff (v.mem_pipeline_of_mem_attempted c hattempted)] at hunreported
  obtain ⟨cmd, hcmd, hr⟩ := hunreported
  refine effect_of_read hs hcmd hr fun l hl => ?_
  rw [read_draw_of_mem_target hattempted hdraw hcmd hl, Hardware.exec_of_accepted hr]

/-- A step that is reported was attempted and has left its locations alone. -/
theorem read_draw_of_reported {f : Failure} (hf : f ∈ (v.draw m c).answer.failures) :
    f.step ∈ v.attempted c ∧ ∀ l ∈ v.target f.step,
      (v.draw m c).state.2.device.hardware.read l = c.device.hardware.read l := by
  have hf' := hf
  rw [failures_draw] at hf'
  rcases List.mem_append.1 hf' with hbefore | hlast
  · obtain ⟨s, hs, hsf⟩ := List.mem_filterMap.1 hbefore
    obtain rfl := step_of_failure? hsf
    have hfails := (exists_mem_failures_draw hs).1 ⟨f, hf, rfl⟩
    exact ⟨((v.mem_preparations c).1 hs).1, fun l hl => read_draw_of_failed hs hfails hl⟩
  · obtain ⟨e, he, rfl⟩ := Option.map_eq_some_iff.1 (Option.mem_toList.1 hlast)
    have hattempted : .draw ∈ v.attempted c := List.mem_filter.2 ⟨by decide, rfl⟩
    refine ⟨hattempted, fun l hl => ?_⟩
    obtain rfl := List.mem_singleton.1 hl
    exact drawCount_draw.trans (if_neg (by rw [he]; exact nofun))

end View

end LitMesh
