import LitMesh.Proofs.Light.Active
import LitMesh.Proofs.Render.Commands
import LitMesh.Proofs.Render.Domain

/-!
# What the shader sees of the lights

A render uploads all lights by rank and binds a shader that looks at as many of them as are active.
The shader sees the active lights and no others if these come first. That is the case exactly if no
light of negative weight stands beside one that is off (`active_lights_lead_iff`): such a light is
counted as active, but the one that is off goes before it.
-/

namespace LitMesh

/-- **The shader sees just the active lights, unless a light of negative weight stands beside one
that is off.** Take a light set that has come about in any way, with weights that are numbers. The
slots counted from the front of its order on are those of nonzero weight exactly if no weight is
negative or none is zero. The same holds of the ranks whose lights a render shows: it uploads each
light to the registers of its rank, and binds a variant that counts as many lights as are active. -/
theorem active_lights_lead_iff :
    (∀ (as : List LightRack.Action) (n : Nat),
      let s := (runAll LightRack.act LightRack.new as).state n
      let weight : Slot → Float32 := fun k => (s.lights.get k).weight
      let r := s.resolved.answer
      (∀ k, (weight k).isNaN = false) →
        ((∀ k, k ∈ r.order.toList.take r.active ↔ (weight k != 0) = true) ↔
          (∀ k, ¬ weight k < 0) ∨ ∀ k, (weight k != 0) = true)) ∧
    ∀ (v : View) (m : Material) (c : Context), v.Reachable → v.material = some m →
      let light : Slot → PointLight := v.lights.lights.get
      let r := v.lights.resolved.answer
      let key := variantKey r.active m
      let program? := c.shaders.program? key (inTable_variantKey r.active m)
      (∀ k, (light k).weight.isNaN = false) →
        ∃ sent, (v.render c false).state.2.device.commands.toList =
            c.device.commands.toList ++ sent ∧
          sent.filter (fun cmd => cmd.kind = .setPixelProgram) =
            program?.toList.map .setPixelProgram ∧
          key.lights.toNat = r.active ∧
          sent.filter (fun cmd => cmd.kind = .setVertexConstants) =
            ((List.finRange 3).map fun rank => .setVertexConstants
              (UInt32.ofNat (v.config.registers.lights.toNat + 2 * rank.val))
              [(light (r.order.get rank)).positionRegister,
                ((light (r.order.get rank)).color.withAlpha 1).toVec4]) ++
            [.setVertexConstants v.config.registers.ambientColor [(v.ambient.withAlpha 1).toVec4],
              .setVertexConstants v.config.registers.worldMatrix
                (c.world.transpose.rows.take 3)] ∧
          ((∀ rank : Slot, rank.val < r.active ↔ (light (r.order.get rank)).isActive = true) ↔
            (∀ k, ¬ (light k).weight < 0) ∨ ∀ k, (light k).isActive = true) := by
  refine ⟨fun as n => ?_, fun v m c hv hm => ?_⟩
  · intro s weight r hweight
    have hr : r = .ofLights s.lights := (LightRack.follows_run as n).answer_resolved
    rw [hr]
    exact Resolved.take_active_iff hweight
  · intro light r key program? hweight
    -- what a view resolves is the order of its lights, whatever became of it before
    have hr : r = .ofLights v.lights.lights := hv.answer_resolved
    have hlights : key.lights.toNat = r.active := by
      rw [lights_variantKey, hr, Nat.min_eq_left (Resolved.active_le _)]
    refine ⟨v.commands m c.shaders c.cache c.world, ?_,
      View.filter_commands_pixelProgram c.shaders c.cache c.world, hlights, ?_, ?_⟩
    · rw [View.render_of_material hm, View.commands_draw, View.filterMap_command?_attempted]
    · rw [View.filter_commands_vertexConstants]
      simp only [View.lightRegister_eq]
      rfl
    · rw [hr]
      exact Resolved.lt_active_iff hweight

/-- Two lights of positive weight are the two that count; a single one of negative weight is not
shown by the render that counts it. -/
theorem active_lights_lead_iff_two :
    let s := (runAll LightRack.act LightRack.new
      [.set 0 2 ⟨.zero, .white, 5⟩, .set 0 1 ⟨.zero, .white, 2⟩]).state 0
    let v := ((View.new ⟨.phong, ⟨1⟩, ⟨2⟩, 4, 6⟩).edit (.setMaterial (some default))).state
    let w := (v.edit (.setPointLight 0 .zero 1 1 1 (-1))).state
    (∀ k, k ∈ s.resolved.answer.order.toList.take s.resolved.answer.active ↔
      ((s.lights.get k).weight != 0) = true) ∧
    w.Reachable ∧ ¬ ∀ rank : Slot, rank.val < w.lights.resolved.answer.active ↔
      (w.lights.lights.get (w.lights.resolved.answer.order.get rank)).isActive = true := by
  intro s v w
  obtain ⟨hsets, hviews⟩ := active_lights_lead_iff
  have hw : w.Reachable := .edited _ (.edited _ (.new _))
  obtain ⟨sent, -, -, -, -, hranks⟩ := hviews w default .new hw rfl (by decide)
  refine ⟨(hsets _ 0 (by decide)).2 (.inl (by decide)), hw, fun hlead => ?_⟩
  exact absurd (hranks.1 hlead) (by decide)

/-- If a light of negative weight stands alone, then the one light that counts is off. -/
theorem active_lights_do_not_always_lead :
    ¬ ∀ (as : List LightRack.Action) (n : Nat),
      let s := (runAll LightRack.act LightRack.new as).state n
      let weight : Slot → Float32 := fun k => (s.lights.get k).weight
      let r := s.resolved.answer
      (∀ k, (weight k).isNaN = false) →
        ∀ k, k ∈ r.order.toList.take r.active ↔ (weight k != 0) = true := by
  intro h
  have hfirst := h [.set 0 0 ⟨.zero, .white, -1⟩] 0 (by decide) 0
  exact absurd (hfirst.2 (by decide)) (by decide)

end LitMesh
