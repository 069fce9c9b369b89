import LitMesh.Proofs.Render.Draw

/-!
# Why steps fail

Every step of a render has a list of causes for which it can fail, and fails with the first of them
that holds (`View.cause?`). All causes are read off the context as it is before the render, the
draw's included: a draw needs both buffers bound, so it fails if a buffer was unbound and cannot be
bound in this render either. A render reports the attempted steps that have a cause, in order, and
no others (`failures_render`).
-/

namespace LitMesh

/-! ## Causes -/

/-- The first cause for which a command of kind `k` is refused: the device is lost, failures of
this kind are injected, or the command has a cause of its own. -/
def Hardware.firstCause (h : Hardware) (k : CommandKind) (own : Option DeviceError) :
    Option DeviceError :=
  if h.faults.lost then some .deviceLost
  else if k ∈ h.faults.injected then some (.rejected k.callName "injected failure")
  else own

/-- The cause of an upload of `count` registers from `first` on to a file of `size` registers. -/
def RegisterFile.cause? (size first count : Nat) : Option DeviceError :=
  if size < first + count then
    some (.registerOutOfRange (UInt32.ofNat first) (UInt32.ofNat count))
  else none

namespace View

/-- The cause for which the vertex buffer of the mesh cannot be bound. -/
def vertexBufferCause? (v : View) (h : Hardware) : Option DeviceError :=
  h.firstCause .setStreamSource
    (if h.resources.hasBuffer v.mesh.vertexBuffer then none else some .invalidHandle)

/-- The cause for which the index buffer of the mesh cannot be bound. -/
def indexBufferCause? (v : View) (h : Hardware) : Option DeviceError :=
  h.firstCause .setIndices
    (if h.resources.hasBuffer v.mesh.indexBuffer then none else some .invalidHandle)

/-- The first cause for which a step fails in a render with material `m` on `c`, if it has one. -/
def cause? (v : View) (m : Material) (c : Context) (step : Step) : Option RenderError :=
  let h := c.device.hardware
  let r := v.config.registers
  let vertexFile := h.vertexRegisters.size
  let pixelFile := h.pixelRegisters.size
  match step with
  | .acquireContext => none
  | .bindVertexFormat => (h.firstCause .setVertexFormat none).map .device
  | .bindVertexProgram => (h.firstCause .setVertexProgram none).map .device
  | .uploadLight rank =>
    (h.firstCause .setVertexConstants
      (RegisterFile.cause? vertexFile (r.lights.toNat + 2 * rank) 2)).map .device
  | .uploadAmbientColor =>
    (h.firstCause .setVertexConstants
      (RegisterFile.cause? vertexFile r.ambientColor.toNat 1)).map .device
  | .uploadMaterialColor =>
    (h.firstCause .setPixelConstants
      (RegisterFile.cause? pixelFile r.constantColor.toNat 1)).map .device
  | .bindPixelShader =>
    match c.shaders.get (v.variant m) (v.inTable_variant m) with
    | .missing => some (.shader (.variantNotFound (v.variant m)))
    | .failed details => some (.shader (.compilationFailed (v.variant m) details))
    | .compiled _ => (h.firstCause .setPixelProgram none).map fun e => .shader (.bindFailed e)
  | .uploadLightColors =>
    (h.firstCause .setPixelConstants
      (RegisterFile.cause? pixelFile r.lightColor.toNat 3)).map .device
  | .bindTexture sampler =>
    (h.firstCause .setTexture
      (match m.map sampler.mapType with
        | some id => if h.resources.hasTexture id then none else some .invalidHandle
        | none => none)).map .device
  | .uploadWorldMatrix =>
    (h.firstCause .setVertexConstants
      (RegisterFile.cause? vertexFile r.worldMatrix.toNat 3)).map .device
  | .setCullMode | .setFillMode => (h.firstCause .setRenderState none).map .device
  | .bindVertexBuffer => (v.vertexBufferCause? h).map .device
  | .bindIndexBuffer => (v.indexBufferCause? h).map .device
  | .draw =>
    (h.firstCause .drawIndexedPrimitive
      (if (h.bindings.streamSource = none ∧ v.vertexBufferCause? h ≠ none) ∨
          (h.bindings.indexBuffer = none ∧ v.indexBufferCause? h ≠ none) then
        some (.rejected "draw_indexed_primitive" "no vertex or index buffer bound")
      else none)).map .device

end View

/-! ## Refusals have first causes -/

theorem RegisterFile.refusal?_eq_cause? (f : RegisterFile) (register : UInt32) (data : List Vec4) :
    f.refusal? register data = RegisterFile.cause? f.size register.toNat data.length := by
  rw [refusal?, RegisterFile.cause?, UInt32.ofNat_toNat]
  by_cases h : register.toNat + data.length ≤ f.size
  · rw [if_pos h, if_neg (by omega)]
  · rw [if_neg h, if_pos (by omega)]

theorem Hardware.refusal?_eq_firstCause (h : Hardware) (c : Command) :
    h.refusal? c = h.firstCause c.kind (h.argumentRefusal? c) := by
  unfold refusal? Faults.refusal? firstCause
  by_cases hlost : h.faults.lost = true
  · simp only [hlost, if_true, Option.some_or]
  · by_cases hk : c.kind ∈ h.faults.injected
    · simp [hlost, hk]
    · simp [hlost, hk]

namespace View

variable {v : View} {m : Material} {c : Context}

/-- A step that gives a plain command fails with the first cause for which that is refused. -/
theorem failure?_of_call {s : Step} {cmd : Command} {own : Option DeviceError}
    (ht : v.task? m c s = some (.call s cmd))
    (hown : c.device.hardware.argumentRefusal? cmd = own) : v.failure? m c s =
      ((c.device.hardware.firstCause cmd.kind own).map .device).map fun e => ⟨s, e⟩ := by
  rw [failure?, ht, ← hown, ← Hardware.refusal?_eq_firstCause]
  rfl

theorem failure?_of_change {s : Step} {ch : StateChange}
    (ht : v.task? m c s = some (.change s ch)) : v.failure? m c s =
      ((c.device.hardware.firstCause .setRenderState none).map .device).map fun e => ⟨s, e⟩ := by
  have hr := c.device.hardware.refusal?_eq_firstCause (.setRenderState ch)
  rw [failure?, ht]
  simp only [Option.bind_some, Task.failure?, Task.step?, Task.error?, hr]
  rfl

theorem failure?_bindPixelShader : v.failure? m c .bindPixelShader =
    (v.cause? m c .bindPixelShader).map fun e => ⟨.bindPixelShader, e⟩ := by
  simp only [failure?, task?, Option.bind_some, Task.failure?, Task.step?, Task.error?, cause?]
  cases c.shaders.get (v.variant m) (v.inTable_variant m) with
  | compiled program =>
    simp only [Hardware.refusal?_eq_firstCause]
    rfl
  | _ => rfl

theorem failure?_eq_cause? {s : Step} (hs : s ∈ v.preparations c) :
    v.failure? m c s = (v.cause? m c s).map fun e => ⟨s, e⟩ := by
  have hrefusal := @RegisterFile.refusal?_eq_cause?
  -- the causes are written down step by step, and so they are compared
  cases s with
  | acquireContext => rfl
  | bindVertexFormat | bindVertexProgram =>
    exact Eq.trans (failure?_of_call rfl rfl) rfl
  | uploadLight rank =>
    have hattempted := ((v.mem_preparations c).1 hs).1
    have hrank := Step.rank_lt_of_mem_pipeline (v.mem_pipeline_of_mem_attempted c hattempted)
    refine Eq.trans (failure?_of_call (dif_pos hrank) (hrefusal _ _ _)) ?_
    rw [toNat_lightRegister]
    rfl
  | uploadAmbientColor | uploadMaterialColor | uploadWorldMatrix =>
    exact Eq.trans (failure?_of_call rfl (hrefusal _ _ _)) rfl
  | uploadLightColors =>
    refine Eq.trans (failure?_of_call rfl (hrefusal _ _ _)) ?_
    rw [length_lightColors]
    rfl
  | bindPixelShader => exact failure?_bindPixelShader
  | bindTexture sampler =>
    refine Eq.trans (failure?_of_call rfl rfl) ?_
    simp only [Hardware.argumentRefusal?, cause?, Command.kind]
    cases m.map sampler.mapType <;> rfl
  | setCullMode | setFillMode => exact failure?_of_change rfl
  | bindVertexBuffer | bindIndexBuffer =>
    exact Eq.trans (failure?_of_call rfl rfl) rfl
  | draw => exact absurd rfl ((v.mem_preparations c).1 hs).2

/-! ## The draw -/

/-- What a command binds is unbound after it if it was unbound before and the command is refused. -/
theorem unbound_exec_iff {α : Type} {h : Hardware} {cmd : Command} (field : Hardware → Option α)
    (hbinds : field (h.apply cmd) ≠ none) :
    field (h.exec cmd).2 = none ↔ field h = none ∧ h.refusal? cmd ≠ none := by
  cases hr : h.refusal? cmd with
  | some e =>
    rw [Hardware.exec_of_refused hr]
    exact ⟨fun hnone => ⟨hnone, nofun⟩, And.left⟩
  | none =>
    rw [Hardware.exec_of_accepted hr]
    exact ⟨fun hnone => absurd hnone hbinds, fun hboth => absurd rfl hboth.2⟩

theorem streamSource_prepared : (v.prepared m c).bindings.streamSource = none ↔
    c.device.hardware.bindings.streamSource = none ∧
      v.vertexBufferCause? c.device.hardware ≠ none := by
  let bind := Command.setStreamSource 0 v.mesh.vertexBuffer 0 v.config.vertexStride
  have hmem : .bindVertexBuffer ∈ v.preparations c := List.mem_filter.2 ⟨by decide, rfl⟩
  have hread : (v.prepared m c).bindings.streamSource =
      (c.device.hardware.exec bind).2.bindings.streamSource :=
    read_prepared_of_mem_target (l := .streamSource) hmem rfl (List.mem_singleton_self _)
  have hcause : v.vertexBufferCause? c.device.hardware = c.device.hardware.refusal? bind := by
    rw [Hardware.refusal?_eq_firstCause]
    rfl
  rw [hread, hcause]
  exact unbound_exec_iff (·.bindings.streamSource) nofun

theorem indexBuffer_prepared : (v.prepared m c).bindings.indexBuffer = none ↔
    c.device.hardware.bindings.indexBuffer = none ∧
      v.indexBufferCause? c.device.hardware ≠ none := by
  let bind := Command.setIndices v.mesh.indexBuffer
  have hmem : .bindIndexBuffer ∈ v.preparations c := List.mem_filter.2 ⟨by decide, rfl⟩
  have hread : (v.prepared m c).bindings.indexBuffer =
      (c.device.hardware.exec bind).2.bindings.indexBuffer :=
    read_prepared_of_mem_target (l := .indexBuffer) hmem rfl (List.mem_singleton_self _)
  have hcause : v.indexBufferCause? c.device.hardware = c.device.hardware.refusal? bind := by
    rw [Hardware.refusal?_eq_firstCause]
    rfl
  rw [hread, hcause]
  exact unbound_exec_iff (·.bindings.indexBuffer) nofun

/-- The draw fails with its first cause, though its buffers are bound by earlier steps. -/
theorem refusal?_prepared :
    ((v.prepared m c).refusal? (.drawIndexedPrimitive v.drawCall)).map .device =
      v.cause? m c .draw := by
  -- the faults are those of the first context, and so is everything that the bindings depend on
  have hfaults : (v.prepared m c).faults = c.device.hardware.faults := (v.alike_prepared m c).faults
  have hown : (v.prepared m c).argumentRefusal? (.drawIndexedPrimitive v.drawCall) =
      if (c.device.hardware.bindings.streamSource = none ∧
          v.vertexBufferCause? c.device.hardware ≠ none) ∨
        (c.device.hardware.bindings.indexBuffer = none ∧
          v.indexBufferCause? c.device.hardware ≠ none) then
        some (.rejected "draw_indexed_primitive" "no vertex or index buffer bound")
      else none := by
    simp only [← streamSource_prepared (m := m), ← indexBuffer_prepared (m := m),
      Hardware.argumentRefusal?]
    cases (v.prepared m c).bindings.streamSource <;>
      cases (v.prepared m c).bindings.indexBuffer <;> simp [CommandKind.callName]
  rw [Hardware.refusal?_eq_firstCause, hown, Hardware.firstCause, hfaults]
  rfl

/-! ## The report -/

theorem failures_draw_eq : (v.draw m c).answer.failures =
    (v.attempted c).filterMap fun s => (v.cause? m c s).map fun e => ⟨s, e⟩ := by
  have hbefore : (v.preparations c).filterMap (v.failure? m c) =
      (v.preparations c).filterMap fun s => (v.cause? m c s).map fun e => ⟨s, e⟩ :=
    List.filterMap_congr fun s hs => failure?_eq_cause? hs
  have hdraw : ((v.prepared m c).refusal? (.drawIndexedPrimitive v.drawCall)).map
      (fun e => (⟨.draw, .device e⟩ : Failure)) =
        (v.cause? m c .draw).map fun e => ⟨.draw, e⟩ := by
    rw [← refusal?_prepared, Option.map_map]
    rfl
  rw [failures_draw, hbefore, hdraw, attempted_eq, List.filterMap_append]
  cases he : v.cause? m c .draw <;> simp [he]

theorem mem_failures_draw {f : Failure} : f ∈ (v.draw m c).answer.failures ↔
    f.step ∈ v.attempted c ∧ v.cause? m c f.step = some f.error := by
  rw [failures_draw_eq, List.mem_filterMap]
  constructor
  · rintro ⟨s, hs, hf⟩
    obtain ⟨e, he, rfl⟩ := Option.map_eq_some_iff.1 hf
    exact ⟨hs, he⟩
  · rintro ⟨hs, he⟩
    exact ⟨f.step, hs, by rw [he]; rfl⟩

/-- **Why steps fail.** A render attempts the steps of its plan and reports, in order, those that
have a cause, each with its first cause. It is clean if no attempted step has one. -/
theorem failures_render (hm : v.material = some m) (c : Context) :
    (v.plan m c).filterMap Task.step? = v.attempted c ∧
    (v.render c false).answer.failures =
      ((v.attempted c).filterMap fun s => (v.cause? m c s).map fun e => ⟨s, e⟩) ∧
    (∀ s e, ⟨s, e⟩ ∈ (v.render c false).answer.failures ↔
      s ∈ v.attempted c ∧ v.cause? m c s = some e) ∧
    ((v.render c false).answer.isClean = true ↔ ∀ s ∈ v.attempted c, v.cause? m c s = none) := by
  rw [render_of_material hm]
  refine ⟨v.filterMap_step?_plan m c, failures_draw_eq, ?_, ?_⟩
  · intro s e
    exact mem_failures_draw
  · have hclean : (v.draw m c).answer.isClean = (v.draw m c).answer.failures.isEmpty := by
      have hskipped : (v.draw m c).answer.skipped = false := Pass.skipped_performAll ..
      rw [Report.isClean, hskipped]
      rfl
    rw [hclean, List.isEmpty_iff, failures_draw_eq, List.filterMap_eq_nil_iff]
    simp only [Option.map_eq_none_iff]

/-- A fresh device has no buffers to bind, so nothing is drawn. -/
theorem failures_render_new :
    let v := { View.new ⟨.phong, ⟨1⟩, ⟨2⟩, 4, 6⟩ with material := some default }
    ⟨.draw, .device (.rejected "draw_indexed_primitive" "no vertex or index buffer bound")⟩ ∈
      (v.render .new false).answer.failures := by
  intro v
  obtain ⟨-, -, hmem, -⟩ := failures_render (v := v) rfl .new
  exact (hmem _ _).2 ⟨by decide, rfl⟩

end View

end LitMesh
