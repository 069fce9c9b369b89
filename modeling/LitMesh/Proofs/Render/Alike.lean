import LitMesh.Proofs.Render.Effects
import LitMesh.Proofs.Render.Failures

/-!
# Renders on contexts that are alike

What one render leaves behind on a context is little to the next: contexts stay alike whatever is
rendered on them (`View.alike_render`), and whatever else is done to both (`Context.Alike.act`). On
contexts that are alike a render fails the same steps for the same reasons
(`View.mem_failures_draw_congr`), and those that succeed write the same (`View.read_draw_congr`).
Only the modes are an exception, since the cache decides which of them are set, and the draw, if the
buffers of the mesh cannot be bound.
-/

namespace LitMesh

/-! ## Contexts -/

namespace Context

variable {c c' : Context}

namespace Alike

theorem refl (c : Context) : c.Alike c := ⟨.refl _, rfl, rfl, rfl⟩

theorem symm (a : c.Alike c') : c'.Alike c :=
  ⟨a.hardware.symm, a.variants.symm, a.vertexProgram.symm, a.world.symm⟩

theorem trans {c₁ c₂ c₃ : Context} (a : c₁.Alike c₂) (b : c₂.Alike c₃) : c₁.Alike c₃ :=
  ⟨a.hardware.trans b.hardware, a.variants.trans b.variants,
    a.vertexProgram.trans b.vertexProgram, a.world.trans b.world⟩

theorem withDevice (a : c.Alike c') {d d' : Device} (hd : d.hardware.Alike d'.hardware) :
    Alike { c with device := d } { c' with device := d' } :=
  ⟨hd, a.variants, a.vertexProgram, a.world⟩

end Alike

theorem alike_bindShader (c : Context) (key : VariantKey) :
    (c.act (.bindShader key)).state.Alike c := by
  simp only [act]
  split
  · rename_i h
    have hdevice : (c.shaders.bind key h c.device).state.2.hardware.Alike c.device.hardware := by
      rw [VariantTable.device_bind]
      exact Device.alike_give ..
    show Alike { c with shaders := (c.shaders.bind key h c.device).state.1, device := _ } c
    rw [VariantTable.table_bind]
    cases (c.shaders.bind key h c.device).answer <;> exact ⟨hdevice, rfl, rfl, rfl⟩
  · exact .refl c

/-- What is done to two contexts that are alike leaves them alike. -/
theorem Alike.act (a : c.Alike c') (action : Action) :
    (c.act action).state.Alike (c'.act action).state := by
  have hd := a.hardware
  -- no action reads anything that the contexts may differ in, except to write it where they may
  cases action with
  | device d =>
    refine a.withDevice ?_
    cases d with
    | call cmd => exact hd.exec cmd
    | createBuffer bytes =>
      exact ⟨congrArg (·.addBuffer bytes) hd.resources, hd.lost, hd.injected, hd.vertexSize,
        hd.pixelSize⟩
    | createTexture =>
      exact ⟨congrArg (·.addTexture) hd.resources, hd.lost, hd.injected, hd.vertexSize,
        hd.pixelSize⟩
    | failOn k => exact hd.withFaults (·.inject k)
    | succeedOn k => exact hd.withFaults (·.release k)
    | lose => exact hd.withFaults fun f => { f with lost := true }
    | reset => exact hd.reset
    | clearCommands => exact hd
  | putVariant key state =>
    simp only [Context.act]
    split
    · exact ⟨hd, congrArg (·.set key.index state) a.variants, a.vertexProgram, a.world⟩
    · exact a
  | bindShader key => exact (c.alike_bindShader key).trans (a.trans (c'.alike_bindShader key).symm)
  | resetDevice => exact ⟨hd.reset, a.variants, a.vertexProgram, a.world⟩
  | setWorld world => exact ⟨hd, a.variants, a.vertexProgram, rfl⟩
  | setCache cull fill => exact ⟨hd, a.variants, a.vertexProgram, a.world⟩

end Context

/-! ## Renders -/

theorem Pass.alike_performAll (p : Pass) (ts : List Task) :
    (p.performAll ts).context.Alike p.context := by
  induction ts generalizing p with
  | nil => exact .refl p.context
  | cons t ts ih => exact (ih (p.perform t)).trans (performed_perform p t).alike

theorem Hardware.Alike.firstCause_eq {h h' : Hardware} (a : h.Alike h') (k : CommandKind)
    (own : Option DeviceError) : h.firstCause k own = h'.firstCause k own := by
  simp only [firstCause, a.faults]

namespace View

variable {v : View} {m : Material} {c c' : Context} {s : Step}

theorem alike_draw (v : View) (m : Material) (c : Context) : (v.draw m c).state.2.Alike c :=
  Pass.alike_performAll ..

theorem alike_render (v : View) (c : Context) (busy : Bool) :
    (v.render c busy).state.2.Alike c := by
  simp only [render]
  split
  · exact .refl c
  · split
    · exact .refl c
    · exact v.alike_draw _ c

theorem vertexBufferCause?_congr {h h' : Hardware} (a : h.Alike h') :
    v.vertexBufferCause? h = v.vertexBufferCause? h' := by
  rw [vertexBufferCause?, a.firstCause_eq, a.resources, vertexBufferCause?]

theorem indexBufferCause?_congr {h h' : Hardware} (a : h.Alike h') :
    v.indexBufferCause? h = v.indexBufferCause? h' := by
  rw [indexBufferCause?, a.firstCause_eq, a.resources, indexBufferCause?]

theorem cause?_congr (a : c.Alike c') (hs : s ≠ .draw) : v.cause? m c s = v.cause? m c' s := by
  cases s with
  | draw => exact absurd rfl hs
  | bindVertexBuffer => simp only [cause?, vertexBufferCause?_congr a.hardware]
  | bindIndexBuffer => simp only [cause?, indexBufferCause?_congr a.hardware]
  | _ =>
    simp only [cause?, a.hardware.firstCause_eq, a.hardware.vertexSize, a.hardware.pixelSize,
      a.hardware.resources, a.get_eq]

/-- The draw too, if it finds the same buffers bound or binds its own. -/
theorem cause?_draw_congr (a : c.Alike c')
    (hvertex : v.vertexBufferCause? c.device.hardware = none ∨
      c.device.hardware.bindings.streamSource = c'.device.hardware.bindings.streamSource)
    (hindex : v.indexBufferCause? c.device.hardware = none ∨
      c.device.hardware.bindings.indexBuffer = c'.device.hardware.bindings.indexBuffer) :
    v.cause? m c .draw = v.cause? m c' .draw := by
  -- a buffer is missing at the draw on one context exactly if it is on the other
  have hstream : (c.device.hardware.bindings.streamSource = none ∧
      v.vertexBufferCause? c.device.hardware ≠ none) ↔
        c'.device.hardware.bindings.streamSource = none ∧
          v.vertexBufferCause? c'.device.hardware ≠ none := by
    rw [← vertexBufferCause?_congr a.hardware]
    rcases hvertex with hnone | hsame
    · simp [hnone]
    · rw [hsame]
  have hbuffer : (c.device.hardware.bindings.indexBuffer = none ∧
      v.indexBufferCause? c.device.hardware ≠ none) ↔
        c'.device.hardware.bindings.indexBuffer = none ∧
          v.indexBufferCause? c'.device.hardware ≠ none := by
    rw [← indexBufferCause?_congr a.hardware]
    rcases hindex with hnone | hsame
    · simp [hnone]
    · rw [hsame]
  simp only [cause?, a.hardware.firstCause_eq, hstream, hbuffer]

theorem mem_attempted (hcull : s ≠ .setCullMode) (hfill : s ≠ .setFillMode) :
    s ∈ v.attempted c ↔ s ∈ Step.pipeline := by
  rw [attempted, List.mem_filter]
  constructor
  · exact And.left
  · intro hs
    refine ⟨hs, ?_⟩
    cases s with
    | acquireContext => exact absurd hs (by decide)
    | setCullMode => exact absurd rfl hcull
    | setFillMode => exact absurd rfl hfill
    | _ => rfl

theorem cause?_eq_none (hs : s ∈ v.attempted c)
    (hclear : ∀ f ∈ (v.draw m c).answer.failures, f.step ≠ s) : v.cause? m c s = none := by
  refine Option.eq_none_iff_forall_ne_some.2 fun e he => ?_
  exact hclear ⟨s, e⟩ (mem_failures_draw.2 ⟨hs, he⟩) rfl

/-- Renders on contexts that are alike report the same failures, modes and draw excepted. -/
theorem mem_failures_draw_congr (a : c.Alike c') {f : Failure} (hcull : f.step ≠ .setCullMode)
    (hfill : f.step ≠ .setFillMode) (hdraw : f.step = .draw →
      ∀ g ∈ (v.draw m c).answer.failures, g.step ≠ .bindVertexBuffer ∧ g.step ≠ .bindIndexBuffer) :
    f ∈ (v.draw m c).answer.failures ↔ f ∈ (v.draw m c').answer.failures := by
  have hcause : v.cause? m c f.step = v.cause? m c' f.step := by
    by_cases hstep : f.step = .draw
    · have hclear := hdraw hstep
      have hvertex : v.cause? m c .bindVertexBuffer = none :=
        cause?_eq_none (List.mem_filter.2 ⟨by decide, rfl⟩) fun g hg => (hclear g hg).1
      have hindex : v.cause? m c .bindIndexBuffer = none :=
        cause?_eq_none (List.mem_filter.2 ⟨by decide, rfl⟩) fun g hg => (hclear g hg).2
      rw [hstep]
      exact cause?_draw_congr a (.inl (Option.map_eq_none_iff.1 hvertex))
        (.inl (Option.map_eq_none_iff.1 hindex))
    · exact cause?_congr a hstep
  rw [mem_failures_draw, mem_failures_draw, mem_attempted hcull hfill, mem_attempted hcull hfill,
    hcause]

theorem command?_congr (a : c.Alike c') (s : Step) : v.command? m c s = v.command? m c' s := by
  have htask : v.task? m c s = v.task? m c' s := by
    simp only [task?, a.vertexProgram, a.world]
  simp only [command?, htask, a.command?_eq]

/-- What a step writes that succeeds before the draw is the same on contexts that are alike. -/
theorem read_draw_congr (a : c.Alike c') {l : Location} (hs : s ∈ v.preparations c)
    (hs' : s ∈ v.preparations c') (hok : v.cause? m c s = none) (hl : l ∈ v.target s) :
    (v.draw m c).state.2.device.hardware.read l =
      (v.draw m c').state.2.device.hardware.read l := by
  obtain ⟨hattempted, hne⟩ := (v.mem_preparations c).1 hs
  have hfailure : v.failure? m c s = none := by rw [failure?_eq_cause? hs, hok, Option.map_none]
  obtain ⟨cmd, hcmd, hr⟩ :=
    (failure?_eq_none_iff (v.mem_pipeline_of_mem_attempted c hattempted)).1 hfailure
  have hcmd' : v.command? m c' s = some cmd := (command?_congr a s).symm.trans hcmd
  have hkind : cmd.kind ≠ .drawIndexedPrimitive := kind_ne_of_ne_draw hne hcmd
  -- both devices take the same command, and what it writes does not depend on what was there
  rw [read_draw_of_mem_target hattempted hne hcmd hl,
    read_draw_of_mem_target ((v.mem_preparations c').1 hs').1 hne hcmd' hl,
    Hardware.exec_of_accepted hr, Hardware.exec_of_accepted (a.hardware.refusal?_eq hkind ▸ hr)]
  exact a.hardware.read_apply_of_mem_target hr hkind (v.target_of_command? m c hcmd ▸ hl)

end View

end LitMesh
