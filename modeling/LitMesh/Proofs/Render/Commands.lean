import LitMesh.Proofs.Render.Draw

/-!
# What a render asks of the device

The commands of a render, written down without regard to what becomes of them: `View.commands`
knows neither registers nor faults nor resources. A render gives the device exactly these commands
(`commands_render`), so two renders that begin with the same view, shaders, cache and world
transform ask the same of any two devices, however differently these answer.
-/

namespace LitMesh

theorem Mesh.triangleCount_spec (mesh : Mesh) :
    3 * mesh.triangleCount.toNat ≤ mesh.indexCount.toNat ∧
      mesh.indexCount.toNat < 3 * mesh.triangleCount.toNat + 3 := by
  have h : mesh.triangleCount.toNat = mesh.indexCount.toNat / 3 := UInt32.toNat_div ..
  omega

namespace View

/-- The command that binds the variant of the view, given only if the variant has compiled. -/
def shaderCommands (v : View) (m : Material) (shaders : VariantTable) : List Command :=
  match shaders.get (v.variant m) (v.inTable_variant m) with
  | .compiled program => [.setPixelProgram program]
  | _ => []

/-- The commands that take the given modes to those of the view. -/
def modeCommands (v : View) (modes : Modes) : List Command :=
  (v.modeChanges modes).map .setRenderState

/-- The commands of a render with material `m`, in order: the light of rank `k` goes to the two
registers from `lights + 2 * k` on, the weighted colors in slot order. -/
def commands (v : View) (m : Material) (shaders : VariantTable) (cache : Modes) (world : Mat4) :
    List Command :=
  let r := v.config.registers
  let ranked : Slot → Command := fun k =>
    let light := v.lights.lights.get (v.lights.resolved.answer.order.get k)
    .setVertexConstants (UInt32.ofNat (r.lights.toNat + 2 * k.val))
      [light.position.extend light.weight, ⟨light.color.r, light.color.g, light.color.b, 1⟩]
  let weighted : PointLight → Vec4 := fun light =>
    ⟨light.color.r * light.weight, light.color.g * light.weight, light.color.b * light.weight, 1⟩
  [.setVertexFormat v.mesh.vertexFormat, .setVertexProgram shaders.vertexProgram] ++
  (List.finRange maxPointLights).map ranked ++
  [.setVertexConstants r.ambientColor [⟨v.ambient.r, v.ambient.g, v.ambient.b, 1⟩],
    .setPixelConstants r.constantColor [m.diffuseColor.toVec4]] ++
  v.shaderCommands m shaders ++
  [.setPixelConstants r.lightColor (v.lights.lights.toList.map weighted),
    .setTexture .diffuse (m.map .diffuse), .setTexture .specular (m.map .specular),
    .setTexture .bumpHeight (m.map .bump),
    .setTexture .selfIllumination (m.map .selfIllumination),
    .setVertexConstants r.worldMatrix
      [world.transpose.row0, world.transpose.row1, world.transpose.row2]] ++
  v.modeCommands cache ++
  [.setStreamSource 0 v.mesh.vertexBuffer 0 v.config.vertexStride,
    .setIndices v.mesh.indexBuffer,
    .drawIndexedPrimitive
      ⟨.triangleList, 0, 0, v.mesh.vertexCount, 0, v.mesh.triangleCount⟩]

variable {v : View} {m : Material}

theorem lightRegister_eq (rank : Slot) : v.lightRegister rank =
    UInt32.ofNat (v.config.registers.lights.toNat + 2 * rank.val) := by
  have h := v.toNat_lightRegister rank
  rw [registersPerLight] at h
  rw [← h, UInt32.ofNat_toNat]

theorem filterMap_command?_shader (c : Context) :
    [Step.bindPixelShader].filterMap (v.command? m c) = v.shaderCommands m c.shaders := by
  simp only [List.filterMap_cons, List.filterMap_nil, command?, task?, Option.bind_some,
    Task.command?, VariantTable.program?, shaderCommands]
  cases c.shaders.get (v.variant m) (v.inTable_variant m) <;> rfl

theorem filterMap_command?_modes (c : Context) :
    ([.setCullMode, .setFillMode].filter (v.attempts c)).filterMap (v.command? m c) =
      v.modeCommands c.cache := by
  have htasks := congrArg (List.filterMap (·.command? c.shaders)) (v.tasks_modes m c)
  rw [List.filterMap_filterMap, modeTasks, List.filterMap_map] at htasks
  exact htasks.trans (congrFun List.filterMap_eq_map _)

theorem filterMap_command?_attempted (c : Context) :
    (v.attempted c).filterMap (v.command? m c) = v.commands m c.shaders c.cache c.world := by
  have hsplit : v.attempted c =
      [Step.bindVertexFormat, Step.bindVertexProgram] ++
      (List.range maxPointLights).map Step.uploadLight ++
      [Step.uploadAmbientColor, Step.uploadMaterialColor] ++ [Step.bindPixelShader] ++
      [Step.uploadLightColors, Step.bindTexture .diffuse, Step.bindTexture .specular,
        Step.bindTexture .bumpHeight, Step.bindTexture .selfIllumination,
        Step.uploadWorldMatrix] ++
      [Step.setCullMode, Step.setFillMode].filter (v.attempts c) ++
      [Step.bindVertexBuffer, Step.bindIndexBuffer, Step.draw] := v.attempted_eq_append c
  -- part by part, the commands of the steps are those that are written out
  rw [hsplit]
  simp only [List.filterMap_append, filterMap_command?_shader,
    filterMap_command?_modes, commands, ← lightRegister_eq]
  rfl

/-- Of the shaders, only the vertex program and the program of the view's variant matter. -/
theorem commands_congr {s t : VariantTable} (hvertex : t.vertexProgram = s.vertexProgram)
    (hpixel : t.program? (v.variant m) (v.inTable_variant m) =
      s.program? (v.variant m) (v.inTable_variant m)) (cache : Modes) (world : Mat4) :
    v.commands m t cache world = v.commands m s cache world := by
  have hbind : v.shaderCommands m t = v.shaderCommands m s := by
    simp only [VariantTable.program?] at hpixel
    unfold shaderCommands
    cases ht : t.get (v.variant m) (v.inTable_variant m) <;>
      cases hs : s.get (v.variant m) (v.inTable_variant m) <;> simp_all
  simp only [commands, hvertex, hbind]

/-! ## Commands of one kind -/

/-- Commands that are all of one kind are kept or dropped together. -/
theorem filter_kind {cmds : List Command} {k : CommandKind} (h : ∀ cmd ∈ cmds, cmd.kind = k)
    (k' : CommandKind) : cmds.filter (fun cmd => cmd.kind = k') = if k = k' then cmds else [] := by
  split
  · rename_i hk
    exact List.filter_eq_self.2 fun cmd hcmd => decide_eq_true ((h cmd hcmd).trans hk)
  · rename_i hk
    refine List.filter_eq_nil_iff.2 fun cmd hcmd hkind => hk ?_
    exact (h cmd hcmd).symm.trans (of_decide_eq_true hkind)

theorem shaderCommands_eq (v : View) (m : Material) (shaders : VariantTable) :
    v.shaderCommands m shaders =
      (shaders.program? (v.variant m) (v.inTable_variant m)).toList.map .setPixelProgram := by
  simp only [shaderCommands, VariantTable.program?]
  cases shaders.get (v.variant m) (v.inTable_variant m) <;> rfl

theorem filter_shaderCommands (v : View) (m : Material) (shaders : VariantTable)
    (k : CommandKind) : (v.shaderCommands m shaders).filter (fun cmd => cmd.kind = k) =
      if .setPixelProgram = k then v.shaderCommands m shaders else [] := by
  refine filter_kind (fun cmd hcmd => ?_) k
  rw [shaderCommands_eq] at hcmd
  obtain ⟨program, -, rfl⟩ := List.mem_map.1 hcmd
  rfl

theorem filter_modeCommands (v : View) (cache : Modes) (k : CommandKind) :
    (v.modeCommands cache).filter (fun cmd => cmd.kind = k) =
      if .setRenderState = k then v.modeCommands cache else [] := by
  refine filter_kind (fun cmd hcmd => ?_) k
  obtain ⟨ch, -, rfl⟩ := List.mem_map.1 hcmd
  rfl

theorem filter_commands (shaders : VariantTable) (cache : Modes) (world : Mat4) :
    (v.commands m shaders cache world).filter (fun cmd => cmd.kind = .setRenderState) =
      v.modeCommands cache := by
  simp only [commands, List.filter_append, filter_shaderCommands, filter_modeCommands]
  exact List.append_nil (v.modeCommands cache)

theorem filter_commands_pixelProgram (shaders : VariantTable) (cache : Modes) (world : Mat4) :
    (v.commands m shaders cache world).filter (fun cmd => cmd.kind = .setPixelProgram) =
      (shaders.program? (v.variant m) (v.inTable_variant m)).toList.map .setPixelProgram := by
  rw [← shaderCommands_eq]
  simp only [commands, List.filter_append, filter_shaderCommands, filter_modeCommands]
  -- nothing is kept of what comes after the program: three parts of the render
  exact (List.append_nil _).trans ((List.append_nil _).trans (List.append_nil _))

theorem filter_commands_texture (shaders : VariantTable) (cache : Modes) (world : Mat4) :
    (v.commands m shaders cache world).filter (fun cmd => cmd.kind = .setTexture) =
      MapType.all.map fun t => .setTexture t.sampler (m.map t) := by
  simp only [commands, List.filter_append, filter_shaderCommands, filter_modeCommands]
  rfl

/-- Those that write vertex registers write the lights by rank, the ambient color and the world
matrix. -/
theorem filter_commands_vertexConstants (shaders : VariantTable) (cache : Modes) (world : Mat4) :
    (v.commands m shaders cache world).filter (fun cmd => cmd.kind = .setVertexConstants) =
      ((List.finRange maxPointLights).map fun rank =>
        .setVertexConstants (v.lightRegister rank) (lightData (v.rankedLight rank))) ++
      [.setVertexConstants v.config.registers.ambientColor [(v.ambient.withAlpha 1).toVec4],
        .setVertexConstants v.config.registers.worldMatrix (world.transpose.rows.take 3)] := by
  simp only [commands, List.filter_append, filter_shaderCommands, filter_modeCommands,
    ← lightRegister_eq]
  rfl

/-! ## Renders -/

/-- **Failures never change what a render asks of the device.** Whatever the device is like, a
render appends `View.commands` to its log; so do renders on all contexts with the same programs for
the view, the same cached modes and the same world transform. -/
theorem commands_render (hm : v.material = some m) (c : Context) :
    (v.render c false).state.2.device.commands.toList =
      c.device.commands.toList ++ v.commands m c.shaders c.cache c.world ∧
    (3 * v.mesh.triangleCount.toNat ≤ v.mesh.indexCount.toNat ∧
      v.mesh.indexCount.toNat < 3 * v.mesh.triangleCount.toNat + 3) ∧
    ∀ c' : Context, c'.shaders.vertexProgram = c.shaders.vertexProgram →
      c'.shaders.program? (v.variant m) (v.inTable_variant m) =
        c.shaders.program? (v.variant m) (v.inTable_variant m) →
      c'.cache = c.cache → c'.world = c.world →
      (v.render c' false).state.2.device.commands.toList =
        c'.device.commands.toList ++ v.commands m c.shaders c.cache c.world := by
  have happend : ∀ d : Context, (v.render d false).state.2.device.commands.toList =
      d.device.commands.toList ++ v.commands m d.shaders d.cache d.world := fun d => by
    rw [render_of_material hm, commands_draw, filterMap_command?_attempted]
  refine ⟨happend c, v.mesh.triangleCount_spec, ?_⟩
  intro c' hvertex hpixel hcache hworld
  rw [happend c', commands_congr hvertex hpixel, hcache, hworld]

/-- A lost device is asked the same as one that works. -/
theorem commands_render_lost :
    let v := { View.new ⟨.phong, ⟨1⟩, ⟨2⟩, 4, 6⟩ with material := some default }
    let lost := { Context.new with device.hardware.faults.lost := true }
    (v.render lost false).state.2.device.commands =
      (v.render .new false).state.2.device.commands := by
  intro v lost
  obtain ⟨hnew, -, htwo⟩ := commands_render (v := v) rfl .new
  exact Array.toList_inj.1 ((htwo lost rfl rfl rfl rfl).trans hnew.symm)

end View

end LitMesh
