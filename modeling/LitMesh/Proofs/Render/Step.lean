import LitMesh.Proofs.Config.Layout
import LitMesh.Proofs.Render.Pass

/-!
# The steps of a render

A render seen as steps: which ones it attempts (`View.attempted`), the task of each (`View.task?`),
and the locations that each writes (`View.target`). The plan of a render holds the tasks of the
attempted steps and nothing else that matters (`filterMap_plan`).

A usable configuration keeps the steps apart: every location has at most one step that writes it
(`owner_of_mem_target`).
-/

namespace LitMesh

/-! ## The pipeline -/

/-- The steps of a render that has got hold of its context, in order. -/
def Step.pipeline : List Step :=
  [bindVertexFormat, bindVertexProgram] ++ (List.range maxPointLights).map uploadLight ++
    [uploadAmbientColor, uploadMaterialColor, bindPixelShader, uploadLightColors] ++
    Sampler.all.map bindTexture ++
    [uploadWorldMatrix] ++ [setCullMode, setFillMode] ++ [bindVertexBuffer, bindIndexBuffer, draw]

theorem Step.nodup_pipeline : pipeline.Nodup := by decide

theorem Step.rank_lt_of_mem_pipeline {rank : Nat} (h : uploadLight rank ∈ pipeline) :
    rank < maxPointLights := by
  simpa [pipeline] using h

/-- The map of a material that a sampler reads. -/
def Sampler.mapType : Sampler → MapType
  | diffuse => .diffuse
  | specular => .specular
  | bumpHeight => .bump
  | selfIllumination => .selfIllumination

namespace View

variable (v : View) (m : Material) (c : Context)

/-- Whether a render attempts a step. Only a mode that the cache holds already is left alone. -/
def attempts : Step → Bool
  | .acquireContext => false
  | .setCullMode => c.cache.cull ≠ v.cullMode
  | .setFillMode => c.cache.fill ≠ v.fillMode
  | _ => true

/-- The steps that a render attempts before the draw. -/
def preparations : List Step := Step.pipeline.dropLast.filter (v.attempts c)

/-- The steps that a render attempts, in order. -/
def attempted : List Step := Step.pipeline.filter (v.attempts c)

/-- The task that carries out a step. -/
def task? (step : Step) : Option Task :=
  match step with
  | .acquireContext => none
  | .bindVertexFormat => some (.call step (.setVertexFormat v.mesh.vertexFormat))
  | .bindVertexProgram => some (.call step (.setVertexProgram c.shaders.vertexProgram))
  | .uploadLight rank =>
    if h : rank < maxPointLights then
      some (.call step
        (.setVertexConstants (v.lightRegister ⟨rank, h⟩) (lightData (v.rankedLight ⟨rank, h⟩))))
    else none
  | .uploadAmbientColor =>
    some (.call step
      (.setVertexConstants v.config.registers.ambientColor [(v.ambient.withAlpha 1).toVec4]))
  | .uploadMaterialColor =>
    some (.call step
      (.setPixelConstants v.config.registers.constantColor [m.diffuseColor.toVec4]))
  | .bindPixelShader => some (.bindShader (v.variant m) (v.inTable_variant m))
  | .uploadLightColors =>
    some (.call step (.setPixelConstants v.config.registers.lightColor v.lightColors))
  | .bindTexture sampler => some (.call step (.setTexture sampler (m.map sampler.mapType)))
  | .uploadWorldMatrix =>
    some (.call step
      (.setVertexConstants v.config.registers.worldMatrix (c.world.transpose.rows.take 3)))
  | .setCullMode => some (.change step (.cull v.cullMode))
  | .setFillMode => some (.change step (.fill v.fillMode))
  | .bindVertexBuffer =>
    some (.call step (.setStreamSource 0 v.mesh.vertexBuffer 0 v.config.vertexStride))
  | .bindIndexBuffer => some (.call step (.setIndices v.mesh.indexBuffer))
  | .draw => some (.call step (.drawIndexedPrimitive v.drawCall))

/-- The command that a step gives to the device. -/
def command? (step : Step) : Option Command := (v.task? m c step).bind (·.command? c.shaders)

/-- The plan up to the draw. -/
def preparation : List Task := (v.plan m c).dropLast

theorem attempted_eq : v.attempted c = v.preparations c ++ [.draw] :=
  List.filter_append Step.pipeline.dropLast [.draw]

theorem plan_eq : v.plan m c =
    v.preparation m c ++ [.call .draw (.drawIndexedPrimitive v.drawCall)] := by
  have hlast : (v.plan m c).getLast? = some (.call .draw (.drawIndexedPrimitive v.drawCall)) := by
    rw [plan, List.getLast?_append]
    rfl
  obtain ⟨ts, hts⟩ := List.getLast?_eq_some_iff.1 hlast
  rw [preparation, hts, List.dropLast_concat]

theorem attempted_eq_append : v.attempted c =
    [Step.bindVertexFormat, Step.bindVertexProgram] ++
      (List.range maxPointLights).map Step.uploadLight ++
      [Step.uploadAmbientColor, Step.uploadMaterialColor, Step.bindPixelShader,
        Step.uploadLightColors] ++
      Sampler.all.map Step.bindTexture ++ [Step.uploadWorldMatrix] ++
      [Step.setCullMode, Step.setFillMode].filter (v.attempts c) ++
      [Step.bindVertexBuffer, Step.bindIndexBuffer, Step.draw] := by
  simp only [attempted, Step.pipeline, List.filter_append]
  rfl

theorem tasks_modes : ([.setCullMode, .setFillMode].filter (v.attempts c)).filterMap (v.task? m c) =
    v.modeTasks c.cache := by
  by_cases hc : c.cache.cull = v.cullMode <;> by_cases hf : c.cache.fill = v.fillMode <;>
    simp [modeTasks, modeChanges, attempts, hc, hf] <;> rfl

theorem filterMap_plan {β : Type} {f : Task → Option β} (hf : ∀ r, f (.note r) = none) :
    (v.plan m c).filterMap f = (v.attempted c).filterMap fun s => (v.task? m c s).bind f := by
  have hnotes : (v.lights.resolved.log.map Task.note).filterMap f = [] := by
    simp [hf]
  have hlights : ((List.range maxPointLights).map Step.uploadLight).filterMap (v.task? m c) =
    v.lightTasks := rfl
  have htextures : (Sampler.all.map Step.bindTexture).filterMap (v.task? m c) =
    textureTasks m := rfl
  -- plan and pipeline are taken apart at the same places; the notes drop out
  rw [← List.filterMap_filterMap, attempted_eq_append, plan]
  simp only [List.filterMap_append, hnotes, hlights, htextures, tasks_modes, List.append_nil]
  congr 1
  simp [List.filterMap_cons, hf, task?]

theorem filterMap_preparation {β : Type} {f : Task → Option β} (hf : ∀ r, f (.note r) = none) :
    (v.preparation m c).filterMap f =
      (v.preparations c).filterMap fun s => (v.task? m c s).bind f := by
  have h := v.filterMap_plan m c hf
  rw [plan_eq, attempted_eq, List.filterMap_append, List.filterMap_append] at h
  exact List.append_cancel_right h

/-- Whatever the plan holds before the draw is a note or the task of an attempted step. -/
theorem mem_preparation {t : Task} (ht : t ∈ v.preparation m c) :
    (∃ r, t = .note r) ∨ ∃ s ∈ v.preparations c, v.task? m c s = some t := by
  -- as a filter, since that is how the plan is known
  let work : Task → Option Task := fun u => match u with | .note _ => none | u => some u
  have hwork : (v.preparation m c).filterMap work =
      (v.preparations c).filterMap fun s => (v.task? m c s).bind work :=
    v.filterMap_preparation m c fun _ => rfl
  by_cases hnote : ∃ r, t = .note r
  · exact Or.inl hnote
  · right
    have htask : t ∈ (v.preparation m c).filterMap work := by
      refine List.mem_filterMap.2 ⟨t, ht, ?_⟩
      cases t with
      | note r => exact absurd ⟨r, rfl⟩ hnote
      | _ => rfl
    rw [hwork] at htask
    obtain ⟨s, hs, hst⟩ := List.mem_filterMap.1 htask
    obtain ⟨u, hu, hut⟩ := Option.bind_eq_some_iff.1 hst
    refine ⟨s, hs, hu.trans ?_⟩
    cases u with
    | note r => cases hut
    | _ => exact hut

theorem step?_of_task? {s : Step} {t : Task} (ht : v.task? m c s = some t) : t.step? = some s := by
  cases s with
  | acquireContext => cases ht
  | uploadLight rank =>
    rw [task?] at ht
    split at ht
    · cases ht; rfl
    · cases ht
  | _ => cases ht; rfl

theorem exists_task_of_mem_pipeline {s : Step} (hs : s ∈ Step.pipeline) :
    ∃ t, v.task? m c s = some t := by
  cases s with
  | acquireContext => exact absurd hs (by decide)
  | uploadLight rank => exact ⟨_, dif_pos (Step.rank_lt_of_mem_pipeline hs)⟩
  | _ => exact ⟨_, rfl⟩

theorem filterMap_step?_plan : (v.plan m c).filterMap Task.step? = v.attempted c := by
  have hstep : ∀ s ∈ v.attempted c, (v.task? m c s).bind Task.step? = some s := by
    intro s hs
    obtain ⟨t, ht⟩ := v.exists_task_of_mem_pipeline m c (List.mem_filter.1 hs).1
    rw [ht, Option.bind_some, v.step?_of_task? m c ht]
  rw [v.filterMap_plan m c fun _ => rfl, List.filterMap_congr hstep, List.filterMap_some]

theorem eq_draw_of_draws {s : Step} {t : Task} (ht : v.task? m c s = some t) (hd : t.Draws) :
    s = .draw := by
  cases s with
  | draw => rfl
  | acquireContext => cases ht
  | uploadLight rank =>
    rw [task?] at ht
    split at ht
    · cases ht; cases hd
    · cases ht
  | _ => cases ht; cases hd

theorem mem_preparations {s : Step} : s ∈ v.preparations c ↔ s ∈ v.attempted c ∧ s ≠ .draw := by
  have hnodup : (v.attempted c).Nodup := Step.nodup_pipeline.filter _
  rw [attempted_eq] at hnodup ⊢
  -- the draw stands last, and no step stands twice
  have hdraw : Step.draw ∉ v.preparations c := fun h =>
    (List.nodup_append.1 hnodup).2.2 _ h _ (List.mem_singleton_self _) rfl
  constructor
  · exact fun h => ⟨List.mem_append_left _ h, fun he => hdraw (he ▸ h)⟩
  · rintro ⟨h, hne⟩
    rcases List.mem_append.1 h with h | h
    · exact h
    · exact absurd (List.mem_singleton.1 h) hne

/-- Whatever the plan holds is a note or the task of an attempted step. -/
theorem mem_plan {t : Task} (ht : t ∈ v.plan m c) :
    (∃ r, t = .note r) ∨ ∃ s ∈ v.attempted c, v.task? m c s = some t := by
  rw [plan_eq] at ht
  rcases List.mem_append.1 ht with ht | ht
  · rcases v.mem_preparation m c ht with hnote | ⟨s, hs, hst⟩
    · exact Or.inl hnote
    · exact Or.inr ⟨s, ((v.mem_preparations c).1 hs).1, hst⟩
  · obtain rfl := List.mem_singleton.1 ht
    refine Or.inr ⟨.draw, ?_, rfl⟩
    rw [attempted_eq]
    exact List.mem_append_right _ (List.mem_singleton_self _)

theorem mem_pipeline_of_mem_attempted {s : Step} (hs : s ∈ v.attempted c) : s ∈ Step.pipeline :=
  (List.mem_filter.1 hs).1

/-! ## What the steps write -/

/-- The first register of a ranked light, in unbounded numbers: it lies in the block of lights. -/
theorem toNat_lightRegister (rank : Slot) : (v.lightRegister rank).toNat =
    v.config.registers.lights.toNat + registersPerLight * rank.val := by
  have hstop : v.config.registers.lights.toNat + 2 * 3 ≤ 4294967295 :=
    Layout.stop_le v.valid.registers .lights
  have hrank : rank.val < 3 := rank.isLt
  -- the block ends within the numbers, so the sum does not wrap
  simp only [lightRegister, UInt32.toNat_add, UInt32.toNat_ofNat', registersPerLight] at *
  omega

theorem length_lightColors : v.lightColors.length = maxPointLights := by
  simp [lightColors]

/-- The locations that a step writes. -/
def target : Step → List Location
  | .acquireContext => []
  | .bindVertexFormat => [.vertexFormat]
  | .bindVertexProgram => [.vertexProgram]
  | .uploadLight rank =>
    Location.vertexBlock (v.config.registers.lights.toNat + registersPerLight * rank)
      registersPerLight
  | .uploadAmbientColor => Location.vertexBlock v.config.registers.ambientColor.toNat 1
  | .uploadMaterialColor => Location.pixelBlock v.config.registers.constantColor.toNat 1
  | .bindPixelShader => [.pixelProgram]
  | .uploadLightColors => Location.pixelBlock v.config.registers.lightColor.toNat maxPointLights
  | .bindTexture sampler => [.texture sampler]
  | .uploadWorldMatrix => Location.vertexBlock v.config.registers.worldMatrix.toNat 3
  | .setCullMode => [.cullMode]
  | .setFillMode => [.fillMode]
  | .bindVertexBuffer => [.streamSource]
  | .bindIndexBuffer => [.indexBuffer]
  | .draw => [.drawCount]

theorem target_of_command? {s : Step} {cmd : Command} (h : v.command? m c s = some cmd) :
    cmd.target = v.target s := by
  cases s <;>
    simp only [command?, task?, Option.bind_some, Option.bind_none, Task.command?,
      Option.some.injEq, reduceCtorEq] at h
  case uploadLight rank =>
    split at h
    · simp only [Option.bind_some, Option.some.injEq] at h
      subst h
      simp only [Command.target, toNat_lightRegister, target]
      rfl
    · cases h
  case bindPixelShader =>
    obtain ⟨program, -, rfl⟩ := Option.map_eq_some_iff.1 h
    rfl
  case uploadLightColors =>
    subst h
    simp only [Command.target, length_lightColors, target]
  all_goals subst h; rfl

/-- The step that writes a location. -/
def owner : Location → Option Step
  | .vertexRegister i =>
    let r := v.config.registers
    if r.lights.toNat ≤ i ∧ i < r.lights.toNat + 6 then
      some (.uploadLight ((i - r.lights.toNat) / registersPerLight))
    else if i = r.ambientColor.toNat then some .uploadAmbientColor
    else if r.worldMatrix.toNat ≤ i ∧ i < r.worldMatrix.toNat + 3 then some .uploadWorldMatrix
    else none
  | .pixelRegister i =>
    let r := v.config.registers
    if i = r.constantColor.toNat then some .uploadMaterialColor
    else if r.lightColor.toNat ≤ i ∧ i < r.lightColor.toNat + 3 then some .uploadLightColors
    else none
  | .texture sampler => some (.bindTexture sampler)
  | .cullMode => some .setCullMode
  | .fillMode => some .setFillMode
  | .vertexFormat => some .bindVertexFormat
  | .vertexProgram => some .bindVertexProgram
  | .pixelProgram => some .bindPixelShader
  | .streamSource => some .bindVertexBuffer
  | .indexBuffer => some .bindIndexBuffer
  | .drawCount => some .draw

/-- **The steps keep apart.** A location has one step that writes it: no two blocks of a usable
layout share a register. -/
theorem owner_of_mem_target {s : Step} {l : Location} (hs : s ∈ Step.pipeline)
    (hl : l ∈ v.target s) : v.owner l = some s := by
  have hdisjoint {a b : Block} := Layout.disjoint v.valid.registers (a := a) (b := b)
  have hambient := hdisjoint (a := .lights) (b := .ambientColor) rfl (by decide)
  have hlights := hdisjoint (a := .lights) (b := .worldMatrix) rfl (by decide)
  have hworld := hdisjoint (a := .ambientColor) (b := .worldMatrix) rfl (by decide)
  have hpixel := hdisjoint (a := .constantColor) (b := .lightColor) rfl (by decide)
  simp only [Layout.extent, Layout.start, Block.length, registersPerLight, maxPointLights]
    at hambient hlights hworld hpixel
  -- where a block lies relative to the others decides which branch of `owner` its registers take
  cases s <;>
    simp only [target, registersPerLight, maxPointLights, List.not_mem_nil, List.mem_singleton,
      Location.mem_vertexBlock, Location.mem_pixelBlock] at hl
  case uploadLight rank =>
    have hrank : rank < 3 := Step.rank_lt_of_mem_pipeline hs
    obtain ⟨i, rfl, hlow, hhigh⟩ := hl
    have hi : (i - v.config.registers.lights.toNat) / registersPerLight = rank := by
      rw [registersPerLight]
      omega
    simp only [owner, hi]
    rw [if_pos (by omega)]
  case uploadAmbientColor =>
    obtain ⟨i, rfl, hlow, hhigh⟩ := hl
    simp only [owner]
    rw [if_neg (by omega), if_pos (by omega)]
  case uploadWorldMatrix =>
    obtain ⟨i, rfl, hlow, hhigh⟩ := hl
    simp only [owner]
    rw [if_neg (by omega), if_neg (by omega), if_pos (by omega)]
  case uploadMaterialColor =>
    obtain ⟨i, rfl, hlow, hhigh⟩ := hl
    simp only [owner]
    rw [if_pos (by omega)]
  case uploadLightColors =>
    obtain ⟨i, rfl, hlow, hhigh⟩ := hl
    simp only [owner]
    rw [if_neg (by omega), if_pos (by omega)]
  all_goals subst hl; rfl

end View

end LitMesh
