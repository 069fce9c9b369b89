import LitMesh.Proofs.Render.Step

/-!
# What a render leaves behind

The device after a render, from the steps that it attempted: the commands they gave
(`commands_draw`), the state these left (`hardware_draw`), and the failures
(`failures_draw`). In the locations of a step stands what the step's own command would have left
there, had it been the only one (`read_draw_of_mem_target`); in any other location nothing has
changed (`read_draw_of_owner`).
-/

namespace LitMesh.View

variable (v : View) (m : Material) (c : Context)

/-- What a step enters into the report of a render on `c`, if it fails. The draw excepted, it makes
no difference which steps have gone before. -/
def failure? (step : Step) : Option Failure := (v.task? m c step).bind (·.failure? c)

/-- The device state in which a render attempts its draw. -/
def prepared : Hardware :=
  c.device.hardware.execAll ((v.preparations c).filterMap (v.command? m c))

/-- The pass of a render up to the draw. -/
def ready : Pass := Pass.performAll { context := c } (v.preparation m c)

/-! ## The whole render -/

theorem render_of_material {v : View} {m : Material} (hm : v.material = some m) (c : Context) :
    v.render c false = v.draw m c := by
  simp only [render, hm]
  rfl

theorem commands_draw : (v.draw m c).state.2.device.commands.toList =
    c.device.commands.toList ++ (v.attempted c).filterMap (v.command? m c) := by
  simp only [draw, Pass.commands_performAll]
  rw [v.filterMap_plan m c fun _ => rfl]
  rfl

theorem hardware_draw : (v.draw m c).state.2.device.hardware =
    c.device.hardware.execAll ((v.attempted c).filterMap (v.command? m c)) := by
  simp only [draw, Pass.hardware_performAll]
  rw [v.filterMap_plan m c fun _ => rfl]
  rfl

theorem hardware_draw_eq_exec : (v.draw m c).state.2.device.hardware =
    ((v.prepared m c).exec (.drawIndexedPrimitive v.drawCall)).2 := by
  rw [hardware_draw, attempted_eq, List.filterMap_append, Hardware.execAll_append]
  rfl

theorem alike_prepared : (v.prepared m c).Alike c.device.hardware := Hardware.alike_execAll ..

theorem not_draws_of_mem_preparation {t : Task} (ht : t ∈ v.preparation m c) : ¬ t.Draws := by
  intro hd
  rcases v.mem_preparation m c ht with ⟨r, rfl⟩ | ⟨s, hs, hst⟩
  · exact hd
  · exact ((v.mem_preparations c).1 hs).2 (v.eq_draw_of_draws m c hst hd)

theorem hardware_ready : (v.ready m c).context.device.hardware = v.prepared m c := by
  rw [ready, Pass.hardware_performAll, v.filterMap_preparation m c fun _ => rfl]
  rfl

theorem failures_ready :
    (v.ready m c).report.failures = (v.preparations c).filterMap (v.failure? m c) := by
  rw [ready, Pass.failures_performAll _ fun t ht => v.not_draws_of_mem_preparation m c ht,
    v.filterMap_preparation m c fun _ => rfl]
  exact List.nil_append _

/-- **The failures of a render**: those that the context decides before the first step, and that of
the draw, which depends on the buffers bound by then. -/
theorem failures_draw : (v.draw m c).answer.failures =
    (v.preparations c).filterMap (v.failure? m c) ++
      (((v.prepared m c).refusal? (.drawIndexedPrimitive v.drawCall)).map
        fun e => ⟨.draw, .device e⟩).toList := by
  have hlast : (v.draw m c).answer.failures =
      ((v.ready m c).perform (.call .draw (.drawIndexedPrimitive v.drawCall))).report.failures := by
    simp only [draw, plan_eq, Pass.performAll_append, ready]
    rfl
  have hdraw := Pass.performed_perform (v.ready m c)
    (.call .draw (.drawIndexedPrimitive v.drawCall))
  -- the draw is refused or not in the state that the preparations have left
  rw [hlast, hdraw.failures, failures_ready, ← hardware_ready]
  simp only [Task.failure?, Task.step?, Task.error?, Option.bind_some, Option.map_map]
  rfl

/-! ## Locations -/

variable {v m c}

theorem eq_of_mem_target {s t : Step} {l : Location} (hs : s ∈ Step.pipeline)
    (ht : t ∈ Step.pipeline) (hls : l ∈ v.target s) (hlt : l ∈ v.target t) : s = t :=
  Option.some.inj ((v.owner_of_mem_target hs hls).symm.trans (v.owner_of_mem_target ht hlt))

theorem kind_ne_of_ne_draw {s : Step} {cmd : Command} (hne : s ≠ .draw)
    (hcmd : v.command? m c s = some cmd) : cmd.kind ≠ .drawIndexedPrimitive := by
  intro hkind
  obtain ⟨t, ht, hcmd⟩ := Option.bind_eq_some_iff.1 hcmd
  exact hne (v.eq_draw_of_draws m c ht (Task.draws_of_command? hcmd hkind))

/-- The command of a step works as if alone among those of other steps. -/
theorem read_execAll_of_mem_target {h : Hardware} {ss : List Step} {s : Step} {cmd : Command}
    {l : Location} (hss : ∀ t ∈ ss, t ∈ Step.pipeline) (hnodup : ss.Nodup) (hs : s ∈ ss)
    (hne : s ≠ .draw) (hcmd : v.command? m c s = some cmd) (hl : l ∈ v.target s) :
    (h.execAll (ss.filterMap (v.command? m c))).read l = (h.exec cmd).2.read l := by
  obtain ⟨before, after, rfl⟩ := List.append_of_mem hs
  obtain ⟨-, hafter, hbefore⟩ := List.nodup_append.1 hnodup
  -- no other step of the list has the location in its target
  have hother : ∀ t ∈ before ++ after, ∀ d, v.command? m c t = some d → l ∉ d.target := by
    intro t ht d hd hld
    rw [v.target_of_command? m c hd] at hld
    have hmem : t ∈ before ++ s :: after := by
      rcases List.mem_append.1 ht with ht | ht
      · exact List.mem_append_left _ ht
      · exact List.mem_append_right _ (List.mem_cons_of_mem s ht)
    have hst : s = t := eq_of_mem_target (hss s hs) (hss t hmem) hl hld
    subst hst
    rcases List.mem_append.1 ht with ht | ht
    · exact hbefore s ht s List.mem_cons_self rfl
    · exact (List.nodup_cons.1 hafter).1 ht
  rw [List.filterMap_append, List.filterMap_cons_some hcmd]
  refine Hardware.read_execAll_of_alone (kind_ne_of_ne_draw hne hcmd) ?_ ?_
  · intro d hd
    obtain ⟨t, ht, hd⟩ := List.mem_filterMap.1 hd
    exact hother t (List.mem_append_left _ ht) d hd
  · intro d hd
    obtain ⟨t, ht, hd⟩ := List.mem_filterMap.1 hd
    exact hother t (List.mem_append_right _ ht) d hd

theorem read_draw_of_mem_target {s : Step} {cmd : Command} {l : Location}
    (hs : s ∈ v.attempted c) (hne : s ≠ .draw) (hcmd : v.command? m c s = some cmd)
    (hl : l ∈ v.target s) : (v.draw m c).state.2.device.hardware.read l =
      (c.device.hardware.exec cmd).2.read l := by
  rw [hardware_draw]
  exact read_execAll_of_mem_target (fun t ht => (List.mem_filter.1 ht).1)
    (Step.nodup_pipeline.filter _) hs hne hcmd hl

theorem read_prepared_of_mem_target {s : Step} {cmd : Command} {l : Location}
    (hs : s ∈ v.preparations c) (hcmd : v.command? m c s = some cmd) (hl : l ∈ v.target s) :
    (v.prepared m c).read l = (c.device.hardware.exec cmd).2.read l := by
  obtain ⟨-, hne⟩ := (v.mem_preparations c).1 hs
  have hpipeline : ∀ t ∈ v.preparations c, t ∈ Step.pipeline := fun t ht =>
    v.mem_pipeline_of_mem_attempted c ((v.mem_preparations c).1 ht).1
  have hnodup : (v.preparations c).Nodup :=
    (Step.nodup_pipeline.sublist (List.dropLast_sublist _)).filter _
  exact read_execAll_of_mem_target hpipeline hnodup hs hne hcmd hl

/-- A location whose step was not attempted, or gave no command, is as it was. -/
theorem read_draw_of_owner {l : Location}
    (hl : ∀ s ∈ v.attempted c, v.owner l = some s → v.command? m c s = none) :
    (v.draw m c).state.2.device.hardware.read l = c.device.hardware.read l := by
  rw [hardware_draw]
  refine Hardware.read_execAll_of_notMem fun cmd hcmd hmem => ?_
  obtain ⟨s, hs, hcmd⟩ := List.mem_filterMap.1 hcmd
  rw [v.target_of_command? m c hcmd] at hmem
  have hnone := hl s hs (v.owner_of_mem_target (List.mem_filter.1 hs).1 hmem)
  exact absurd (hnone.symm.trans hcmd) nofun

end LitMesh.View
