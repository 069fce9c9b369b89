import Mathlib.Data.List.Nodup
import LitMesh.Proofs.Render.Changes
import LitMesh.Proofs.Render.Failures

/-!
# Three accounts of a render

A render is told three times over: by the failures in its report, by what the report answers to
questions, and by the warnings in the log. All three agree (`View.accounts_render`).

* *Failures* are what the steps that the render undertook have failed with, in order and each once
  (`View.failures_render_eq`).
* *Answers* on a step or on the shader are looked up among the failures, where every step has one
  entry at most (`Report.failure?_eq_some_iff`, `Report.shaderWarning?_eq_some_iff`); the number of
  changes is that of the modes that did not fail (`View.stateChanges_render`).
* *Warnings* are logged when a failure is reported and at no other time, so they are in step after
  every task (`Pass.warned_perform`).
-/

namespace LitMesh

/-! ## Order -/

/-- The step `s` has its turn before `t`. -/
def Step.Before (s t : Step) : Prop := pipeline.idxOf s < pipeline.idxOf t

theorem Step.pairwise_pipeline : pipeline.Pairwise Before := by
  unfold Before
  decide

theorem Step.nodup_of_pairwise {ss : List Step} (h : ss.Pairwise Before) : ss.Nodup := by
  refine h.imp ?_
  rintro s _ hlt rfl
  exact Nat.lt_irrefl _ hlt

/-- The step sets a mode. -/
def Step.setsMode : Step → Bool
  | setCullMode | setFillMode => true
  | _ => false

/-! ## Asking a report -/

namespace Report

variable {r : Report} {s : Step} {f : Failure} {e : ShaderError}

theorem failure?_eq_some_iff (h : (r.failures.map Failure.step).Nodup) :
    r.failure? s = some f ↔ f ∈ r.failures ∧ f.step = s := by
  constructor
  · intro hf
    exact ⟨List.mem_of_find?_eq_some hf, by simpa using List.find?_some hf⟩
  · rintro ⟨hf, rfl⟩
    have hfound : (r.failure? f.step).isSome = true :=
      List.find?_isSome.2 ⟨f, hf, decide_eq_true rfl⟩
    -- what is found has the same step, and no step is listed twice
    obtain ⟨g, hg⟩ := Option.isSome_iff_exists.1 hfound
    have hstep : g.step = f.step := by simpa using List.find?_some hg
    rw [hg, List.inj_on_of_nodup_map h (List.mem_of_find?_eq_some hg) hf hstep]

theorem mem_failures_of_shaderWarning? (h : r.shaderWarning? = some e) :
    ⟨.bindPixelShader, .shader e⟩ ∈ r.failures := by
  obtain ⟨f, hf, he⟩ := List.exists_of_findSome?_eq_some h
  split at he
  · cases he
    exact hf
  · cases he

theorem shaderWarning?_eq_some_iff (h : (r.failures.map Failure.step).Nodup) :
    r.shaderWarning? = some e ↔ ⟨.bindPixelShader, .shader e⟩ ∈ r.failures := by
  refine ⟨mem_failures_of_shaderWarning?, fun hf => ?_⟩
  cases hw : r.shaderWarning? with
  | none => cases List.findSome?_eq_none_iff.1 hw _ hf
  | some other =>
    cases List.inj_on_of_nodup_map h (mem_failures_of_shaderWarning? hw) hf rfl
    rfl

end Report

/-! ## Warnings -/

/-- The log warns of the failures in the report, in order, and of nothing else. -/
def Pass.Warned (p : Pass) : Prop :=
  p.log.filter (fun r => r.level = .warn) = p.report.failures.map Failure.record

namespace Pass

variable {p : Pass}

theorem Warned.log (h : p.Warned) {rs : List Record} (hrs : ∀ r ∈ rs, r.level ≠ .warn) :
    Warned { p with log := p.log ++ rs } := by
  have hnone : rs.filter (fun r => r.level = .warn) = [] :=
    List.filter_eq_nil_iff.2 fun r hr => by simpa using hrs r hr
  rw [Warned, List.filter_append, hnone, List.append_nil]
  exact h

theorem Warned.fail (h : p.Warned) (f : Failure) : (p.fail f).Warned := by
  rw [Warned, Pass.fail, List.filter_append, List.map_append, ← h]
  rfl

theorem Warned.attempt (h : p.Warned) {t : Task} (ht : ∀ r, t = .note r → r.level ≠ .warn) :
    (p.attempt t).Warned := by
  refine h.log fun r hr => ?_
  cases t with
  | note record =>
    obtain rfl := List.mem_singleton.1 hr
    exact ht r rfl
  | change s ch =>
    obtain rfl := List.mem_singleton.1 hr
    cases ch <;> nofun
  | call s cmd | bindShader k hk => cases hr

theorem Warned.complete (h : p.Warned) (t : Task) : (p.complete t).Warned := by
  cases t with
  | bindShader k hk =>
    refine h.log fun r hr => ?_
    obtain ⟨program, -, rfl⟩ := List.mem_map.1 hr
    nofun
  | _ => exact h

/-- A task that fails is reported and warned of, and one that succeeds is neither. -/
theorem warned_perform (h : p.Warned) {t : Task} (ht : ∀ r, t = .note r → r.level ≠ .warn) :
    (p.perform t).Warned := by
  rcases p.goes_perform t with ⟨f, -, hq⟩ | ⟨-, hq⟩
  · rw [hq]
    exact (h.attempt ht).fail f
  · rw [hq]
    exact (h.attempt ht).complete t

theorem warned_performAll (h : p.Warned) {ts : List Task}
    (hts : ∀ r, .note r ∈ ts → r.level ≠ .warn) : (p.performAll ts).Warned := by
  induction ts generalizing p with
  | nil => exact h
  | cons t ts ih =>
    -- log and report are in step again after the first task
    refine ih (warned_perform h ?_) fun r hr => hts r (List.mem_cons_of_mem t hr)
    rintro r rfl
    exact hts r List.mem_cons_self

end Pass

/-! ## Renders -/

namespace View

/-- The steps that a render attempts: none without a material, and nothing but getting hold of the
context while another render has it. -/
def undertaken (v : View) (c : Context) (busy : Bool) : List Step :=
  match v.material with
  | none => []
  | some _ => if busy then [.acquireContext] else v.attempted c

/-- Why a step of a render fails, if it is attempted and does. -/
def error? (v : View) (c : Context) (busy : Bool) (s : Step) : Option RenderError :=
  match v.material with
  | none => none
  | some m =>
    if busy then if s = .acquireContext then some .contextUnavailable else none
    else if s ∈ v.attempted c then v.cause? m c s else none

variable {v : View} {m : Material} {c : Context} {busy : Bool} {s : Step}

/-- Whatever a render attempts beyond getting hold of the context, it attempts in drawing. -/
theorem draw_of_mem_undertaken (hs : s ∈ v.undertaken c busy) (hne : s ≠ .acquireContext) :
    ∃ m, v.render c busy = v.draw m c ∧ s ∈ v.attempted c := by
  unfold undertaken at hs
  cases hm : v.material with
  | none =>
    rw [hm] at hs
    cases hs
  | some m =>
    rw [hm] at hs
    cases busy with
    | true => exact absurd (List.mem_singleton.1 hs) hne
    | false => exact ⟨m, render_of_material hm c, hs⟩

theorem failures_render_eq (v : View) (c : Context) (busy : Bool) :
    (v.render c busy).answer.failures =
      (v.undertaken c busy).filterMap fun s => (v.error? c busy s).map fun e => ⟨s, e⟩ := by
  unfold undertaken error?
  cases hm : v.material with
  | none =>
    simp only [render, hm]
    rfl
  | some m =>
    cases busy with
    | true =>
      simp only [render, hm]
      rfl
    | false =>
      rw [render_of_material hm, failures_draw_eq]
      exact List.filterMap_congr fun s hs => by simp only [Bool.false_eq_true, if_false, if_pos hs]

theorem mem_undertaken_of_error? {e : RenderError} (h : v.error? c busy s = some e) :
    s ∈ v.undertaken c busy := by
  unfold error? at h
  unfold undertaken
  cases hm : v.material with
  | none =>
    rw [hm] at h
    cases h
  | some m =>
    rw [hm] at h
    cases busy with
    | true =>
      by_cases hs : s = .acquireContext
      · exact List.mem_singleton.2 hs
      · cases (if_neg hs).symm.trans h
    | false =>
      by_cases hs : s ∈ v.attempted c
      · exact hs
      · cases (if_neg hs).symm.trans h

theorem mem_failures_render {f : Failure} :
    f ∈ (v.render c busy).answer.failures ↔ v.error? c busy f.step = some f.error := by
  rw [failures_render_eq, List.mem_filterMap]
  constructor
  · rintro ⟨s, -, hf⟩
    obtain ⟨e, he, rfl⟩ := Option.map_eq_some_iff.1 hf
    exact he
  · intro he
    exact ⟨f.step, mem_undertaken_of_error? he, by rw [he]; rfl⟩

/-! ### Order -/

theorem undertaken_sublist (v : View) (c : Context) (busy : Bool) :
    v.undertaken c busy = [.acquireContext] ∨ (v.undertaken c busy).Sublist Step.pipeline := by
  unfold undertaken
  split
  · exact .inr (List.nil_sublist _)
  · split
    · exact .inl rfl
    · exact .inr List.filter_sublist

theorem pairwise_undertaken (v : View) (c : Context) (busy : Bool) :
    (v.undertaken c busy).Pairwise Step.Before := by
  rcases v.undertaken_sublist c busy with h | h
  · rw [h]
    exact List.pairwise_singleton ..
  · exact Step.pairwise_pipeline.sublist h

theorem steps_sublist (v : View) (c : Context) (busy : Bool) :
    ((v.render c busy).answer.failures.map Failure.step).Sublist (v.undertaken c busy) := by
  have hsteps : (v.render c busy).answer.failures.map Failure.step =
      (v.undertaken c busy).filter fun s => (v.error? c busy s).isSome := by
    rw [failures_render_eq, List.map_filterMap, ← List.filterMap_eq_filter]
    refine List.filterMap_congr fun s _ => ?_
    cases h : v.error? c busy s <;> simp [h, Option.guard]
  -- dropping the steps that succeeded keeps the order
  rw [hsteps]
  exact List.filter_sublist

theorem pairwise_failures (v : View) (c : Context) (busy : Bool) :
    ((v.render c busy).answer.failures.map Failure.step).Pairwise Step.Before :=
  (v.pairwise_undertaken c busy).sublist (v.steps_sublist c busy)

theorem nodup_failures (v : View) (c : Context) (busy : Bool) :
    ((v.render c busy).answer.failures.map Failure.step).Nodup :=
  Step.nodup_of_pairwise (v.pairwise_failures c busy)

theorem failure?_render (v : View) (c : Context) (busy : Bool) (s : Step) :
    (v.render c busy).answer.failure? s = (v.error? c busy s).map fun e => ⟨s, e⟩ := by
  refine Option.ext fun f => ?_
  rw [Report.failure?_eq_some_iff (v.nodup_failures c busy), mem_failures_render]
  constructor
  · rintro ⟨he, rfl⟩
    rw [he]
    rfl
  · intro h
    obtain ⟨e, he, rfl⟩ := Option.map_eq_some_iff.1 h
    exact ⟨he, rfl⟩

/-! ### Shaders -/

/-- Binding the shader fails for reasons of the shader, even if it is the device that refuses. -/
theorem error?_bindPixelShader {e : RenderError} (h : v.error? c busy .bindPixelShader = some e) :
    ∃ cause, e = .shader cause := by
  have hcause (m : Material) (hc : v.cause? m c .bindPixelShader = some e) :
      ∃ cause, e = .shader cause := by
    simp only [cause?] at hc
    split at hc
    · exact ⟨_, (Option.some.inj hc).symm⟩
    · exact ⟨_, (Option.some.inj hc).symm⟩
    · obtain ⟨refusal, -, rfl⟩ := Option.map_eq_some_iff.1 hc
      exact ⟨_, rfl⟩
  unfold error? at h
  split at h
  · cases h
  · split at h
    · cases h
    · split at h
      · exact hcause _ h
      · cases h

/-! ### Modes -/

theorem filter_setsMode_attempted (v : View) (c : Context) :
    (v.attempted c).filter Step.setsMode = (v.modeChanges c.cache).map StateChange.step := by
  have hmodes : Step.pipeline.filter Step.setsMode = [.setCullMode, .setFillMode] := by decide
  rw [attempted, List.filter_comm, hmodes, modeChanges]
  by_cases hc : c.cache.cull = v.cullMode <;> by_cases hf : c.cache.fill = v.fillMode <;>
    simp [attempts, hc, hf, StateChange.step]

theorem takes_eq (v : View) (m : Material) (c : Context) (ch : StateChange) :
    c.takes ch = (v.cause? m c ch.step).isNone := by
  rw [Context.takes, Hardware.refusal?_eq_firstCause]
  cases ch <;> simp only [StateChange.step, cause?, Option.isNone_map] <;> rfl

/-- The changes that a render makes are those of the attempted steps that do not fail. -/
theorem map_step_made (v : View) (m : Material) (c : Context) :
    (v.made c).map StateChange.step =
      (v.attempted c).filter fun s => s.setsMode && (v.cause? m c s).isNone := by
  have htakes : c.takes = (fun s => (v.cause? m c s).isNone) ∘ StateChange.step :=
    funext (v.takes_eq m c)
  -- first the steps that set modes, then those of them that the device takes
  rw [← List.filter_filter, List.filter_comm, filter_setsMode_attempted, List.filter_map, made,
    htakes]

theorem stateChanges_render (v : View) (c : Context) (busy : Bool) :
    (v.render c busy).answer.stateChanges =
      ((v.undertaken c busy).filter fun s => s.setsMode && (v.error? c busy s).isNone).length := by
  unfold undertaken error?
  cases hm : v.material with
  | none =>
    simp only [render, hm]
    rfl
  | some m =>
    cases busy with
    | true =>
      simp only [render, hm]
      rfl
    | false =>
      rw [render_of_material hm, (changes_draw v m c).1, ← List.length_map StateChange.step,
        map_step_made v m c]
      refine congrArg List.length (List.filter_congr fun s hs => ?_)
      simp only [Bool.false_eq_true, if_false, if_pos hs]

/-! ### Warnings -/

theorem level_of_mem_log_resolved {s : LightSet} {r : Record} (hr : r ∈ s.resolved.log) :
    r.level = .trace := by
  simp only [LightSet.resolved, LightSet.resolveOrder] at hr
  split at hr
  · rw [List.mem_singleton.1 hr]
  · cases hr

theorem level_of_note_mem_plan {r : Record} (hr : .note r ∈ v.plan m c) : r.level = .trace := by
  have hlights : .note r ∉ v.lightTasks := by simp [lightTasks]
  have htextures : .note r ∉ textureTasks m := by simp [textureTasks]
  have hmodes : .note r ∉ v.modeTasks c.cache := by simp [modeTasks]
  simp only [plan, List.mem_append, List.mem_cons, List.mem_map, List.not_mem_nil, reduceCtorEq,
    Task.note.injEq, exists_eq_right, hlights, htextures, hmodes, or_false, false_or] at hr
  rcases hr with hr | rfl
  · exact level_of_mem_log_resolved hr
  · rfl

theorem warnings_render (v : View) (c : Context) (busy : Bool) :
    (v.render c busy).log.filter (fun r => r.level = .warn) =
      (v.render c busy).answer.failures.map Failure.record := by
  simp only [render]
  split
  · rfl
  · split
    · rfl
    · refine Pass.warned_performAll (p := { context := c }) rfl fun r hr hwarn => ?_
      rw [level_of_note_mem_plan hr] at hwarn
      cases hwarn

/-- **The accounts of a render agree.** The failures in the report are listed in the order of the
pipeline, no step twice, unless the context was not to be had and this is all there is to report. A
question about a step is answered with its one entry exactly if it was attempted and failed. The
warning about the shader is what the report says of binding it, which fails for no reasons but those
of the shader. The changes counted are the modes that were attempted and did not fail. The warnings
in the log are those of the failures, one for each and in the same order. -/
theorem accounts_render (v : View) (c : Context) (busy : Bool) :
    let report := (v.render c busy).answer
    let steps := report.failures.map Failure.step
    (steps = [.acquireContext] ∨ steps.Sublist Step.pipeline) ∧
    steps.Pairwise Step.Before ∧ steps.Nodup ∧
    (∀ s, report.failure? s = (v.error? c busy s).map fun e => ⟨s, e⟩) ∧
    (∀ s f, report.failure? s = some f ↔ f ∈ report.failures ∧ f.step = s) ∧
    (∀ e, report.shaderWarning? = some e ↔
      report.failure? .bindPixelShader = some ⟨.bindPixelShader, .shader e⟩) ∧
    (∀ f ∈ report.failures, f.step = .bindPixelShader → ∃ e, f.error = .shader e) ∧
    report.stateChanges = ((v.undertaken c busy).filter fun s =>
      s.setsMode && (report.failure? s).isNone).length ∧
    report.stateChanges ≤ 2 ∧
    (v.render c busy).log.filter (fun r => r.level = .warn) = report.failures.map fun f =>
      ⟨.warn, .report, s!"MeshRenderView: {f.step.name} failed: {f.error.message}"⟩ := by
  intro report steps
  have hnodup : steps.Nodup := v.nodup_failures c busy
  have hsublist : steps.Sublist (v.undertaken c busy) := v.steps_sublist c busy
  have hanswer : ∀ s, report.failure? s = (v.error? c busy s).map fun e => ⟨s, e⟩ :=
    v.failure?_render c busy
  have hentry (s : Step) (f : Failure) :
      report.failure? s = some f ↔ f ∈ report.failures ∧ f.step = s :=
    Report.failure?_eq_some_iff hnodup
  refine ⟨?_, v.pairwise_failures c busy, hnodup, hanswer, hentry, ?_, ?_, ?_,
    v.stateChanges_le c busy, v.warnings_render c busy⟩
  -- the step that acquires the context fails alone, or not at all
  · rcases v.undertaken_sublist c busy with h | h
    · rw [h] at hsublist
      rcases List.sublist_singleton.1 hsublist with hnil | halone
      · exact .inr (hnil ▸ List.nil_sublist _)
      · exact .inl halone
    · exact .inr (hsublist.trans h)
  · intro e
    rw [Report.shaderWarning?_eq_some_iff hnodup, hentry]
    exact (and_iff_left rfl).symm
  · rintro ⟨s, e⟩ hf rfl
    exact error?_bindPixelShader (mem_failures_render.1 hf)
  · simp only [hanswer, Option.isNone_map]
    exact v.stateChanges_render c busy

/-- A variant that was never compiled is the shader's failure, and the draw has one of its own. The
one mode that differs is set all the same. -/
theorem accounts_render_missing :
    let v := { View.new ⟨.phong, ⟨1⟩, ⟨2⟩, 4, 6⟩ with material := some default, cullMode := .back }
    let c : Context := { device := .new, shaders := .empty ⟨0⟩ }
    let report := (v.render c false).answer
    let missing := ShaderError.variantNotFound (v.variant default)
    report.shaderWarning? = some missing ∧
      ⟨.bindPixelShader, .shader missing⟩ ∈ report.failures ∧
      report.stateChanges = 1 := by
  intro v c report missing
  obtain ⟨-, -, -, hanswer, hentry, hwarning, -, hcount, -, -⟩ := accounts_render v c false
  have hshader : report.failure? .bindPixelShader = some ⟨.bindPixelShader, .shader missing⟩ :=
    (hanswer _).trans rfl
  refine ⟨(hwarning _).2 hshader, ((hentry _ _).1 hshader).1, hcount.trans ?_⟩
  simp only [hanswer, Option.isNone_map]
  decide

end View

end LitMesh
