import LitMesh.Proofs.Render.Changes
import LitMesh.Proofs.Render.Commands
import LitMesh.Proofs.Render.Effects
import LitMesh.Scene

/-!
# The cache follows the device

In a scene where nobody sets modes behind the back of the views, the cached modes are those of the
device at any time (`cache_run`), whatever fails on the way. Renders may therefore decide by the
cache alone which modes to set, and a change that was refused once is not forgotten: the next view
that wants it asks for it again.
-/

namespace LitMesh

/-! ## Actions that respect the cache -/

/-- The action does not set modes on the device or in the cache alone. -/
def Context.Action.Disciplined : Context.Action → Prop
  | .device (.call cmd) => cmd.kind ≠ .setRenderState
  | .device .reset | .setCache _ _ => False
  | _ => True

namespace Scene

/-- The action does not set modes on the device or in the cache alone. Views do both. -/
def Action.Disciplined : Action → Prop
  | .context a => a.Disciplined
  | .edit _ _ | .render _ _ => True

/-- The view that an action draws, if it draws one. -/
def drawn? (s : Scene) : Action → Option View
  | .render place false => (s.view? place).filter (·.material.isSome)
  | _ => none

/-- The commands that a render of the view in the given place adds to the log of the device. -/
def issued (s : Scene) (place : Nat) : List Command :=
  (s.act (.render place false)).state.context.device.commands.toList.drop
    s.context.device.commands.size

/-- None of the actions draws a view that wants the mode of the given change. -/
def Untried (ch : StateChange) : Scene → List Action → Prop
  | _, [] => True
  | s, a :: rest => (∀ v, s.drawn? a = some v → ¬ v.modes.Has ch) ∧ Untried ch (s.act a).state rest

end Scene

/-! ## Steps -/

/-- What an action on a context does to the modes: nothing, or both sides start again. -/
theorem Context.modes_act {J : Modes → Modes → Prop} {c : Context} {a : Context.Action}
    (ha : a.Disciplined) (hreset : a = .resetDevice → J {} {})
    (hJ : J c.cache c.device.hardware.bindings.modes) :
    J (c.act a).state.cache (c.act a).state.device.hardware.bindings.modes := by
  -- the only action that touches the modes is a draw of a view
  cases a with
  | device d =>
    cases d with
    | call cmd =>
      have hmodes := Hardware.modes_exec (h := c.device.hardware) ha
      show J c.cache (c.device.hardware.exec cmd).2.bindings.modes
      rw [hmodes]
      exact hJ
    | reset => cases ha
    | _ => exact hJ
  | putVariant key state =>
    simp only [act]
    split <;> exact hJ
  | bindShader key =>
    simp only [act]
    split
    · rename_i h
      show J c.cache (c.shaders.bind key h c.device).state.2.hardware.bindings.modes
      rw [VariantTable.device_bind,
        Device.modes_give (c.shaders.kind_ne_of_program? key h (by decide))]
      exact hJ
    · exact hJ
  | resetDevice => exact hreset rfl
  | setWorld m => exact hJ
  | setCache cull fill => cases ha

namespace Scene

variable {s : Scene} {v : View} {m : Material}

theorem act_render {place : Nat} (hv : s.view? place = some v) (hm : v.material = some m) :
    (s.act (.render place false)).state.context = (v.draw m s.context).state.2 := by
  simp only [act, hv, View.render_of_material hm]
  rfl

theorem answer_render {place : Nat} (hv : s.view? place = some v) (hm : v.material = some m) :
    (s.act (.render place false)).answer = .rendered (v.draw m s.context).answer := by
  simp only [act, hv, View.render_of_material hm]
  rfl

theorem drawn?_render {place : Nat} (hv : s.view? place = some v) (hm : v.material = some m) :
    s.drawn? (.render place false) = some v := by
  simp [drawn?, hv, hm]

theorem drawn?_eq_some {a : Action} (h : s.drawn? a = some v) :
    ∃ place m, a = .render place false ∧ s.view? place = some v ∧ v.material = some m := by
  cases a with
  | render place busy =>
    cases busy with
    | true => cases h
    | false =>
      obtain ⟨hv, hsome⟩ := Option.filter_eq_some_iff.1 h
      obtain ⟨m, hm⟩ := Option.isSome_iff_exists.1 hsome
      exact ⟨place, m, rfl, hv, hm⟩
  | context a => cases h
  | edit place e => cases h

theorem context_act_edit (s : Scene) (place : Nat) (e : View.Edit) :
    (s.act (.edit place e)).state.context = s.context := by
  simp only [act]
  split <;> rfl

theorem act_render_of_drawn? {place : Nat} {busy : Bool}
    (hnone : s.drawn? (.render place busy) = none) :
    (s.act (.render place busy)).state.context = s.context := by
  cases hv : s.view? place with
  | none => simp only [act, hv]
  | some v =>
    cases hm : v.material with
    | none =>
      simp only [act, hv, View.render, hm]
      rfl
    | some m =>
      cases busy with
      | false =>
        rw [drawn?_render hv hm] at hnone
        cases hnone
      | true =>
        simp only [act, hv, View.render, hm]
        rfl

/-- **Modes change in step.** A relation between the cached modes and those of the device survives
an action if it survives the changes of the view that the action draws, and a reset of both. -/
theorem modes_act {J : Modes → Modes → Prop} {a : Action} (ha : a.Disciplined)
    (hdraw : ∀ v, s.drawn? a = some v →
      ∀ ch, v.modes.Has ch → ∀ x y, J x y → J (x.apply ch) (y.apply ch))
    (hreset : a = .context .resetDevice → J {} {})
    (hJ : J s.context.cache s.context.device.hardware.bindings.modes) :
    J (s.act a).state.context.cache (s.act a).state.context.device.hardware.bindings.modes := by
  cases a with
  | context a => exact Context.modes_act ha (fun h => hreset (congrArg _ h)) hJ
  | edit place e =>
    rw [context_act_edit]
    exact hJ
  | render place busy =>
    cases hd : s.drawn? (.render place busy) with
    | none =>
      rw [act_render_of_drawn? hd]
      exact hJ
    | some v =>
      obtain ⟨_, m, hrender, hv, hm⟩ := drawn?_eq_some hd
      cases hrender
      rw [act_render hv hm]
      exact View.modes_draw (hdraw v hd) hJ

theorem cache_act {a : Action} (ha : a.Disciplined)
    (h : s.context.cache = s.context.device.hardware.bindings.modes) :
    (s.act a).state.context.cache = (s.act a).state.context.device.hardware.bindings.modes := by
  refine modes_act (J := (· = ·)) ha ?_ (fun _ => rfl) h
  rintro v - ch - x y rfl
  rfl

/-- One action does not give the device a mode that nobody draws with, unless by a reset. -/
theorem not_has_act {a : Action} {ch : StateChange} (ha : a.Disciplined)
    (hdraw : ∀ v, s.drawn? a = some v → ¬ v.modes.Has ch)
    (hreset : a = .context .resetDevice → ¬ Modes.Has {} ch)
    (h : ¬ s.context.device.hardware.bindings.modes.Has ch) :
    ¬ (s.act a).state.context.device.hardware.bindings.modes.Has ch := by
  refine modes_act (J := fun _ y => ¬ y.Has ch) ha ?_ hreset h
  intro v hv other hother x y hy hhas
  rcases Modes.has_of_has_apply hhas with rfl | hhas
  · exact hdraw v hv hother
  · exact hy hhas

/-! ## Runs -/

theorem cache_eq_modes_run {as : List Action} (has : ∀ a ∈ as, a.Disciplined)
    (h : s.context.cache = s.context.device.hardware.bindings.modes) :
    (s.run as).state.context.cache = (s.run as).state.context.device.hardware.bindings.modes := by
  induction as generalizing s with
  | nil => exact h
  | cons a rest ih =>
    have ha := has a List.mem_cons_self
    exact ih (fun b hb => has b (List.mem_cons_of_mem a hb)) (cache_act ha h)

theorem not_has_run {as : List Action} {ch : StateChange} (has : ∀ a ∈ as, a.Disciplined)
    (huntried : s.Untried ch as)
    (hreset : .context .resetDevice ∈ as → ¬ Modes.Has {} ch)
    (h : ¬ s.context.device.hardware.bindings.modes.Has ch) :
    ¬ (s.run as).state.context.device.hardware.bindings.modes.Has ch := by
  induction as generalizing s with
  | nil => exact h
  | cons a rest ih =>
    obtain ⟨hdraw, hlater⟩ := huntried
    have ha := has a List.mem_cons_self
    have hnow := not_has_act ha hdraw (fun he => hreset (he ▸ List.mem_cons_self)) h
    exact ih (fun b hb => has b (List.mem_cons_of_mem a hb)) hlater
      (fun hb => hreset (List.mem_cons_of_mem a hb)) hnow

/-! ## Renders -/

theorem issued_eq {place : Nat} (hv : s.view? place = some v) (hm : v.material = some m) :
    s.issued place = v.commands m s.context.shaders s.context.cache s.context.world := by
  rw [issued, act_render hv hm, View.commands_draw, View.filterMap_command?_attempted]
  exact List.drop_left' Array.length_toList

theorem mem_issued {place : Nat} {ch : StateChange} (hv : s.view? place = some v)
    (hm : v.material = some m) (hwants : v.modes.Has ch)
    (hcache : s.context.cache = s.context.device.hardware.bindings.modes)
    (hnot : ¬ s.context.device.hardware.bindings.modes.Has ch) :
    .setRenderState ch ∈ s.issued place := by
  have hmem : .setRenderState ch ∈ v.modeCommands s.context.cache :=
    List.mem_map_of_mem (View.mem_modeChanges.2 ⟨hwants, hcache ▸ hnot⟩)
  rw [← View.filter_commands (m := m) s.context.shaders s.context.cache s.context.world] at hmem
  rw [issued_eq hv hm]
  exact (List.mem_filter.1 hmem).1

/-- A change that a render could not make has not been made. -/
theorem not_has_of_reported {c : Context} {ch : StateChange} {e : RenderError}
    (hwants : v.modes.Has ch) (hcache : c.cache = c.device.hardware.bindings.modes)
    (hf : ⟨ch.step, e⟩ ∈ (v.draw m c).answer.failures) :
    ¬ (v.draw m c).state.2.device.hardware.bindings.modes.Has ch := by
  obtain ⟨hattempted, hread⟩ := View.read_draw_of_reported hf
  have hattempts : v.attempts c ch.step = true := (List.mem_filter.1 hattempted).2
  -- had the device got the mode, it would have had it before, and then nothing was attempted
  intro hhas
  cases ch with
  | cull mode =>
    obtain rfl : v.cullMode = mode := hwants
    have hcull : c.cache.cull ≠ v.cullMode := by
      simpa [View.attempts, StateChange.step] using hattempts
    have hsame := hread .cullMode (List.mem_singleton_self _)
    rw [hcache] at hcull
    exact hcull (hsame.symm.trans hhas)
  | fill mode =>
    obtain rfl : v.fillMode = mode := hwants
    have hfill : c.cache.fill ≠ v.fillMode := by
      simpa [View.attempts, StateChange.step] using hattempts
    have hsame := hread .fillMode (List.mem_singleton_self _)
    rw [hcache] at hfill
    exact hfill (hsame.symm.trans hhas)

/-- **The cache never drifts from the device.** Whatever is done to a scene that begins with a
device in its default modes, fails or succeeds, and in any order: the cached modes are those of the
device, provided nobody but the views sets one of the two alone. So a render asks for exactly the
modes that the device lacks. A change that was refused is asked for again by the next render that
wants it, unless a reset has brought it about in the meantime. -/
theorem cache_run {d : Device} (hd : d.hardware.bindings.modes = {}) (shaders : VariantTable)
    (views : List (Option View)) {as : List Action} (has : ∀ a ∈ as, a.Disciplined) :
    let s := (run ⟨{ device := d, shaders }, views⟩ as).state
    let modes := s.context.device.hardware.bindings.modes
    s.context.cache = modes ∧
    (∀ place v m, s.view? place = some v → v.material = some m →
      (s.issued place).filter (fun cmd => cmd.kind = .setRenderState) = v.modeCommands modes) ∧
    ∀ place v m ch e, s.view? place = some v → v.material = some m → v.modes.Has ch →
      ⟨ch.step, e⟩ ∈ (v.render s.context false).answer.failures →
      let after := (s.act (.render place false)).state
      ∀ between, (∀ a ∈ between, a.Disciplined) → after.Untried ch between →
        let next := (after.run between).state
        ∀ place' v' m', next.view? place' = some v' → v'.material = some m' → v'.modes.Has ch →
          .setRenderState ch ∈ next.issued place' ∨
            (.context .resetDevice ∈ between ∧ Modes.Has {} ch) := by
  intro s modes
  have hcache : s.context.cache = modes := cache_eq_modes_run has hd.symm
  refine ⟨hcache, ?_, ?_⟩
  · intro place v m hv hm
    rw [issued_eq hv hm, View.filter_commands, hcache]
  · intro place v m ch e hv hm hwants hf after between hbetween huntried next place' v' m' hv' hm'
      hwants'
    by_cases hreset : .context .resetDevice ∈ between ∧ Modes.Has {} ch
    · exact Or.inr hreset
    · left
      rw [View.render_of_material hm] at hf
      have hafter : after.context = (v.draw m s.context).state.2 := act_render hv hm
      -- refused, the mode is missing after the render, and nobody brings it about in between
      have hnot : ¬ after.context.device.hardware.bindings.modes.Has ch := by
        rw [hafter]
        exact not_has_of_reported hwants hcache hf
      have hsynced : after.context.cache = after.context.device.hardware.bindings.modes :=
        cache_act (a := .render place false) trivial hcache
      refine mem_issued hv' hm' hwants' (cache_eq_modes_run hbetween hsynced) ?_
      exact not_has_run hbetween huntried (fun hmem hhas => hreset ⟨hmem, hhas⟩) hnot

/-- A cull mode that was refused is asked for again once the device takes it. -/
theorem cache_run_refused :
    let v := { View.new ⟨.phong, ⟨1⟩, ⟨2⟩, 4, 6⟩ with
      material := some default, cullMode := .back }
    let start : Scene := ⟨{ device := .ofSizes 0 0, shaders := .empty ⟨0⟩ }, [some v]⟩
    let failing := (start.run [.context (.device (.failOn .setRenderState))]).state
    let refused := (failing.act (.render 0 false)).state
    .setRenderState (.cull .back) ∈
      (refused.run [.context (.device (.succeedOn .setRenderState))]).state.issued 0 := by
  intro v start failing refused
  have hfail : ∀ a ∈ [.context (.device (.failOn .setRenderState))], Action.Disciplined a := by
    simp [Action.Disciplined, Context.Action.Disciplined]
  have hsucceed : ∀ a ∈ [.context (.device (.succeedOn .setRenderState))],
      Action.Disciplined a := by
    simp [Action.Disciplined, Context.Action.Disciplined]
  obtain ⟨-, -, hretry⟩ := cache_run (d := .ofSizes 0 0) rfl (.empty ⟨0⟩) [some v] hfail
  specialize hretry 0 v default (.cull .back)
    (.device (.rejected "set_render_state" "injected failure")) rfl rfl rfl
  rw [View.render_of_material rfl, View.failures_draw] at hretry
  have hstep : Step.setCullMode ∈ v.preparations failing.context := by decide
  specialize hretry (List.mem_append_left _ (List.mem_filterMap.2 ⟨_, hstep, rfl⟩)) _ hsucceed
  rcases hretry ⟨nofun, trivial⟩ 0 _ default rfl rfl rfl with hissued | ⟨hreset, -⟩
  · exact hissued
  · cases hreset with
    | tail _ hreset => cases hreset

end Scene

end LitMesh
