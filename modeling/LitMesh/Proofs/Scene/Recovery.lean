import LitMesh.Proofs.Render.InStep
import LitMesh.Proofs.Scene.Apart
import LitMesh.Proofs.Scene.Cache

/-!
# A reset is a fresh start

A context that is reset keeps much of its past: the log, the registers, the count of draws and the
variant it remembers. None of it can be told from outside. Whatever has been done to a scene, a
context with the same resources, injected failures, shaders and world can be set up anew
(`exists_constructed`), and from the reset on the two scenes go on in step (`together_run`): views
are answered the same, the same is asked of both devices, and these agree on everything that is
bound and on every register that has been written since (`recovery_run`).
-/

namespace LitMesh

/-! ## Contexts that are set up anew -/

namespace Context

/-- The action is one of those that set a context up. -/
def Action.Builds : Action → Prop
  | .device (.createBuffer _) | .device .createTexture | .device (.failOn _)
  | .device (.succeedOn _) | .putVariant _ _ | .setWorld _ => True
  | _ => False

/-- The context is new: it has been set up, and nothing has been asked of its device. -/
inductive Constructed : Context → Prop
  | new (vertex pixel : Nat) (shaders : VariantTable) :
    Constructed { device := .ofSizes vertex pixel, shaders }
  | act {c : Context} {a : Action} : Constructed c → a.Builds → Constructed (c.act a).state

variable {c : Context} {a : Action}

theorem Constructed.unbound (h : c.Constructed) :
    c.device.hardware.bindings = {} ∧ c.cache = {} := by
  induction h with
  | new vertex pixel shaders => exact ⟨rfl, rfl⟩
  | @act c a _ ha ih =>
    cases a with
    | device d =>
      cases d with
      | createBuffer _ | createTexture | failOn _ | succeedOn _ => exact ih
      | _ => cases ha
    | putVariant key state =>
      simp only [Context.act]
      split <;> exact ih
    | setWorld m => exact ih
    | _ => cases ha

/-- What sets a context up can be done after a reset as well. -/
theorem alike_reset_of_builds (ha : a.Builds) (c : Context) :
    ((c.act .resetDevice).state.act a).state.Alike ((c.act a).state.act .resetDevice).state := by
  cases a with
  | device d =>
    cases d with
    | createBuffer _ | createTexture | failOn _ | succeedOn _ => exact .refl _
    | _ => cases ha
  | putVariant key state =>
    simp only [act]
    split <;> exact .refl _
  | setWorld m => exact .refl _
  | _ => cases ha

/-- Whatever else is done to a context, a reset makes up for it. -/
theorem alike_reset_of_not_builds (ha : ¬ a.Builds) (c : Context) :
    ((c.act a).state.act .resetDevice).state.Alike (c.act .resetDevice).state := by
  cases a with
  | device d =>
    cases d with
    | call cmd =>
      have hcall : (c.act (.device (.call cmd))).state.Alike c :=
        (Alike.refl c).withDevice (Hardware.alike_exec ..)
      exact hcall.act .resetDevice
    | clearCommands =>
      have hclear : (c.act (.device .clearCommands)).state.Alike c :=
        (Alike.refl c).withDevice (.refl c.device.hardware)
      exact hclear.act .resetDevice
    | lose | reset => exact .refl _
    | _ => exact absurd trivial ha
  | bindShader key => exact (c.alike_bindShader key).act .resetDevice
  | resetDevice | setCache _ _ => exact .refl _
  | _ => exact absurd trivial ha

theorem Constructed.inStep {fresh : Context} (h : fresh.Constructed)
    (a : fresh.Alike (c.act .resetDevice).state) : (c.act .resetDevice).state.InStep fresh where
  toAlike := a.symm
  bindings := h.unbound.1.symm
  cache := h.unbound.2.symm

end Context

namespace Scene

variable {s s' : Scene} {a : Action}

/-- What is like a context after a reset can be kept so, whatever is done to the scene. -/
theorem constructed_act {fresh : Context} (hnew : fresh.Constructed)
    (halike : fresh.Alike (s.context.act .resetDevice).state) (a : Action) :
    ∃ later : Context, later.Constructed ∧
      later.Alike ((s.act a).state.context.act .resetDevice).state := by
  cases a with
  | context a =>
    -- what sets a context up is done to the new one as well, and the reset undoes the rest
    by_cases ha : a.Builds
    · exact ⟨(fresh.act a).state, hnew.act ha,
        (halike.act a).trans (Context.alike_reset_of_builds ha s.context)⟩
    · exact ⟨fresh, hnew, halike.trans (Context.alike_reset_of_not_builds ha s.context).symm⟩
  | edit place e =>
    rw [context_act_edit]
    exact ⟨fresh, hnew, halike⟩
  | render place busy =>
    refine ⟨fresh, hnew, halike.trans ?_⟩
    cases hv : s.view? place with
    | none =>
      simp only [act, hv]
      exact .refl _
    | some v =>
      rw [act_render_eq hv]
      exact (v.alike_render s.context busy).symm.act .resetDevice

/-- Whatever has been done to a scene, its context after a reset is like one that is set up anew. -/
theorem exists_constructed (vertex pixel : Nat) (shaders : VariantTable)
    (views : List (Option View)) (as : List Action) :
    ∃ fresh : Context, fresh.Constructed ∧
      fresh.Alike ((run ⟨{ device := .ofSizes vertex pixel, shaders }, views⟩ as).state.context.act
        .resetDevice).state := by
  refine runAll_induction (P := fun _ (s : Scene) =>
    ∃ fresh : Context, fresh.Constructed ∧ fresh.Alike (s.context.act .resetDevice).state) ?_ ?_ as
  · exact ⟨_, .new vertex pixel shaders, .refl _⟩
  · rintro - s a ⟨fresh, hnew, halike⟩
    exact constructed_act hnew halike a

/-! ## Going on in step -/

/-- The action is done to a view. -/
def Action.OfView : Action → Prop
  | .context _ => False
  | .edit _ _ | .render _ _ => True

/-- The report of a render that a step succeeded in. -/
def Answer.Clears (step : Step) : Answer → Prop
  | .rendered report => ∀ f ∈ report.failures, f.step ≠ step
  | _ => False

/-- The action draws, and a step that writes the location does not fail. -/
def Writes (s : Scene) (l : Location) (a : Action) : Prop :=
  ∃ v, s.drawn? a = some v ∧
    ∃ step ∈ Step.pipeline, l ∈ v.target step ∧ (s.act a).answer.Clears step

/-- A run writes the location. -/
def Wrote (l : Location) : Scene → List Action → Prop
  | _, [] => False
  | s, a :: rest => s.Writes l a ∨ Wrote l (s.act a).state rest

theorem views_setView_congr (hviews : s.views = s'.views) (place : Nat) (v : View) :
    (s.setView place v).views = (s'.setView place v).views := by
  rw [setView, setView, hviews]

theorem together_act (hc : s.context.InStep s'.context) (hviews : s.views = s'.views)
    (ha : a.OfView) :
    (s.act a).answer = (s'.act a).answer ∧ (s.act a).state.views = (s'.act a).state.views ∧
      Context.Together s.context s'.context (s.act a).state.context (s'.act a).state.context := by
  have hview (place : Nat) : s'.view? place = s.view? place := by rw [view?, view?, hviews]
  cases a with
  | context a => cases ha
  | edit place e =>
    cases hv : s.view? place with
    | none =>
      simp only [act, hv, (hview place).trans hv]
      exact ⟨trivial, hviews, .refl hc⟩
    | some v =>
      rw [act_edit hv, act_edit ((hview place).trans hv)]
      exact ⟨rfl, views_setView_congr hviews place _, .refl hc⟩
  | render place busy =>
    cases hv : s.view? place with
    | none =>
      simp only [act, hv, (hview place).trans hv]
      exact ⟨trivial, hviews, .refl hc⟩
    | some v =>
      obtain ⟨hanswer, hsame, htogether⟩ := v.render_inStep hc busy
      rw [act_render_eq hv, act_render_eq ((hview place).trans hv)]
      simp only [Outcome.lift, hanswer, hsame]
      exact ⟨trivial, views_setView_congr hviews place _, htogether⟩

theorem read_act_of_writes (hc : s.context.InStep s'.context) (hviews : s.views = s'.views)
    {l : Location} (hw : s.Writes l a) (hne : l ≠ .drawCount) :
    (s.act a).state.context.device.hardware.read l =
      (s'.act a).state.context.device.hardware.read l := by
  obtain ⟨v, hdrawn, step, hstep, hl, hclear⟩ := hw
  obtain ⟨place, m, rfl, hv, hm⟩ := drawn?_eq_some hdrawn
  have hv' : s'.view? place = some v := by rw [← hv, view?, view?, hviews]
  rw [answer_render hv hm] at hclear
  rw [act_render hv hm, act_render hv' hm]
  exact v.read_draw_inStep m hc hstep hclear hl hne

theorem together_run {as : List Action} (hc : s.context.InStep s'.context)
    (hviews : s.views = s'.views) (has : ∀ a ∈ as, a.OfView) :
    (s.run as).answer = (s'.run as).answer ∧ (s.run as).state.views = (s'.run as).state.views ∧
      Context.Together s.context s'.context (s.run as).state.context (s'.run as).state.context := by
  induction as generalizing s s' with
  | nil => exact ⟨rfl, hviews, .refl hc⟩
  | cons a rest ih =>
    obtain ⟨hanswer, hviews', hfirst⟩ := together_act hc hviews (has a List.mem_cons_self)
    obtain ⟨hanswers, hviews'', hlater⟩ :=
      ih hfirst.inStep hviews' fun b hb => has b (List.mem_cons_of_mem a hb)
    rw [answer_run_cons, answer_run_cons, hanswer, hanswers]
    exact ⟨rfl, hviews'', hfirst.trans hlater⟩

theorem read_run_of_wrote {as : List Action} (hc : s.context.InStep s'.context)
    (hviews : s.views = s'.views) (has : ∀ a ∈ as, a.OfView) {l : Location} (hw : s.Wrote l as)
    (hne : l ≠ .drawCount) :
    (s.run as).state.context.device.hardware.read l =
      (s'.run as).state.context.device.hardware.read l := by
  induction as generalizing s s' with
  | nil => cases hw
  | cons a rest ih =>
    obtain ⟨-, hviews', hfirst⟩ := together_act hc hviews (has a List.mem_cons_self)
    have hrest : ∀ b ∈ rest, b.OfView := fun b hb => has b (List.mem_cons_of_mem a hb)
    rw [state_run_cons, state_run_cons]
    -- written now, the location is shared and stays so; otherwise it is written later on
    rcases hw with hnow | hlater
    · obtain ⟨-, -, htogether⟩ := together_run hfirst.inStep hviews' hrest
      exact htogether.kept l (read_act_of_writes hc hviews hnow hne)
    · exact ih hfirst.inStep hviews' hrest hlater

/-- **A reset is a fresh start.** Take a scene through any history, failures, losses and resets
included, and reset its device. A new context can be set up to be like that of the scene: with
register files of the same sizes, the same buffers and textures, the same injected failures (in
whatever order they were injected), the same shaders and the same world transform. On every such
context, whatever is done to the views is answered as on the one that was reset, and asks the same
of the device. At any time the two devices have the same bound and are in the same modes, and they
agree on every location that a step has written since and not failed. -/
theorem recovery_run {vertex pixel : Nat} (shaders : VariantTable) (views : List (Option View))
    (before : List Action) :
    let start : Scene := ⟨{ device := .ofSizes vertex pixel, shaders }, views⟩
    let recovered := ((start.run before).state.act (.context .resetDevice)).state
    (∃ fresh : Context, fresh.Constructed ∧ fresh.Alike recovered.context) ∧
    ∀ fresh : Context, fresh.Constructed → fresh.Alike recovered.context →
      ∀ as : List Action, (∀ a ∈ as, a.OfView) →
        let anew : Scene := ⟨fresh, recovered.views⟩
        let o := recovered.run as
        let o' := anew.run as
        let device := o.state.context.device
        let device' := o'.state.context.device
        o.answer = o'.answer ∧ o.state.views = o'.state.views ∧
        (∃ issued, device.commands.toList = recovered.context.device.commands.toList ++ issued ∧
          device'.commands.toList = fresh.device.commands.toList ++ issued) ∧
        device.hardware.bindings = device'.hardware.bindings ∧
        ∀ l ≠ .drawCount, recovered.Wrote l as →
          device.hardware.read l = device'.hardware.read l := by
  intro start recovered
  refine ⟨exists_constructed vertex pixel shaders views before, ?_⟩
  intro fresh hnew halike as has anew o o' device device'
  have hc : recovered.context.InStep anew.context := hnew.inStep halike
  have hviews : recovered.views = anew.views := rfl
  obtain ⟨hanswer, hviews', htogether⟩ := together_run hc hviews has
  refine ⟨hanswer, hviews', htogether.issued, htogether.inStep.bindings, ?_⟩
  intro l hne hw
  exact read_run_of_wrote hc hviews has hw hne

/-- Textures and index buffers are made to fail, the device is lost after a draw, and reset. The
ambient color of the next draw gets to it as it gets to a new one, on which the same failures have
been injected the other way round. -/
theorem recovery_run_ambient :
    let v := { View.new ⟨.phong, ⟨1⟩, ⟨2⟩, 4, 6⟩ with material := some default, ambient := .white }
    let c : Context := { device := .ofSizes 21 0, shaders := .empty ⟨0⟩ }
    let start : Scene := ⟨c, [some v]⟩
    let before := [.context (.device .createTexture), .context (.device (.failOn .setTexture)),
      .context (.device (.failOn .setIndices)), .render 0 false, .context (.device .lose)]
    let recovered := ((start.run before).state.act (.context .resetDevice)).state
    let textured := (c.act (.device .createTexture)).state
    let fresh := ((textured.act (.device (.failOn .setIndices))).state.act
      (.device (.failOn .setTexture))).state
    let o := recovered.run [.render 0 false]
    let o' := run ⟨fresh, recovered.views⟩ [.render 0 false]
    o.answer = o'.answer ∧
      o.state.context.device.hardware.read (.vertexRegister 20) =
        o'.state.context.device.hardware.read (.vertexRegister 20) := by
  intro v c start before recovered textured fresh o o'
  have hnew : fresh.Constructed :=
    .act (.act (.act (.new 21 0 (.empty ⟨0⟩)) trivial) trivial) trivial
  have hbeside := (Beside.refl 0 start).run before
  have hwithout : before.filter (fun a => !a.uses 0) =
    [.context (.device .createTexture), .context (.device (.failOn .setTexture)),
      .context (.device (.failOn .setIndices)), .context (.device .lose)] := rfl
  rw [hwithout] at hbeside
  have hundrawn := (hbeside.context.act .resetDevice).symm
  -- the same kinds fail, whichever was put in first
  have hinjected (k : CommandKind) : k ∈ ((∅ : KindSet).insert .setIndices).insert .setTexture ↔
      k ∈ ((∅ : KindSet).insert .setTexture).insert .setIndices := by
    simp only [KindSet.mem_insert, or_left_comm]
  have halike : fresh.Alike recovered.context := by
    refine Context.Alike.trans ?_ hundrawn
    exact ⟨⟨rfl, rfl, hinjected, rfl, rfl⟩, rfl, rfl, rfl⟩
  obtain ⟨-, hsame⟩ := @recovery_run 21 0 (.empty ⟨0⟩) [some v] before
  obtain ⟨hanswer, -, -, -, hreads⟩ :=
    hsame fresh hnew halike [.render 0 false] (by simp [Action.OfView])
  have hwrote : recovered.Wrote (.vertexRegister 20) [.render 0 false] := by
    let w := { v with lights := v.lights.resolved.state }
    have hw : recovered.view? 0 = some w := rfl
    refine .inl ⟨w, drawn?_render hw rfl, .uploadAmbientColor, by decide,
      Location.mem_vertexBlock.2 ⟨20, rfl, by decide, by decide⟩, ?_⟩
    rw [answer_render hw rfl]
    intro f hf hstep
    obtain ⟨-, hcause⟩ := View.mem_failures_draw.1 hf
    rw [hstep, View.cause?_congr halike.symm (by decide)] at hcause
    cases hcause
  simp only [o, o', recovered, start, c] at hwrote ⊢
  have hregister : Location.vertexRegister 20 ≠ .drawCount := by decide
  exact ⟨hanswer, hreads (.vertexRegister 20) hregister hwrote⟩

end Scene

end LitMesh
