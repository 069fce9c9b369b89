import LitMesh.Proofs.Light.Resolution
import LitMesh.Proofs.Render.Pass
import LitMesh.Scene

/-!
# When a render orders the lights anew

The lights of a view are placed by its edits and resolved by its renders, as far as these get hold
of the context and of a material. Nothing else touches them, so in any scene they follow the events
that the answers of the run tell of (`Scene.lightsFollow_run`). A render that gets so far reports a
new order exactly if it is the first, or a light was placed since the last one.
-/

namespace LitMesh

/-! ## Events -/

namespace View

/-- What an edit did to the lights of its view. -/
def editEvent? : Edit → Except LightIndexError Unit → Option LightEvent
  | .setPointLight i position r g b weight, .ok _ => some (.placed i ⟨position, .rgb r g b, weight⟩)
  | _, _ => none

/-- What a render did to the lights of its view. It resolves them if it got hold of the context and
was not skipped. -/
def renderEvent? (busy : Bool) (report : Report) : Option LightEvent :=
  if busy = false ∧ report.skipped = false then some .resolved else none

end View

namespace Scene

/-- What an action did to the lights of the view in the given place. -/
def lightEvent? (place : Nat) : Action × Answer → Option LightEvent
  | (.edit p e, .edited result) => if p = place then View.editEvent? e result else none
  | (.render p busy, .rendered report) =>
    if p = place then View.renderEvent? busy report else none
  | _ => none

/-- What a history did to the lights of the view in the given place. -/
def lightEvents (place : Nat) (history : List (Action × Answer)) : List LightEvent :=
  history.filterMap (lightEvent? place)

end Scene

/-! ## Views -/

namespace View

variable {v : View} {past : List LightEvent}

theorem follows_edit (h : v.lights.Follows past) (e : Edit) :
    (v.edit e).state.lights.Follows (past ++ (editEvent? e (v.edit e).answer).toList) := by
  cases e with
  | setPointLight i position r g b weight =>
    simp only [edit]
    cases hs : v.lights.set i ⟨position, .rgb r g b, weight⟩ with
    | ok lights => exact h.set hs
    | error e => exact (List.append_nil past).symm ▸ h
  | _ => exact (List.append_nil past).symm ▸ h

theorem skipped_draw (v : View) (m : Material) (c : Context) :
    (v.draw m c).answer.skipped = false :=
  Pass.skipped_performAll ..

/-- What a render tells of the order of the lights, and what it does to them. -/
theorem follows_render (h : v.lights.Follows past) (c : Context) (busy : Bool) :
    let o := v.render c busy
    o.state.1.lights.Follows (past ++ (renderEvent? busy o.answer).toList) ∧
      (o.answer.lightsResorted = true ↔
        busy = false ∧ o.answer.skipped = false ∧ LightEvent.Outdated past) := by
  unfold render
  cases hm : v.material with
  | none => simpa [renderEvent?, Report.ofSkipped] using h
  | some m =>
    cases busy with
    | true => simpa [renderEvent?, Report.ofBusy] using h
    | false =>
      have hresorted : (v.draw m c).answer.lightsResorted = v.lights.stale :=
        LightSet.answer_resolveOrder v.lights
      simp only [renderEvent?, Bool.false_eq_true, if_false, skipped_draw, hresorted, true_and,
        and_self, if_true]
      exact ⟨h.resolveOrder, h.stale⟩

end View

/-! ## Scenes -/

namespace Scene

variable {s : Scene} {place p : Nat} {w : View} {past : List LightEvent}

theorem act_edit (hw : s.view? p = some w) (e : View.Edit) :
    s.act (.edit p e) = (w.edit e).lift (s.setView p) .edited := by
  simp only [act, hw]

theorem act_render_eq (hw : s.view? p = some w) (busy : Bool) :
    s.act (.render p busy) = (w.render s.context busy).lift
      (fun r => { s.setView p r.1 with context := r.2 }) .rendered := by
  simp only [act, hw]

/-- The place holds a view whose lights follow the past. -/
def LightsFollow (s : Scene) (place : Nat) (past : List LightEvent) : Prop :=
  ∃ v, s.view? place = some v ∧ v.lights.Follows past

theorem LightsFollow.setView (h : s.LightsFollow place past) (hw : s.view? p = some w) {w' : View}
    {event : Option LightEvent} (hevent : w.lights.Follows past →
      w'.lights.Follows (past ++ event.toList)) (c : Context) :
    { s.setView p w' with context := c : Scene }.LightsFollow place
      (past ++ (if p = place then event else none).toList) := by
  obtain ⟨v, hv, hfollows⟩ := h
  -- the view in question has had the event, any other place keeps its past
  by_cases hp : p = place
  · subst hp
    obtain rfl : w = v := Option.some.inj (hw.symm.trans hv)
    rw [if_pos rfl]
    exact ⟨w', (view?_setView hw w' p).trans (if_pos rfl), hevent hfollows⟩
  · rw [if_neg hp]
    exact ⟨v, (view?_setView hw w' place).trans ((if_neg hp).trans hv),
      (List.append_nil past).symm ▸ hfollows⟩

theorem lightsFollow_act (h : s.LightsFollow place past) (a : Action) :
    (s.act a).state.LightsFollow place
      (past ++ (lightEvent? place (a, (s.act a).answer)).toList) := by
  have hidle : s.LightsFollow place (past ++ []) := (List.append_nil past).symm ▸ h
  cases a with
  | context a => exact hidle
  | edit p e =>
    cases hw : s.view? p with
    | none =>
      rw [show s.act (.edit p e) = ⟨.noView, s, []⟩ by simp only [act, hw]]
      exact hidle
    | some w =>
      rw [act_edit hw]
      exact h.setView hw (fun hfollows => View.follows_edit hfollows e) s.context
  | render p busy =>
    cases hw : s.view? p with
    | none =>
      rw [show s.act (.render p busy) = ⟨.noView, s, []⟩ by simp only [act, hw]]
      exact hidle
    | some w =>
      rw [act_render_eq hw]
      exact h.setView hw (fun hfollows => (View.follows_render hfollows s.context busy).1)
        (w.render s.context busy).state.2

theorem lightsFollow_run {v : View} (hv : s.view? place = some v) (hnew : v.lights = .new)
    (as : List Action) :
    (s.run as).state.LightsFollow place (lightEvents place (s.history as)) := by
  refine runAll_induction
    (P := fun past (s : Scene) => s.LightsFollow place (lightEvents place past)) ?_ ?_ as
  · exact ⟨v, hv, hnew ▸ LightSet.follows_new⟩
  · intro past s a h
    rw [lightEvents, filterMap_concat]
    exact lightsFollow_act h a

/-- **The order of the lights is never stale.** First for light sets that are edited, resolved,
cloned and exchanged in any order, all of them new to begin with. What a set answers is the order of
the lights that it holds now and how many of them are active; to resolve it is answered by whether
it was never resolved or a light was placed since, and leaves it clean; a light for a slot that does
not exist changes nothing. Then for a view that was new to begin with, in any scene: a render
reports a new order exactly if it gets hold of the context, is not skipped, and is the first such
render or a light was placed since the last. -/
theorem resolution_run :
    (∀ (as : List LightRack.Action) (n : Nat),
      let r := (runAll LightRack.act LightRack.new as).state
      let past := LightRack.pastsAfter (historyOf LightRack.act LightRack.new as) n
      let lights := (r n).lights
      lights = LightEvent.lightsAfter past ∧
      (r.act (.resolved n)).answer = .order
        ⟨.byWeight fun k => (lights.get k).weight, lights.toList.countP PointLight.isActive⟩ ∧
      (∃ b, (r.act (.resolveOrder n)).answer = .flag b ∧
        (b = true ↔ LightEvent.Outdated past)) ∧
      ((r.act (.resolveOrder n)).state n).stale = false ∧
      ∀ i light, 3 ≤ i → r.act (.set n i light) = ⟨.refused ⟨i, 3⟩, r, []⟩) ∧
    ∀ (s : Scene) (place : Nat) (v : View), s.view? place = some v → v.lights = .new →
      ∀ (as : List Action) (busy : Bool), ∃ report,
        ((s.run as).state.act (.render place busy)).answer = .rendered report ∧
        (report.lightsResorted = true ↔ busy = false ∧ report.skipped = false ∧
          LightEvent.Outdated (lightEvents place (s.history as))) := by
  constructor
  · intro as n r past lights
    have hfollows : (r n).Follows past := LightRack.follows_run as n
    refine ⟨hfollows.lights, congrArg _ hfollows.answer_resolved,
      ⟨(r n).stale, congrArg _ (LightSet.answer_resolveOrder (r n)), hfollows.stale⟩, ?_, ?_⟩
    · rw [show (r.act (.resolveOrder n)).state n = (r n).resolveOrder.state from
        LightRack.put_self ..]
      exact LightSet.stale_resolveOrder (r n)
    · intro i light hi
      simp only [LightRack.act, LightSet.set_of_le hi]
  · intro s place v hv hnew as busy
    obtain ⟨w, hw, hfollows⟩ := lightsFollow_run hv hnew as
    rw [act_render_eq hw]
    exact ⟨_, rfl, (View.follows_render hfollows _ busy).2⟩

/-- A second render has nothing to order, unless a light was placed in between. -/
theorem resolution_run_again :
    let v := { View.new ⟨.phong, ⟨1⟩, ⟨2⟩, 4, 6⟩ with material := some default }
    let s : Scene := ⟨{ device := .ofSizes 0 0, shaders := .empty ⟨0⟩ }, [some v]⟩
    let again := [.render 0 false]
    let placed := [.render 0 false, .edit 0 (.setPointLight 2 .zero 1 1 1 1), .render 0 true]
    (∃ report, ((s.run again).state.act (.render 0 false)).answer = .rendered report ∧
      report.lightsResorted = false) ∧
    ∃ report, ((s.run placed).state.act (.render 0 false)).answer = .rendered report ∧
      (report.lightsResorted = true ↔ report.skipped = false) := by
  intro v s again placed
  obtain ⟨-, hview⟩ := resolution_run
  have hevent (c : Context) : View.renderEvent? false (v.draw default c).answer = some .resolved :=
    if_pos ⟨rfl, v.skipped_draw default c⟩
  constructor
  · obtain ⟨report, hanswer, hresorted⟩ := hview s 0 v rfl rfl again false
    refine ⟨report, hanswer, Bool.eq_false_iff.2 fun h => ?_⟩
    have hpast : lightEvents 0 (s.history again) = [] ++ [.resolved] := by
      show List.filterMap (lightEvent? 0)
        [(.render 0 false, .rendered (v.draw default s.context).answer)] = _
      simp only [List.filterMap_cons, lightEvent?, if_true, hevent]
      rfl
    exact LightEvent.not_outdated_resolved [] (hpast ▸ (hresorted.1 h).2.2)
  · obtain ⟨report, hanswer, hresorted⟩ := hview s 0 v rfl rfl placed false
    refine ⟨report, hanswer, hresorted.trans ⟨fun h => h.2.1, fun h => ⟨rfl, h, ?_⟩⟩⟩
    have hpast : lightEvents 0 (s.history placed) =
        [.resolved] ++ [.placed 2 ⟨.zero, .rgb 1 1 1, 1⟩] := by
      show List.filterMap (lightEvent? 0)
        [(.render 0 false, .rendered (v.draw default s.context).answer),
          (.edit 0 (.setPointLight 2 .zero 1 1 1 1), .edited (.ok ())),
          (.render 0 true, .rendered .ofBusy)] = _
      simp only [List.filterMap_cons, lightEvent?, if_true, hevent]
      rfl
    exact hpast ▸ LightEvent.outdated_placed [.resolved] 2 _

end Scene

end LitMesh
