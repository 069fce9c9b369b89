import LitMesh.Scene

/-!
# Renders that cannot draw

A render is skipped if its view has no material, and refused if another render holds the context. It
is then as if it had not been asked for: not even the lights of the view are brought up to date, so
nothing is lost to the render that draws later. All such renders can be left out of a run, which
ends in the same state and answers the other actions as before (`undrawn_run`).
-/

namespace LitMesh

/-! ## One render -/

namespace View

/-- Whether a render of the view gets as far as its first step. -/
def canDraw (v : View) (busy : Bool) : Bool := v.material.isSome && !busy

variable {v : View} {c : Context} {busy : Bool}

theorem render_of_no_material (hm : v.material = none) (c : Context) (busy : Bool) :
    (v.render c busy).state = (v, c) ∧ (v.render c busy).answer = .ofSkipped := by
  simp only [render, hm, and_self]

theorem render_of_busy (hm : v.material ≠ none) (c : Context) :
    (v.render c true).state = (v, c) ∧ (v.render c true).answer = .ofBusy := by
  obtain ⟨m, hm⟩ := Option.ne_none_iff_exists'.1 hm
  simp only [render, hm, if_true, and_self]

/-- A render that cannot draw changes nothing and reports why it did not draw. -/
theorem render_of_not_canDraw (h : v.canDraw busy = false) (c : Context) :
    (v.render c busy).state = (v, c) ∧
      ((v.render c busy).answer = .ofSkipped ∨ (v.render c busy).answer = .ofBusy) := by
  by_cases hm : v.material = none
  · obtain ⟨hstate, hanswer⟩ := render_of_no_material hm c busy
    exact ⟨hstate, .inl hanswer⟩
  · obtain rfl : busy = true := by
      rw [canDraw, Option.isSome_iff_ne_none.2 hm] at h
      simpa using h
    obtain ⟨hstate, hanswer⟩ := render_of_busy hm c
    exact ⟨hstate, .inr hanswer⟩

theorem exists_draw_of_canDraw (h : v.canDraw busy = true) (c : Context) :
    ∃ m, v.render c busy = v.draw m c := by
  obtain ⟨hsome, hbusy⟩ := Bool.and_eq_true_iff.1 h
  obtain ⟨m, hm⟩ := Option.isSome_iff_exists.1 hsome
  obtain rfl : busy = false := by simpa using hbusy
  refine ⟨m, ?_⟩
  simp only [render, hm]
  rfl

theorem drawIssued_render (v : View) (c : Context) (busy : Bool) :
    (v.render c busy).answer.drawIssued = v.canDraw busy := by
  cases h : v.canDraw busy with
  | false =>
    obtain ⟨-, hanswer | hanswer⟩ := render_of_not_canDraw h c <;> rw [hanswer] <;> rfl
  | true =>
    obtain ⟨m, hdraw⟩ := exists_draw_of_canDraw h c
    rw [hdraw]
    rfl

end View

/-! ## Runs -/

namespace Scene

variable {s : Scene} {a : Action}

/-- The action is a render of a view that cannot draw. -/
def undrawable (s : Scene) : Action → Bool
  | .render place busy => (s.view? place).any fun v => !v.canDraw busy
  | _ => false

/-- The actions of a run without the renders that could not draw when their turn came. -/
def drawable (s : Scene) : List Action → List Action
  | [] => []
  | a :: rest =>
    let later := (s.act a).state.drawable rest
    if s.undrawable a then later else a :: later

/-- The answer is the report of a render that did not draw. -/
def Answer.undrawn : Answer → Bool
  | .rendered report => !report.drawIssued
  | _ => false

theorem setView_self {place : Nat} {v : View} (hv : s.view? place = some v) :
    s.setView place v = s := by
  obtain ⟨hlt, hget⟩ := List.getElem?_eq_some_iff.1 (Option.join_eq_some_iff.1 hv)
  rw [setView, ← hget, List.set_getElem_self]

theorem undrawn_answer_act (s : Scene) (a : Action) :
    (s.act a).answer.undrawn = s.undrawable a := by
  cases a with
  | context a => rfl
  | edit place e =>
    simp only [act]
    split <;> rfl
  | render place busy =>
    cases hv : s.view? place with
    | none => simp only [act, undrawable, hv, Option.any_none, Answer.undrawn]
    | some v =>
      simp only [act, undrawable, hv, Option.any_some, Outcome.lift, Answer.undrawn,
        View.drawIssued_render]

theorem state_act_of_undrawable (h : s.undrawable a = true) : (s.act a).state = s := by
  cases a with
  | context a => cases h
  | edit place e => cases h
  | render place busy =>
    obtain ⟨v, hv, hnot⟩ := (Option.any_eq_true ..).1 h
    obtain ⟨hstate, -⟩ := View.render_of_not_canDraw (by simpa using hnot) s.context
    simp only [act, hv, Outcome.lift, hstate, setView_self hv]

theorem drawable_cons_of_undrawable (h : s.undrawable a = true) (rest : List Action) :
    s.drawable (a :: rest) = s.drawable rest := by
  rw [drawable, state_act_of_undrawable h, if_pos h]

theorem drawable_cons_of_not (h : s.undrawable a = false) (rest : List Action) :
    s.drawable (a :: rest) = a :: (s.act a).state.drawable rest := by
  rw [drawable, h, if_neg Bool.false_ne_true]

/-- Without the renders that could not draw a run ends in the same state, and the actions that are
left are answered as before. -/
theorem run_drawable (s : Scene) (as : List Action) :
    (s.run (s.drawable as)).state = (s.run as).state ∧
      s.history (s.drawable as) = (s.history as).filter fun p => !p.2.undrawn := by
  induction as generalizing s with
  | nil => exact ⟨rfl, rfl⟩
  | cons a rest ih =>
    obtain ⟨hstate, hhistory⟩ := ih (s.act a).state
    have hanswer := undrawn_answer_act s a
    rw [state_run_cons, history_cons]
    -- a render that cannot draw leaves the scene to the rest of the run as it was
    cases h : s.undrawable a with
    | true =>
      rw [state_act_of_undrawable h] at hstate hhistory ⊢
      rw [drawable_cons_of_undrawable h, List.filter_cons_of_neg (by simp [hanswer, h])]
      exact ⟨hstate, hhistory⟩
    | false =>
      rw [drawable_cons_of_not h, List.filter_cons_of_pos (by simp [hanswer, h]), state_run_cons,
        history_cons, hhistory]
      exact ⟨hstate, rfl⟩

/-- **Renders that cannot draw are invisible.** A render without a material, or on a context that
another render holds, leaves the view and the context as they were, and its report says that nothing
was drawn and why. So all such renders can be left out of a run, whatever happens around them: it
ends in the same state, and every other action is answered as before. -/
theorem undrawn_run :
    (∀ (v : View) (c : Context), v.material = none → ∀ busy,
      (v.render c busy).state = (v, c) ∧ (v.render c busy).answer = { skipped := true }) ∧
    (∀ (v : View) (c : Context), v.material ≠ none →
      (v.render c true).state = (v, c) ∧
        (v.render c true).answer = { failures := [⟨.acquireContext, .contextUnavailable⟩] }) ∧
    (∀ (v : View) (c : Context) (busy : Bool), v.material = none ∨ busy = true →
      let report := (v.render c busy).answer
      report.drawIssued = false ∧ report.lightsResorted = false ∧ report.stateChanges = 0 ∧
        report.isClean = false) ∧
    ∀ (s : Scene) (as : List Action),
      (∀ a, (s.act a).answer.undrawn = s.undrawable a) ∧
      (s.run (s.drawable as)).state = (s.run as).state ∧
      s.history (s.drawable as) = (s.history as).filter fun p => !p.2.undrawn := by
  refine ⟨fun v c hm busy => View.render_of_no_material hm c busy,
    fun v c hm => View.render_of_busy hm c, ?_,
    fun s as => ⟨undrawn_answer_act s, run_drawable s as⟩⟩
  intro v c busy hcannot report
  have hnot : v.canDraw busy = false := by
    rcases hcannot with hm | rfl
    · rw [View.canDraw, hm]
      rfl
    · exact Bool.and_false _
  obtain ⟨-, hanswer | hanswer⟩ := View.render_of_not_canDraw hnot c <;>
    simp only [report, hanswer] <;>
    exact ⟨rfl, rfl, rfl, rfl⟩

/-- The first render comes too early, the second finds the context taken, the third draws. -/
theorem undrawn_run_third :
    let v := View.new ⟨.phong, ⟨1⟩, ⟨2⟩, 4, 6⟩
    let c : Context := { device := .ofSizes 0 0, shaders := .empty ⟨0⟩ }
    let lit := { v with material := some default }
    let as := [.render 0 true, .edit 0 (.setMaterial (some default)), .render 0 true,
      .render 0 false]
    let s : Scene := ⟨c, [some v]⟩
    (v.render c true).answer = { skipped := true } ∧ (lit.render c true).state = (lit, c) ∧
      (v.render c false).answer.isClean = false ∧
      (s.run [.edit 0 (.setMaterial (some default)), .render 0 false]).state =
        (s.run as).state := by
  intro v c lit as s
  obtain ⟨hskipped, hbusy, hreport, hrun⟩ := undrawn_run
  have hdrawable : s.drawable as = [.edit 0 (.setMaterial (some default)), .render 0 false] := rfl
  obtain ⟨-, hstate, -⟩ := hrun s as
  exact ⟨(hskipped v c rfl true).2, (hbusy lit c nofun).1, (hreport v c false (.inl rfl)).2.2.2,
    hdrawable ▸ hstate⟩

end Scene

end LitMesh
