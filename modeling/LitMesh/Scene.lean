import LitMesh.Render

/-!
# Scenes

A context and the views that draw through it. A view whose configuration was refused leaves its
place empty, and nothing can be done with it.
-/

namespace LitMesh

structure Scene where
  context : Context
  views : List (Option View)

namespace Scene

/-- The view in the given place, if there is one. -/
def view? (s : Scene) (place : Nat) : Option View := (s.views[place]?).join

/-- Replaces the view in the given place. -/
def setView (s : Scene) (place : Nat) (v : View) : Scene :=
  { s with views := s.views.set place (some v) }

/-- A place that holds a view holds the one that it was set to. -/
theorem view?_setView {s : Scene} {place : Nat} {v : View} (hv : s.view? place = some v) (w : View)
    (other : Nat) :
    (s.setView place w).view? other = if place = other then some w else s.view? other := by
  have hlt : place < s.views.length := by
    refine Decidable.byContradiction fun hge => ?_
    rw [view?, List.getElem?_eq_none (Nat.le_of_not_lt hge)] at hv
    cases hv
  rw [view?, setView, List.getElem?_set]
  by_cases hsame : place = other
  · rw [if_pos hsame, if_pos hsame, if_pos hlt]
    rfl
  · rw [if_neg hsame, if_neg hsame]
    rfl

/-! ## Actions -/

inductive Action
  | context (a : Context.Action)
  | edit (place : Nat) (e : View.Edit)
  | render (place : Nat) (busy : Bool)

inductive Answer
  | context (a : Context.Answer)
  | edited (result : Except LightIndexError Unit)
  | rendered (report : Report)
  | noView

/-- Performs one action. -/
def act (s : Scene) : Action → Outcome Scene Answer
  | .context a => (s.context.act a).lift (fun c => { s with context := c }) .context
  | .edit place e =>
    match s.view? place with
    | some v => (v.edit e).lift (s.setView place) .edited
    | none => ⟨.noView, s, []⟩
  | .render place busy =>
    match s.view? place with
    | some v =>
      (v.render s.context busy).lift (fun (v, c) => { s.setView place v with context := c })
        .rendered
    | none => ⟨.noView, s, []⟩

/-- Performs actions one after the other. -/
def run (s : Scene) (as : List Action) : Outcome Scene (List Answer) := runAll act s as

/-- The actions of a run, each with its answer. -/
def history (s : Scene) (as : List Action) : List (Action × Answer) := historyOf act s as

theorem state_run_cons (s : Scene) (a : Action) (rest : List Action) :
    (s.run (a :: rest)).state = ((s.act a).state.run rest).state := rfl

theorem answer_run_cons (s : Scene) (a : Action) (rest : List Action) :
    (s.run (a :: rest)).answer = (s.act a).answer :: ((s.act a).state.run rest).answer := rfl

theorem history_cons (s : Scene) (a : Action) (rest : List Action) :
    s.history (a :: rest) = (a, (s.act a).answer) :: (s.act a).state.history rest := rfl

end Scene

end LitMesh
