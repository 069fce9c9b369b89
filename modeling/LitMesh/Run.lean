import LitMesh.Log

/-!
# Runs

Actions performed one after the other, whatever became of those before. The history of a run sets
each action beside its answer.

**Lemma.** What a fresh state satisfies and every action preserves holds after every run
(`runAll_induction`). It may speak of the history as well as of the state.
-/

namespace LitMesh

variable {σ α β : Type}

/-- Performs actions one after the other. -/
def runAll (act : σ → α → Outcome σ β) (s : σ) : List α → Outcome σ (List β)
  | [] => ⟨[], s, []⟩
  | a :: rest =>
    let first := act s a
    let later := runAll act first.state rest
    ⟨first.answer :: later.answer, later.state, first.log ++ later.log⟩

/-- The actions of a run, each with its answer. -/
def historyOf (act : σ → α → Outcome σ β) (s : σ) (as : List α) : List (α × β) :=
  as.zip (runAll act s as).answer

variable {act : σ → α → Outcome σ β}

theorem historyOf_cons (s : σ) (a : α) (as : List α) :
    historyOf act s (a :: as) = (a, (act s a).answer) :: historyOf act (act s a).state as := rfl

theorem map_fst_historyOf (s : σ) (as : List α) : (historyOf act s as).map Prod.fst = as := by
  induction as generalizing s with
  | nil => rfl
  | cons a rest ih => rw [historyOf_cons, List.map_cons, ih]

/-- What is read off a history grows at its end. -/
theorem filterMap_concat {γ : Type} (f : α → Option γ) (past : List α) (a : α) :
    (past ++ [a]).filterMap f = past.filterMap f ++ (f a).toList := by
  rw [List.filterMap_append]
  cases h : f a <;> simp [h]

theorem runAll_induction {P : List (α × β) → σ → Prop} {s : σ} (start : P [] s)
    (step : ∀ past s a, P past s → P (past ++ [(a, (act s a).answer)]) (act s a).state)
    (as : List α) : P (historyOf act s as) (runAll act s as).state := by
  have later (as : List α) : ∀ past s, P past s →
      P (past ++ historyOf act s as) (runAll act s as).state := by
    induction as with
    | nil =>
      intro past s h
      rw [historyOf, List.zip_nil_left, List.append_nil]
      exact h
    | cons a rest ih =>
      intro past s h
      rw [historyOf_cons, List.append_cons]
      exact ih _ _ (step past s a h)
  exact later as [] s start

end LitMesh
