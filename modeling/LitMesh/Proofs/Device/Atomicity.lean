import LitMesh.Device

/-!
# Calls are atomic

A call enters the log whatever becomes of it. If it fails, that is all it does: the hardware stays
as it was. So the calls of a run that failed can be left out of it, and it ends in the same state
with the same answers (`run_effective`).

The log is all that the two runs differ in, and no action looks at the log (`act_congr`).
-/

namespace LitMesh.Device

/-! ## One action -/

/-- The answer is that of a call that failed. -/
def Answer.failed : Answer → Bool
  | .called (.error _) => true
  | _ => false

variable {d d' : Device}

theorem call_of_error {c : Command} {e : DeviceError} (h : (d.call c).1 = .error e) :
    (d.call c).2 = { d with commands := d.commands.push c } := by
  cases hr : d.hardware.refusal? c with
  | some e' => rw [call_of_refused hr]
  | none =>
    rw [call_of_accepted hr] at h
    cases h

theorem call_of_lost (h : d.hardware.faults.lost = true) (c : Command) :
    (d.call c).1 = .error .deviceLost := by
  have hr : d.hardware.refusal? c = some .deviceLost := by
    rw [Hardware.refusal?, Faults.refusal?, if_pos h]
    rfl
  rw [call_of_refused hr]

theorem hardware_act_of_failed {a : Action} (h : (d.act a).answer.failed = true) :
    (d.act a).state.hardware = d.hardware := by
  cases a with
  | call c =>
    cases hc : (d.call c).1 with
    | error e =>
      show (d.call c).2.hardware = d.hardware
      rw [call_of_error hc]
    | ok =>
      rw [show (d.act (.call c)).answer = .called (d.call c).1 from rfl, hc] at h
      cases h
  | _ => cases h

/-- What an action answers and does to the hardware depends on the hardware alone. -/
theorem act_congr (h : d.hardware = d'.hardware) (a : Action) :
    (d.act a).answer = (d'.act a).answer ∧
      (d.act a).state.hardware = (d'.act a).state.hardware := by
  obtain ⟨hardware, commands⟩ := d
  obtain rfl : hardware = d'.hardware := h
  cases a <;> exact ⟨rfl, rfl⟩

/-! ## Runs -/

/-- The actions of a run without the calls that failed. -/
def effective (d : Device) (as : List Action) : List Action :=
  ((d.history as).filter fun p => !p.2.failed).map Prod.fst

theorem effective_cons (d : Device) (a : Action) (as : List Action) :
    d.effective (a :: as) =
      if (d.act a).answer.failed then (d.act a).state.effective as
      else a :: (d.act a).state.effective as := by
  rw [effective, history, historyOf_cons, List.filter_cons]
  cases (d.act a).answer.failed <;> rfl

theorem state_run_cons (d : Device) (a : Action) (as : List Action) :
    (d.run (a :: as)).state = ((d.act a).state.run as).state := rfl

theorem answer_run_cons (d : Device) (a : Action) (as : List Action) :
    (d.run (a :: as)).answer = (d.act a).answer :: ((d.act a).state.run as).answer := rfl

/-- Without its failed calls a run ends in the same hardware and gives the same other answers, even
on a device with another log. -/
theorem run_effective (h : d'.hardware = d.hardware) (as : List Action) :
    (d'.run (d.effective as)).state.hardware = (d.run as).state.hardware ∧
      (d'.run (d.effective as)).answer = (d.run as).answer.filter (!·.failed) := by
  induction as generalizing d d' with
  | nil => exact ⟨h, rfl⟩
  | cons a rest ih =>
    rw [effective_cons, state_run_cons, answer_run_cons]
    -- a call that failed has left the hardware to the rest; anything else answers as on `d`
    cases hf : (d.act a).answer.failed with
    | true =>
      obtain ⟨hstate, hanswer⟩ := ih (h.trans (hardware_act_of_failed hf).symm)
      rw [if_pos rfl, List.filter_cons_of_neg (by simp [hf])]
      exact ⟨hstate, hanswer⟩
    | false =>
      obtain ⟨hsame, hnext⟩ := act_congr h a
      obtain ⟨hstate, hanswer⟩ := ih hnext
      rw [if_neg Bool.false_ne_true, List.filter_cons_of_pos (by simp [hf]), state_run_cons,
        answer_run_cons, hsame]
      exact ⟨hstate, congrArg _ hanswer⟩

/-- **Calls are atomic and always logged.** A call adds itself to the log, once, whether or not it
succeeds. If it fails, nothing else changes. On a lost device it fails for the loss, whatever it
asks and whatever failures are injected. So every run, with faults coming and going, ends in the
same hardware without its failed calls, and no other answer changes. -/
theorem call_atomic (d : Device) :
    (∀ c, (d.call c).2.commands = d.commands.push c) ∧
    (∀ c e, (d.call c).1 = .error e → (d.call c).2 = { d with commands := d.commands.push c }) ∧
    (d.hardware.faults.lost = true → ∀ c, (d.call c).1 = .error .deviceLost) ∧
    ∀ as, (d.run (d.effective as)).state.hardware = (d.run as).state.hardware ∧
      (d.run (d.effective as)).answer = (d.run as).answer.filter (!·.failed) :=
  ⟨commands_call d, fun _ _ => call_of_error, call_of_lost, run_effective rfl⟩

/-- A call for a buffer that does not exist and a call on the lost device can be left out. -/
theorem call_atomic_recovered :
    let d := ofSizes 0 0
    let lost := (d.run [.lose]).state
    let as := [.createBuffer [0], .call (.setIndices ⟨2⟩), .lose, .call (.setIndices ⟨1⟩), .reset,
      .call (.setIndices ⟨1⟩)]
    let kept := [.createBuffer [0], .lose, .reset, .call (.setIndices ⟨1⟩)]
    (lost.call (.setIndices ⟨1⟩)).1 = .error .deviceLost ∧
      (lost.call (.setIndices ⟨1⟩)).2 = { lost with commands := #[.setIndices ⟨1⟩] } ∧
      (d.run kept).state.hardware = (d.run as).state.hardware := by
  intro d lost as kept
  obtain ⟨-, hkept, hlost, -⟩ := call_atomic lost
  have hcall : (lost.call (.setIndices ⟨1⟩)).1 = .error .deviceLost := hlost rfl _
  obtain ⟨-, -, -, hrun⟩ := call_atomic d
  have heffective : d.effective as = kept := rfl
  exact ⟨hcall, hkept _ _ hcall, heffective ▸ (hrun as).1⟩

end LitMesh.Device
