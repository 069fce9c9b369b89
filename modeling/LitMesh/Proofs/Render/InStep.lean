import LitMesh.Proofs.Render.Alike
import LitMesh.Proofs.Render.Changes

/-!
# Renders on contexts in step

Two contexts are in step if they are alike, and have the same bound and the same modes cached. They
may still differ in their logs, in their registers, in how often they have drawn, and in the variant
they remember. No render can tell: it answers the same, asks the same of both devices, and leaves
the contexts in step (`View.draw_inStep`). What the devices do not share, they come to share as soon
as a step writes it that does not fail (`View.read_draw_inStep`).
-/

namespace LitMesh

/-! ## Devices -/

namespace Hardware

/-- The states are alike and have the same bound. -/
structure InStep (h h' : Hardware) : Prop extends Alike h h' where
  bindings : h.bindings = h'.bindings

namespace InStep

variable {h h' : Hardware} {l : Location}

/-- Without a difference in what is bound, draws are refused alike as well. -/
theorem refusal?_eq (a : InStep h h') (cmd : Command) : h.refusal? cmd = h'.refusal? cmd := by
  by_cases hk : cmd.kind = .drawIndexedPrimitive
  · cases cmd with
    | drawIndexedPrimitive draw => simp only [refusal?, argumentRefusal?, a.faults, a.bindings]
    | _ => cases hk
  · exact a.toAlike.refusal?_eq hk

theorem apply (a : InStep h h') (cmd : Command) : InStep (h.apply cmd) (h'.apply cmd) where
  toAlike := (alike_apply h cmd).trans (a.toAlike.trans (alike_apply h' cmd).symm)
  bindings := by cases cmd <;> simp only [Hardware.apply, a.bindings]

theorem exec (a : InStep h h') (cmd : Command) : InStep (h.exec cmd).2 (h'.exec cmd).2 := by
  have hr := a.refusal?_eq cmd
  cases hh : h.refusal? cmd with
  | some e =>
    rw [exec_of_refused hh, exec_of_refused (hr.symm.trans hh)]
    exact a
  | none =>
    rw [exec_of_accepted hh, exec_of_accepted (hr.symm.trans hh)]
    exact a.apply cmd

/-- What the states share, they go on sharing. -/
theorem read_exec (a : InStep h h') (cmd : Command) (hsame : h.read l = h'.read l) :
    (h.exec cmd).2.read l = (h'.exec cmd).2.read l := by
  have hr := a.refusal?_eq cmd
  cases hh : h.refusal? cmd with
  | some e =>
    rw [exec_of_refused hh, exec_of_refused (hr.symm.trans hh)]
    exact hsame
  | none =>
    rw [exec_of_accepted hh, exec_of_accepted (hr.symm.trans hh)]
    exact read_apply_congr cmd hsame

theorem execAll (a : InStep h h') (cmds : List Command) :
    InStep (h.execAll cmds) (h'.execAll cmds) := by
  induction cmds generalizing h h' with
  | nil => exact a
  | cons cmd rest ih => exact ih (a.exec cmd)

theorem read_execAll (a : InStep h h') (cmds : List Command) (hsame : h.read l = h'.read l) :
    (h.execAll cmds).read l = (h'.execAll cmds).read l := by
  induction cmds generalizing h h' with
  | nil => exact hsame
  | cons cmd rest ih => exact ih (a.exec cmd) (a.read_exec cmd hsame)

end InStep

end Hardware

/-! ## Contexts -/

namespace Context

/-- The contexts are alike, and have the same bound and the same modes cached. -/
structure InStep (c c' : Context) : Prop extends Alike c c' where
  bindings : c.device.hardware.bindings = c'.device.hardware.bindings
  cache : c.cache = c'.cache

theorem InStep.devices {c c' : Context} (a : c.InStep c') :
    c.device.hardware.InStep c'.device.hardware := ⟨a.hardware, a.bindings⟩

/-- The contexts `c` and `c'` have come to `d` and `d'` by the same commands. -/
structure Together (c c' d d' : Context) : Prop where
  inStep : d.InStep d'
  issued : ∃ cmds, d.device.commands.toList = c.device.commands.toList ++ cmds ∧
    d'.device.commands.toList = c'.device.commands.toList ++ cmds
  kept : ∀ l, c.device.hardware.read l = c'.device.hardware.read l →
    d.device.hardware.read l = d'.device.hardware.read l

namespace Together

theorem refl {c c' : Context} (a : c.InStep c') : Together c c' c c' :=
  ⟨a, ⟨[], (List.append_nil _).symm, (List.append_nil _).symm⟩, fun _ => id⟩

theorem trans {b b' c c' d d' : Context} (x : Together b b' c c') (y : Together c c' d d') :
    Together b b' d d' := by
  obtain ⟨xs, hx, hx'⟩ := x.issued
  obtain ⟨ys, hy, hy'⟩ := y.issued
  refine ⟨y.inStep, ⟨xs ++ ys, ?_, ?_⟩, fun l hl => y.kept l (x.kept l hl)⟩
  · rw [hy, hx, List.append_assoc]
  · rw [hy', hx', List.append_assoc]

end Together

end Context

/-! ## Renders -/

namespace View

variable {c c' : Context} {s : Step}

theorem answer_draw (v : View) (m : Material) (c : Context) : (v.draw m c).answer =
    { drawIssued := true
      lightsResorted := v.lights.resolveOrder.answer
      stateChanges := (v.made c).length
      failures := (v.attempted c).filterMap fun s => (v.cause? m c s).map fun e => ⟨s, e⟩ } := by
  have hskipped : (v.draw m c).answer.skipped = false := Pass.skipped_performAll ..
  rw [← (v.changes_draw m c).1, ← failures_draw_eq, ← hskipped]
  rfl

theorem attempted_congr (v : View) (hcache : c.cache = c'.cache) :
    v.attempted c = v.attempted c' := by
  have hattempts : v.attempts c = v.attempts c' := by
    funext s
    cases s <;> simp only [attempts, hcache]
  rw [attempted, attempted, hattempts]

theorem cause?_inStep (v : View) (m : Material) (a : c.InStep c') (s : Step) :
    v.cause? m c s = v.cause? m c' s := by
  by_cases hs : s = .draw
  · subst hs
    exact cause?_draw_congr a.toAlike (.inr (by rw [a.bindings])) (.inr (by rw [a.bindings]))
  · exact cause?_congr a.toAlike hs

theorem made_inStep (v : View) (a : c.InStep c') : v.made c = v.made c' := by
  rw [made, made, a.cache]
  exact List.filter_congr fun ch _ => a.takes_eq ch

theorem issued_inStep (v : View) (m : Material) (a : c.InStep c') :
    (v.attempted c).filterMap (v.command? m c) = (v.attempted c').filterMap (v.command? m c') := by
  rw [v.attempted_congr a.cache]
  exact List.filterMap_congr fun s _ => command?_congr a.toAlike s

/-- **Contexts in step are rendered on in step.** -/
theorem draw_inStep (v : View) (m : Material) (a : c.InStep c') :
    (v.draw m c).answer = (v.draw m c').answer ∧
      Context.Together c c' (v.draw m c).state.2 (v.draw m c').state.2 := by
  have hissued := v.issued_inStep m a
  constructor
  · simp only [answer_draw, v.attempted_congr a.cache, v.made_inStep a, v.cause?_inStep m a]
  -- the same commands are issued on both sides, so what they leave stays in step
  · refine ⟨⟨?_, ?_, ?_⟩, ⟨_, v.commands_draw m c, ?_⟩, ?_⟩
    · exact (v.alike_draw m c).trans (a.toAlike.trans (v.alike_draw m c').symm)
    · rw [hardware_draw, hardware_draw, hissued]
      exact (a.devices.execAll _).bindings
    · rw [(v.changes_draw m c).2.1, (v.changes_draw m c').2.1, v.made_inStep a, a.cache]
    · rw [v.commands_draw m c', hissued]
    · intro l hsame
      rw [hardware_draw, hardware_draw, hissued]
      exact a.devices.read_execAll _ hsame

theorem render_inStep (v : View) (a : c.InStep c') (busy : Bool) :
    (v.render c busy).answer = (v.render c' busy).answer ∧
      (v.render c busy).state.1 = (v.render c' busy).state.1 ∧
        Context.Together c c' (v.render c busy).state.2 (v.render c' busy).state.2 := by
  cases hm : v.material with
  | none =>
    simp only [render, hm]
    exact ⟨trivial, trivial, .refl a⟩
  | some m =>
    cases busy with
    | true =>
      simp only [render, hm]
      exact ⟨rfl, rfl, .refl a⟩
    | false =>
      rw [render_of_material hm, render_of_material hm]
      obtain ⟨hanswer, htogether⟩ := v.draw_inStep m a
      exact ⟨hanswer, rfl, htogether⟩

/-- What a step of a render writes that does not fail is the same on contexts in step. The count of
draws is not written but counted on. -/
theorem read_draw_inStep (v : View) (m : Material) (a : c.InStep c') (hs : s ∈ Step.pipeline)
    (hclear : ∀ f ∈ (v.draw m c).answer.failures, f.step ≠ s) {l : Location} (hl : l ∈ v.target s)
    (hne : l ≠ .drawCount) :
    (v.draw m c).state.2.device.hardware.read l =
      (v.draw m c').state.2.device.hardware.read l := by
  have hbindings := (v.draw_inStep m a).2.inStep.bindings
  -- the modes are bound alike however they came about; all other steps are attempted on both
  by_cases hdraw : s = .draw
  · subst hdraw
    exact absurd (List.mem_singleton.1 hl) hne
  by_cases hcull : s = .setCullMode
  · subst hcull
    obtain rfl := List.mem_singleton.1 hl
    exact congrArg (·.modes.cull) hbindings
  by_cases hfill : s = .setFillMode
  · subst hfill
    obtain rfl := List.mem_singleton.1 hl
    exact congrArg (·.modes.fill) hbindings
  have hattempted (d : Context) : s ∈ v.attempted d := (mem_attempted hcull hfill).2 hs
  exact read_draw_congr a.toAlike ((v.mem_preparations c).2 ⟨hattempted c, hdraw⟩)
    ((v.mem_preparations c').2 ⟨hattempted c', hdraw⟩) (cause?_eq_none (hattempted c) hclear) hl

end View

end LitMesh
