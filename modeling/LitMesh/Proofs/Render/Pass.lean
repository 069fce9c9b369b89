import Mathlib.Data.List.Basic
import LitMesh.Proofs.Device.Location
import LitMesh.Render

/-!
# What a pass does

A pass through a list of tasks, seen from outside: the commands that the device is given
(`commands_performAll`), the state that they leave (`hardware_performAll`), and the failures that
are reported (`failures_performAll`). All three are read off the tasks and the context in which the
pass *began*. That works because tasks disturb each other so little: no task changes what
`Context.Alike` compares, and nothing else decides whether a task fails, a draw excepted.
-/

namespace LitMesh

/-! ## Devices -/

namespace Device

/-- The device after it was given a command, or none. -/
def give (d : Device) : Option Command → Device
  | some c => (d.call c).2
  | none => d

variable (d : Device) (given : Option Command)

theorem commands_give :
    (d.give given).commands.toList = d.commands.toList ++ given.toList := by
  cases given with
  | none => exact (List.append_nil _).symm
  | some c => simp only [give, commands_call, Array.toList_push, Option.toList_some]

theorem hardware_give : (d.give given).hardware = d.hardware.execAll given.toList := by
  cases given <;> rfl

theorem alike_give : (d.give given).hardware.Alike d.hardware := by
  rw [hardware_give]
  exact Hardware.alike_execAll ..

end Device

namespace VariantTable

theorem kind_ne_of_program? (t : VariantTable) (k : VariantKey) (h : k.InTable) {j : CommandKind}
    (hj : .setPixelProgram ≠ j) (cmd : Command)
    (hcmd : (t.program? k h).map .setPixelProgram = some cmd) : cmd.kind ≠ j := by
  obtain ⟨program, -, rfl⟩ := Option.map_eq_some_iff.1 hcmd
  exact hj

/-- Binding a variant calls the device at most once, for the program of the variant. -/
theorem device_bind (t : VariantTable) (k : VariantKey) (h : k.InTable) (d : Device) :
    (t.bind k h d).state.2 = d.give ((t.program? k h).map .setPixelProgram) := by
  -- only a variant that compiled gets as far as the device
  cases hget : t.get k h with
  | missing => simp only [bind_of_missing hget, program?, hget, Option.map_none, Device.give]
  | failed details => simp only [bind_of_failed hget, program?, hget, Option.map_none, Device.give]
  | compiled program =>
    simp only [program?, hget, Option.map_some, Device.give]
    cases hr : d.hardware.refusal? (.setPixelProgram program) with
    | some e => rw [bind_of_refused hget hr, Device.call_of_refused hr]
    | none => rw [bind_of_accepted hget hr, Device.call_of_accepted hr]

end VariantTable

/-! ## Tasks -/

namespace Task

/-- The step that a task carries out. Notes carry out none. -/
def step? : Task → Option Step
  | call step _ | change step _ => some step
  | bindShader _ _ => some .bindPixelShader
  | note _ => none

/-- The command that a task gives to the device. Only a variant that compiled gets that far. -/
def command? (shaders : VariantTable) : Task → Option Command
  | call _ command => some command
  | bindShader key h => (shaders.program? key h).map .setPixelProgram
  | change _ ch => some (.setRenderState ch)
  | note _ => none

/-- Why a task fails on a context, if it does. -/
def error? (c : Context) : Task → Option RenderError
  | call _ command => (c.device.hardware.refusal? command).map .device
  | bindShader key h =>
    match c.shaders.get key h with
    | .missing => some (.shader (.variantNotFound key))
    | .failed details => some (.shader (.compilationFailed key details))
    | .compiled program =>
      (c.device.hardware.refusal? (.setPixelProgram program)).map fun e => .shader (.bindFailed e)
  | change _ ch => (c.device.hardware.refusal? (.setRenderState ch)).map .device
  | note _ => none

/-- What a task enters into the report of a render, if it fails. -/
def failure? (c : Context) (t : Task) : Option Failure :=
  t.step?.bind fun s => (t.error? c).map (⟨s, ·⟩)

/-- A task that carries out a step succeeds if it gives a command and the device accepts that. -/
theorem error?_eq_none_iff {t : Task} {s : Step} (hs : t.step? = some s) (c : Context) :
    t.error? c = none ↔
      ∃ cmd, t.command? c.shaders = some cmd ∧ c.device.hardware.refusal? cmd = none := by
  cases t with
  | call _ command => simp [error?, command?]
  | bindShader key h =>
    cases hget : c.shaders.get key h <;> simp [error?, command?, VariantTable.program?, hget]
  | change _ ch => simp [error?, command?]
  | note r => cases hs

/-- The task draws. -/
def Draws : Task → Prop
  | call _ command => command.kind = .drawIndexedPrimitive
  | _ => False

theorem draws_of_command? {shaders : VariantTable} {t : Task} {cmd : Command}
    (hcmd : t.command? shaders = some cmd) (hkind : cmd.kind = .drawIndexedPrimitive) :
    t.Draws := by
  cases t with
  | call s command => cases hcmd; exact hkind
  | bindShader k h => exact absurd hkind (shaders.kind_ne_of_program? k h (by decide) cmd hcmd)
  | change s ch => cases hcmd; cases hkind
  | note r => cases hcmd

end Task

/-! ## Contexts that fail alike -/

/-- The two contexts differ at most in what renders change: registers, bindings and modes, logged
commands, the variant last bound, and the cache. -/
structure Context.Alike (c c' : Context) : Prop where
  hardware : c.device.hardware.Alike c'.device.hardware
  variants : c.shaders.variants = c'.shaders.variants
  vertexProgram : c.shaders.vertexProgram = c'.shaders.vertexProgram
  world : c.world = c'.world

namespace Context.Alike

variable {c c' : Context}

theorem get_eq (a : Alike c c') (k : VariantKey) (h : k.InTable) :
    c.shaders.get k h = c'.shaders.get k h := by
  simp only [VariantTable.get, a.variants]

theorem command?_eq (a : Alike c c') (t : Task) : t.command? c.shaders = t.command? c'.shaders := by
  cases t <;> simp only [Task.command?, VariantTable.program?, a.get_eq]

theorem failure?_eq (a : Alike c c') {t : Task} (ht : ¬ t.Draws) :
    t.failure? c = t.failure? c' := by
  have herror : t.error? c = t.error? c' := by
    cases t with
    | call s command => simp only [Task.error?, a.hardware.refusal?_eq ht]
    | bindShader key h =>
      simp only [Task.error?, a.get_eq]
      cases c'.shaders.get key h with
      | compiled program =>
        have hr := a.hardware.refusal?_eq (c := .setPixelProgram program) (by rintro ⟨⟩)
        simp only [hr]
      | _ => rfl
    | change s ch =>
      have hr := a.hardware.refusal?_eq (c := .setRenderState ch) (by rintro ⟨⟩)
      simp only [Task.error?, hr]
    | note r => rfl
  rw [Task.failure?, Task.failure?, herror]

end Context.Alike

/-! ## One task -/

/-- What is logged of a task when it is attempted, whatever becomes of it. -/
def Task.announcement : Task → List Record
  | change _ ch => [Pass.changeRecord ch]
  | note record => [record]
  | call _ _ | bindShader _ _ => []

namespace Pass

variable {p : Pass}

/-- The pass with a task announced and its command given to the device. -/
def attempt (p : Pass) (t : Task) : Pass :=
  { p with
    context.device := p.context.device.give (t.command? p.context.shaders)
    log := p.log ++ t.announcement }

/-- What there is to do after a task that has not failed: a change goes into the cache and is
counted, and a variant is remembered. -/
def complete (p : Pass) : Task → Pass
  | .change _ ch =>
    { p with
      context.cache := p.context.cache.apply ch
      report.stateChanges := p.report.stateChanges + 1 }
  | .bindShader k h =>
    { p with
      context.shaders.lastBound := some k
      log := p.log ++ (p.context.shaders.program? k h).toList.map fun program =>
        ⟨.trace, .shaders, s!"PhongShaderCache: bound {k} as {program}"⟩ }
  | .call _ _ | .note _ => p

/-- The two ways that a task can go: it is attempted, and then it has failed or is completed. -/
def Goes (p : Pass) (t : Task) (q : Pass) : Prop :=
  (∃ f, t.failure? p.context = some f ∧ q = (p.attempt t).fail f) ∨
    (t.failure? p.context = none ∧ q = (p.attempt t).complete t)

theorem goes_of_error {t : Task} {s : Step} {e : RenderError} {q : Pass} (hs : t.step? = some s)
    (he : t.error? p.context = some e) (hq : q = (p.attempt t).fail ⟨s, e⟩) : p.Goes t q := by
  refine .inl ⟨⟨s, e⟩, ?_, hq⟩
  rw [Task.failure?, hs, he]
  rfl

theorem goes_of_no_error {t : Task} {q : Pass} (he : t.error? p.context = none)
    (hq : q = (p.attempt t).complete t) : p.Goes t q := by
  refine .inr ⟨?_, hq⟩
  rw [Task.failure?, he]
  cases t.step? <;> rfl

theorem goes_call (p : Pass) (s : Step) (c : Command) : p.Goes (.call s c) (p.call s c) := by
  have he : Task.error? p.context (.call s c) =
    (p.context.device.hardware.refusal? c).map .device := rfl
  cases hr : p.context.device.hardware.refusal? c with
  | some e =>
    rw [hr] at he
    refine goes_of_error rfl he ?_
    rw [call, Device.call_of_refused hr, attempt, Task.announcement, List.append_nil]
    simp only [Task.command?, Device.give, Device.call_of_refused hr]
    rfl
  | none =>
    rw [hr] at he
    refine goes_of_no_error he ?_
    rw [call, Device.call_of_accepted hr, attempt, Task.announcement, List.append_nil]
    simp only [Task.command?, Device.give, Device.call_of_accepted hr]
    rfl

theorem goes_change (p : Pass) (s : Step) (ch : StateChange) :
    p.Goes (.change s ch) (p.change s ch) := by
  have he : Task.error? p.context (.change s ch) =
    (p.context.device.hardware.refusal? (.setRenderState ch)).map .device := rfl
  cases hr : p.context.device.hardware.refusal? (.setRenderState ch) with
  | some e =>
    rw [hr] at he
    refine goes_of_error rfl he ?_
    rw [change, Device.call_of_refused hr, attempt]
    simp only [Task.command?, Device.give, Device.call_of_refused hr]
    rfl
  | none =>
    rw [hr] at he
    refine goes_of_no_error he ?_
    rw [change, Device.call_of_accepted hr, attempt]
    simp only [Task.command?, Device.give, Device.call_of_accepted hr]
    rfl

theorem goes_bindShader (p : Pass) (k : VariantKey) (h : k.InTable) :
    p.Goes (.bindShader k h) (p.bindShader k h) := by
  -- a variant that is missing or failed ends here; one that compiled is up to the device
  cases hget : p.context.shaders.get k h with
  | missing =>
    have he : Task.error? p.context (.bindShader k h) = some (.shader (.variantNotFound k)) := by
      simp only [Task.error?, hget]
    refine goes_of_error rfl he ?_
    rw [bindShader, VariantTable.bind_of_missing hget, attempt]
    simp only [Task.command?, VariantTable.program?, hget]
    rfl
  | failed details =>
    have he : Task.error? p.context (.bindShader k h) =
        some (.shader (.compilationFailed k details)) := by
      simp only [Task.error?, hget]
    refine goes_of_error rfl he ?_
    rw [bindShader, VariantTable.bind_of_failed hget, attempt]
    simp only [Task.command?, VariantTable.program?, hget]
    rfl
  | compiled program =>
    have he : Task.error? p.context (.bindShader k h) =
        (p.context.device.hardware.refusal? (.setPixelProgram program)).map
          fun e => .shader (.bindFailed e) := by
      simp only [Task.error?, hget]
    cases hr : p.context.device.hardware.refusal? (.setPixelProgram program) with
    | some e =>
      rw [hr] at he
      refine goes_of_error rfl he ?_
      rw [bindShader, VariantTable.bind_of_refused hget hr, attempt]
      simp only [Task.command?, VariantTable.program?, hget, Option.map_some, Device.give,
        Device.call_of_refused hr]
      rfl
    | none =>
      rw [hr] at he
      refine goes_of_no_error he ?_
      rw [bindShader, VariantTable.bind_of_accepted hget hr, attempt, Task.announcement,
        List.append_nil]
      simp only [Task.command?, complete, VariantTable.program?, hget, Option.map_some,
        Device.give, Device.call_of_accepted hr]
      rfl

/-- **What a task can do to a pass.** -/
theorem goes_perform (p : Pass) (t : Task) : p.Goes t (p.perform t) := by
  cases t with
  | call s c => exact goes_call p s c
  | bindShader k h => exact goes_bindShader p k h
  | change s ch => exact goes_change p s ch
  | note r => exact .inr ⟨rfl, rfl⟩

/-- What performing a task makes of a pass, whatever kind of task it is. -/
structure Performed (t : Task) (p q : Pass) : Prop where
  device : q.context.device = p.context.device.give (t.command? p.context.shaders)
  /-- The failure of the task, if it fails, is entered behind the failures before it. -/
  failures : q.report.failures = p.report.failures ++ (t.failure? p.context).toList
  skipped : q.report.skipped = p.report.skipped
  variants : q.context.shaders.variants = p.context.shaders.variants
  vertexProgram : q.context.shaders.vertexProgram = p.context.shaders.vertexProgram
  world : q.context.world = p.context.world

theorem performed_perform (p : Pass) (t : Task) : Performed t p (p.perform t) := by
  rcases p.goes_perform t with ⟨f, hf, hq⟩ | ⟨hf, hq⟩
  · rw [hq]
    refine ⟨rfl, ?_, rfl, rfl, rfl, rfl⟩
    rw [hf]
    rfl
  · rw [hq]
    -- completing a task touches the cache, the count of changes, the last variant and the log
    refine ⟨?_, ?_, ?_, ?_, ?_, ?_⟩
    · cases t <;> rfl
    · rw [hf, Option.toList_none, List.append_nil]
      cases t <;> rfl
    all_goals cases t <;> rfl

namespace Performed

variable {t : Task} {q : Pass}

theorem commands (h : Performed t p q) : q.context.device.commands.toList =
    p.context.device.commands.toList ++ (t.command? p.context.shaders).toList := by
  rw [h.device, Device.commands_give]

theorem hardware (h : Performed t p q) : q.context.device.hardware =
    p.context.device.hardware.execAll (t.command? p.context.shaders).toList := by
  rw [h.device, Device.hardware_give]

theorem alike (h : Performed t p q) : q.context.Alike p.context where
  hardware := by rw [h.device]; exact Device.alike_give ..
  variants := h.variants
  vertexProgram := h.vertexProgram
  world := h.world

end Performed

/-! ## All tasks -/

@[simp] theorem performAll_cons (p : Pass) (t : Task) (ts : List Task) :
    p.performAll (t :: ts) = (p.perform t).performAll ts := rfl

theorem performAll_append (p : Pass) (ts us : List Task) :
    p.performAll (ts ++ us) = (p.performAll ts).performAll us := List.foldl_append ..

theorem skipped_performAll (p : Pass) (ts : List Task) :
    (p.performAll ts).report.skipped = p.report.skipped := by
  induction ts generalizing p with
  | nil => rfl
  | cons t ts ih => exact (ih _).trans (performed_perform p t).skipped

theorem filterMap_command?_perform (p : Pass) (t : Task) (ts : List Task) :
    ts.filterMap (·.command? (p.perform t).context.shaders) =
      ts.filterMap (·.command? p.context.shaders) := by
  have ha := (performed_perform p t).alike
  simp only [ha.command?_eq]

/-- **A pass gives the device the commands of its tasks**, whether they succeed or fail. -/
theorem commands_performAll (p : Pass) (ts : List Task) :
    (p.performAll ts).context.device.commands.toList =
      p.context.device.commands.toList ++ ts.filterMap (·.command? p.context.shaders) := by
  induction ts generalizing p with
  | nil => exact (List.append_nil _).symm
  | cons t ts ih =>
    rw [performAll_cons, ih, filterMap_command?_perform, (performed_perform p t).commands,
      List.append_assoc, List.filterMap_cons]
    cases t.command? p.context.shaders <;> rfl

theorem hardware_performAll (p : Pass) (ts : List Task) :
    (p.performAll ts).context.device.hardware =
      p.context.device.hardware.execAll (ts.filterMap (·.command? p.context.shaders)) := by
  induction ts generalizing p with
  | nil => rfl
  | cons t ts ih =>
    rw [performAll_cons, ih, filterMap_command?_perform, (performed_perform p t).hardware,
      ← Hardware.execAll_append, List.filterMap_cons]
    cases t.command? p.context.shaders <;> rfl

/-- **A pass without draws reports the failures that its first context decides.** -/
theorem failures_performAll (p : Pass) {ts : List Task} (hts : ∀ t ∈ ts, ¬ t.Draws) :
    (p.performAll ts).report.failures =
      p.report.failures ++ ts.filterMap (·.failure? p.context) := by
  induction ts generalizing p with
  | nil => exact (List.append_nil _).symm
  | cons t ts ih =>
    have hq := performed_perform p t
    -- the first task leaves a context that fails the later ones as the context before it does
    have hlater : ts.filterMap (·.failure? (p.perform t).context) =
        ts.filterMap (·.failure? p.context) :=
      List.filterMap_congr fun u hu => hq.alike.failure?_eq (hts u (List.mem_cons_of_mem t hu))
    rw [performAll_cons, ih _ fun u hu => hts u (List.mem_cons_of_mem t hu), hlater, hq.failures,
      List.append_assoc, List.filterMap_cons]
    cases t.failure? p.context <;> rfl

end Pass

end LitMesh
