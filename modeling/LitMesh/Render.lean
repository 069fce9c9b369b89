import LitMesh.Render.Plan

/-!
# Rendering

A render carries out the plan of a view, task by task, and reports on it. It does nothing without a
material, and fails before the first task if another render holds the context; in both cases the
view and the context stay as they are.
-/

namespace LitMesh

/-! ## Carrying out tasks -/

/-- A render under way. -/
structure Pass where
  context : Context
  report : Report := {}
  log : List Record := []

namespace Pass

def note (p : Pass) (r : Record) : Pass := { p with log := p.log ++ [r] }

/-- Enters a failure into the report and the log. -/
def fail (p : Pass) (f : Failure) : Pass :=
  { p with
    report := { p.report with failures := p.report.failures ++ [f] }
    log := p.log ++ [f.record] }

/-- Enters the result of a step. -/
def settle (p : Pass) (step : Step) : Except RenderError Unit → Pass
  | .ok () => p
  | .error e => p.fail ⟨step, e⟩

/-- The announcement of a change of mode. -/
def changeRecord : StateChange → Record
  | .cull mode => ⟨.debug, .view, s!"MeshRenderView: cull mode -> {mode.name}"⟩
  | .fill mode => ⟨.debug, .view, s!"MeshRenderView: fill mode -> {mode.name}"⟩

/-- Attempts a command as the given step. -/
def call (p : Pass) (step : Step) (command : Command) : Pass :=
  let r := p.context.device.call command
  settle { p with context.device := r.2 } step (r.1.mapError .device)

/-- Attempts to bind a shader variant. -/
def bindShader (p : Pass) (key : VariantKey) (h : key.InTable) : Pass :=
  let o := p.context.shaders.bind key h p.context.device
  settle
    { p with
      context := { p.context with shaders := o.state.1, device := o.state.2 }
      log := p.log ++ o.log }
    .bindPixelShader (o.answer.mapError .shader)

/-- Attempts a change of mode. The cache follows the device: it takes the new mode only if the
device did. -/
def change (p : Pass) (step : Step) (ch : StateChange) : Pass :=
  let r := p.context.device.call (.setRenderState ch)
  let p := { p with context.device := r.2 }.note (changeRecord ch)
  match r.1 with
  | .ok () =>
    { p with
      context.cache := p.context.cache.apply ch
      report.stateChanges := p.report.stateChanges + 1 }
  | .error e => p.fail ⟨step, .device e⟩

def perform (p : Pass) : Task → Pass
  | .call step command => p.call step command
  | .bindShader key h => p.bindShader key h
  | .change step ch => p.change step ch
  | .note record => p.note record

/-- Performs tasks one after the other. -/
def performAll (p : Pass) (tasks : List Task) : Pass := tasks.foldl perform p

end Pass

/-! ## Rendering -/

namespace Report

/-- The report of a render that had nothing to draw. -/
def ofSkipped : Report := { skipped := true }

/-- The report of a render that did not get the context. -/
def ofBusy : Report := { failures := [⟨.acquireContext, .contextUnavailable⟩] }

end Report

namespace View

/-- Renders the view on a context that nobody else holds. -/
def draw (v : View) (m : Material) (c : Context) : Outcome (View × Context) Report :=
  let pass := Pass.performAll { context := c } (v.plan m c)
  ⟨{ pass.report with drawIssued := true, lightsResorted := v.lights.resolveOrder.answer },
    ({ v with lights := v.lights.resolved.state }, pass.context), pass.log⟩

/-- Renders the view. `busy` says that another render holds the context. -/
def render (v : View) (c : Context) (busy : Bool) : Outcome (View × Context) Report :=
  match v.material with
  | none =>
    ⟨.ofSkipped, (v, c),
      [⟨.debug, .view, "MeshRenderView: no material set, skipping render"⟩]⟩
  | some m =>
    if busy then ⟨.ofBusy, (v, c), Report.ofBusy.failures.map Failure.record⟩
    else v.draw m c

end View

end LitMesh
