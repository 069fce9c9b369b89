import LitMesh.Shader.Table

/-!
# Render reports

A render attempts every step even if an earlier one failed. Its report lists the steps that did,
in the order in which they were attempted, and tells what else came of the render.
-/

namespace LitMesh

/-! ## Steps -/

inductive Step
  /-- Getting hold of the context. -/
  | acquireContext
  | bindVertexFormat
  | bindVertexProgram
  /-- The position and color of the light of the given rank. -/
  | uploadLight (rank : Nat)
  | uploadAmbientColor
  | uploadMaterialColor
  | bindPixelShader
  /-- The weighted colors of all lights. -/
  | uploadLightColors
  | bindTexture (sampler : Sampler)
  | uploadWorldMatrix
  | setCullMode
  | setFillMode
  | bindVertexBuffer
  | bindIndexBuffer
  | draw
deriving DecidableEq

def Step.name : Step → String
  | acquireContext => "AcquireContext"
  | bindVertexFormat => "BindVertexFormat"
  | bindVertexProgram => "BindVertexProgram"
  | uploadLight rank => s!"UploadLight[{rank}]"
  | uploadAmbientColor => "UploadAmbientColor"
  | uploadMaterialColor => "UploadMaterialColor"
  | bindPixelShader => "BindPixelShader"
  | uploadLightColors => "UploadLightColors"
  | bindTexture sampler => s!"BindTexture[{sampler.name}]"
  | uploadWorldMatrix => "UploadWorldMatrix"
  | setCullMode => "SetCullMode"
  | setFillMode => "SetFillMode"
  | bindVertexBuffer => "BindVertexBuffer"
  | bindIndexBuffer => "BindIndexBuffer"
  | draw => "Draw"

/-- The step of a render that makes a change of mode. -/
def StateChange.step : StateChange → Step
  | cull _ => .setCullMode
  | fill _ => .setFillMode

/-! ## Failures -/

/-- Why a step of a render failed. -/
inductive RenderError
  | device (cause : DeviceError)
  | shader (cause : ShaderError)
  /-- Another render holds the context. -/
  | contextUnavailable
deriving DecidableEq

namespace RenderError

def message : RenderError → String
  | device cause => s!"Device error: {cause.message}"
  | shader cause => s!"Shader error: {cause.message}"
  | contextUnavailable => "The rendering context is in use by another render."

/-- The messages of the underlying errors, nearest first. -/
def sources : RenderError → List String
  | device cause => [cause.message]
  | shader cause => cause.message :: cause.sources
  | contextUnavailable => []

end RenderError

/-- A step that failed, and why. -/
structure Failure where
  step : Step
  error : RenderError
deriving DecidableEq

/-- The warning that a failure is logged with. -/
def Failure.record (f : Failure) : Record :=
  ⟨.warn, .report, s!"MeshRenderView: {f.step.name} failed: {f.error.message}"⟩

/-! ## Reports -/

structure Report where
  /-- Nothing was attempted, for want of a material. -/
  skipped : Bool := false
  /-- The draw was attempted. -/
  drawIssued : Bool := false
  /-- The order of the lights was worked out anew. -/
  lightsResorted : Bool := false
  /-- How many changes of mode the device accepted. -/
  stateChanges : Nat := 0
  failures : List Failure := []
deriving DecidableEq

namespace Report

instance : Inhabited Report := ⟨{}⟩

/-- The mesh was drawn and every step succeeded. -/
def isClean (r : Report) : Bool := !r.skipped && r.drawIssued && r.failures.isEmpty

/-- The failure of a step, if it failed. -/
def failure? (r : Report) (step : Step) : Option Failure := r.failures.find? fun f => f.step = step

/-- What went wrong with the shader variant. The draw went ahead with whatever was bound before. -/
def shaderWarning? (r : Report) : Option ShaderError :=
  r.failures.findSome? fun
    | ⟨.bindPixelShader, .shader cause⟩ => some cause
    | _ => none

end Report

end LitMesh
