import LitMesh.Context
import LitMesh.Render.Report
import LitMesh.View

/-!
# Render plans

What a render is going to do, as a list of tasks. The plan depends on the view, and of the context
on the vertex program, the cached modes and the world transform. It depends on nothing that a task
brings about: no failure changes what comes after it.
-/

namespace LitMesh

inductive Task
  /-- A command for the device. -/
  | call (step : Step) (command : Command)
  /-- Binding a variant of the pixel shader. -/
  | bindShader (key : VariantKey) (inTable : key.InTable)
  /-- A change of mode, which the cache follows if the device accepts it. -/
  | change (step : Step) (change : StateChange)
  /-- A record for the log. -/
  | note (record : Record)

namespace View

/-! ## Lights -/

/-- The first register of the light of the given rank. -/
def lightRegister (v : View) (rank : Slot) : UInt32 :=
  v.config.registers.lights + UInt32.ofNat (registersPerLight * rank.val)

/-- The light of the given rank. -/
def rankedLight (v : View) (rank : Slot) : PointLight :=
  v.lights.lights.get (v.lights.resolved.answer.order.get rank)

/-- The registers of a light in the vertex stage: its position and weight, and its opaque color. -/
def lightData (light : PointLight) : List Vec4 :=
  [light.positionRegister, (light.color.withAlpha 1).toVec4]

/-- The uploads of the lights, heaviest first. -/
def lightTasks (v : View) : List Task :=
  (List.finRange maxPointLights).map fun rank : Slot =>
    .call (.uploadLight rank.val)
      (.setVertexConstants (v.lightRegister rank) (lightData (v.rankedLight rank)))

/-- The weighted colors in slot order, which the pixel stage adds up. A light that is off and has
finite channels contributes black, so its place does not matter. -/
def lightColors (v : View) : List Vec4 := v.lights.lights.toList.map fun l => l.weightedColor.toVec4

/-! ## Textures and modes -/

/-- The maps of a material, each bound to its sampler. -/
def textureTasks (m : Material) : List Task :=
  MapType.all.map fun t => .call (.bindTexture t.sampler) (.setTexture t.sampler (m.map t))

/-- The changes that take the given modes to those of the view. -/
def modeChanges (v : View) (modes : Modes) : List StateChange :=
  (if modes.cull = v.cullMode then [] else [.cull v.cullMode]) ++
    (if modes.fill = v.fillMode then [] else [.fill v.fillMode])

/-- The changes that the cache leaves to be made. -/
def modeTasks (v : View) (cache : Modes) : List Task :=
  (v.modeChanges cache).map fun ch => .change ch.step ch

/-! ## The draw -/

/-- The whole mesh as a list of triangles. -/
def drawCall (v : View) : DrawCall :=
  ⟨.triangleList, 0, 0, v.mesh.vertexCount, 0, v.mesh.triangleCount⟩

def drawRecord (v : View) : Record :=
  ⟨.trace, .view, s!"MeshRenderView: drawing {v.mesh.triangleCount.toNat} triangles with " ++
    s!"{v.lights.resolved.answer.active} light(s)"⟩

/-- The variant of the pixel shader for a material under the lights of the view. -/
def variant (v : View) (m : Material) : VariantKey := variantKey v.lights.resolved.answer.active m

theorem inTable_variant (v : View) (m : Material) : (v.variant m).InTable :=
  inTable_variantKey ..

/-- Everything that a render of the view with material `m` on context `c` attempts, in order. -/
def plan (v : View) (m : Material) (c : Context) : List Task :=
  [.call .bindVertexFormat (.setVertexFormat v.mesh.vertexFormat),
    .call .bindVertexProgram (.setVertexProgram c.shaders.vertexProgram)] ++
  v.lights.resolved.log.map .note ++
  v.lightTasks ++
  [.call .uploadAmbientColor
      (.setVertexConstants v.config.registers.ambientColor [(v.ambient.withAlpha 1).toVec4]),
    .call .uploadMaterialColor
      (.setPixelConstants v.config.registers.constantColor [m.diffuseColor.toVec4]),
    .bindShader (v.variant m) (v.inTable_variant m),
    .call .uploadLightColors
      (.setPixelConstants v.config.registers.lightColor v.lightColors)] ++
  textureTasks m ++
  [.call .uploadWorldMatrix
      (.setVertexConstants v.config.registers.worldMatrix (c.world.transpose.rows.take 3))] ++
  v.modeTasks c.cache ++
  [.call .bindVertexBuffer
      (.setStreamSource 0 v.mesh.vertexBuffer 0 v.config.vertexStride),
    .call .bindIndexBuffer (.setIndices v.mesh.indexBuffer),
    .note v.drawRecord,
    .call .draw (.drawIndexedPrimitive v.drawCall)]

end View

end LitMesh
