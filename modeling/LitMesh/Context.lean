import LitMesh.Matrix
import LitMesh.Shader.Table

/-!
# Rendering contexts

A context is what several views draw through: a device, the shader table, the world transform, and
a cache of the modes that renders last set on the device. The cache lets a view leave a mode alone
that already has the value it wants.
-/

namespace LitMesh

structure Context where
  device : Device
  shaders : VariantTable
  cache : Modes := {}
  world : Mat4 := .identity

namespace Context

/-- A fresh device and a full shader table. -/
def new : Context := { device := .new, shaders := .full ⟨0⟩ }

instance : Inhabited Context := ⟨new⟩

/-- Resets the device and forgets the cached modes with it. -/
def resetDevice (c : Context) : Outcome Context Unit :=
  ⟨(), { c with device.hardware := c.device.hardware.reset, cache := {} },
    [⟨.debug, .context, "HeadlessContext: device reset, render state cache cleared"⟩]⟩

/-! ## Actions -/

/-- Everything that can be done to a context outside a render. -/
inductive Action
  | device (a : Device.Action)
  | putVariant (key : VariantKey) (state : VariantState)
  | bindShader (key : VariantKey)
  | resetDevice
  | setWorld (m : Mat4)
  /-- Writes the cache alone, which nobody does who wants it to agree with the device. -/
  | setCache (cull : Option CullMode) (fill : Option FillMode)

inductive Answer
  | done
  | device (a : Device.Answer)
  | bound (result : Except ShaderError Unit)
  /-- The key numbers no variant. -/
  | outsideTable

def act (c : Context) : Action → Outcome Context Answer
  | .device a => (c.device.act a).lift (fun d => { c with device := d }) .device
  | .putVariant key state =>
    if h : key.InTable then ⟨.done, { c with shaders := c.shaders.put key h state }, []⟩
    else ⟨.outsideTable, c, []⟩
  | .bindShader key =>
    if h : key.InTable then
      (c.shaders.bind key h c.device).lift
        (fun (t, d) => { c with shaders := t, device := d }) .bound
    else ⟨.outsideTable, c, []⟩
  | .resetDevice => c.resetDevice.lift id fun _ => .done
  | .setWorld m => ⟨.done, { c with world := m }, []⟩
  | .setCache cull fill =>
    ⟨.done, { c with cache := ⟨cull.getD c.cache.cull, fill.getD c.cache.fill⟩ }, []⟩

end Context

end LitMesh
