import LitMesh.Proofs.Render.Changes
import LitMesh.Proofs.Render.Effects
import LitMesh.Proofs.Scene.Lights

/-!
# A render stays within its domain

Nothing that a render computes is out of bounds. The sums of registers stay within 32 bits because
the layout of a view was checked when the view was made; the ranks name slots because ordering
permutes them (`Order.byWeight_perm`); the number of a variant is one of the table because its count
of lights is clamped; and what is written to a register file is checked against its size first.

The last two are about every moment of a render (`View.inDomain_of_mem_plan`), whatever the device
has refused so far, and about every view that can be had (`View.Reachable`).
-/

namespace LitMesh

/-! ## Views that can be had -/

namespace View

/-- The view was made, by default or of a usable configuration, and has been edited and rendered
since. -/
inductive Reachable : View → Prop
  | new (mesh : Mesh) : Reachable (.new mesh)
  | made {mesh : Mesh} {config : Config} {v : View} : ofConfig? mesh config = .ok v → Reachable v
  | edited {v : View} (e : Edit) : Reachable v → Reachable (v.edit e).state
  | rendered {v : View} (c : Context) (busy : Bool) : Reachable v →
    Reachable (v.render c busy).state.1

theorem lights_of_ofConfig? {mesh : Mesh} {config : Config} {v : View}
    (h : ofConfig? mesh config = .ok v) : v.lights = .new := by
  unfold ofConfig? at h
  split at h
  · cases h; rfl
  · cases h

theorem Reachable.follows {v : View} (h : v.Reachable) : ∃ past, v.lights.Follows past := by
  induction h with
  | new mesh => exact ⟨[], LightSet.follows_new⟩
  | made hv => exact ⟨[], lights_of_ofConfig? hv ▸ LightSet.follows_new⟩
  | edited e _ ih =>
    obtain ⟨past, hpast⟩ := ih
    exact ⟨_, follows_edit hpast e⟩
  | rendered c busy _ ih =>
    obtain ⟨past, hpast⟩ := ih
    exact ⟨_, (follows_render hpast c busy).1⟩

theorem Reachable.answer_resolved {v : View} (h : v.Reachable) :
    v.lights.resolved.answer = .ofLights v.lights.lights := by
  obtain ⟨past, hpast⟩ := h.follows
  exact hpast.answer_resolved

/-- What a render carries out: nothing without a material, nor while another render holds the
context. -/
def tasks (v : View) (c : Context) (busy : Bool) : List Task :=
  match v.material with
  | some m => if busy then [] else v.plan m c
  | none => []

theorem context_render (v : View) (c : Context) (busy : Bool) : (v.render c busy).state.2 =
    (Pass.performAll { context := c } (v.tasks c busy)).context := by
  unfold render tasks
  cases v.material with
  | none => rfl
  | some m => cases busy <;> rfl

theorem exists_plan_of_mem_tasks {v : View} {c : Context} {busy : Bool} {t : Task}
    (ht : t ∈ v.tasks c busy) : ∃ m, v.tasks c busy = v.plan m c := by
  unfold tasks at ht ⊢
  cases hm : v.material with
  | none => rw [hm] at ht; cases ht
  | some m =>
    rw [hm] at ht
    cases busy with
    | true => cases ht
    | false => exact ⟨m, rfl⟩

end View

/-! ## Domains -/

namespace Hardware

/-- An upload to a register file is checked before it is made. Its end is a register number of 32
bits; either the device refuses it and stays as it was, or the file reaches that far. -/
def ChecksUpload (h : Hardware) (f : RegisterFile) (c : Command) (register : UInt32)
    (data : List Vec4) : Prop :=
  register.toNat + data.length ≤ 4294967295 ∧
    ((∃ e, h.exec c = (.error e, h)) ∨
      (h.exec c).1 = .ok () ∧ register.toNat + data.length ≤ f.size)

/-- Nothing that the command computes is out of bounds: the registers that it writes, the sampler
that it binds, the count of draws that it leaves. -/
def InDomain (h : Hardware) : Command → Prop
  | .setVertexConstants register data =>
    h.ChecksUpload h.vertexRegisters (.setVertexConstants register data) register data
  | .setPixelConstants register data =>
    h.ChecksUpload h.pixelRegisters (.setPixelConstants register data) register data
  | .setTexture sampler _ => sampler.index.val < h.bindings.textures.toList.length
  | .drawIndexedPrimitive _ => (h.drawCount + 1).toNat = h.drawCount.toNat + 1
  | _ => True

variable {h : Hardware} {register : UInt32} {data : List Vec4}

theorem checksUpload {f : RegisterFile} {c : Command}
    (hc : h.argumentRefusal? c = f.refusal? register data)
    (hstop : register.toNat + data.length ≤ 4294967295) : h.ChecksUpload f c register data := by
  refine ⟨hstop, ?_⟩
  cases hr : h.refusal? c with
  | some e => exact .inl ⟨e, exec_of_refused hr⟩
  | none =>
    obtain ⟨-, hargs⟩ := Option.or_eq_none_iff.1 hr
    have hfit := RegisterFile.refusal?_eq_none_iff.1 (hc.symm.trans hargs)
    exact .inr ⟨by rw [exec_of_accepted hr], hfit⟩

end Hardware

/-- Nothing that the task computes is out of bounds. -/
def Task.InDomain (c : Context) : Task → Prop
  | .call _ command => c.device.hardware.InDomain command
  | .bindShader key _ => key.index < VariantKey.count ∧ key.index < c.shaders.variants.toList.length
  | .change _ ch => c.device.hardware.InDomain (.setRenderState ch)
  | .note _ => True

/-! ## Every moment of a render -/

namespace View

variable {v : View} {m : Material} {c : Context}

theorem stop_lightRegister (v : View) (rank : Slot) :
    (v.lightRegister rank).toNat + registersPerLight ≤ 4294967295 := by
  have hstop : v.config.registers.lights.toNat + 2 * 3 ≤ 4294967295 :=
    Layout.stop_le v.valid.registers .lights
  have hrank : rank.val < 3 := rank.isLt
  rw [toNat_lightRegister]
  simp only [registersPerLight]
  omega

/-- Before the draw, a step is within its domain on any context at all. -/
theorem inDomain_of_task? {s : Step} {t : Task} (ht : v.task? m c s = some t) (hne : s ≠ .draw)
    (c' : Context) : t.InDomain c' := by
  have hstop := Layout.stop_le v.valid.registers
  -- each upload goes to a block, or to a part of one, and those end within the numbers
  cases s with
  | acquireContext => cases ht
  | uploadLight rank =>
    rw [task?] at ht
    split at ht
    · cases ht
      exact Hardware.checksUpload rfl (v.stop_lightRegister _)
    · cases ht
  | uploadAmbientColor =>
    cases ht
    exact Hardware.checksUpload rfl (hstop .ambientColor)
  | uploadMaterialColor =>
    cases ht
    exact Hardware.checksUpload rfl (hstop .constantColor)
  | bindPixelShader =>
    cases ht
    exact ⟨v.inTable_variant m, Nat.lt_of_lt_of_eq (v.inTable_variant m) Vector.length_toList.symm⟩
  | uploadLightColors =>
    cases ht
    refine Hardware.checksUpload rfl ?_
    rw [length_lightColors]
    exact hstop .lightColor
  | bindTexture sampler =>
    cases ht
    exact Nat.lt_of_lt_of_eq sampler.index.isLt Vector.length_toList.symm
  | uploadWorldMatrix =>
    cases ht
    exact Hardware.checksUpload rfl (hstop .worldMatrix)
  | draw => exact absurd rfl hne
  | _ => cases ht; trivial

/-- By the time of the draw, all preparations have been attempted. -/
theorem eq_preparation_of_draws {before after : List Task} {t : Task}
    (hplan : v.plan m c = before ++ t :: after) (hd : t.Draws) : before = v.preparation m c := by
  rcases List.eq_nil_or_concat after with rfl | ⟨middle, last, rfl⟩
  · rw [preparation, hplan, List.dropLast_concat]
  · -- the draw would be among the preparations
    rw [List.concat_eq_append, ← List.cons_append, ← List.append_assoc] at hplan
    refine absurd hd (v.not_draws_of_mem_preparation m c ?_)
    rw [preparation, hplan, List.dropLast_concat]
    exact List.mem_append_right _ List.mem_cons_self

/-- At every moment of a render, the next task is within its domain. -/
theorem inDomain_of_mem_plan (hc : c.device.hardware.drawCount.toNat < 4294967295)
    {before after : List Task} {t : Task} (hplan : v.plan m c = before ++ t :: after) :
    t.InDomain (Pass.performAll { context := c } before).context := by
  have ht : t ∈ v.plan m c := by
    rw [hplan]
    exact List.mem_append_right _ List.mem_cons_self
  rcases v.mem_plan m c ht with ⟨r, rfl⟩ | ⟨s, hs, hst⟩
  · trivial
  · by_cases hdraw : s = .draw
    · subst hdraw
      cases hst
      obtain rfl := eq_preparation_of_draws hplan rfl
      -- no preparation has counted a draw, so there is room for this one
      have hcount := drawCount_prepared (v := v) (m := m) (c := c)
      rw [← hardware_ready, ready] at hcount
      simp only [Task.InDomain, Hardware.InDomain]
      rw [hcount, UInt32.toNat_add]
      exact Nat.mod_eq_of_lt (Nat.succ_lt_succ hc)
    · exact inDomain_of_task? hst hdraw _

/-- **A render never leaves its domain.** For any view that can be had, on a context in any state
whose count of draws can still grow: every block of registers ends within 32 bits, and so the sum
for the first register of a light is exact; the order of the lights lists every slot once; no more
lights are active than there are slots; the transposed world matrix has the three rows that are
uploaded; and the count of mode changes stays small. Whatever the render has done so far, and
whatever of it has failed, the next thing it does is within its domain: a variant is one of the
table, a sampler one of the device, the count of draws does not wrap, and an upload that the
register file cannot hold is refused before anything is written. -/
theorem render_in_domain {v : View} (hv : v.Reachable) {c : Context}
    (hc : c.device.hardware.drawCount.toNat < 4294967295) (busy : Bool) :
    let registers := v.config.registers
    let order := v.lights.resolved.answer.order.toList.map Fin.val
    (∀ b, (registers.start b).toNat + b.length ≤ 4294967295) ∧
    (∀ rank : Slot, (v.lightRegister rank).toNat = registers.lights.toNat + 2 * rank.val) ∧
    order.Perm [0, 1, 2] ∧ (∀ i ∈ order, i < v.lights.lights.toList.length) ∧
    v.lights.resolved.answer.active ≤ 3 ∧
    3 ≤ c.world.transpose.rows.length ∧
    (v.render c busy).answer.stateChanges ≤ 2 ∧
    (v.render c busy).state.2 = (Pass.performAll { context := c } (v.tasks c busy)).context ∧
    ∀ before t after, v.tasks c busy = before ++ t :: after →
      t.InDomain (Pass.performAll { context := c } before).context := by
  intro registers order
  have hresolved := hv.answer_resolved
  have horder : order.Perm [0, 1, 2] := by
    have hslots : Order.slots.toList.map Fin.val = [0, 1, 2] := by decide
    have hranks : order = (Order.byWeight fun s => v.lights.lights[s].weight).toList.map Fin.val :=
      congrArg (fun r : Resolved => r.order.toList.map Fin.val) hresolved
    rw [hranks, ← hslots]
    exact (Order.byWeight_perm _).map Fin.val
  have hrank (rank : Slot) : (v.lightRegister rank).toNat =
      registers.lights.toNat + 2 * rank.val := by
    rw [toNat_lightRegister, registersPerLight]
  have hrows : c.world.transpose.rows.length = 4 := rfl
  refine ⟨Layout.stop_le v.valid.registers, hrank, horder, fun i hi => ?_, ?_, by omega,
    v.stateChanges_le c busy, v.context_render c busy, fun before t after htasks => ?_⟩
  · have hi := horder.mem_iff.1 hi
    rw [Vector.length_toList]
    simp only [List.mem_cons, List.not_mem_nil, or_false, maxPointLights] at hi ⊢
    omega
  · rw [hresolved]
    exact Resolved.active_le _
  · have ht : t ∈ v.tasks c busy := htasks ▸ List.mem_append_right before List.mem_cons_self
    obtain ⟨m, hplan⟩ := exists_plan_of_mem_tasks ht
    exact inDomain_of_mem_plan hc (hplan.symm.trans htasks)

/-- A matrix in the last registers that 32 bits can number, and a device without any. -/
theorem render_in_domain_last :
    let config : Config := { registers.worldMatrix := 4294967292 }
    let c : Context := { device := .ofSizes 0 0, shaders := .empty ⟨0⟩ }
    ∃ v : View, v.config = config ∧ v.material = some default ∧
      (config.registers.start .worldMatrix).toNat + 3 = 4294967295 ∧
      ∀ before t after, v.plan default c = before ++ t :: after →
        t.InDomain (Pass.performAll { context := c } before).context := by
  intro config c
  let v : View := { mesh := ⟨.phong, ⟨1⟩, ⟨2⟩, 4, 6⟩, config, valid := by decide }
  have hmade : v.Reachable := @Reachable.made ⟨.phong, ⟨1⟩, ⟨2⟩, 4, 6⟩ config v rfl
  have hv : (v.edit (.setMaterial (some default))).state.Reachable := .edited _ hmade
  obtain ⟨-, -, -, -, -, -, -, -, htasks⟩ := render_in_domain hv (c := c) (by decide) false
  exact ⟨_, rfl, rfl, rfl, htasks⟩

end View

end LitMesh
