import LitMesh.Proofs.Render.Draw

/-!
# The changes of mode that a render makes

The cull and the fill mode stand in two places, on the device and in the cache, and no operation
writes both at once. A render asks for those modes of its view that the cache lacks, and makes the
changes among them that the device accepts (`View.made`). Both sides go where these changes lead,
and the report counts them and no others (`View.changes_draw`). So a relation between the two sides
survives a render if it survives the same change on both (`View.modes_draw`); agreement is one such
relation.
-/

namespace LitMesh

/-! ## Modes -/

/-- The modes have the value that a change would give them. -/
def Modes.Has (modes : Modes) : StateChange → Prop
  | .cull mode => modes.cull = mode
  | .fill mode => modes.fill = mode

theorem Modes.has_of_has_apply {modes : Modes} {ch other : StateChange}
    (h : (modes.apply other).Has ch) : other = ch ∨ modes.Has ch := by
  cases ch with
  | cull mode =>
    cases other with
    | cull mode' => exact Or.inl (congrArg StateChange.cull h)
    | fill _ => exact Or.inr h
  | fill mode =>
    cases other with
    | cull _ => exact Or.inr h
    | fill mode' => exact Or.inl (congrArg StateChange.fill h)

/-- How many modes differ. -/
def Modes.distance (a b : Modes) : Nat :=
  (if a.cull = b.cull then 0 else 1) + (if a.fill = b.fill then 0 else 1)

theorem Hardware.modes_exec {h : Hardware} {cmd : Command} (hk : cmd.kind ≠ .setRenderState) :
    (h.exec cmd).2.bindings.modes = h.bindings.modes := by
  cases hr : h.refusal? cmd with
  | some e => rw [exec_of_refused hr]
  | none =>
    rw [exec_of_accepted hr]
    cases cmd with
    | setRenderState ch => exact absurd rfl hk
    | _ => rfl

theorem Device.modes_give {d : Device} {given : Option Command}
    (hk : ∀ cmd, given = some cmd → cmd.kind ≠ .setRenderState) :
    (d.give given).hardware.bindings.modes = d.hardware.bindings.modes := by
  cases given with
  | none => rfl
  | some cmd => exact Hardware.modes_exec (hk cmd rfl)

/-! ## Changes that tasks make -/

/-- The device takes the change. -/
def Context.takes (c : Context) (ch : StateChange) : Bool :=
  (c.device.hardware.refusal? (.setRenderState ch)).isNone

namespace Task

/-- The change that a task makes, unless the device refuses it. -/
def made? (c : Context) : Task → Option StateChange
  | change _ ch => if c.takes ch then some ch else none
  | _ => none

/-- The task does not set a mode on the device alone. -/
def Disciplined : Task → Prop
  | call _ cmd => cmd.kind ≠ .setRenderState
  | _ => True

end Task

theorem Context.Alike.takes_eq {c c' : Context} (a : c.Alike c') (ch : StateChange) :
    c.takes ch = c'.takes ch := by
  have hr := a.hardware.refusal?_eq (c := .setRenderState ch) (by intro h; cases h)
  rw [Context.takes, Context.takes, hr]

theorem Context.Alike.made?_eq {c c' : Context} (a : c.Alike c') (t : Task) :
    t.made? c = t.made? c' := by
  cases t <;> simp only [Task.made?, a.takes_eq]

namespace Pass

/-- The pass `q` has made the given changes beyond those of `p`. -/
structure Makes (p q : Pass) (changes : List StateChange) : Prop where
  stateChanges : q.report.stateChanges = p.report.stateChanges + changes.length
  cache : q.context.cache = changes.foldl Modes.apply p.context.cache
  modes : q.context.device.hardware.bindings.modes =
    changes.foldl Modes.apply p.context.device.hardware.bindings.modes

theorem Makes.trans {p q r : Pass} {xs ys : List StateChange} (h : Makes p q xs)
    (k : Makes q r ys) : Makes p r (xs ++ ys) where
  stateChanges := by
    rw [k.stateChanges, h.stateChanges, List.length_append, Nat.add_assoc]
  cache := by rw [k.cache, h.cache, List.foldl_append]
  modes := by rw [k.modes, h.modes, List.foldl_append]

/-- A change that the device takes is made on both sides, and one that it refuses on neither. -/
theorem makes_change (p : Pass) (s : Step) (ch : StateChange) :
    Makes p (p.change s ch) ((Task.change s ch).made? p.context).toList := by
  cases hr : p.context.device.hardware.refusal? (.setRenderState ch) with
  | some e =>
    rw [Task.made?, Context.takes, hr, change, Device.call_of_refused hr]
    exact ⟨rfl, rfl, rfl⟩
  | none =>
    rw [Task.made?, Context.takes, hr, change, Device.call_of_accepted hr]
    exact ⟨rfl, rfl, rfl⟩

theorem makes_perform (p : Pass) {t : Task} (ht : t.Disciplined) :
    Makes p (p.perform t) (t.made? p.context).toList := by
  have hgoes := p.goes_perform t
  -- a task that makes no change leaves the modes alone, whichever way it goes
  cases t with
  | change s ch => exact makes_change p s ch
  | note r => exact ⟨rfl, rfl, rfl⟩
  | call s cmd =>
    have hmodes : (p.context.device.give (some cmd)).hardware.bindings.modes =
        p.context.device.hardware.bindings.modes := Hardware.modes_exec ht
    rcases hgoes with ⟨f, -, hq⟩ | ⟨-, hq⟩ <;> rw [hq] <;> exact ⟨rfl, rfl, hmodes⟩
  | bindShader k h =>
    have hkind := p.context.shaders.kind_ne_of_program? k h (j := .setRenderState) (by decide)
    have hmodes := Device.modes_give (d := p.context.device) hkind
    rcases hgoes with ⟨f, -, hq⟩ | ⟨-, hq⟩ <;> rw [hq] <;> exact ⟨rfl, rfl, hmodes⟩

/-- A pass makes the changes of its tasks that the first context takes. -/
theorem makes_performAll (p : Pass) {ts : List Task} (hts : ∀ t ∈ ts, t.Disciplined) :
    Makes p (p.performAll ts) (ts.filterMap (·.made? p.context)) := by
  induction ts generalizing p with
  | nil => exact ⟨rfl, rfl, rfl⟩
  | cons t ts ih =>
    -- which changes the device takes has not changed after the first task
    have hlater : ts.filterMap (·.made? (p.perform t).context) =
        ts.filterMap (·.made? p.context) :=
      List.filterMap_congr fun u _ => (performed_perform p t).alike.made?_eq u
    have hall := (makes_perform p (hts t List.mem_cons_self)).trans
      (ih (p.perform t) fun u hu => hts u (List.mem_cons_of_mem t hu))
    rw [hlater] at hall
    rw [performAll_cons, List.filterMap_cons]
    cases ht : t.made? p.context <;> rw [ht] at hall <;> exact hall

end Pass

/-! ## Renders -/

namespace View

variable {v : View} {m : Material} {c : Context}

/-- The changes that a render makes. -/
def made (v : View) (c : Context) : List StateChange := (v.modeChanges c.cache).filter c.takes

theorem length_modeChanges (v : View) (cache : Modes) :
    (v.modeChanges cache).length = cache.distance v.modes := by
  rw [modeChanges, List.length_append]
  congr 1 <;> split <;> simp_all [modes]

theorem mem_modeChanges {cache : Modes} {ch : StateChange} :
    ch ∈ v.modeChanges cache ↔ v.modes.Has ch ∧ ¬ cache.Has ch := by
  simp only [modeChanges, List.mem_append]
  -- each mode is asked for by one of the two parts, and not by the other
  cases ch with
  | cull mode => split <;> split <;> simp [modes, Modes.Has] <;> grind
  | fill mode => split <;> split <;> simp [modes, Modes.Has] <;> grind

theorem disciplined_of_task? {s : Step} {t : Task} (ht : v.task? m c s = some t) :
    t.Disciplined := by
  cases s with
  | uploadLight rank =>
    rw [task?] at ht
    split at ht <;> cases ht
    intro hk
    cases hk
  | acquireContext => cases ht
  | bindPixelShader | setCullMode | setFillMode => cases ht; trivial
  | _ => cases ht; intro hk; cases hk

theorem disciplined_of_mem_plan {t : Task} (ht : t ∈ v.plan m c) : t.Disciplined := by
  rcases v.mem_plan m c ht with ⟨r, rfl⟩ | ⟨s, -, hs⟩
  · trivial
  · exact disciplined_of_task? hs

theorem filterMap_made?_plan : (v.plan m c).filterMap (·.made? c) = v.made c := by
  have hnotes : (v.lights.resolved.log.map Task.note).filterMap (·.made? c) = [] := by
    simp [Task.made?]
  have hlights : v.lightTasks.filterMap (·.made? c) = [] := by
    simp [lightTasks, Task.made?]
  have htextures : (textureTasks m).filterMap (·.made? c) = [] := by
    simp [textureTasks, Task.made?]
  have hmodes : (v.modeTasks c.cache).filterMap (·.made? c) = v.made c := by
    rw [modeTasks, List.filterMap_map, made, ← List.filterMap_eq_filter]
    rfl
  -- no other part of the plan makes a change
  simp only [plan, List.filterMap_append, hnotes, hlights, htextures, hmodes]
  simp [Task.made?]

/-- **A render makes the changes of mode that the device accepts**, in the cache as on the device,
and counts them. -/
theorem changes_draw (v : View) (m : Material) (c : Context) :
    let o := v.draw m c
    o.answer.stateChanges = (v.made c).length ∧
      o.state.2.cache = (v.made c).foldl Modes.apply c.cache ∧
      o.state.2.device.hardware.bindings.modes =
        (v.made c).foldl Modes.apply c.device.hardware.bindings.modes := by
  obtain ⟨hcount, hcache, hmodes⟩ :=
    Pass.makes_performAll { context := c } fun t => disciplined_of_mem_plan (v := v) (m := m)
  rw [filterMap_made?_plan] at hcount hcache hmodes
  exact ⟨hcount.trans (Nat.zero_add _), hcache, hmodes⟩

/-- **Modes change in step.** A relation between the cached modes and those of the device survives
a render if it survives the view's own changes, made on both sides. -/
theorem modes_draw {J : Modes → Modes → Prop}
    (hchange : ∀ ch, v.modes.Has ch → ∀ x y, J x y → J (x.apply ch) (y.apply ch))
    (hJ : J c.cache c.device.hardware.bindings.modes) :
    J (v.draw m c).state.2.cache (v.draw m c).state.2.device.hardware.bindings.modes := by
  obtain ⟨-, hcache, hmodes⟩ := v.changes_draw m c
  -- both sides go through the same changes, one by one
  rw [hcache, hmodes]
  exact List.foldl_rel hJ fun ch hch =>
    hchange ch (mem_modeChanges.1 (List.mem_filter.1 hch).1).1

theorem stateChanges_le (v : View) (c : Context) (busy : Bool) :
    (v.render c busy).answer.stateChanges ≤ 2 := by
  unfold render
  cases v.material with
  | none => exact Nat.zero_le 2
  | some m =>
    cases busy with
    | true => exact Nat.zero_le 2
    | false =>
      obtain ⟨hcount, -⟩ := v.changes_draw m c
      have hmade : (v.made c).length ≤ (v.modeChanges c.cache).length := List.length_filter_le ..
      rw [length_modeChanges, Modes.distance] at hmade
      show (v.draw m c).answer.stateChanges ≤ 2
      rw [hcount]
      refine Nat.le_trans hmade ?_
      split <;> split <;> decide

end View

end LitMesh
