import LitMesh.Device

/-!
# What a command writes

The state of a device taken apart into *locations*: single registers, bindings, modes, and the
count of draws. A command writes the locations of its target and leaves the others alone
(`read_exec_of_notMem`), and what it leaves in a location depends on nothing but what stood there
before (`read_apply_congr`). Resources, faults and the sizes of the register files are no locations:
no command changes them (`alike_exec`). So in a run of commands each one works as if it were alone,
provided no other writes the same location (`read_execAll_of_alone`).
-/

namespace LitMesh

/-! ## Locations -/

/-- The places of a device that commands write to. -/
inductive Location
  | vertexRegister (i : Nat)
  | pixelRegister (i : Nat)
  | texture (sampler : Sampler)
  | cullMode
  | fillMode
  | vertexFormat
  | vertexProgram
  | pixelProgram
  | streamSource
  | indexBuffer
  | drawCount
deriving DecidableEq

/-- What can stand in a location. A register past the end of its file holds nothing. -/
abbrev Location.Content : Location → Type
  | vertexRegister _ | pixelRegister _ => Option Vec4
  | texture _ => Option TextureId
  | cullMode => CullMode
  | fillMode => FillMode
  | vertexFormat => Option VertexFormat
  | vertexProgram => Option VertexProgramId
  | pixelProgram => Option PixelProgramId
  | streamSource => Option StreamSource
  | indexBuffer => Option BufferId
  | drawCount => UInt32

namespace Location

/-- `n` vertex registers from `start` on. -/
def vertexBlock (start n : Nat) : List Location :=
  (List.range n).map fun i => .vertexRegister (start + i)

/-- `n` pixel registers from `start` on. -/
def pixelBlock (start n : Nat) : List Location :=
  (List.range n).map fun i => .pixelRegister (start + i)

theorem mem_vertexBlock {l : Location} {start n : Nat} :
    l ∈ vertexBlock start n ↔ ∃ i, l = .vertexRegister i ∧ start ≤ i ∧ i < start + n := by
  simp only [vertexBlock, List.mem_map, List.mem_range]
  constructor
  · rintro ⟨i, hi, rfl⟩
    exact ⟨start + i, rfl, by omega, by omega⟩
  · rintro ⟨i, rfl, h1, h2⟩
    exact ⟨i - start, by omega, by congr 1; omega⟩

theorem mem_pixelBlock {l : Location} {start n : Nat} :
    l ∈ pixelBlock start n ↔ ∃ i, l = .pixelRegister i ∧ start ≤ i ∧ i < start + n := by
  simp only [pixelBlock, List.mem_map, List.mem_range]
  constructor
  · rintro ⟨i, hi, rfl⟩
    exact ⟨start + i, rfl, by omega, by omega⟩
  · rintro ⟨i, rfl, h1, h2⟩
    exact ⟨i - start, by omega, by congr 1; omega⟩

end Location

/-- The locations that a command writes if nothing refuses it. -/
def Command.target : Command → List Location
  | .setVertexFormat _ => [.vertexFormat]
  | .setVertexProgram _ => [.vertexProgram]
  | .setPixelProgram _ => [.pixelProgram]
  | .setVertexConstants register data => Location.vertexBlock register.toNat data.length
  | .setPixelConstants register data => Location.pixelBlock register.toNat data.length
  | .setRenderState (.cull _) => [.cullMode]
  | .setRenderState (.fill _) => [.fillMode]
  | .setTexture sampler _ => [.texture sampler]
  | .setStreamSource _ _ _ _ => [.streamSource]
  | .setIndices _ => [.indexBuffer]
  | .drawIndexedPrimitive _ => [.drawCount]

/-! ## Registers -/

namespace RegisterFile

/-- What a write leaves in a register depends on what stood in that register alone. -/
theorem getElem?_write_congr {f g : RegisterFile} {i : Nat} (start : Nat) (data : List Vec4)
    (h : f.registers[i]? = g.registers[i]?) :
    (f.write start data).registers[i]? = (g.write start data).registers[i]? := by
  induction data generalizing f g start with
  | nil => exact h
  | cons v rest ih =>
    refine ih (start + 1) ?_
    -- in the register that is written, both hold the value if both reach that far
    by_cases hi : start = i
    · have hsize : i < f.registers.size ↔ i < g.registers.size := by
        rw [← Nat.not_le, ← Nat.not_le, ← Array.getElem?_eq_none_iff,
          ← Array.getElem?_eq_none_iff, h]
      simp only [hi, Array.getElem?_setIfInBounds_self, hsize]
    · rw [Array.getElem?_setIfInBounds_ne hi, Array.getElem?_setIfInBounds_ne hi, h]

theorem refusal?_eq_none_iff {f : RegisterFile} {register : UInt32} {data : List Vec4} :
    f.refusal? register data = none ↔ register.toNat + data.length ≤ f.size := by
  unfold refusal?
  split <;> simp_all

theorem getElem?_write_eq {f g : RegisterFile} {start i : Nat} {data : List Vec4}
    (hsize : f.size = g.size) (hfit : start + data.length ≤ f.size) (hlow : start ≤ i)
    (hhigh : i < start + data.length) :
    (f.write start data).registers[i]? = (g.write start data).registers[i]? := by
  obtain ⟨k, rfl⟩ := Nat.exists_eq_add_of_le hlow
  rw [getElem?_write_inside f _ _ hfit (by omega),
    getElem?_write_inside g _ _ (by omega) (by omega)]

theorem refusal?_congr {f g : RegisterFile} (h : f.size = g.size) (register : UInt32)
    (data : List Vec4) : f.refusal? register data = g.refusal? register data := by
  rw [refusal?, refusal?, h]

end RegisterFile

/-! ## Reading locations -/

namespace Hardware

variable {h h' : Hardware} {c : Command} {l : Location}

/-- What stands in a location. -/
def read (h : Hardware) : (l : Location) → l.Content
  | .vertexRegister i => h.vertexRegisters.registers[i]?
  | .pixelRegister i => h.pixelRegisters.registers[i]?
  | .texture sampler => h.bindings.textures.get sampler.index
  | .cullMode => h.bindings.modes.cull
  | .fillMode => h.bindings.modes.fill
  | .vertexFormat => h.bindings.vertexFormat
  | .vertexProgram => h.bindings.vertexProgram
  | .pixelProgram => h.bindings.pixelProgram
  | .streamSource => h.bindings.streamSource
  | .indexBuffer => h.bindings.indexBuffer
  | .drawCount => h.drawCount

theorem read_apply_of_notMem (hl : l ∉ c.target) : (h.apply c).read l = h.read l := by
  -- other kinds of location are other fields, so a block or a sampler is all there is to tell apart
  cases c with
  | setVertexConstants register data =>
    cases l with
    | vertexRegister i =>
      refine RegisterFile.getElem?_write_outside _ _ _ ?_
      have hout : ¬ (register.toNat ≤ i ∧ i < register.toNat + data.length) := fun hi =>
        hl (Location.mem_vertexBlock.2 ⟨i, rfl, hi⟩)
      omega
    | _ => rfl
  | setPixelConstants register data =>
    cases l with
    | pixelRegister i =>
      refine RegisterFile.getElem?_write_outside _ _ _ ?_
      have hout : ¬ (register.toNat ≤ i ∧ i < register.toNat + data.length) := fun hi =>
        hl (Location.mem_pixelBlock.2 ⟨i, rfl, hi⟩)
      omega
    | _ => rfl
  | setTexture sampler texture =>
    cases l with
    | texture other =>
      have hne : sampler.index.val ≠ other.index.val := fun hi =>
        hl (List.mem_singleton.2 (congrArg _ (Sampler.index_injective (Fin.ext hi)).symm))
      exact Vector.getElem_set_ne sampler.index.isLt other.index.isLt hne
    | _ => rfl
  | setRenderState change =>
    cases change <;> cases l <;> first | rfl | exact absurd (List.mem_singleton_self _) hl
  | _ => cases l <;> first | rfl | exact absurd (List.mem_singleton_self _) hl

/-- **Commands are framed.** A command, refused or not, changes no location outside its target. -/
theorem read_exec_of_notMem (hl : l ∉ c.target) : (h.exec c).2.read l = h.read l := by
  cases hr : h.refusal? c with
  | some e => rw [exec_of_refused hr]
  | none => rw [exec_of_accepted hr]; exact read_apply_of_notMem hl

/-- What a command leaves in a location depends on what stood there before alone. -/
theorem read_apply_congr (c : Command) (hsame : h.read l = h'.read l) :
    (h.apply c).read l = (h'.apply c).read l := by
  by_cases hl : l ∈ c.target
  · cases c with
    | setVertexConstants register data =>
      obtain ⟨i, rfl, -⟩ := Location.mem_vertexBlock.1 hl
      exact RegisterFile.getElem?_write_congr _ _ hsame
    | setPixelConstants register data =>
      obtain ⟨i, rfl, -⟩ := Location.mem_pixelBlock.1 hl
      exact RegisterFile.getElem?_write_congr _ _ hsame
    | setTexture sampler texture =>
      obtain rfl := List.mem_singleton.1 hl
      exact (Vector.getElem_set_self _).trans (Vector.getElem_set_self _).symm
    | drawIndexedPrimitive draw =>
      obtain rfl := List.mem_singleton.1 hl
      exact congrArg (· + 1) hsame
    | setRenderState change => cases change <;> obtain rfl := List.mem_singleton.1 hl <;> rfl
    | _ => obtain rfl := List.mem_singleton.1 hl; rfl
  · rw [read_apply_of_notMem hl, read_apply_of_notMem hl, hsame]

/-! ## What no command changes -/

/-- The two states have the same resources, both are lost or neither, the same kinds of command
are made to fail, and the register files are of the same sizes. -/
structure Alike (h h' : Hardware) : Prop where
  resources : h.resources = h'.resources
  lost : h.faults.lost = h'.faults.lost
  injected : ∀ k, k ∈ h.faults.injected ↔ k ∈ h'.faults.injected
  vertexSize : h.vertexRegisters.size = h'.vertexRegisters.size
  pixelSize : h.pixelRegisters.size = h'.pixelRegisters.size

theorem Alike.faults (a : Alike h h') : h.faults = h'.faults :=
  Faults.ext (KindSet.ext a.injected) a.lost

theorem Alike.refl (h : Hardware) : Alike h h := ⟨rfl, rfl, fun _ => .rfl, rfl, rfl⟩

theorem Alike.symm (a : Alike h h') : Alike h' h :=
  ⟨a.resources.symm, a.lost.symm, fun k => (a.injected k).symm, a.vertexSize.symm,
    a.pixelSize.symm⟩

theorem Alike.trans {h₁ h₂ h₃ : Hardware} (a : Alike h₁ h₂) (b : Alike h₂ h₃) : Alike h₁ h₃ :=
  ⟨a.resources.trans b.resources, a.lost.trans b.lost,
    fun k => (a.injected k).trans (b.injected k), a.vertexSize.trans b.vertexSize,
    a.pixelSize.trans b.pixelSize⟩

theorem Alike.withFaults (a : Alike h h') (f : Faults → Faults) :
    Alike { h with faults := f h.faults } { h' with faults := f h'.faults } :=
  ⟨a.resources, by simp only [a.faults], fun k => by simp only [a.faults], a.vertexSize,
    a.pixelSize⟩

theorem Alike.reset (a : Alike h h') : Alike h.reset h'.reset :=
  ⟨a.resources, rfl, a.injected, a.vertexSize, a.pixelSize⟩

theorem alike_apply (h : Hardware) (c : Command) : Alike (h.apply c) h := by
  cases c <;>
    exact ⟨rfl, rfl, fun _ => .rfl, by simp only [apply, RegisterFile.size_write],
      by simp only [apply, RegisterFile.size_write]⟩

theorem alike_exec (h : Hardware) (c : Command) : Alike (h.exec c).2 h := by
  cases hr : h.refusal? c with
  | some e => rw [exec_of_refused hr]; exact .refl h
  | none => rw [exec_of_accepted hr]; exact alike_apply h c

/-- Only a draw is refused for what other commands have written: it needs its buffers bound. -/
theorem Alike.refusal?_eq (a : Alike h h') (hc : c.kind ≠ .drawIndexedPrimitive) :
    h.refusal? c = h'.refusal? c := by
  have hargs : h.argumentRefusal? c = h'.argumentRefusal? c := by
    cases c with
    | setVertexConstants register data => exact RegisterFile.refusal?_congr a.vertexSize _ _
    | setPixelConstants register data => exact RegisterFile.refusal?_congr a.pixelSize _ _
    | setTexture sampler texture => cases texture <;> simp only [argumentRefusal?, a.resources]
    | setStreamSource | setIndices => simp only [argumentRefusal?, bufferRefusal?, a.resources]
    | drawIndexedPrimitive draw => exact absurd rfl hc
    | _ => rfl
  rw [refusal?, refusal?, hargs, a.faults]

theorem Alike.exec (a : Alike h h') (c : Command) : Alike (h.exec c).2 (h'.exec c).2 :=
  (alike_exec h c).trans (a.trans (alike_exec h' c).symm)

/-- What a command leaves in its own locations does not depend on what stood there, unless it is a
draw, which counts on. -/
theorem Alike.read_apply_of_mem_target (a : Alike h h') (hr : h.refusal? c = none)
    (hk : c.kind ≠ .drawIndexedPrimitive) (hl : l ∈ c.target) :
    (h.apply c).read l = (h'.apply c).read l := by
  cases c with
  | setVertexConstants register data =>
    obtain ⟨i, rfl, hlow, hhigh⟩ := Location.mem_vertexBlock.1 hl
    have hfit := RegisterFile.refusal?_eq_none_iff.1 (Option.or_eq_none_iff.1 hr).2
    exact RegisterFile.getElem?_write_eq a.vertexSize hfit hlow hhigh
  | setPixelConstants register data =>
    obtain ⟨i, rfl, hlow, hhigh⟩ := Location.mem_pixelBlock.1 hl
    have hfit := RegisterFile.refusal?_eq_none_iff.1 (Option.or_eq_none_iff.1 hr).2
    exact RegisterFile.getElem?_write_eq a.pixelSize hfit hlow hhigh
  | setTexture sampler texture =>
    obtain rfl := List.mem_singleton.1 hl
    exact (Vector.getElem_set_self _).trans (Vector.getElem_set_self _).symm
  | drawIndexedPrimitive draw => exact absurd rfl hk
  | setRenderState change => cases change <;> obtain rfl := List.mem_singleton.1 hl <;> rfl
  | _ => obtain rfl := List.mem_singleton.1 hl; rfl

/-! ## Runs of commands -/

/-- The state after commands, each attempted whatever became of those before it. -/
def execAll (h : Hardware) (cs : List Command) : Hardware := cs.foldl (fun h c => (h.exec c).2) h

@[simp] theorem execAll_cons (h : Hardware) (c : Command) (cs : List Command) :
    h.execAll (c :: cs) = (h.exec c).2.execAll cs := rfl

theorem execAll_append (h : Hardware) (cs ds : List Command) :
    h.execAll (cs ++ ds) = (h.execAll cs).execAll ds := List.foldl_append ..

theorem alike_execAll (h : Hardware) (cs : List Command) : Alike (h.execAll cs) h := by
  induction cs generalizing h with
  | nil => exact .refl h
  | cons c cs ih => exact (ih (h.exec c).2).trans (alike_exec h c)

theorem read_execAll_of_notMem {cs : List Command} (hl : ∀ c ∈ cs, l ∉ c.target) :
    (h.execAll cs).read l = h.read l := by
  induction cs generalizing h with
  | nil => rfl
  | cons c cs ih =>
    rw [execAll_cons, ih fun d hd => hl d (List.mem_cons_of_mem c hd)]
    exact read_exec_of_notMem (hl c List.mem_cons_self)

/-- **A command works as if alone.** In a location that no other command of a run writes, a command
leaves what it would have left there without the others. -/
theorem read_execAll_of_alone {cs ds : List Command} (hc : c.kind ≠ .drawIndexedPrimitive)
    (hcs : ∀ d ∈ cs, l ∉ d.target) (hds : ∀ d ∈ ds, l ∉ d.target) :
    (h.execAll (cs ++ c :: ds)).read l = (h.exec c).2.read l := by
  have hbefore : (h.execAll cs).read l = h.read l := read_execAll_of_notMem hcs
  -- what comes after leaves the location alone, and what came before also decides no refusal
  rw [execAll_append, execAll_cons, read_execAll_of_notMem hds]
  have hr := (alike_execAll h cs).refusal?_eq hc
  cases hh : h.refusal? c with
  | some e => rw [exec_of_refused hh, exec_of_refused (hr.trans hh), hbefore]
  | none =>
    rw [exec_of_accepted hh, exec_of_accepted (hr.trans hh)]
    exact read_apply_congr c hbefore

end Hardware

end LitMesh
