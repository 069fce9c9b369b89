import LitMesh.Config.Layout
import LitMesh.Proofs.Device.Location
import Mathlib.Algebra.Group.Nat.Defs

/-!
# Writing and reading registers

An upload fits its file or is refused, and one that fits decides what stands in the registers that
it covers (`Upload.getElem?_apply`). The other laws of the register files follow from that one:
what is read back, register by register or as floats; that the later of two uploads wins where both
have something to say; and that uploads with no register in common can change places
(`Device.register_laws`).

Registers are numbered by words of 32 bits. In a file of no more than `2 ^ 32` registers all have
such a number, and counting on from the first register of an upload that fits never wraps around
(`RegisterFile.get?_add`).
-/

namespace LitMesh

/-! ## One file -/

namespace RegisterFile

variable {f g : RegisterFile}

theorem ext_getElem? (h : ∀ i : Nat, f.registers[i]? = g.registers[i]?) : f = g := by
  obtain ⟨xs⟩ := f
  obtain ⟨ys⟩ := g
  exact congrArg mk (Array.ext_getElem? h)

theorem getElem?_write {start : Nat} {data : List Vec4} (hfit : start + data.length ≤ f.size)
    (i : Nat) : (f.write start data).registers[i]? =
      if start ≤ i ∧ i < start + data.length then data[i - start]? else f.registers[i]? := by
  by_cases hi : start ≤ i ∧ i < start + data.length
  · obtain ⟨k, rfl⟩ := Nat.exists_eq_add_of_le hi.1
    rw [if_pos hi, getElem?_write_inside f start data hfit (by omega), Nat.add_sub_cancel_left]
  · rw [if_neg hi, getElem?_write_outside f start data (by omega)]

/-- Within the numbers of registers, counting on from the first one does not wrap around. -/
theorem get?_add (f : RegisterFile) {register : UInt32} {i : Nat}
    (hi : register.toNat + i < 2 ^ 32) :
    f.get? (register + UInt32.ofNat i) = f.registers[register.toNat + i]? := by
  have hsum : (register + UInt32.ofNat i).toNat = register.toNat + i := by
    rw [UInt32.toNat_add, UInt32.toNat_ofNat']
    omega
  rw [get?, hsum]

/-! ### Floats -/

theorem isSome_floats? (f : RegisterFile) (register count : UInt32) :
    (f.floats? register count).isSome ↔ register.toNat + count.toNat ≤ f.size := by
  unfold floats?
  dsimp only
  split <;> simp_all

theorem floats?_eq_some {register count : UInt32} {vs : List Vec4}
    (hfit : register.toNat + count.toNat ≤ f.size) (hlen : vs.length = count.toNat)
    (hvs : ∀ i < vs.length, f.registers[register.toNat + i]? = vs[i]?) :
    f.floats? register count = some (vs.flatMap Vec4.toList) := by
  let stop := register.toNat + count.toNat
  have hstop : min stop f.registers.size = stop := Nat.min_eq_left hfit
  have hblock : (f.registers.extract register.toNat stop).toList = vs := by
    refine List.ext_getElem? fun i => ?_
    rw [Array.getElem?_toList, Array.getElem?_extract, hstop, Nat.add_sub_cancel_left, ← hlen]
    by_cases hi : i < vs.length
    · rw [if_pos hi, hvs i hi]
    · rw [if_neg hi, List.getElem?_eq_none (Nat.le_of_not_lt hi)]
  rw [floats?, if_pos hfit, hblock]

theorem exists_block {start n : Nat} (hfit : start + n ≤ f.size) :
    ∃ vs : List Vec4, vs.length = n ∧ ∀ i < n, f.registers[start + i]? = vs[i]? := by
  refine ⟨(f.registers.toList.drop start).take n, ?_, fun i hi => ?_⟩
  · rw [List.length_take, List.length_drop, Array.length_toList]
    exact Nat.min_eq_left (Nat.le_sub_of_add_le' hfit)
  · rw [List.getElem?_take_of_lt hi, List.getElem?_drop, Array.getElem?_toList]

end RegisterFile

/-! ## Uploads -/

/-- The registers of a stage. -/
def Hardware.file (h : Hardware) : Stage → RegisterFile
  | .vertex => h.vertexRegisters
  | .pixel => h.pixelRegisters

theorem Hardware.Alike.size_file {h h' : Hardware} (a : Alike h h') (s : Stage) :
    (h.file s).size = (h'.file s).size := by
  cases s with
  | vertex => exact a.vertexSize
  | pixel => exact a.pixelSize

/-- Constants for consecutive registers of a stage. -/
structure Upload where
  stage : Stage
  register : UInt32
  data : List Vec4

namespace Upload

/-- The command that makes an upload. -/
def command (u : Upload) : Command :=
  match u.stage with
  | .vertex => .setVertexConstants u.register u.data
  | .pixel => .setPixelConstants u.register u.data

/-- The upload ends within its file. -/
def Fits (u : Upload) (h : Hardware) : Prop :=
  u.register.toNat + u.data.length ≤ (h.file u.stage).size

/-- The upload has something for register `i` of stage `s`. -/
def Covers (u : Upload) (s : Stage) (i : Nat) : Prop :=
  s = u.stage ∧ u.register.toNat ≤ i ∧ i < u.register.toNat + u.data.length

instance (u : Upload) (s : Stage) (i : Nat) : Decidable (u.Covers s i) :=
  inferInstanceAs (Decidable (_ ∧ _))

variable {u u₁ u₂ : Upload} {h : Hardware} {s : Stage} {i : Nat}

theorem kind_command_ne (u : Upload) : u.command.kind ≠ .drawIndexedPrimitive := by
  obtain ⟨stage, register, data⟩ := u
  cases stage <;> exact nofun

theorem argumentRefusal?_command (u : Upload) (h : Hardware) :
    h.argumentRefusal? u.command = (h.file u.stage).refusal? u.register u.data := by
  obtain ⟨stage, register, data⟩ := u
  cases stage <;> rfl

theorem Fits.apply (hfit : u.Fits h) (c : Command) : u.Fits (h.apply c) := by
  rw [Fits, (h.alike_apply c).size_file]
  exact hfit

theorem fits_of_accepted (hr : h.refusal? u.command = none) : u.Fits h := by
  have hargs := (Option.or_eq_none_iff.1 hr).2
  rw [argumentRefusal?_command] at hargs
  exact RegisterFile.refusal?_eq_none_iff.1 hargs

theorem file_apply (u : Upload) (h : Hardware) (s : Stage) : (h.apply u.command).file s =
    if s = u.stage then (h.file s).write u.register.toNat u.data else h.file s := by
  obtain ⟨stage, register, data⟩ := u
  cases stage <;> cases s <;> rfl

/-- **What an upload leaves in a register**: what it has for it, or what was there. -/
theorem getElem?_apply (hfit : u.Fits h) (s : Stage) (i : Nat) :
    ((h.apply u.command).file s).registers[i]? =
      if u.Covers s i then u.data[i - u.register.toNat]? else (h.file s).registers[i]? := by
  rw [file_apply]
  by_cases hs : s = u.stage
  · subst hs
    rw [if_pos rfl, RegisterFile.getElem?_write hfit]
    simp only [Covers, true_and]
  · rw [if_neg hs, if_neg fun hcovers => hs hcovers.1]

theorem getElem?_apply_add (hfit : u.Fits h) (hi : i < u.data.length) :
    ((h.apply u.command).file u.stage).registers[u.register.toNat + i]? = u.data[i]? := by
  rw [getElem?_apply hfit, if_pos ⟨rfl, by omega, by omega⟩, Nat.add_sub_cancel_left]

theorem get?_apply (hfit : u.Fits h) (hsize : (h.file u.stage).size ≤ 2 ^ 32)
    (hi : i < u.data.length) :
    ((h.apply u.command).file u.stage).get? (u.register + UInt32.ofNat i) = u.data[i]? := by
  have hnumber : u.register.toNat + i < 2 ^ 32 :=
    Nat.lt_of_lt_of_le (Nat.add_lt_add_left hi _) (Nat.le_trans hfit hsize)
  rw [RegisterFile.get?_add _ hnumber, getElem?_apply_add hfit hi]

theorem floats?_apply (hfit : u.Fits h) {count : UInt32} (hcount : count.toNat = u.data.length) :
    ((h.apply u.command).file u.stage).floats? u.register count =
      some (u.data.flatMap Vec4.toList) := by
  refine RegisterFile.floats?_eq_some ?_ hcount.symm fun i hi => getElem?_apply_add hfit hi
  rw [hcount]
  exact hfit.apply u.command

/-- After two uploads, the later one has the last word on every register. -/
theorem getElem?_apply_apply (hfit₁ : u₁.Fits h) (hfit₂ : u₂.Fits h) (s : Stage) (i : Nat) :
    (((h.apply u₁.command).apply u₂.command).file s).registers[i]? =
      if u₂.Covers s i then u₂.data[i - u₂.register.toNat]?
      else if u₁.Covers s i then u₁.data[i - u₁.register.toNat]?
      else (h.file s).registers[i]? := by
  rw [getElem?_apply (hfit₂.apply u₁.command), getElem?_apply hfit₁]

/-- Uploads that have no register in common can change places. -/
theorem apply_comm (hfit₁ : u₁.Fits h) (hfit₂ : u₂.Fits h)
    (hdisjoint : ∀ s i, ¬ (u₁.Covers s i ∧ u₂.Covers s i)) (s : Stage) :
    ((h.apply u₁.command).apply u₂.command).file s =
      ((h.apply u₂.command).apply u₁.command).file s := by
  refine RegisterFile.ext_getElem? fun i => ?_
  rw [getElem?_apply_apply hfit₁ hfit₂, getElem?_apply_apply hfit₂ hfit₁]
  by_cases h₁ : u₁.Covers s i
  · rw [if_neg fun h₂ => hdisjoint s i ⟨h₁, h₂⟩, if_pos h₁, if_pos h₁]
  · rw [if_neg h₁, if_neg h₁]

end Upload

/-! ## Devices -/

namespace Device

variable {d : Device} {c : Command} {u u₁ u₂ : Upload}

theorem call_eq_ok_iff : (d.call c).1 = .ok () ↔ d.hardware.refusal? c = none := by
  cases hr : d.hardware.refusal? c with
  | some e =>
    rw [call_of_refused hr]
    exact ⟨nofun, nofun⟩
  | none =>
    rw [call_of_accepted hr]
    exact ⟨fun _ => rfl, fun _ => rfl⟩

theorem hardware_call_of_ok (h : (d.call c).1 = .ok ()) :
    (d.call c).2.hardware = d.hardware.apply c := by
  rw [call_of_accepted (call_eq_ok_iff.1 h)]

theorem hardware_call_call_of_ok {c₁ c₂ : Command} (h₁ : (d.call c₁).1 = .ok ())
    (h₂ : ((d.call c₁).2.call c₂).1 = .ok ()) :
    ((d.call c₁).2.call c₂).2.hardware = (d.hardware.apply c₁).apply c₂ := by
  rw [hardware_call_of_ok h₂, hardware_call_of_ok h₁]

theorem refusal?_upload (hlost : d.hardware.faults.lost = false)
    (hkind : u.command.kind ∉ d.hardware.faults.injected) : d.hardware.refusal? u.command =
      (d.hardware.file u.stage).refusal? u.register u.data := by
  rw [Hardware.refusal?_of_no_fault hlost hkind, u.argumentRefusal?_command]

theorem call_upload_eq_ok_iff (hlost : d.hardware.faults.lost = false)
    (hkind : u.command.kind ∉ d.hardware.faults.injected) :
    (d.call u.command).1 = .ok () ↔ u.Fits d.hardware := by
  rw [call_eq_ok_iff, refusal?_upload hlost hkind, RegisterFile.refusal?_eq_none_iff, Upload.Fits]

theorem call_upload_of_not_fits (hlost : d.hardware.faults.lost = false)
    (hkind : u.command.kind ∉ d.hardware.faults.injected) (hlong : ¬ u.Fits d.hardware) :
    d.call u.command = (.error (.registerOutOfRange u.register (UInt32.ofNat u.data.length)),
      { d with commands := d.commands.push u.command }) := by
  refine call_of_refused ?_
  rw [refusal?_upload hlost hkind]
  exact if_neg hlong

/-- What was called before does not decide whether a call succeeds, unless it is a draw. -/
theorem call_ok_after_iff (hc : c.kind ≠ .drawIndexedPrimitive) (first : Command) :
    ((d.call first).2.call c).1 = .ok () ↔ (d.call c).1 = .ok () := by
  rw [call_eq_ok_iff, call_eq_ok_iff, hardware_call,
    (Hardware.alike_exec d.hardware first).refusal?_eq hc]

/-- **The laws of register files**, on a device whose registers can all be numbered. With no fault
in its way, an upload succeeds exactly if it ends within its file, and otherwise is refused for its
range and leaves both files alone. One that succeeds reads back, register by register and as floats,
and changes no register that it does not cover. In any state there are floats exactly for registers
that the file has, and they are the components of what stands there. Of two uploads that succeed one
after the other, the later one wins wherever both have something to say. They succeed in the other
order as well, which comes to the same if they have no register in common. -/
theorem register_laws (d : Device) (hsize : ∀ s, (d.hardware.file s).size ≤ 2 ^ 32) :
    (∀ u : Upload, d.hardware.faults.lost = false →
      u.command.kind ∉ d.hardware.faults.injected →
      let before := d.hardware
      let result := (d.call u.command).1
      let after := (d.call u.command).2.hardware
      (result = .ok () ↔ u.register.toNat + u.data.length ≤ (before.file u.stage).size) ∧
      (result ≠ .ok () →
        result = .error (.registerOutOfRange u.register (UInt32.ofNat u.data.length)) ∧
        ∀ s, after.file s = before.file s) ∧
      (result = .ok () →
        (∀ i < u.data.length,
          (after.file u.stage).get? (u.register + UInt32.ofNat i) = u.data[i]?) ∧
        (∀ s, (after.file s).size = (before.file s).size) ∧
        (∀ s i, ¬ u.Covers s i →
          (after.file s).registers[i]? = (before.file s).registers[i]?) ∧
        ∀ count : UInt32, count.toNat = u.data.length →
          (after.file u.stage).floats? u.register count =
            some (u.data.flatMap fun v => [v.x, v.y, v.z, v.w]))) ∧
    (∀ s (register count : UInt32),
      let file := d.hardware.file s
      ((file.floats? register count).isSome ↔ register.toNat + count.toNat ≤ file.size) ∧
      (register.toNat + count.toNat ≤ file.size → ∃ vs : List Vec4, vs.length = count.toNat ∧
        (∀ i < count.toNat, file.get? (register + UInt32.ofNat i) = vs[i]?) ∧
        file.floats? register count = some (vs.flatMap fun v => [v.x, v.y, v.z, v.w]))) ∧
    (∀ u₁ u₂ : Upload, (d.call u₁.command).1 = .ok () →
      ((d.call u₁.command).2.call u₂.command).1 = .ok () →
      let after := ((d.call u₁.command).2.call u₂.command).2.hardware
      let swapped := ((d.call u₂.command).2.call u₁.command).2.hardware
      (∀ s i, (after.file s).registers[i]? =
        if u₂.Covers s i then u₂.data[i - u₂.register.toNat]?
        else if u₁.Covers s i then u₁.data[i - u₁.register.toNat]?
        else (d.hardware.file s).registers[i]?) ∧
      (d.call u₂.command).1 = .ok () ∧ ((d.call u₂.command).2.call u₁.command).1 = .ok () ∧
      ((∀ s i, ¬ (u₁.Covers s i ∧ u₂.Covers s i)) → ∀ s, after.file s = swapped.file s)) := by
  refine ⟨fun u hlost hkind => ?_, fun s register count => ?_, fun u₁ u₂ h₁ h₂ => ?_⟩
  · intro before result after
    have hfits : result = .ok () ↔ u.Fits before := call_upload_eq_ok_iff hlost hkind
    refine ⟨hfits, fun hfails => ?_, fun hok => ?_⟩
    · have hcall := call_upload_of_not_fits hlost hkind fun hfit => hfails (hfits.2 hfit)
      exact ⟨congrArg Prod.fst hcall, fun s => congrArg (fun r => r.2.hardware.file s) hcall⟩
    · have hfit := hfits.1 hok
      have hafter : after = before.apply u.command := hardware_call_of_ok hok
      rw [hafter]
      refine ⟨fun i hi => Upload.get?_apply hfit (hsize u.stage) hi,
        fun s => (before.alike_apply u.command).size_file s, fun s i hi => ?_,
        fun count hcount => Upload.floats?_apply hfit hcount⟩
      rw [Upload.getElem?_apply hfit, if_neg hi]
  · intro file
    refine ⟨file.isSome_floats? register count, fun hfit => ?_⟩
    obtain ⟨vs, hlen, hvs⟩ := RegisterFile.exists_block hfit
    refine ⟨vs, hlen, fun i hi => ?_, ?_⟩
    -- the file is no longer than the numbers, so counting on does not wrap
    · have hnumber : register.toNat + i < 2 ^ 32 :=
        Nat.lt_of_lt_of_le (Nat.add_lt_add_left hi _) (Nat.le_trans hfit (hsize s))
      rw [file.get?_add hnumber, hvs i hi]
    · exact RegisterFile.floats?_eq_some hfit hlen fun i hi => hvs i (hlen ▸ hi)
  · intro after swapped
    -- success depends on the sizes of the files alone, so the order of the uploads does not matter
    have hok₂ : (d.call u₂.command).1 = .ok () := (call_ok_after_iff u₂.kind_command_ne _).1 h₂
    have hswap := (call_ok_after_iff u₁.kind_command_ne u₂.command).2 h₁
    have hfit₁ := Upload.fits_of_accepted (call_eq_ok_iff.1 h₁)
    have hfit₂ := Upload.fits_of_accepted (call_eq_ok_iff.1 hok₂)
    have hafter : after = (d.hardware.apply u₁.command).apply u₂.command :=
      hardware_call_call_of_ok h₁ h₂
    have hswapped : swapped = (d.hardware.apply u₂.command).apply u₁.command :=
      hardware_call_call_of_ok hok₂ hswap
    rw [hafter, hswapped]
    exact ⟨Upload.getElem?_apply_apply hfit₁ hfit₂, hok₂, hswap, Upload.apply_comm hfit₁ hfit₂⟩

/-- Of two uploads that overlap in the last register of the file, the later one wins there, and the
earlier one keeps the register before. An empty upload still has to begin within the file. -/
theorem register_laws_overlap :
    let d := ofSizes 4 0
    let pair : Upload := ⟨.vertex, 2, [⟨1, 2, 3, 4⟩, ⟨5, 6, 7, 8⟩]⟩
    let last : Upload := ⟨.vertex, 3, [⟨9, 9, 9, 9⟩]⟩
    let empty : Upload := ⟨.vertex, 5, []⟩
    let after := ((d.call pair.command).2.call last.command).2.hardware
    (after.file .vertex).registers[2]? = some ⟨1, 2, 3, 4⟩ ∧
      (after.file .vertex).registers[3]? = some ⟨9, 9, 9, 9⟩ ∧
      (d.call empty.command).1 = .error (.registerOutOfRange 5 0) := by
  intro d pair last empty after
  have hsize (s : Stage) : (d.hardware.file s).size ≤ 2 ^ 32 := by cases s <;> decide
  obtain ⟨hone, -, htwo⟩ := register_laws d hsize
  obtain ⟨hfits, hrefused, -⟩ := hone empty rfl KindSet.notMem_empty
  obtain ⟨hword, -⟩ := htwo pair last rfl rfl
  refine ⟨hword .vertex 2, hword .vertex 3, (hrefused fun hok => ?_).1⟩
  exact absurd (hfits.1 hok) (by decide)

end Device

end LitMesh
