import LitMesh.Device.Command

/-!
# Register files

A stage of the pipeline reads its constants from a file of four-component registers. An upload
writes consecutive registers and must fit as a whole: a file refuses it or takes all of it.

**Lemmas.** A write keeps the size of the file (`size_write`), is read back where it went
(`getElem?_write_inside`), and changes nothing elsewhere (`getElem?_write_outside`).
-/

namespace LitMesh

structure RegisterFile where
  registers : Array Vec4
deriving DecidableEq

namespace RegisterFile

/-- A file of `n` registers that hold zero. -/
def ofSize (n : Nat) : RegisterFile := ⟨Array.replicate n .zero⟩

def size (f : RegisterFile) : Nat := f.registers.size

/-- The register of the given number, if the file reaches that far. -/
def get? (f : RegisterFile) (register : UInt32) : Option Vec4 := f.registers[register.toNat]?

/-- `count` registers from `register` on, component by component, if the file reaches that far. -/
def floats? (f : RegisterFile) (register count : UInt32) : Option (List Float32) :=
  let stop := register.toNat + count.toNat
  if stop ≤ f.size then
    some ((f.registers.extract register.toNat stop).toList.flatMap Vec4.toList)
  else
    none

/-! ## Uploads -/

/-- Why an upload from `register` on is refused: its end lies past the end of the file. An empty
upload past the end is refused too. -/
def refusal? (f : RegisterFile) (register : UInt32) (data : List Vec4) : Option DeviceError :=
  if register.toNat + data.length ≤ f.size then none
  else some (.registerOutOfRange register (UInt32.ofNat data.length))

/-- Puts `data` into consecutive registers from `start` on. -/
def write (f : RegisterFile) (start : Nat) : List Vec4 → RegisterFile
  | [] => f
  | v :: rest => write ⟨f.registers.setIfInBounds start v⟩ (start + 1) rest

@[simp] theorem size_write (f : RegisterFile) (start : Nat) (data : List Vec4) :
    (f.write start data).size = f.size := by
  induction data generalizing f start with
  | nil => rfl
  | cons v rest ih =>
    rw [write, ih]
    simp only [size, Array.size_setIfInBounds]

theorem getElem?_write_outside (f : RegisterFile) (start : Nat) (data : List Vec4) {i : Nat}
    (h : i < start ∨ start + data.length ≤ i) :
    (f.write start data).registers[i]? = f.registers[i]? := by
  induction data generalizing f start with
  | nil => rfl
  | cons v rest ih =>
    rw [List.length_cons] at h
    rw [write, ih _ _ (by omega), Array.getElem?_setIfInBounds_ne (by omega)]

theorem getElem?_write_inside (f : RegisterFile) (start : Nat) (data : List Vec4)
    (hfit : start + data.length ≤ f.size) {i : Nat} (hi : i < data.length) :
    (f.write start data).registers[start + i]? = data[i]? := by
  induction data generalizing f start i with
  | nil => exact absurd hi (Nat.not_lt_zero i)
  | cons v rest ih =>
    rw [List.length_cons] at hfit hi
    rw [write]
    match i with
    | 0 =>
      rw [getElem?_write_outside _ _ _ (by omega)]
      exact Array.getElem?_setIfInBounds_self_of_lt (by unfold size at hfit; omega)
    | j + 1 =>
      have hsize : (⟨f.registers.setIfInBounds start v⟩ : RegisterFile).size = f.size := by
        simp only [size, Array.size_setIfInBounds]
      rw [show start + (j + 1) = start + 1 + j by omega, List.getElem?_cons_succ]
      exact ih _ _ (by omega) (by omega)

end RegisterFile

end LitMesh
