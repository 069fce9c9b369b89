import LitMesh.Device
import LitMesh.Shader.Variant

/-!
# The shader table

The pixel shader variants at hand, one entry for each variant number, and the vertex program they
share. Binding a variant looks its entry up and passes the program on to the device; the table
remembers the last variant that a device accepted.
-/

namespace LitMesh

/-! ## Errors -/

/-- Why a pixel shader could not be bound. -/
inductive ShaderError
  /-- The variant was never compiled. -/
  | variantNotFound (key : VariantKey)
  /-- The variant failed to compile, with the compiler's details. -/
  | compilationFailed (key : VariantKey) (details : String)
  /-- The variant is there, but the device refused to bind it. -/
  | bindFailed (cause : DeviceError)
deriving DecidableEq

namespace ShaderError

def message : ShaderError → String
  | variantNotFound key => s!"No pixel shader variant for {key}"
  | compilationFailed key details => s!"Pixel shader variant {key} failed to compile: {details}"
  | bindFailed cause => s!"Failed to bind pixel shader: {cause.message}"

/-- The messages of the underlying errors, nearest first. -/
def sources : ShaderError → List String
  | bindFailed cause => [cause.message]
  | _ => []

end ShaderError

/-! ## Tables -/

/-- What is known of one variant. -/
inductive VariantState
  | missing
  | compiled (program : PixelProgramId)
  | failed (details : String)
deriving DecidableEq

structure VariantTable where
  vertexProgram : VertexProgramId
  variants : Vector VariantState VariantKey.count
  lastBound : Option VariantKey := none
deriving DecidableEq

namespace VariantTable

/-- A table without a single variant. -/
def empty (vertexProgram : VertexProgramId) : VariantTable :=
  ⟨vertexProgram, Vector.replicate _ .missing, none⟩

/-- A table with every variant, its program numbered like the variant. -/
def full (vertexProgram : VertexProgramId) : VariantTable :=
  ⟨vertexProgram, Vector.ofFn fun i => .compiled ⟨UInt64.ofNat i⟩, none⟩

/-- The entry of a variant. -/
def get (t : VariantTable) (k : VariantKey) (h : k.InTable) : VariantState :=
  t.variants[k.index]

/-- Replaces the entry of a variant. -/
def put (t : VariantTable) (k : VariantKey) (h : k.InTable) (s : VariantState) : VariantTable :=
  { t with variants := t.variants.set k.index s }

/-- Replacing one entry is seen there and nowhere else. -/
theorem get_put (t : VariantTable) {j k : VariantKey} (hj : j.InTable) (hk : k.InTable)
    (s : VariantState) : (t.put j hj s).get k hk = if j = k then s else t.get k hk := by
  simp only [get, put, Vector.getElem_set]
  by_cases h : j = k
  · rw [if_pos h, if_pos (by rw [h])]
  · rw [if_neg h, if_neg fun hi => h (VariantKey.index_injective hi)]

/-- The program of a variant that compiled. -/
def program? (t : VariantTable) (k : VariantKey) (h : k.InTable) : Option PixelProgramId :=
  match t.get k h with
  | .compiled program => some program
  | _ => none

/-- Binds a variant on a device. A variant that is missing or failed never reaches the device, and
one that the device refuses is not remembered. -/
def bind (t : VariantTable) (k : VariantKey) (h : k.InTable) (d : Device) :
    Outcome (VariantTable × Device) (Except ShaderError Unit) :=
  match t.get k h with
  | .missing => ⟨.error (.variantNotFound k), (t, d), []⟩
  | .failed details => ⟨.error (.compilationFailed k details), (t, d), []⟩
  | .compiled program =>
    match d.call (.setPixelProgram program) with
    | (.error e, d') => ⟨.error (.bindFailed e), (t, d'), []⟩
    | (.ok (), d') =>
      ⟨.ok (), ({ t with lastBound := some k }, d'),
        [⟨.trace, .shaders, s!"PhongShaderCache: bound {k} as {program}"⟩]⟩

section

variable {t : VariantTable} {k : VariantKey} {h : k.InTable} {d : Device}

theorem bind_of_missing (hget : t.get k h = .missing) :
    t.bind k h d = ⟨.error (.variantNotFound k), (t, d), []⟩ := by
  simp only [bind, hget]

theorem bind_of_failed {details : String} (hget : t.get k h = .failed details) :
    t.bind k h d = ⟨.error (.compilationFailed k details), (t, d), []⟩ := by
  simp only [bind, hget]

theorem bind_of_refused {program : PixelProgramId} {e : DeviceError}
    (hget : t.get k h = .compiled program)
    (hr : d.hardware.refusal? (.setPixelProgram program) = some e) :
    t.bind k h d = ⟨.error (.bindFailed e),
      (t, { d with commands := d.commands.push (.setPixelProgram program) }), []⟩ := by
  simp only [bind, hget, Device.call_of_refused hr]

theorem bind_of_accepted {program : PixelProgramId} (hget : t.get k h = .compiled program)
    (hr : d.hardware.refusal? (.setPixelProgram program) = none) :
    t.bind k h d = ⟨.ok (), ({ t with lastBound := some k },
        ⟨d.hardware.apply (.setPixelProgram program),
          d.commands.push (.setPixelProgram program)⟩),
      [⟨.trace, .shaders, s!"PhongShaderCache: bound {k} as {program}"⟩]⟩ := by
  simp only [bind, hget, Device.call_of_accepted hr]

/-- Of the table, a bind touches at most the memory of the last one, and that only if it
succeeds. -/
theorem table_bind (t : VariantTable) (k : VariantKey) (h : k.InTable) (d : Device) :
    (t.bind k h d).state.1 =
      match (t.bind k h d).answer with
      | .ok () => { t with lastBound := some k }
      | .error _ => t := by
  cases hget : t.get k h with
  | missing => rw [bind_of_missing hget]
  | failed details => rw [bind_of_failed hget]
  | compiled program =>
    cases hr : d.hardware.refusal? (.setPixelProgram program) with
    | some e => rw [bind_of_refused hget hr]
    | none => rw [bind_of_accepted hget hr]

end

end VariantTable

end LitMesh
