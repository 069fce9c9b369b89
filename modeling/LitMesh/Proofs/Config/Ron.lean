import Mathlib.Data.List.Nodup
import LitMesh.Config.Data
import LitMesh.Config.Ron
import LitMesh.Proofs.Config.Validation
import LitMesh.Proofs.Ron.Record

/-!
# Configurations written and read

Reading a document gives what validation makes of the configuration that the document means,
whatever fields it names and in whatever way they are written (`Config.ofRon?_of_writes`). What the
writer writes is such a document (`Config.writes_document`), and it means the configuration it was
written from, so a configuration that is written and read back is a validated one
(`Config.round_trip`).
-/

namespace LitMesh

open Ron

namespace Config

/-! ## Documents -/

def Entry.field : Entry → Field
  | registers _ => .registers
  | vertexStride _ => .vertexStride

/-- No field comes twice, and no block of the layout. -/
structure Distinct (es : List Entry) : Prop where
  fields : (es.map Entry.field).Nodup
  blocks : ∀ fields, .registers fields ∈ es → (fields.map Prod.fst).Nodup

/-- A layout with the given blocks. -/
def LayoutText (fields : List (Block × UInt32)) : List Char → Prop :=
  StructText "ShaderRegisterLayout" (fun (b, n) => FieldText b.name (Numeral n)) fields

/-- The value of an entry. -/
def Entry.ValueText : Entry → List Char → Prop
  | registers fields => LayoutText fields
  | vertexStride n => Numeral n

/-- A document with the given entries, in one of the many ways to write it. -/
def Writes (source : String) (es : List Entry) : Prop :=
  DocumentText "MeshViewConfig" (fun e => FieldText e.field.name e.ValueText) es source.toList

/-! ## Names -/

theorem isName_block (b : Block) : IsName b.name.toList := by
  cases b <;> exact isName_of_test (by decide)

theorem isName_field (f : Field) : IsName f.name.toList := by
  cases f <;> exact isName_of_test (by decide)

theorem isName_layout : IsName layoutSchema.name.toList := isName_of_test (by decide)

theorem isName_config : IsName "MeshViewConfig".toList := isName_of_test (by decide)

theorem block_name_injective : Function.Injective Block.name := by
  intro a b
  cases a <;> cases b <;> decide

theorem field_name_injective : Function.Injective Field.name := by
  intro f g
  cases f <;> cases g <;> decide

/-! ## Reading -/

theorem layoutSchema_reads (p : Block × UInt32) :
    layoutSchema.Reads (fun p => p.1.name) (fun p => Numeral p.2)
      (fun l p => l.place p.1 p.2) p where
  isName := isName_block p.1
  solid _ h := h.solid
  field := by
    refine ⟨_, congrArg (Option.map _) (Block.ofName?_name p.1), fun l text h rest hrest => ?_⟩
    simp [readWord32_numeral h hrest]

theorem readLayout_finds {fields : List (Block × UInt32)} (hnodup : (fields.map Prod.fst).Nodup)
    {text : List Char} (h : LayoutText fields text) {x : Extensions} (hx : x.explicitNames = false)
    (budget : Nat) : Finds (readRecord x budget layoutSchema {}) text
      (fields.foldl (fun l (b, n) => l.place b n) {}) := by
  refine readRecord_text (fun p _ => layoutSchema_reads p) isName_layout h ?_ hx budget {}
  have hnames := hnodup.map block_name_injective
  rwa [List.map_map] at hnames

theorem schema_reads {es : List Entry} (hes : Distinct es) {x : Extensions}
    (hx : x.explicitNames = false) {e : Entry} (he : e ∈ es) :
    (schema x).Reads (fun e => e.field.name) Entry.ValueText put e where
  isName := isName_field e.field
  solid text h := by
    cases e with
    | registers fields => exact StructText.solid h isName_layout
    | vertexStride n => exact Numeral.solid h
  field := by
    cases e with
    | registers fields =>
      refine ⟨_, rfl, fun c text h rest hrest => ?_⟩
      simp [readLayout_finds (hes.blocks fields he) h hx _ rest hrest, put]
    | vertexStride n =>
      refine ⟨_, rfl, fun c text h rest hrest => ?_⟩
      simp [readWord32_numeral h hrest, put]

/-- A document is read as what it means, in whatever way it is written. -/
theorem parse?_of_writes {source : String} {es : List Entry} (hes : Distinct es)
    (h : Writes source es) : parse? source = some (overlay es) := by
  refine readDocument_text isName_config (fun text htext => ?_) h
  refine readRecord_text (fun e he => schema_reads hes rfl he) isName_config htext ?_ rfl _ {}
  have hnames := hes.fields.map field_name_injective
  rwa [List.map_map] at hnames

theorem ofRon?_of_writes {source : String} {es : List Entry} (hes : Distinct es)
    (h : Writes source es) : ofRon? source = (overlay es).validate := by
  rw [ofRon?, parse?_of_writes hes h]

/-! ## Writing -/

section Struct

variable {α : Type} (name : α → String) {value : α → List Char} {text : α → List Char → Prop}

/-- One field a line: after the first line break of a struct stand a gap and its fields. -/
theorem fieldsText_struct {indent : List Char} (hindent : indent.all isBlank = true)
    {as : List α} (h : ∀ a ∈ as, text a (value a)) : ∃ g fields, Gap g ∧
      FieldsText (fun a => FieldText (name a) (text a)) as fields ∧
        struct indent (as.map fun a => (name a, value a)) = '(' :: '\n' :: (g ++ fields) := by
  induction as with
  | nil => exact ⟨indent, [')'], gap_of_blank hindent, .close, by simp [struct]⟩
  | cons a as ih =>
    obtain ⟨g, fields, hg, hfields, hstruct⟩ := ih fun b hb => h b (by simp [hb])
    have hspace : Gap [' '] := gap_of_blank (by decide)
    have hfield : FieldText (name a) (text a) _ := .intro .plain .nil hspace (h a (by simp))
    have hline : (indent ++ [' ', ' ']).all isBlank = true := by
      rw [List.all_append, hindent]
      decide
    -- the line break after the comma opens the gap that the other fields stand behind
    refine ⟨indent ++ [' ', ' '], _, gap_of_blank hline,
      .cons hfield .nil (.blank (c := '\n') (by decide) hg) hfields, ?_⟩
    simpa [struct] using hstruct

theorem structText_struct {indent : List Char} (hindent : indent.all isBlank = true)
    {as : List α} (h : ∀ a ∈ as, text a (value a)) (word : String) :
    StructText word (fun a => FieldText (name a) (text a)) as
      (struct indent (as.map fun a => (name a, value a))) := by
  obtain ⟨g, fields, hg, hfields, hstruct⟩ := fieldsText_struct name hindent h
  rw [hstruct]
  exact .unnamed (.blank (c := '\n') (by decide) hg) hfields

end Struct

theorem layoutText_struct (fields : List (Block × UInt32)) :
    LayoutText fields (struct [' ', ' '] (fields.map fun (b, n) => (b.name, digits n))) :=
  structText_struct _ (by decide) (fun p _ => numeral_toDigits p.2) _

theorem valueText_write (e : Entry) : e.ValueText e.write.2 := by
  cases e with
  | registers fields => exact layoutText_struct fields
  | vertexStride n => exact numeral_toDigits n

/-- What the writer writes has the entries that were to be written. -/
theorem writes_document (es : List Entry) : Writes (document es) es := by
  have hname (e : Entry) : e.write.1 = e.field.name := by
    cases e <;> rfl
  have hindent : ([] : List Char).all isBlank = true := rfl
  have htext := structText_struct (fun e => e.field.name) hindent
    (fun e (_ : e ∈ es) => valueText_write e) "MeshViewConfig"
  have hdocument := DocumentText.intro .nil htext (.gap .nil)
  rw [List.nil_append, List.append_nil] at hdocument
  rw [Writes, document, String.toList_ofList]
  simpa only [← hname] using hdocument

/-! ## Round trip -/

theorem distinct_entries (c : Config) : Distinct c.entries where
  fields := (by decide : [Field.registers, Field.vertexStride].Nodup)
  blocks fields h := by
    have hblocks : (Block.all.map fun b => (b, c.registers.start b)).map Prod.fst = Block.all := by
      rw [List.map_map]
      exact List.map_id _
    have hfields : fields = Block.all.map fun b => (b, c.registers.start b) := by
      simpa [entries] using h
    rw [hfields, hblocks]
    decide

theorem overlay_entries (c : Config) : overlay c.entries = c := rfl

theorem validate_eq_ok_or_error (c : Config) :
    c.validate = .ok c ∨ ∃ d, c.validate = .error (.invalid d) := by
  unfold validate
  split
  · exact .inl rfl
  · rename_i d _
    exact .inr ⟨d, rfl⟩

theorem validate_of_ofRon? {source : String} {c : Config} (h : ofRon? source = .ok c) :
    c.validate = .ok c := by
  unfold ofRon? at h
  split at h
  · cases h
  · rename_i found _
    rcases found.validate_eq_ok_or_error with hok | ⟨d, herror⟩
    · rw [hok] at h
      obtain rfl := Except.ok.inj h
      exact hok
    · rw [herror] at h
      cases h

theorem exists_ofConfig? {c : Config} (h : c.validate = .ok c) (mesh : Mesh) :
    ∃ v, View.ofConfig? mesh c = .ok v ∧ v.config = c := by
  have hmap := map_config_ofConfig? mesh c
  rw [h] at hmap
  cases hview : View.ofConfig? mesh c with
  | error e =>
    rw [hview] at hmap
    cases hmap
  | ok v =>
    rw [hview] at hmap
    exact ⟨v, rfl, Except.ok.inj hmap⟩

/-- **What is written is read back, through validation.** Any configuration, usable or not, is
written in such a way that reading it gives what validation makes of it: the configuration itself,
or the error about its defect, but never an error about the text and no other configuration. And
whatever text is read, a configuration that comes out of it passes validation, so a view can be
made of it. -/
theorem round_trip :
    (∀ c : Config, ofRon? c.toRon = c.validate ∧
      (c.validate = .ok c ∨ ∃ d, c.validate = .error (.invalid d))) ∧
    ∀ source c, ofRon? source = .ok c → c.validate = .ok c ∧
      ∀ mesh, ∃ v, View.ofConfig? mesh c = .ok v ∧ v.config = c := by
  constructor
  · intro c
    have hread := ofRon?_of_writes c.distinct_entries (writes_document c.entries)
    rw [overlay_entries] at hread
    exact ⟨hread, c.validate_eq_ok_or_error⟩
  · intro source c h
    have hvalid := validate_of_ofRon? h
    exact ⟨hvalid, exists_ofConfig? hvalid⟩

/-- The ambient color is moved, and the configuration comes back and makes a view. With the constant
color among the light colors, what comes back is the overlap. -/
theorem round_trip_moved :
    let moved : Config := { registers.ambientColor := 40 }
    let overlapping : Config := { registers.constantColor := 5 }
    ofRon? moved.toRon = .ok moved ∧
    (∃ v, View.ofConfig? ⟨.phong, ⟨1⟩, ⟨2⟩, 4, 6⟩ moved = .ok v ∧ v.config = moved) ∧
    ofRon? overlapping.toRon =
      .error (.invalid (.overlap .pixel ⟨.constantColor, 5, 6⟩ ⟨.lightColor, 4, 7⟩)) := by
  intro moved overlapping
  obtain ⟨hround, hgate⟩ := round_trip
  have hmoved : ofRon? moved.toRon = .ok moved := (hround moved).1.trans rfl
  exact ⟨hmoved, (hgate _ _ hmoved).2 _, (hround overlapping).1.trans rfl⟩

example : ({} : Config).toRon =
    "(\n  registers: (\n    lights: 10,\n    ambient_color: 20,\n    world_matrix: 30,\n" ++
      "    constant_color: 0,\n    light_color: 4,\n  ),\n  vertex_stride: 36,\n)" := by
  decide +kernel

end Config

end LitMesh
