import LitMesh.Proofs.Ron.Token
import LitMesh.Ron.Document

/-!
# Records as they may be written

A record is written as a struct (`StructText`): its name, which may be left out, and in parentheses
any number of named fields with commas between them. The last field may have a comma after it too,
and gaps may stand between any two tokens.

If a schema reads the value of each single field (`Schema.Reads`), then whatever fields are written,
in whatever order and form, the record read is the one that it started from with the fields put into
it one after the other (`readRecord_text`). All that is asked of the fields is that none is written
twice.
-/

namespace LitMesh.Ron

variable {α σ : Type}

/-! ## Texts -/

/-- A field of the given name, whose value is one of the given texts. -/
inductive FieldText (name : String) (value : List Char → Prop) : List Char → Prop
  | intro {word g g' text : List Char} : Spelling name word → Gap g → Gap g' → value text →
      FieldText name value (word ++ (g ++ ':' :: (g' ++ text)))

/-- Fields up to and with the closing parenthesis. -/
inductive FieldsText (field : α → List Char → Prop) : List α → List Char → Prop
  | close : FieldsText field [] [')']
  | last {a : α} {text g : List Char} :
      field a text → Gap g → FieldsText field [a] (text ++ (g ++ [')']))
  | cons {a : α} {as : List α} {text g g' rest : List Char} :
      field a text → Gap g → Gap g' → FieldsText field as rest →
        FieldsText field (a :: as) (text ++ (g ++ ',' :: (g' ++ rest)))

/-- A struct with the given fields. -/
inductive StructText (name : String) (field : α → List Char → Prop) (as : List α) :
    List Char → Prop
  | unnamed {g fields : List Char} : Gap g → FieldsText field as fields →
      StructText name field as ('(' :: (g ++ fields))
  | named {word g g' fields : List Char} : Spelling name word → Gap g → Gap g' →
      FieldsText field as fields → StructText name field as (word ++ (g ++ '(' :: (g' ++ fields)))

/-- A document that holds such a struct and no attributes. -/
inductive DocumentText (name : String) (field : α → List Char → Prop) (as : List α) :
    List Char → Prop
  | intro {g text tail : List Char} : Gap g → StructText name field as text → Ending tail →
      DocumentText name field as (g ++ (text ++ tail))

/-! ## Where texts start -/

theorem solid_of_not_break {c : Char} (h : ¬IsBreak c) (cs : List Char) : Solid (c :: cs) := by
  rw [IsBreak, not_or] at h
  refine ⟨c, cs, rfl, ?_, Bool.eq_false_iff.2 h.1⟩
  rintro rfl
  exact h.2 (by decide)

theorem solid_of_continue {c : Char} (h : Text.isXidContinue c = true) (cs : List Char) :
    Solid (c :: cs) := by
  refine solid_of_not_break (fun hbreak => ?_) cs
  rw [hbreak.not_continue] at h
  cases h

theorem Spelling.head {name : String} {word : List Char} (h : Spelling name word)
    (hname : IsName name.toList) : ∃ c cs, word = c :: cs ∧ Text.isXidContinue c = true := by
  cases h with
  | plain =>
    obtain ⟨c, cs, hcs, hc⟩ := hname.start
    exact ⟨c, cs, hcs, isXidContinue_of_isNameStart hc⟩
  | raw => exact ⟨'r', _, rfl, by decide⟩

theorem FieldText.head {name : String} {value : List Char → Prop} {text : List Char}
    (h : FieldText name value text) (hname : IsName name.toList) :
    ∃ c cs, text = c :: cs ∧ Text.isXidContinue c = true := by
  obtain ⟨hword, -, -, -⟩ := h
  obtain ⟨c, cs, rfl, hc⟩ := hword.head hname
  exact ⟨c, _, rfl, hc⟩

theorem FieldText.solid {name : String} {value : List Char → Prop} {text : List Char}
    (h : FieldText name value text) (hname : IsName name.toList) : Solid text := by
  obtain ⟨c, cs, rfl, hc⟩ := h.head hname
  exact solid_of_continue hc cs

theorem FieldsText.solid {name : α → String} {value : α → List Char → Prop} {as : List α}
    {text : List Char} (h : FieldsText (fun a => FieldText (name a) (value a)) as text)
    (hname : ∀ a ∈ as, IsName (name a).toList) : Solid text := by
  cases h with
  | close => exact solid_mark (by decide) _
  | last ha _ => exact (ha.solid (hname _ (by simp))).append _
  | cons ha _ _ _ => exact (ha.solid (hname _ (by simp))).append _

theorem StructText.head {name : String} {field : α → List Char → Prop} {as : List α}
    {text : List Char} (h : StructText name field as text) (hname : IsName name.toList) :
    ∃ c cs, text = c :: cs ∧ c ≠ '#' ∧ Solid (c :: cs) := by
  cases h with
  | unnamed => exact ⟨'(', _, rfl, by decide, solid_mark (by decide) _⟩
  | named hword =>
    obtain ⟨c, cs, rfl, hc⟩ := hword.head hname
    refine ⟨c, _, rfl, ?_, solid_of_continue hc _⟩
    rintro rfl
    exact absurd hc (by decide)

theorem StructText.solid {name : String} {field : α → List Char → Prop} {as : List α}
    {text : List Char} (h : StructText name field as text) (hname : IsName name.toList) :
    Solid text := by
  obtain ⟨c, cs, rfl, -, hsolid⟩ := h.head hname
  exact hsolid

theorem Numeral.solid {n : UInt32} {text : List Char} (h : Numeral n text) : Solid text := by
  obtain ⟨hsign, hmark, hdigits, -⟩ := h
  cases hsign with
  | none =>
    obtain ⟨c, cs, d, hcs, hc⟩ := hmark.head hdigits _
    rw [List.nil_append, hcs]
    refine solid_of_not_break (fun hbreak => ?_) cs
    have hdigit := hbreak.not_intChar
    simp [isIntChar, hc] at hdigit
  | plus => exact solid_of_not_break (by unfold IsBreak; decide) _
  | minus _ => exact solid_of_not_break (by unfold IsBreak; decide) _

/-! ## Reading -/

/-- The reader finds the value in the text, whatever comes after it. -/
def Finds (read : Reader α) (text : List Char) (a : α) : Prop :=
  ∀ rest, Parted rest → read (text ++ rest) = some (a, rest)

/-- A schema reads the field `a` by its name: from a text of its value, it puts `a` into the
record. -/
structure Schema.Reads (schema : Schema σ) (name : α → String) (value : α → List Char → Prop)
    (put : σ → α → σ) (a : α) : Prop where
  isName : IsName (name a).toList
  solid : ∀ text, value a text → Solid text
  field : ∃ read, schema.field (name a) = some read ∧
    ∀ s text, value a text → Finds (read s) text (put s a)

section Fields

variable {schema : Schema σ} {name : α → String} {value : α → List Char → Prop}
  {put : σ → α → σ} {other : Skipper} {text : List Char}

theorem readField_text {a : α} (h : schema.Reads name value put a)
    (ha : FieldText (name a) (value a) text) (other : Skipper) {seen : List String}
    (hseen : name a ∉ seen) (s : σ) {rest : List Char} (hrest : Parted rest) :
    readField schema other seen s (text ++ rest) = some ((name a :: seen, put s a), rest) := by
  obtain @⟨word, g, g', text, hword, hg, hg', htext⟩ := ha
  obtain ⟨read, hfield, hread⟩ := h.field
  have hparted : Parted (g ++ ':' :: (g' ++ (text ++ rest))) :=
    hg.parted (parted_mark (by decide) _)
  have hname := readName_spelling hword h.isName hparted
  have hmark := skipMark_gap (c := ':') (by decide) hg hg' ((h.solid text htext).append rest)
  simp [readField, hname, hfield, hseen, hmark, hread s text htext rest hrest]

theorem readFields_close {cs rest : List Char} (h : skipBlanks cs = some (')' :: rest))
    (comma : Bool) (seen : List String) (s : σ) :
    readFields schema other comma seen s cs = some (s, rest) := by
  rw [readFields, h]
  simp only [skipChar_cons]

/-- Reading goes on after a field and what stands between it and the next one. -/
theorem readFields_field {a : α} (h : schema.Reads name value put a)
    (ha : FieldText (name a) (value a) text) {seen : List String} (hseen : name a ∉ seen) (s : σ)
    {g rest ahead : List Char} {comma : Bool} (hg : Gap g) (hrest : Parted rest)
    (hcomma : readComma rest = some (comma, ahead)) (hlength : ahead.length ≤ rest.length) :
    readFields schema other true seen s (g ++ (text ++ rest)) =
      readFields schema other comma (name a :: seen) (put s a) ahead := by
  have hread := readField_text h ha other hseen s hrest
  obtain ⟨c, cs, rfl, hc⟩ := ha.head h.isName
  -- a field starts with a name, so the record is not over
  have hclose : skipChar ')' (c :: cs ++ rest) = none := by
    refine if_neg ?_
    rintro rfl
    exact absurd hc (by decide)
  have hless : ahead.length < (g ++ (c :: cs ++ rest)).length := by
    simp only [List.length_append, List.length_cons]
    omega
  rw [readFields, skipBlanks_gap_solid hg ((solid_of_continue hc cs).append rest)]
  simp only [hclose, hread, hcomma, hless, if_true]

/-- The fields of a record are read one after the other. The induction is on the fields as they are
written; `g` is the gap that the opening parenthesis or the last comma left. -/
theorem readFields_text {as : List α} (h : ∀ a ∈ as, schema.Reads name value put a)
    (has : FieldsText (fun a => FieldText (name a) (value a)) as text)
    (hnodup : (as.map name).Nodup) {seen : List String} (hseen : ∀ a ∈ as, name a ∉ seen) (s : σ)
    {g : List Char} (hg : Gap g) (rest : List Char) :
    readFields schema other true seen s (g ++ (text ++ rest)) = some (as.foldl put s, rest) := by
  induction has generalizing seen s g with
  | close => exact readFields_close (skipBlanks_gap_solid hg (solid_mark (by decide) _)) true seen s
  | @last a text g' ha hg' =>
    have hparted : Parted (g' ++ ')' :: rest) := hg'.parted (parted_mark (by decide) _)
    have hclose : skipBlanks (')' :: rest) = some (')' :: rest) :=
      skipBlanks_of_solid (solid_mark (by decide) _)
    rw [List.append_assoc, List.append_assoc, List.singleton_append,
      readFields_field (h a (by simp)) ha (hseen a (by simp)) s hg hparted
        (readComma_close hg' rest) (by simp),
      readFields_close hclose]
    rfl
  | @cons a as text g' g'' fields ha hg' hg'' has ih =>
    rw [List.map_cons, List.nodup_cons] at hnodup
    -- the name of the first field has been seen by the others, which have names of their own
    have hseen' : ∀ b ∈ as, name b ∉ name a :: seen := fun b hb hmem => by
      rcases List.mem_cons.1 hmem with heq | hmem
      · exact hnodup.1 (List.mem_map.2 ⟨b, hb, heq⟩)
      · exact hseen b (by simp [hb]) hmem
    have hrest : ∀ b ∈ as, schema.Reads name value put b := fun b hb => h b (by simp [hb])
    have hparted : Parted (g' ++ ',' :: (g'' ++ (fields ++ rest))) :=
      hg'.parted (parted_mark (by decide) _)
    have hcomma := readComma_gap hg' hg'' ((has.solid fun b hb => (hrest b hb).isName).append rest)
    have hlength : (fields ++ rest).length ≤ (g' ++ ',' :: (g'' ++ (fields ++ rest))).length := by
      simp only [List.length_append, List.length_cons]
      omega
    rw [List.append_assoc, List.append_assoc, List.cons_append, List.append_assoc,
      readFields_field (h a (by simp)) ha (hseen a (by simp)) s hg hparted hcomma hlength]
    exact ih hrest hnodup.2 hseen' (put s a) .nil

end Fields

/-- However a struct is written, what is read is the record with the fields put into it. -/
theorem readRecord_text {schema : Schema σ} {name : α → String} {value : α → List Char → Prop}
    {put : σ → α → σ} {as : List α} (h : ∀ a ∈ as, schema.Reads name value put a)
    (hname : IsName schema.name.toList) {text : List Char}
    (htext : StructText schema.name (fun a => FieldText (name a) (value a)) as text)
    (hnodup : (as.map name).Nodup) {x : Extensions} (hx : x.explicitNames = false) (budget : Nat)
    (s : σ) : Finds (readRecord x budget schema s) text (as.foldl put s) := by
  intro rest _
  -- with or without the name in front, the fields begin behind the parenthesis
  cases htext with
  | @unnamed g fields hg hfields =>
    have hread : readFields schema (skipValue x budget) true [] s (g ++ (fields ++ rest)) =
        some (as.foldl put s, rest) := readFields_text h hfields hnodup (by simp) s hg rest
    have hopen := skipBlanks_of_solid (solid_mark (c := '(') (by decide) (g ++ (fields ++ rest)))
    have hcontinue : Text.isXidContinue '(' = false := by decide
    simp [readRecord, skipStructName, hcontinue, hx, hopen, skipChar_cons, hread]
  | @named word g g' fields hword hg hg' hfields =>
    have hread : readFields schema (skipValue x budget) true [] s (g' ++ (fields ++ rest)) =
        some (as.foldl put s, rest) := readFields_text h hfields hnodup (by simp) s hg' rest
    have hopen := solid_mark (c := '(') (by decide) (g' ++ (fields ++ rest))
    have hparted : Parted (g ++ '(' :: (g' ++ (fields ++ rest))) :=
      hg.parted (parted_mark (by decide) _)
    have hfound := readName_spelling hword hname hparted
    obtain ⟨c, cs, rfl, hc⟩ := hword.head hname
    have hskip := skipBlanks_gap_solid hg hopen
    rw [List.cons_append] at hfound
    simp [readRecord, skipStructName, hc, hfound, hskip, skipChar_cons, hread]

theorem readDocument_text {β : Type} {name : String} {field : α → List Char → Prop} {as : List α}
    (hname : IsName name.toList) {read : Extensions → Reader β} {b : β}
    (hread : ∀ text, StructText name field as text → Finds (read {}) text b) {source : String}
    (h : DocumentText name field as source.toList) : readDocument read source = some b := by
  rw [readDocument]
  generalize source.toList = cs at h
  obtain @⟨g, text, tail, hg, htext, htail⟩ := h
  have hstart := skipBlanks_gap_solid hg ((htext.solid hname).append tail)
  have hattributes : readAttributes {} (text ++ tail) = some ({}, text ++ tail) := by
    obtain ⟨c, cs, rfl, hc, -⟩ := htext.head hname
    rw [readAttributes, if_neg (by simpa using hc)]
  have hfound := hread text htext tail htail.parted
  simp [hstart, hattributes, hfound, skipBlanks_ending htail]

end LitMesh.Ron
