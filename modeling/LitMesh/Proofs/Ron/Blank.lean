import LitMesh.Ron.Name

/-!
# What stands between two tokens

The blanks and comments of a document, written down as a grammar: a gap (`Gap`) is any run of blanks
and closed comments, and the end of a document (`Ending`) may also be a line comment that no line
break closes. A skipper of blanks passes over every gap and stops before the next token
(`skipBlanks_gap`, `skipBlanks_of_solid`).

A token is read up to a character that cannot belong to it. What may follow a token is a blank, a
comment or a punctuation mark, and none of these stands in a name or in a number (`Parted`).
-/

namespace LitMesh.Ron

open Text

/-! ## Gaps -/

/-- The rest of a block comment inside `depth` others, from after its opening mark on. -/
inductive BlockRest : (depth : Nat) → List Char → Prop
  | close : BlockRest 0 ['*', '/']
  | leave {depth : Nat} {cs : List Char} :
      BlockRest depth cs → BlockRest (depth + 1) ('*' :: '/' :: cs)
  | enter {depth : Nat} {cs : List Char} :
      BlockRest (depth + 1) cs → BlockRest depth ('/' :: '*' :: cs)
  | char {depth : Nat} {c : Char} {cs : List Char} :
      ¬(c = '/' ∧ cs.head? = some '*') → ¬(c = '*' ∧ cs.head? = some '/') →
        BlockRest depth cs → BlockRest depth (c :: cs)

/-- Blanks and comments that may stand between two tokens. -/
inductive Gap : List Char → Prop
  | nil : Gap []
  | blank {c : Char} {g : List Char} : isBlank c = true → Gap g → Gap (c :: g)
  | line {text g : List Char} : '\n' ∉ text → Gap g → Gap ('/' :: '/' :: text ++ '\n' :: g)
  | block {text g : List Char} : BlockRest 0 text → Gap g → Gap ('/' :: '*' :: text ++ g)

/-- Blanks and comments that may end a document. -/
inductive Ending : List Char → Prop
  | gap {g : List Char} : Gap g → Ending g
  | line {g text : List Char} : Gap g → '\n' ∉ text → Ending (g ++ '/' :: '/' :: text)

theorem gap_of_blank {g : List Char} (h : g.all isBlank = true) : Gap g := by
  induction g with
  | nil => exact .nil
  | cons c g ih =>
    rw [List.all_cons, Bool.and_eq_true] at h
    exact .blank h.1 (ih h.2)

theorem slash_not_blank : isBlank '/' = false := by decide

theorem skipBlanks_blank {c : Char} {cs : List Char} (h : isBlank c = true) :
    skipBlanks (c :: cs) = skipBlanks cs := by
  have hslash : c ≠ '/' := by
    rintro rfl
    rw [slash_not_blank] at h
    cases h
  rw [skipBlanks.eq_def]
  split <;> simp_all

theorem skipLine_append {text cs : List Char} (h : '\n' ∉ text) :
    skipLine (text ++ '\n' :: cs) = skipBlanks cs := by
  induction text with
  | nil => simp [skipLine]
  | cons c text ih =>
    rw [List.mem_cons, not_or] at h
    obtain ⟨hc, htext⟩ := h
    rw [List.cons_append, skipLine, if_neg (Ne.symm hc), ih htext]

theorem skipLine_of_not_mem {text : List Char} (h : '\n' ∉ text) : skipLine text = some [] := by
  induction text with
  | nil => rw [skipLine]
  | cons c text ih =>
    rw [List.mem_cons, not_or] at h
    obtain ⟨hc, htext⟩ := h
    rw [skipLine, if_neg (Ne.symm hc), ih htext]

theorem BlockRest.ne_nil {depth : Nat} {text : List Char} (h : BlockRest depth text) :
    text ≠ [] := by
  cases h <;> exact List.cons_ne_nil _ _

theorem skipBlock_append {depth : Nat} {text : List Char} (h : BlockRest depth text)
    (cs : List Char) : skipBlock depth (text ++ cs) = skipBlanks cs := by
  induction h with
  | close => simp [skipBlock]
  | leave h ih => simpa [skipBlock] using ih
  | enter h ih => simpa [skipBlock] using ih
  | @char depth c text hopen hclose h ih =>
    -- the comment goes on, so what the character stands before is a character of the comment
    obtain ⟨d, text, rfl⟩ := List.exists_cons_of_ne_nil h.ne_nil
    rw [← ih, List.cons_append, skipBlock.eq_def]
    split <;> simp_all

theorem skipBlanks_gap {g : List Char} (h : Gap g) (cs : List Char) :
    skipBlanks (g ++ cs) = skipBlanks cs := by
  induction h with
  | nil => rfl
  | blank hc _ ih => rw [List.cons_append, skipBlanks_blank hc, ih]
  | @line text g htext _ ih =>
    rw [List.append_assoc, List.cons_append, List.cons_append, List.cons_append, skipBlanks,
      skipLine_append htext, ih]
  | @block text g htext _ ih =>
    rw [List.append_assoc, List.cons_append, List.cons_append, skipBlanks,
      skipBlock_append htext, ih]

theorem skipBlanks_ending {g : List Char} (h : Ending g) : skipBlanks g = some [] := by
  cases h with
  | gap h =>
    have hskip := skipBlanks_gap h []
    rwa [List.append_nil, skipBlanks] at hskip
  | line h htext => rw [skipBlanks_gap h, skipBlanks, skipLine_of_not_mem htext]

/-! ## Tokens -/

/-- A token starts here: neither a blank nor a comment. -/
def Solid (cs : List Char) : Prop := ∃ c rest, cs = c :: rest ∧ c ≠ '/' ∧ isBlank c = false

theorem Solid.append {cs : List Char} (h : Solid cs) (rest : List Char) : Solid (cs ++ rest) := by
  obtain ⟨c, tail, rfl, hc⟩ := h
  exact ⟨c, tail ++ rest, rfl, hc⟩

theorem skipBlanks_of_solid {cs : List Char} (h : Solid cs) : skipBlanks cs = some cs := by
  obtain ⟨c, rest, rfl, hslash, hblank⟩ := h
  rw [skipBlanks.eq_def]
  split <;> simp_all

/-- A skipper of blanks passes over a gap and stops before the token after it. -/
theorem skipBlanks_gap_solid {g cs : List Char} (hg : Gap g) (h : Solid cs) :
    skipBlanks (g ++ cs) = some cs := by
  rw [skipBlanks_gap hg, skipBlanks_of_solid h]

theorem skipChar_cons (c : Char) (cs : List Char) : skipChar c (c :: cs) = some cs := if_pos rfl

theorem solid_mark {c : Char} (h : c ∈ [',', ':', '(', ')']) (cs : List Char) :
    Solid (c :: cs) := by
  have hall : [',', ':', '(', ')'].all (fun c => c != '/' && !isBlank c) = true := by decide
  exact ⟨c, cs, rfl, by simpa using List.all_eq_true.1 hall c h⟩

theorem skipMark_gap {c : Char} {g g' cs : List Char} (hc : c ∈ [',', ':', '(', ')']) (hg : Gap g)
    (hg' : Gap g') (h : Solid cs) : skipMark c (g ++ c :: (g' ++ cs)) = some cs := by
  simp only [skipMark, skipBlanks_gap_solid hg (solid_mark hc _), skipChar_cons,
    skipBlanks_gap_solid hg' h, Option.bind_eq_bind, Option.bind_some]

theorem readComma_gap {g g' cs : List Char} (hg : Gap g) (hg' : Gap g') (h : Solid cs) :
    readComma (g ++ ',' :: (g' ++ cs)) = some (true, cs) := by
  simp [readComma, skipBlanks_gap_solid hg (solid_mark (c := ',') (by decide) _),
    skipBlanks_gap_solid hg' h]

theorem readComma_close {g : List Char} (hg : Gap g) (cs : List Char) :
    readComma (g ++ ')' :: cs) = some (false, ')' :: cs) := by
  simp [readComma, skipBlanks_gap_solid hg (solid_mark (c := ')') (by decide) _)]

/-! ## Ends of tokens -/

/-- A character that ends a name or a number before it. -/
def IsBreak (c : Char) : Prop := isBlank c = true ∨ c ∈ ['/', ',', ':', '(', ')']

/-- Nothing ahead could belong to a name or a number that ends here. -/
def Parted (cs : List Char) : Prop := ∀ c ∈ cs.head?, IsBreak c

theorem parted_mark {c : Char} (h : c ∈ [',', ':', '(', ')']) (cs : List Char) :
    Parted (c :: cs) := by
  rintro d ⟨⟩
  exact .inr (List.mem_cons_of_mem _ h)

theorem Gap.parted {g cs : List Char} (h : Gap g) (hcs : Parted cs) : Parted (g ++ cs) := by
  cases h with
  | nil => exact hcs
  | blank hc _ =>
    rintro d ⟨⟩
    exact .inl hc
  | line _ _ =>
    rintro d ⟨⟩
    exact .inr (by decide)
  | block _ _ =>
    rintro d ⟨⟩
    exact .inr (by decide)

theorem Ending.parted {g : List Char} (h : Ending g) : Parted g := by
  cases h with
  | gap h =>
    have hparted : Parted (g ++ []) := h.parted (by rintro c ⟨⟩)
    rwa [List.append_nil] at hparted
  | line h _ =>
    refine h.parted ?_
    rintro d ⟨⟩
    exact .inr (by decide)

/-- There are not many breaks, so what holds of all of them can be tested. -/
theorem IsBreak.of_all {c : Char} (h : IsBreak c) (p : Char → Bool)
    (hall : [' ', '\t', '\n', '\r', '\x0b', '\x0c', '\u0085', '\u200e', '\u200f', '\u2028',
      '\u2029', '/', ',', ':', '(', ')'].all p = true) : p c = true := by
  rw [IsBreak, isBlank, List.contains_iff_mem] at h
  exact List.all_eq_true.1 hall c (List.mem_append.2 h)

/-- No break is a character of names, though some blanks lie beyond ASCII, where names may too. -/
theorem IsBreak.not_continue {c : Char} (h : IsBreak c) : isXidContinue c = false := by
  have hnot := h.of_all (fun c => !isXidContinue c) (by
    unfold isXidContinue inRanges
    simp only [← Array.any_toList]
    decide +kernel)
  simpa using hnot

end LitMesh.Ron
