import Mathlib.Data.List.TakeDrop
import LitMesh.Proofs.Ron.Blank
import LitMesh.Ron.Number

/-!
# Names and numbers as they may be written

A name is written as it is, or raw with `r#` before it (`Spelling`). A number has many forms
(`Numeral`): with or without a sign, in one of four bases, with underscores among its digits, with
or without the suffix of its type. Whatever form is chosen and whatever break comes after it, the
reader finds the name or the number that was meant and stops where it ends (`readName_spelling`,
`readWord32_numeral`).
-/

namespace LitMesh.Ron

open Text

theorem span_append {p : Char → Bool} {run rest : List Char} (hrun : ∀ c ∈ run, p c = true)
    (hrest : ∀ c ∈ rest.head?, p c = false) : (run ++ rest).span p = (run, rest) := by
  rw [List.span_eq_takeWhile_dropWhile, List.takeWhile_append_of_pos hrun,
    List.dropWhile_append_of_pos hrun]
  cases rest with
  | nil => simp
  | cons c rest => simp [hrest c rfl]

/-! ## Names -/

/-- What may name a struct or a field. -/
structure IsName (name : List Char) : Prop where
  start : ∃ c cs, name = c :: cs ∧ isNameStart c = true
  parts : ∀ c ∈ name, isXidContinue c = true

/-- How a name may be written. -/
inductive Spelling (name : String) : List Char → Prop
  | plain : Spelling name name.toList
  | raw : Spelling name ('r' :: '#' :: name.toList)

theorem isName_of_test {name : String}
    (h : (name.toList.head?.any isNameStart && name.toList.all isXidContinue) = true) :
    IsName name.toList := by
  rw [Bool.and_eq_true, List.all_eq_true] at h
  refine ⟨?_, h.2⟩
  cases hname : name.toList with
  | nil => simp [hname] at h
  | cons c cs => exact ⟨c, cs, rfl, by simpa [hname] using h.1⟩

theorem isRawPart_of_continue {c : Char} (h : isXidContinue c = true) : isRawPart c = true := by
  simp [isRawPart, h]

theorem IsBreak.not_rawPart {c : Char} (h : IsBreak c) : isRawPart c = false := by
  have hsign : c ≠ '.' ∧ c ≠ '+' ∧ c ≠ '-' := by
    refine ⟨?_, ?_, ?_⟩ <;> rintro rfl <;> exact absurd h (by unfold IsBreak; decide)
  simp [isRawPart, h.not_continue, hsign]

/-- A name and a break after it hold none of the characters that make a name something else. -/
theorem append_ne {name rest tail : List Char} (hname : ∀ d ∈ name, isXidContinue d = true)
    (hrest : Parted rest) (pre : List Char) {c : Char} (hc : c ∈ ['"', '\'', '#'])
    (hpre : pre.all isXidContinue = true) : name ++ rest ≠ pre ++ c :: tail := by
  have hcontinue : isXidContinue c = false := by
    have hall : ['"', '\'', '#'].all (fun d => !isXidContinue d) = true := by decide
    simpa using List.all_eq_true.1 hall c hc
  have hbreak : ¬IsBreak c := fun h => by
    have hnot := h.of_all (fun d => !(['"', '\'', '#'].contains d)) (by decide)
    rw [List.contains_iff_mem.2 hc] at hnot
    cases hnot
  -- the name runs on over everything that a prefix of such a kind could consist of
  induction name generalizing pre with
  | nil =>
    rintro rfl
    cases pre with
    | nil => exact hbreak (hrest c rfl)
    | cons d pre =>
      have hend := (hrest d rfl).not_continue
      rw [List.all_cons, hend] at hpre
      cases hpre
  | cons d name ih =>
    cases pre with
    | nil =>
      rintro ⟨⟩
      rw [hname c (by simp)] at hcontinue
      cases hcontinue
    | cons e pre =>
      rw [List.all_cons, Bool.and_eq_true] at hpre
      intro h
      exact ih (fun d hd => hname d (by simp [hd])) pre hpre.2 (List.cons.inj h).2

variable {name rest : List Char}

theorem startsQuoted_append (hname : IsName name) (hrest : Parted rest) :
    startsQuoted (name ++ rest) = false := by
  have hne (pre tail : List Char) {c : Char} (hc : c ∈ ['"', '\'', '#'])
      (hpre : pre.all isXidContinue = true) : name ++ rest ≠ pre ++ c :: tail :=
    append_ne hname.parts hrest pre hc hpre
  unfold startsQuoted
  split
  case h_1 h | h_2 h => exact (hne ['b'] _ (by decide) (by decide) h).elim
  case h_3 h | h_4 h => exact (hne ['b', 'r'] _ (by decide) (by decide) h).elim
  case h_5 h | h_6 h | h_7 h => exact (hne ['r'] _ (by decide) (by decide) h).elim
  case h_8 => rfl

theorem splitName_append (hname : IsName name) (hrest : Parted rest) :
    splitName (name ++ rest) = (name, rest) := by
  unfold splitName
  split
  case h_1 h =>
    exact (append_ne hname.parts hrest ['r'] (by decide) (by decide) h).elim
  case h_2 => exact span_append hname.parts fun c hc => (hrest c hc).not_continue

theorem splitName_raw (hname : IsName name) (hrest : Parted rest) :
    splitName ('r' :: '#' :: (name ++ rest)) = (name, rest) :=
  span_append (fun c hc => isRawPart_of_continue (hname.parts c hc)) fun c hc =>
    (hrest c hc).not_rawPart

theorem isXidContinue_of_isNameStart {c : Char} (h : isNameStart c = true) :
    isXidContinue c = true := by
  rcases Bool.or_eq_true_iff.1 h with hc | hc
  · obtain rfl := beq_iff_eq.1 hc
    decide
  · exact isXidContinue_of_isXidStart hc

theorem startsQuoted_raw (hname : IsName name) :
    startsQuoted ('r' :: '#' :: (name ++ rest)) = false := by
  obtain ⟨c, cs, rfl, hc⟩ := hname.start
  have hc := isXidContinue_of_isNameStart hc
  have hne : c ≠ '"' ∧ c ≠ '#' := by
    constructor <;> rintro rfl <;> exact absurd hc (by decide)
  simp [startsQuoted, hne]

theorem Spelling.startsName {word : String} {text : List Char} (h : Spelling word text)
    (hword : IsName word.toList) (hrest : Parted rest) : startsName (text ++ rest) = true := by
  unfold Ron.startsName
  cases h with
  | plain =>
    obtain ⟨c, cs, hw, hc⟩ := hword.start
    rw [startsQuoted_append hword hrest, hw]
    simp [hc]
  | raw =>
    rw [List.cons_append, List.cons_append, startsQuoted_raw hword]
    rfl

/-- A name is read back, however it is written. -/
theorem readName_spelling {word : String} {text : List Char} (h : Spelling word text)
    (hword : IsName word.toList) (hrest : Parted rest) :
    readName (text ++ rest) = some (word, rest) := by
  have hsplit : splitName (text ++ rest) = (word.toList, rest) := by
    cases h with
    | plain => exact splitName_append hword hrest
    | raw => exact splitName_raw hword hrest
  -- what follows a name does not go on with it, raw or plain
  have hend : rest.head?.any isRawPart = false := by
    cases rest with
    | nil => rfl
    | cons c rest => exact (hrest c rfl).not_rawPart
  obtain ⟨c, cs, hw, -⟩ := hword.start
  rw [readName, if_pos (h.startsName hword hrest), hsplit]
  simp only [hw, hend, Bool.false_eq_true, if_false]
  rw [← hw, String.ofList_toList]

/-! ## Digits -/

/-- The digits of a number in some base, among which underscores may stand. -/
inductive Digits (base : Nat) : Nat → List Char → Prop
  | first {d : Nat} {c : Char} : digitValue c = some d → d < base → Digits base d [c]
  | digit {n d : Nat} {cs : List Char} {c : Char} :
      Digits base n cs → digitValue c = some d → d < base → Digits base (base * n + d) (cs ++ [c])
  | underscore {n : Nat} {cs : List Char} : Digits base n cs → Digits base n (cs ++ ['_'])

/-- The mark that announces a base. -/
inductive BaseMark : Nat → List Char → Prop
  | binary : BaseMark 2 ['0', 'b']
  | octal : BaseMark 8 ['0', 'o']
  | decimal : BaseMark 10 []
  | hexadecimal : BaseMark 16 ['0', 'x']

/-- The sign of a number without a sign of its own. Only zero may be negative. -/
inductive Sign (n : UInt32) : List Char → Prop
  | none : Sign n []
  | plus : Sign n ['+']
  | minus : n = 0 → Sign n ['-']

/-- How an unsigned integer of 32 bits may be written. -/
inductive Numeral (n : UInt32) : List Char → Prop
  | intro {base : Nat} {sign mark digits suffix : List Char} :
      Sign n sign → BaseMark base mark → Digits base n.toNat digits →
        suffix = [] ∨ suffix = ['u', '3', '2'] → Numeral n (sign ++ (mark ++ (digits ++ suffix)))

theorem not_underscore {c : Char} {d : Nat} (h : digitValue c = some d) : c ≠ '_' := by
  rintro rfl
  cases h

namespace Digits

variable {base n : Nat} {cs : List Char}

theorem head (h : Digits base n cs) : ∃ c rest d, cs = c :: rest ∧ digitValue c = some d := by
  induction h with
  | first hc _ => exact ⟨_, _, _, rfl, hc⟩
  | digit _ _ _ ih =>
    obtain ⟨c, rest, d, rfl, hc⟩ := ih
    exact ⟨c, _, d, rfl, hc⟩
  | underscore _ ih =>
    obtain ⟨c, rest, d, rfl, hc⟩ := ih
    exact ⟨c, _, d, rfl, hc⟩

theorem of_mem (h : Digits base n cs) {c : Char} (hc : c ∈ cs) :
    c = '_' ∨ ∃ d < base, digitValue c = some d := by
  induction h with
  | @first d e he hd =>
    obtain rfl := List.mem_singleton.1 hc
    exact .inr ⟨d, hd, he⟩
  | @digit n d cs e _ he hd ih =>
    rcases List.mem_append.1 hc with hc | hc
    · exact ih hc
    · obtain rfl := List.mem_singleton.1 hc
      exact .inr ⟨d, hd, he⟩
  | underscore _ ih =>
    rcases List.mem_append.1 hc with hc | hc
    · exact ih hc
    · exact .inl (List.mem_singleton.1 hc)

theorem isIntChar_of_mem (h : Digits base n cs) {c : Char} (hc : c ∈ cs) :
    isIntChar c = true := by
  rcases h.of_mem hc with rfl | ⟨d, -, hd⟩
  · decide
  · simp [isIntChar, hd]

/-- No decimal digit looks like the second character of the mark of a base. -/
theorem not_mark_of_mem (h : Digits 10 n cs) {c : Char} (hc : c ∈ cs) :
    c ∉ ['x', 'o', 'b'] := by
  rcases h.of_mem hc with rfl | ⟨d, hd, hvalue⟩
  · decide
  · intro hmark
    have hall : ['x', 'o', 'b'].all (fun c => (digitValue c).all (10 ≤ ·)) = true := by decide
    have hlarge := List.all_eq_true.1 hall c hmark
    rw [hvalue] at hlarge
    exact absurd (of_decide_eq_true hlarge) (Nat.not_le.2 hd)

theorem foldlM_pushDigit (h : Digits base n cs) : cs.foldlM (pushDigit base) 0 = some n := by
  induction h with
  | first hc hd => simp [pushDigit, hc, hd, not_underscore hc]
  | digit _ hc hd ih => simp [List.foldlM_append, ih, pushDigit, hc, hd, not_underscore hc]
  | underscore _ ih => simp [List.foldlM_append, ih, pushDigit]

theorem readDigits (h : Digits base n cs) : readDigits base cs = some n := by
  obtain ⟨c, rest, d, rfl, hc⟩ := h.head
  rw [Ron.readDigits, if_neg (not_underscore hc), h.foldlM_pushDigit]

end Digits

/-- The usual decimal digits are one way to write a number. -/
theorem digits_toDigits (n : Nat) : Digits 10 n (Nat.toDigits 10 n) := by
  induction n using Nat.strongRecOn with
  | ind n ih =>
    have hdigit : ∀ d < 10, digitValue d.digitChar = some d := by decide
    rcases Nat.lt_or_ge n 10 with hn | hn
    · rw [Nat.toDigits_of_lt_base hn]
      exact .first (hdigit n hn) hn
    · have hlast : n % 10 < 10 := Nat.mod_lt n (by decide)
      have hdigits := Digits.digit (ih (n / 10) (by omega)) (hdigit _ hlast) hlast
      rwa [Nat.div_add_mod, ← Nat.toDigits_of_base_le (by decide) hn] at hdigits

/-! ## Numbers -/

theorem numeral_toDigits (n : UInt32) : Numeral n (Nat.toDigits 10 n.toNat) := by
  have h := Numeral.intro .none .decimal (digits_toDigits n.toNat) (.inl rfl)
  simpa using h

theorem BaseMark.head {base n : Nat} {mark digits : List Char} (h : BaseMark base mark)
    (hdigits : Digits base n digits) (cs : List Char) :
    ∃ c rest d, mark ++ (digits ++ cs) = c :: rest ∧ digitValue c = some d := by
  cases h with
  | decimal =>
    obtain ⟨c, rest, d, rfl, hc⟩ := hdigits.head
    exact ⟨c, _, d, rfl, hc⟩
  | _ => exact ⟨'0', _, 0, rfl, rfl⟩

theorem splitSign_append {n : UInt32} {sign cs : List Char} (h : Sign n sign)
    (hcs : ∃ c rest d, cs = c :: rest ∧ digitValue c = some d) :
    splitSign (sign ++ cs) = (sign.contains '-', cs) := by
  obtain ⟨c, rest, d, rfl, hc⟩ := hcs
  cases h with
  | none =>
    have hne : c ≠ '+' ∧ c ≠ '-' := by
      constructor <;> rintro rfl <;> cases hc
    simp [splitSign, hne]
  | plus => rfl
  | minus _ => rfl

theorem splitBase_decimal {cs : List Char} (h : ∀ c ∈ cs.tail.head?, c ∉ ['x', 'o', 'b']) :
    splitBase cs = (10, cs) := by
  unfold splitBase
  split
  case h_4 => rfl
  all_goals exact absurd (by decide) (h _ rfl)

theorem splitBase_append {base n : Nat} {mark digits cs : List Char} (h : BaseMark base mark)
    (hdigits : Digits base n digits) (hcs : ∀ c ∈ cs.head?, c ∉ ['x', 'o', 'b']) :
    splitBase (mark ++ (digits ++ cs)) = (base, digits ++ cs) := by
  cases h with
  | binary => rfl
  | octal => rfl
  | hexadecimal => rfl
  | decimal =>
    refine splitBase_decimal ?_
    -- without a mark, the second character must not look like one
    obtain ⟨c, rest, d, rfl, -⟩ := hdigits.head
    cases rest with
    | nil => exact hcs
    | cons e rest =>
      rintro c ⟨⟩
      exact hdigits.not_mark_of_mem (by simp)

theorem IsBreak.not_intChar {c : Char} (h : IsBreak c) : isIntChar c = false := by
  have hnot := h.of_all (fun c => !isIntChar c) (by decide)
  simpa using hnot

theorem not_intChar_suffix {suffix rest : List Char} (h : suffix = [] ∨ suffix = ['u', '3', '2'])
    (hrest : Parted rest) : ∀ c ∈ (suffix ++ rest).head?, isIntChar c = false := by
  rcases h with rfl | rfl
  · exact fun c hc => (hrest c hc).not_intChar
  · rintro c ⟨⟩
    decide

theorem not_mark_suffix {suffix rest : List Char} (h : suffix = [] ∨ suffix = ['u', '3', '2'])
    (hrest : Parted rest) : ∀ c ∈ (suffix ++ rest).head?, c ∉ ['x', 'o', 'b'] := by
  rcases h with rfl | rfl
  · intro c hc
    have hnot := (hrest c hc).of_all (fun c => !(['x', 'o', 'b'].contains c)) (by decide)
    simpa using hnot
  · rintro c ⟨⟩
    decide

/-- What a numeral says, before it is asked whether it fits. -/
theorem readLiteral_numeral {n : UInt32} {text rest : List Char} (h : Numeral n text)
    (hrest : Parted rest) : ∃ negative suffix, (negative = true → n = 0) ∧
      (suffix = "" ∨ suffix = "u32") ∧
        readLiteral (text ++ rest) = some (⟨negative, n.toNat, suffix⟩, rest) := by
  obtain @⟨base, sign, mark, digits, suffix, hsign, hmark, hdigits, hsuffix⟩ := h
  refine ⟨sign.contains '-', String.ofList suffix, ?_, ?_, ?_⟩
  · cases hsign with
    | none => rintro ⟨⟩
    | plus => rintro ⟨⟩
    | minus h => exact fun _ => h
  · exact hsuffix.imp (fun h => by rw [h]) (fun h => by rw [h])
  -- each part ends where the next cannot be taken for more of it
  · have hstart := hmark.head hdigits (suffix ++ rest)
    have hword : suffix.all isXidContinue = true := by
      rcases hsuffix with rfl | rfl <;> decide
    simp only [readLiteral, List.append_assoc, splitSign_append hsign hstart,
      splitBase_append hmark hdigits (not_mark_suffix hsuffix hrest),
      span_append (fun c => hdigits.isIntChar_of_mem) (not_intChar_suffix hsuffix hrest),
      span_append (List.all_eq_true.1 hword) fun c hc => (hrest c hc).not_continue,
      hdigits.readDigits, Option.map_some]

/-- A number is read back, in whatever form it is written. -/
theorem readWord32_numeral {n : UInt32} {text rest : List Char} (h : Numeral n text)
    (hrest : Parted rest) : readWord32 (text ++ rest) = some (n, rest) := by
  obtain ⟨negative, suffix, hzero, hsuffix, hread⟩ := readLiteral_numeral h hrest
  have hfits : (⟨negative, n.toNat, suffix⟩ : Literal).fits false 32 = true := by
    cases negative with
    | true => simp [Literal.fits, hzero rfl]
    | false => simpa [Literal.fits] using n.toNat_lt
  simp [readWord32, hread, hfits, hsuffix]

end LitMesh.Ron
