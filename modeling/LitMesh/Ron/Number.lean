import LitMesh.Ron.Name

/-!
# Numbers in RON

An integer has a sign, a base, digits among which underscores may stand, and possibly a suffix that
names its type. A floating-point number has the usual form, also with underscores and a suffix, or
is an infinity or no number at all.
-/

namespace LitMesh.Ron

/-! ## Digits -/

/-- The value of a digit of base sixteen or less. -/
def digitValue (c : Char) : Option Nat :=
  if c.isDigit then some (c.toNat - '0'.toNat)
  else if 'a' ≤ c ∧ c ≤ 'f' then some (c.toNat - 'a'.toNat + 10)
  else if 'A' ≤ c ∧ c ≤ 'F' then some (c.toNat - 'A'.toNat + 10)
  else none

/-- Whether a character may stand among the digits of an integer. -/
def isIntChar (c : Char) : Bool := (digitValue c).isSome || c == '_'

/-- Appends one digit to a number, or leaves it as it is at an underscore. -/
def pushDigit (base n : Nat) (c : Char) : Option Nat :=
  if c = '_' then some n
  else
    match digitValue c with
    | some d => if d < base then some (base * n + d) else none
    | none => none

/-- The number that a run of digits writes. It must start with a digit. -/
def readDigits (base : Nat) : List Char → Option Nat
  | [] => none
  | c :: cs => if c = '_' then none else (c :: cs).foldlM (pushDigit base) 0

/-- The base that a marker after the sign announces, and the text after the marker. -/
def splitBase : List Char → Nat × List Char
  | '0' :: 'x' :: cs => (16, cs)
  | '0' :: 'o' :: cs => (8, cs)
  | '0' :: 'b' :: cs => (2, cs)
  | cs => (10, cs)

/-- Whether a minus sign stands ahead, and the text after the sign. -/
def splitSign : List Char → Bool × List Char
  | '+' :: cs => (false, cs)
  | '-' :: cs => (true, cs)
  | cs => (false, cs)

/-! ## Integers -/

/-- An integer as it is written: its sign, its magnitude and the suffix after its digits. -/
structure Literal where
  negative : Bool
  magnitude : Nat
  suffix : String
deriving DecidableEq

/-- Reads an integer with whatever name characters follow its digits. -/
def readLiteral (cs : List Char) : Option (Literal × List Char) :=
  let (negative, cs) := splitSign cs
  let (base, cs) := splitBase cs
  let (digits, cs) := cs.span isIntChar
  let (suffix, rest) := cs.span Text.isXidContinue
  (readDigits base digits).map fun n => (⟨negative, n, String.ofList suffix⟩, rest)

/-- Whether the value of a literal lies in a type of that many bits. Minus zero is zero. -/
def Literal.fits (l : Literal) (signed : Bool) (bits : Nat) : Bool :=
  if l.negative then l.magnitude ≤ (if signed then Nat.pow 2 (bits - 1) else 0)
  else l.magnitude < Nat.pow 2 (if signed then bits - 1 else bits)

/-- Whether a literal is an integer of the type that its suffix names. Without a suffix it has to be
one of 64 bits. -/
def Literal.isInteger (l : Literal) : Bool :=
  match l.suffix with
  | "" => if l.negative then l.fits true 64 else l.fits false 64
  | "i8" => l.fits true 8
  | "i16" => l.fits true 16
  | "i32" => l.fits true 32
  | "i64" => l.fits true 64
  | "u8" => l.fits false 8
  | "u16" => l.fits false 16
  | "u32" => l.fits false 32
  | "u64" => l.fits false 64
  | _ => false

/-- Reads an unsigned integer of 32 bits. -/
def readWord32 (cs : List Char) : Option (UInt32 × List Char) := do
  let (l, rest) ← readLiteral cs
  if l.fits false 32 && (l.suffix == "" || l.suffix == "u32") then
    return (UInt32.ofNat l.magnitude, rest)
  else none

/-- Passes over an integer of any type. -/
def skipInteger (cs : List Char) : Option (List Char) := do
  let (l, rest) ← readLiteral cs
  if l.isInteger then return rest else none

/-! ## Floating-point numbers -/

/-- Whether a character may stand in a floating-point number. -/
def isFloatChar (c : Char) : Bool :=
  c.isDigit || c == 'e' || c == 'E' || c == '.' || c == '+' || c == '-' || c == '_'

/-- The characters of a floating-point number and the rest. Two points in a row end the number. -/
def splitFloat : List Char → List Char × List Char
  | '.' :: '.' :: cs => ([], '.' :: '.' :: cs)
  | [] => ([], [])
  | c :: cs =>
    if isFloatChar c then
      let (run, rest) := splitFloat cs
      (c :: run, rest)
    else ([], c :: cs)

/-- Takes the underscores out of a floating-point number. One may stand where the last digit or
exponent mark before it has no point after it. -/
def dropUnderscores : (allowed : Bool) → List Char → Option (List Char)
  | _, [] => some []
  | allowed, c :: cs =>
    if c = '_' then if allowed then dropUnderscores true cs else none
    else
      let allowed := (allowed || c.isDigit || c == 'e' || c == 'E') && c != '.'
      (dropUnderscores allowed cs).map (c :: ·)

/-- Whether the text is empty or the exponent of a number. -/
def isExponent : List Char → Bool
  | [] => true
  | c :: cs =>
    let (_, digits) := splitSign cs
    (c == 'e' || c == 'E') && !digits.isEmpty && digits.all Char.isDigit

/-- Whether the text is a decimal number: digits with at most one point among or beside them, and
perhaps an exponent. -/
def isDecimal (cs : List Char) : Bool :=
  let (_, cs) := splitSign cs
  let (whole, cs) := cs.span Char.isDigit
  match cs with
  | '.' :: cs =>
    let (fraction, cs) := cs.span Char.isDigit
    !(whole.isEmpty && fraction.isEmpty) && isExponent cs
  | cs => !whole.isEmpty && isExponent cs

/-- The numbers that are written as words. -/
def floatWords : List String := ["inf", "inff32", "inff64", "NaN", "NaNf32", "NaNf64"]

/-- Passes over a floating-point number, with its suffix if it has one. -/
def skipFloat (cs : List Char) : Option (List Char) :=
  match skipWords floatWords (splitSign cs).2 with
  | some rest => some rest
  | none =>
    let (run, rest) := splitFloat cs
    match dropUnderscores false run with
    | some digits =>
      if isDecimal digits then
        match rest with
        | 'f' :: '3' :: '2' :: rest => some rest
        | 'f' :: '6' :: '4' :: rest => some rest
        | rest => some rest
      else none
    | none => none

/-- Passes over a number of any kind. It is a floating-point number if more characters can belong to
one than to an integer; otherwise, and also when the integer is out of range, either will do. -/
def skipNumber (cs : List Char) : Option (List Char) :=
  let body := (splitSign cs).2
  if (body.takeWhile isIntChar).length < (splitFloat body).1.length then skipFloat cs
  else (skipInteger cs).orElse fun _ => skipFloat cs

end LitMesh.Ron
