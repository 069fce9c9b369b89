import LitMesh.Ron.Number

/-!
# Quoted text in RON

Strings, raw strings, byte strings, characters and bytes, in the places where their value does not
matter. A backslash starts an escape; which escapes there are depends on what is quoted. A backslash
at the end of a line joins the line to the next one, in strings and byte strings.

Whether quoted text starts here can be seen without reading it to its end: a quote must stand after
the marks that come before one. Text that starts and is not well-formed is refused.
-/

namespace LitMesh.Ron

/-- What stands between the quotes. -/
inductive Quoted
  | text | bytes | character | byte
deriving DecidableEq

/-- Whether many characters or bytes may stand between the quotes, and not just one. -/
def Quoted.isString : Quoted → Bool
  | text | bytes => true
  | character | byte => false

/-- Whether what is quoted is made of bytes. -/
def Quoted.isBinary : Quoted → Bool
  | bytes | byte => true
  | text | character => false

/-- The value of two hexadecimal digits. -/
def hexByte : List Char → Option Nat
  | a :: b :: _ => do return (← digitValue a) * 16 + (← digitValue b)
  | _ => none

/-- The ranges in which the bytes after a given first byte must lie for all of them to encode one
character in UTF-8. -/
def utf8Tail (lead : Nat) : Option (List (Nat × Nat)) :=
  if lead < 0x80 then some []
  else if lead < 0xc2 then none
  else if lead < 0xe0 then some [(0x80, 0xbf)]
  else if lead = 0xe0 then some [(0xa0, 0xbf), (0x80, 0xbf)]
  else if lead = 0xed then some [(0x80, 0x9f), (0x80, 0xbf)]
  else if lead < 0xf0 then some [(0x80, 0xbf), (0x80, 0xbf)]
  else if lead = 0xf0 then some [(0x90, 0xbf), (0x80, 0xbf), (0x80, 0xbf)]
  else if lead < 0xf4 then some [(0x80, 0xbf), (0x80, 0xbf), (0x80, 0xbf)]
  else if lead = 0xf4 then some [(0x80, 0x8f), (0x80, 0xbf), (0x80, 0xbf)]
  else none

/-- Whether escaped bytes in these ranges stand ahead, one after the other. -/
def hasEscapedBytes : List (Nat × Nat) → List Char → Bool
  | [], _ => true
  | (low, high) :: ranges, '\\' :: 'x' :: cs =>
    match hexByte cs with
    | some b => low ≤ b && b ≤ high && hasEscapedBytes ranges (cs.drop 2)
    | none => false
  | _ :: _, _ => false

/-- The length of a byte escape after its `x`. Where bytes do not stand for themselves, the byte
starts a character; only in a string may further escapes complete it. -/
def byteEscapeLength (quoted : Quoted) (cs : List Char) : Option Nat := do
  let lead ← hexByte cs
  if quoted.isBinary then return 2
  let tail ← utf8Tail lead
  if tail.isEmpty then return 2
  if quoted.isString && hasEscapedBytes tail (cs.drop 2) then return 2 + 4 * tail.length
  none

/-- Whether a code point is that of a character. -/
def isScalar (code : Nat) : Bool := code < 0xd800 || 0xdfff < code && code < 0x110000

/-- The length of a code point escape after its `u`: one to six hexadecimal digits in braces. -/
def codeEscapeLength : List Char → Option Nat
  | c :: cs => do
    if c ≠ '\x7b' then none
    let digits := (cs.take 6).takeWhile fun d => (digitValue d).isSome
    if digits.isEmpty || cs[digits.length]? ≠ some '\x7d' then none
    let code := digits.foldl (fun n d => n * 16 + (digitValue d).getD 0) 0
    if isScalar code then return digits.length + 2 else none
  | [] => none

/-- The length of an escape after its backslash. A code point in a byte string stands for its bytes
in UTF-8; a single byte cannot be written so. -/
def escapeLength (quoted : Quoted) : List Char → Option Nat
  | 'x' :: cs => (byteEscapeLength quoted cs).map (· + 1)
  | 'u' :: cs => if quoted = .byte then none else (codeEscapeLength cs).map (· + 1)
  | '\n' :: _ => if quoted.isString then some 1 else none
  | '\r' :: '\n' :: _ => if quoted.isString then some 2 else none
  | c :: _ => if ['\'', '"', '\\', 'n', 'r', 't', '0'].contains c then some 1 else none
  | [] => none

/-- Passes over a quoted run up to and with its closing quote. -/
def skipQuoted (quoted : Quoted) (cs : List Char) : Option (List Char) :=
  match cs with
  | [] => none
  | c :: rest =>
    if c = '"' then some rest
    else if c = '\\' then
      match escapeLength quoted rest with
      | some n => skipQuoted quoted (rest.drop n)
      | none => none
    else skipQuoted quoted rest
termination_by cs.length
decreasing_by
  · rw [List.length_drop, List.length_cons]
    omega
  · rw [List.length_cons]
    omega

/-- Passes over the body of a raw string, which ends with a quote and as many hashes as it began
with. -/
def skipRawBody (hashes : Nat) : List Char → Option (List Char)
  | [] => none
  | c :: cs =>
    if c = '"' && (cs.take hashes) == List.replicate hashes '#' then some (cs.drop hashes)
    else skipRawBody hashes cs

/-- Passes over a raw string from its first hash or its quote on. -/
def skipRaw (cs : List Char) : Option (List Char) :=
  let (hashes, cs) := cs.span (· == '#')
  match cs with
  | '"' :: cs => skipRawBody hashes.length cs
  | _ => none

/-- Passes over a string, raw or not. -/
def skipString : List Char → Option (List Char)
  | '"' :: cs => skipQuoted .text cs
  | 'r' :: cs => skipRaw cs
  | _ => none

/-- Passes over a byte string, raw or not. -/
def skipByteString : List Char → Option (List Char)
  | 'b' :: '"' :: cs => skipQuoted .bytes cs
  | 'b' :: 'r' :: cs => skipRaw cs
  | _ => none

/-- Whether a raw string starts here with its first hash or its quote. -/
def startsRaw (cs : List Char) : Bool := (cs.dropWhile (· == '#')).head? = some '"'

/-- Whether a string starts here, raw or not, well-formed or not. -/
def startsString : List Char → Bool
  | '"' :: _ => true
  | 'r' :: cs => startsRaw cs
  | _ => false

/-- Whether a byte string starts here, raw or not, well-formed or not. -/
def startsByteString : List Char → Bool
  | 'b' :: '"' :: _ => true
  | 'b' :: 'r' :: cs => startsRaw cs
  | _ => false

/-- Passes over one character or byte and its closing quote. A byte has to be ASCII unless it is
escaped. -/
def skipSingle (quoted : Quoted) : List Char → Option (List Char)
  | [] => none
  | c :: cs =>
    if c = '\\' then (escapeLength quoted cs).bind fun n => skipChar '\'' (cs.drop n)
    else if quoted.isBinary && 128 ≤ c.toNat then none
    else skipChar '\'' cs

/-- Passes over a quoted character. -/
def skipCharacter : List Char → Option (List Char)
  | '\'' :: cs => skipSingle .character cs
  | _ => none

/-- Passes over a quoted byte. -/
def skipByte : List Char → Option (List Char)
  | 'b' :: '\'' :: cs => skipSingle .byte cs
  | _ => none

end LitMesh.Ron
