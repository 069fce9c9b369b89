/-!
# Blanks and comments

Between any two tokens of RON there may be blanks and comments. A line comment ends with its line;
block comments nest and must be closed.

Readers work on the characters ahead. A skipper answers the characters after what it passed over,
or nothing if the text ahead is not what it looks for.
-/

namespace LitMesh.Ron

/-- Passes over some text. -/
abbrev Skipper : Type := List Char → Option (List Char)

/-- Passes over some text and answers what it means. -/
abbrev Reader (α : Type) : Type := List Char → Option (α × List Char)

/-- The blank characters, which are those of the Unicode property `Pattern_White_Space`. -/
def isBlank (c : Char) : Bool :=
  [' ', '\t', '\n', '\r', '\x0b', '\x0c', '\u0085', '\u200e', '\u200f', '\u2028',
    '\u2029'].contains c

mutual

/-- Passes over blanks and comments. A slash that opens no comment is refused. -/
def skipBlanks : List Char → Option (List Char)
  | [] => some []
  | '/' :: '/' :: cs => skipLine cs
  | '/' :: '*' :: cs => skipBlock 0 cs
  | c :: cs =>
    if c = '/' then none
    else if isBlank c then skipBlanks cs
    else some (c :: cs)

/-- Passes over the rest of a line comment and what follows it. -/
def skipLine : List Char → Option (List Char)
  | [] => some []
  | c :: cs => if c = '\n' then skipBlanks cs else skipLine cs

/-- Passes over the rest of a block comment inside `depth` others, and what follows it. -/
def skipBlock : (depth : Nat) → List Char → Option (List Char)
  | _, [] => none
  | depth, '/' :: '*' :: cs => skipBlock (depth + 1) cs
  | 0, '*' :: '/' :: cs => skipBlanks cs
  | depth + 1, '*' :: '/' :: cs => skipBlock depth cs
  | depth, _ :: cs => skipBlock depth cs

end

/-- Passes over one given character. -/
def skipChar (c : Char) : Skipper
  | d :: cs => if d = c then some cs else none
  | [] => none

/-- Passes over blanks, then one given character, then blanks. -/
def skipMark (c : Char) (cs : List Char) : Option (List Char) := do
  let cs ← skipBlanks cs
  let cs ← skipChar c cs
  skipBlanks cs

/-- Passes over blanks and a comma with the blanks after it, and tells whether there was a comma. -/
def readComma (cs : List Char) : Option (Bool × List Char) := do
  let cs ← skipBlanks cs
  match cs with
  | ',' :: rest => return (true, ← skipBlanks rest)
  | _ => return (false, cs)

end LitMesh.Ron
