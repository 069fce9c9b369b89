import LitMesh.Ron.Quoted

/-!
# Values in RON

Passing over any well-formed value, as a reader does with a field it does not know: numbers and
ranges of them, quoted text, truth values, options, units, and lists, maps, tuples and structs of
further values.

Values nest to a limited depth. Going into a container takes one unit of a budget, and going on to
one of its elements takes another.
-/

namespace LitMesh.Ron

/-- The attributes of a document that make a difference. -/
structure Extensions where
  /-- A value may stand where an option is expected. -/
  implicitSome : Bool := false
  /-- Every struct must be named. -/
  explicitNames : Bool := false
  /-- The parentheses of an option may double as those of the struct or tuple in it. -/
  unwrapOptions : Bool := false
deriving DecidableEq

/-! ## Ranges -/

/-- Passes over a bound of a range: a number or a quoted byte. -/
def skipBound (cs : List Char) : Option (List Char) :=
  (skipByte cs).orElse fun _ => skipNumber cs

/-- Passes over the points of a range and its upper bound, if there are points. Only a range that
takes in its upper bound must have one. -/
def skipUpper : List Char → Option (List Char)
  | '.' :: '.' :: '=' :: cs => skipBound cs
  | '.' :: '.' :: cs => some ((skipBound cs).getD cs)
  | cs => some cs

/-! ## Sequences -/

/-- Passes over items up to the closing character. After the first, every item needs a comma before
it, and the last may have one after it. -/
def skipItems (item : Skipper) (close : Char) (comma : Bool) (cs : List Char) :
    Option (List Char) :=
  match skipBlanks cs with
  | none => none
  | some ahead =>
    if ahead.head? = some close then some ahead
    else if comma then
      match (item ahead).bind readComma with
      | some (comma, rest) =>
        if rest.length < cs.length then skipItems item close comma rest else none
      | none => none
    else none
termination_by cs.length

/-- Passes over items up to and with the closing character. -/
def skipClosed (item : Skipper) (close : Char) (cs : List Char) : Option (List Char) :=
  (skipItems item close true cs).bind (skipChar close)

/-- Passes over a key, a colon and a value. -/
def skipEntry (key item : Skipper) (cs : List Char) : Option (List Char) := do
  let cs ← key cs
  let cs ← skipMark ':' cs
  item cs

/-- Passes over a named field. -/
def skipField (item : Skipper) : Skipper := skipEntry skipFieldName item

/-! ## Parentheses -/

/-- Whether a name and a colon stand ahead, so that a parenthesis opens named fields. -/
def startsField (cs : List Char) : Bool :=
  match (skipBlanks cs).bind fun cs => (skipName cs).bind skipBlanks with
  | some (':' :: _) => true
  | _ => false

/-- Passes over what a parenthesis opens: named fields, or the items of a tuple. -/
def skipParen (item : Skipper) (cs : List Char) : Option (List Char) :=
  if startsField cs then skipClosed (skipField item) ')' cs else skipClosed item ')' cs

/-- What stands between the parentheses of an option that may double as those of its content. -/
inductive Content
  | fields | tuple | value
deriving DecidableEq

/-- Passes over a character if one stands here. A quote that does not enclose one character is left
to stand for itself. -/
def skipIfCharacter (cs : List Char) : List Char := (skipCharacter cs).getD cs

/-- Passes over a string if one starts here. -/
def skipIfString (cs : List Char) : Option (List Char) :=
  if startsString cs then skipString cs else some cs

/-- Passes over a byte string if one starts here. -/
def skipIfByteString (cs : List Char) : Option (List Char) :=
  if startsByteString cs then skipByteString cs else some cs

/-- Passes over blanks, over a character, a string and a byte string, each if it stands there, and
over more blanks. -/
def skipQuotes (cs : List Char) : Option (List Char) := do
  let cs ← skipBlanks cs
  let cs ← skipIfString (skipIfCharacter cs)
  let cs ← skipIfByteString cs
  skipBlanks cs

/-- Whether a comma with more than the closing parenthesis after it stands ahead, outside of quotes
and of the brackets that open ahead, of which there are `depth`. -/
def findComma (depth : Nat) (cs : List Char) : Option Bool :=
  match skipQuotes cs with
  | none | some [] => none
  | some (c :: rest) =>
    if rest.length < cs.length then
      if ['(', '[', '\x7b'].contains c then findComma (depth + 1) rest
      else if [')', ']', '\x7d'].contains c then
        match depth with
        | 0 => some false
        | depth + 1 => findComma depth rest
      else if c = ',' && depth = 0 then
        (skipBlanks rest).map fun cs => cs.head? ≠ some ')'
      else findComma depth rest
    else none
termination_by cs.length

/-- What the parentheses of an option hold. A single item with a comma after it is a value. -/
def contentAhead (cs : List Char) : Option Content := do
  if startsField cs then return .fields
  let cs ← skipBlanks cs
  let tuple ← findComma 0 ((skipName cs).getD cs)
  return if tuple then .tuple else .value

/-! ## Values -/

/-- Passes over the rest of an option after its `Some`, given how to pass over what its parentheses
hold and over a value that goes without them. -/
def skipPayload (x : Extensions) (inside value : Skipper) (cs : List Char) :
    Option (List Char) := do
  let cs ← skipBlanks cs
  match cs with
  | '(' :: rest =>
    let rest ← inside (← skipBlanks rest)
    let (_, rest) ← readComma rest
    skipChar ')' rest
  | _ => if x.implicitSome then value cs else none

/-- Passes over a value, given how to pass over the payload of an option, alone or just inside its
parentheses, and over the items of a container, and whether a container may be entered at all. -/
def skipValueWith (x : Extensions) (deeper : Bool) (payload : (inside : Bool) → Skipper)
    (item : Skipper) (cs : List Char) : Option (List Char) :=
  if let some rest := skipWords ["true", "false", "None"] cs then some rest
  else if let some rest := skipWord "Some" cs then
    skipPayload x (payload x.unwrapOptions) (payload false) rest
  else if let some rest := ['(', ')'].isPrefixOf? cs then some rest
  else if let some rest := skipWords floatWords cs then skipUpper rest
  else if let some rest := skipName cs then
    match skipBlanks rest with
    | some ('(' :: rest) => if deeper then skipParen item rest else none
    | other => other
  else
    match cs with
    | '(' :: rest => if deeper then skipParen item rest else none
    | '[' :: rest => if deeper then skipClosed item ']' rest else none
    | '\'' :: _ => skipCharacter cs
    | '"' :: _ | 'r' :: _ => skipString cs
    | 'b' :: '\'' :: _ => (skipByte cs).bind skipUpper
    | 'b' :: _ => skipByteString cs
    | '.' :: '.' :: _ => skipUpper cs
    | c :: rest =>
      if c = '\x7b' then if deeper then skipClosed (skipEntry item item) '\x7d' rest else none
      else if c.isDigit || c == '+' || c == '-' || c == '.' then (skipNumber cs).bind skipUpper
      else none
    | [] => none

/-- Passes over what the parentheses of an option hold, up to the closing one, where they double as
those of a struct or a tuple. `value` passes over anything else. -/
def skipUnwrapped (deeper : Bool) (value item : Skipper) (cs : List Char) : Option (List Char) :=
  if cs.head? = some ')' then some cs
  else
    match contentAhead cs with
    | some .fields => if deeper then skipItems (skipField item) ')' true cs else none
    | some .tuple => if deeper then skipItems item ')' true cs else none
    | some .value => value cs
    | none => none

/-- Passes over a value of one level. `inside` tells whether it shares its parentheses with an
option. -/
def skipLevel (x : Extensions) (inside deeper : Bool) (payload : (inside : Bool) → Skipper)
    (item : Skipper) : Skipper :=
  let value := skipValueWith x deeper payload item
  if inside then skipUnwrapped deeper value item else value

/-- Passes over a value, or over what an option shares its parentheses with, that nests no deeper
than the budget allows. -/
def skipNested (x : Extensions) (inside : Bool) : (budget : Nat) → Skipper
  | 0 => skipLevel x inside false (fun _ _ => none) fun _ => none
  | 1 => skipLevel x inside true (fun inside => skipNested x inside 0) fun _ => none
  | budget + 2 =>
    skipLevel x inside true (fun inside => skipNested x inside (budget + 1))
      (skipNested x false budget)

/-- Passes over a value that nests no deeper than the budget allows. -/
def skipValue (x : Extensions) (budget : Nat) : Skipper := skipNested x false budget

end LitMesh.Ron
