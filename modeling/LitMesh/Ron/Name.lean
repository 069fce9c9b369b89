import LitMesh.Ron.Blank
import LitMesh.Text.Name

/-!
# Names in RON

A name is an identifier of the Unicode kind, or `r#` and a run of characters that may also hold
dots and signs. What starts like a string or a byte literal is no name.
-/

namespace LitMesh.Ron

open Text

/-- Whether a character may stand in a name written with `r#`. -/
def isRawPart (c : Char) : Bool := isXidContinue c || c == '.' || c == '+' || c == '-'

/-- Whether the text starts like a raw string, a byte string or a byte literal. -/
def startsQuoted : List Char → Bool
  | 'b' :: '"' :: _ => true
  | 'b' :: '\'' :: _ => true
  | 'b' :: 'r' :: '#' :: _ => true
  | 'b' :: 'r' :: '"' :: _ => true
  | 'r' :: '"' :: _ => true
  | 'r' :: '#' :: '"' :: _ => true
  | 'r' :: '#' :: '#' :: _ => true
  | _ => false

/-- The name ahead and the rest: a raw one if it starts with `r#`, otherwise a plain one. -/
def splitName : List Char → List Char × List Char
  | 'r' :: '#' :: cs => cs.span isRawPart
  | cs => cs.span isXidContinue

/-- Whether a name may start here. -/
def startsName (cs : List Char) : Bool :=
  !startsQuoted cs && cs.head?.any isNameStart

/-- Passes over a name in a place where other values may stand too. -/
def skipName (cs : List Char) : Option (List Char) :=
  if startsName cs then
    match splitName cs with
    | ([], _) => none
    | (_, rest) => some rest
  else none

/-- Reads a name in a place where only a name may stand. A plain name must not run into a dot or a
sign. -/
def readName (cs : List Char) : Option (String × List Char) :=
  if startsName cs then
    match splitName cs with
    | ([], _) => none
    | (name, rest) => if rest.head?.any isRawPart then none else some (String.ofList name, rest)
  else none

/-- Passes over a name in a place where only a name may stand. -/
def skipFieldName (cs : List Char) : Option (List Char) := (readName cs).map Prod.snd

/-- Passes over a given word that no further name character follows. -/
def skipWord (word : String) (cs : List Char) : Option (List Char) :=
  match word.toList.isPrefixOf? cs with
  | some rest => if rest.head?.any isXidContinue then none else some rest
  | none => none

/-- Passes over the first of the given words that stands ahead. -/
def skipWords (words : List String) (cs : List Char) : Option (List Char) :=
  words.findSome? fun word => skipWord word cs

end LitMesh.Ron
