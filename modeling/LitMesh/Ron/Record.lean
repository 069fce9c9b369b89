import LitMesh.Ron.Value

/-!
# Records in RON

Reading a struct with named fields into a value that starts out with a default for each of them.
Fields may come in any order and may be left out. A field that is not known is passed over, whatever
its value; one that is known must not come twice.
-/

namespace LitMesh.Ron

/-- How the fields of a record are read: the reader of a known field takes the record so far and
answers the record with that field replaced. -/
structure Schema (σ : Type) where
  name : String
  field : String → Option (σ → Reader σ)

/-- Passes over the name of a struct, which may be left out unless the document forbids it. -/
def skipStructName (x : Extensions) (name : String) (cs : List Char) : Option (List Char) :=
  if cs.head?.any Text.isXidContinue then
    match readName cs with
    | some (found, rest) => if found = name then some rest else none
    | none => none
  else if x.explicitNames then none
  else some cs

/-- Reads one field: its name, a colon and its value. `seen` lists the known fields before it. -/
def readField {σ : Type} (schema : Schema σ) (other : Skipper) (seen : List String) (s : σ)
    (cs : List Char) : Option ((List String × σ) × List Char) := do
  let (name, cs) ← readName cs
  match schema.field name with
  | some read =>
    if seen.contains name then none
    else
      let (s, rest) ← read s (← skipMark ':' cs)
      return ((name :: seen, s), rest)
  | none =>
    let rest ← other (← skipMark ':' cs)
    return ((seen, s), rest)

/-- Reads fields up to and with the closing parenthesis. -/
def readFields {σ : Type} (schema : Schema σ) (other : Skipper) (comma : Bool)
    (seen : List String) (s : σ) (cs : List Char) : Option (σ × List Char) :=
  match skipBlanks cs with
  | none => none
  | some ahead =>
    match skipChar ')' ahead with
    | some rest => some (s, rest)
    | none =>
      if comma then
        match readField schema other seen s ahead with
        | none => none
        | some ((seen, s), rest) =>
          match readComma rest with
          | none => none
          | some (comma, rest) =>
            if rest.length < cs.length then readFields schema other comma seen s rest else none
      else none
termination_by cs.length

/-- Reads a record into `s`. The values of unknown fields may nest as deep as the budget says. -/
def readRecord {σ : Type} (x : Extensions) (budget : Nat) (schema : Schema σ) (s : σ) :
    Reader σ := fun cs => do
  let cs ← skipStructName x schema.name cs
  let cs ← skipBlanks cs
  let cs ← skipChar '(' cs
  readFields schema (skipValue x budget) true [] s cs

end LitMesh.Ron
