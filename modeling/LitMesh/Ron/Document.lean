import LitMesh.Ron.Record

/-!
# Documents in RON

A document is a list of attributes and one value, with nothing but blanks and comments around them.
An attribute turns on extensions, or names the type or the schema of the value for other readers.
-/

namespace LitMesh.Ron

/-- How deep values may nest in a document. -/
def nestingLimit : Nat := 128

/-- Turns on the extension of the given name. That for newtypes makes no difference. -/
def Extensions.enable (x : Extensions) : String → Option Extensions
  | "implicit_some" => some { x with implicitSome := true }
  | "explicit_struct_names" => some { x with explicitNames := true }
  | "unwrap_newtypes" => some x
  | "unwrap_variant_newtypes" => some { x with unwrapOptions := true }
  | _ => none

/-- Reads one or more names of extensions, up to the closing parenthesis. -/
def readExtensions (x : Extensions) (cs : List Char) : Option (Extensions × List Char) :=
  match readName cs with
  | none => none
  | some (name, after) =>
    match x.enable name, readComma after with
    | some x, some (comma, rest) =>
      if rest.head?.any Text.isXidContinue then
        if comma && rest.length < cs.length then readExtensions x rest else none
      else some (x, rest)
    | _, _ => none
termination_by cs.length
decreasing_by simp_all

/-- Passes over a list of texts, with blanks after each of them. -/
def skipAll : List String → Skipper
  | [], cs => some cs
  | text :: texts, cs =>
    match text.toList.isPrefixOf? cs with
    | some rest => (skipBlanks rest).bind (skipAll texts)
    | none => none

/-- Reads one attribute. -/
def readAttribute (x : Extensions) (cs : List Char) : Option (Extensions × List Char) := do
  let cs ← skipAll ["#", "!", "["] cs
  match skipAll ["enable", "("] cs with
  | some names =>
    let (x, rest) ← readExtensions x names
    return (x, ← skipAll [")", "]"] rest)
  | none =>
    let cs ← (skipAll ["type", "="] cs).orElse fun _ => skipAll ["schema", "="] cs
    let cs ← skipString cs
    return (x, ← skipAll ["]"] (← skipBlanks cs))

/-- Reads the attributes at the start of a document. -/
def readAttributes (x : Extensions) (cs : List Char) : Option (Extensions × List Char) :=
  if cs.head? = some '#' then
    match readAttribute x cs with
    | none => none
    | some (x, rest) => if rest.length < cs.length then readAttributes x rest else none
  else some (x, cs)
termination_by cs.length

/-- Reads a document whose value is read by `value`. -/
def readDocument {α : Type} (value : Extensions → Reader α) (source : String) : Option α := do
  let cs ← skipBlanks source.toList
  let (x, cs) ← readAttributes {} cs
  let (a, cs) ← value x cs
  let cs ← skipBlanks cs
  if cs.isEmpty then return a else none

end LitMesh.Ron
