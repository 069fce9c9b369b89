import LitMesh.Config
import LitMesh.Ron.Document

/-!
# Configurations in RON

A configuration is written as a struct of named fields, indented by two blanks, with the layout in
it as another one. A document may name any part of the fields, in any order; the others keep their
defaults.

`Config.document` writes what it is given, `Config.overlay` says what such a document means, and
`Config.ofRon?` reads any document and accepts it if it is usable.
-/

namespace LitMesh

open Ron

namespace Config

/-! ## Writing -/

/-- A field of a document: some blocks of the layout and where they start, or the stride. -/
inductive Entry
  | registers (fields : List (Block × UInt32))
  | vertexStride (stride : UInt32)

/-- A struct with one field a line, the lines indented by two more blanks than the struct. -/
def struct (indent : List Char) (fields : List (String × List Char)) : List Char :=
  ['(', '\n'] ++
    fields.flatMap (fun (name, value) =>
      indent ++ [' ', ' '] ++ name.toList ++ [':', ' '] ++ value ++ [',', '\n']) ++
    indent ++ [')']

/-- The decimal digits of a number. -/
def digits (n : UInt32) : List Char := Nat.toDigits 10 n.toNat

/-- The name of an entry and its value. -/
def Entry.write : Entry → String × List Char
  | registers fields =>
    ("registers", struct [' ', ' '] (fields.map fun (b, n) => (b.name, digits n)))
  | vertexStride stride => ("vertex_stride", digits stride)

/-- The document with the given entries. -/
def document (entries : List Entry) : String :=
  String.ofList (struct [] (entries.map Entry.write))

/-- All fields of a configuration, in order. -/
def entries (c : Config) : List Entry :=
  [.registers (Block.all.map fun b => (b, c.registers.start b)), .vertexStride c.vertexStride]

/-- The configuration as a document. -/
def toRon (c : Config) : String := document c.entries

/-! ## Reading -/

/-- Puts an entry over a configuration. The blocks that it does not name start at their defaults. -/
def put (c : Config) : Entry → Config
  | .registers fields =>
    { c with registers := fields.foldl (fun l (b, n) => l.place b n) {} }
  | .vertexStride stride => { c with vertexStride := stride }

/-- What a document with these entries means. -/
def overlay (entries : List Entry) : Config := entries.foldl put {}

/-- The fields of a layout are numbers. -/
def layoutSchema : Schema Layout where
  name := "ShaderRegisterLayout"
  field name := (Block.ofName? name).map fun b l cs => do
    let (n, rest) ← readWord32 cs
    return (l.place b n, rest)

/-- The fields of a configuration are a layout and a number. -/
def schema (x : Extensions) : Schema Config where
  name := "MeshViewConfig"
  field
    | "registers" => some fun c cs => do
      let (l, rest) ← readRecord x (nestingLimit - 4) layoutSchema {} cs
      return ({ c with registers := l }, rest)
    | "vertex_stride" => some fun c cs => do
      let (n, rest) ← readWord32 cs
      return ({ c with vertexStride := n }, rest)
    | _ => none

/-- Reads a document without judging what it says. -/
def parse? (source : String) : Option Config :=
  readDocument (fun x => readRecord x (nestingLimit - 2) (schema x) {}) source

/-- Reads a document and accepts a usable configuration. -/
def ofRon? (source : String) : Except ConfigError Config :=
  match parse? source with
  | none => .error .parse
  | some c => c.validate

end Config

end LitMesh
