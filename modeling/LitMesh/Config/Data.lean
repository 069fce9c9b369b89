import LitMesh.Config
import LitMesh.Data

/-!
# Configurations as structured data

A configuration is an object, or a list in the order of its fields, and so is the layout in it.
Whatever an object leaves out, and whatever a list stops short of, keeps its default. Nothing is
validated here.
-/

namespace LitMesh

/-- Reads a record whose fields have defaults: every member of an object that `fields` names, or the
items of a list in the order of `fields`, replaces part of the record `s`. -/
def Data.overlay {ι σ : Type} (fields : List (String × ι)) (put : σ → ι → Data → Option σ)
    (s : σ) : Data → Option σ
  | .object members =>
    fields.foldlM (fun s (name, i) =>
      match members.lookup name with
      | some d => put s i d
      | none => some s) s
  | .list items =>
    if items.length ≤ fields.length then
      (fields.zip items).foldlM (fun s ((_, i), d) => put s i d) s
    else none
  | _ => none

/-- The blocks under the names of their fields. -/
def Layout.fields : List (String × Block) := Block.all.map fun b => (b.name, b)

def Layout.ofData? (d : Data) : Option Layout :=
  d.overlay Layout.fields (fun l b d => d.word32?.map (l.place b)) {}

def Layout.toData (l : Layout) : Data :=
  .object (Block.all.map fun b => (b.name, .int (l.start b).toNat))

namespace Config

/-- The fields of a configuration. -/
inductive Field
  | registers | vertexStride
deriving DecidableEq

namespace Field

def all : List Field := [registers, vertexStride]

def name : Field → String
  | registers => "registers"
  | vertexStride => "vertex_stride"

end Field

/-- Replaces one field. -/
def readField (c : Config) : Field → Data → Option Config
  | .registers, d => (Layout.ofData? d).map fun l => { c with registers := l }
  | .vertexStride, d => d.word32?.map fun n => { c with vertexStride := n }

def ofData? (d : Data) : Option Config :=
  d.overlay (Field.all.map fun f => (f.name, f)) readField {}

def toData (c : Config) : Data :=
  .object [(Field.registers.name, c.registers.toData),
    (Field.vertexStride.name, .int c.vertexStride.toNat)]

end Config

end LitMesh
