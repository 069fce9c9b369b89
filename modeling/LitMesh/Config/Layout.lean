import LitMesh.Light

/-!
# Register layouts

Where the shaders expect their constants. Each constant is a block of consecutive registers in one
stage of the pipeline. A layout is usable if every block ends within the 32-bit register numbers and
no two blocks of a stage share a register.
-/

namespace LitMesh

/-! ## Blocks -/

inductive Stage
  | vertex | pixel
deriving DecidableEq

/-- The blocks of constants that a view uploads. -/
inductive Block
  | lights | ambientColor | worldMatrix | constantColor | lightColor
deriving DecidableEq

/-- The registers of one light in the vertex stage: its position and its color. -/
def registersPerLight : Nat := 2

def Stage.name : Stage → String
  | vertex => "vertex"
  | pixel => "pixel"

/-- The blocks of a stage. -/
def Stage.blocks : Stage → List Block
  | vertex => [.lights, .ambientColor, .worldMatrix]
  | pixel => [.constantColor, .lightColor]

namespace Block

def all : List Block := [lights, ambientColor, worldMatrix, constantColor, lightColor]

def name : Block → String
  | lights => "lights"
  | ambientColor => "ambient_color"
  | worldMatrix => "world_matrix"
  | constantColor => "constant_color"
  | lightColor => "light_color"

/-- The block of the given name. -/
def ofName? (name : String) : Option Block := all.find? fun b => b.name = name

/-- How many registers a block takes. -/
def length : Block → Nat
  | lights => registersPerLight * maxPointLights
  | ambientColor => 1
  | worldMatrix => 3
  | constantColor => 1
  | lightColor => maxPointLights

def stage : Block → Stage
  | lights | ambientColor | worldMatrix => .vertex
  | constantColor | lightColor => .pixel

theorem mem_blocks (b : Block) (s : Stage) : b ∈ s.blocks ↔ b.stage = s := by
  cases b <;> cases s <;> decide

theorem ofName?_name (b : Block) : ofName? b.name = some b := by
  cases b <;> decide

end Block

/-! ## Layouts -/

/-- The first register of each block. -/
structure Layout where
  lights : UInt32 := 10
  ambientColor : UInt32 := 20
  worldMatrix : UInt32 := 30
  constantColor : UInt32 := 0
  lightColor : UInt32 := 4
deriving DecidableEq

/-- The registers of a block: from `start` on, and less than `stop`. -/
structure Extent where
  block : Block
  start : Nat
  stop : Nat
deriving DecidableEq

/-- Why a configuration is unusable. -/
inductive Defect
  /-- A vertex takes no bytes. -/
  | zeroStride
  /-- The block ends past the last register number. -/
  | overflow (block : Block) (start : Nat)
  /-- Two blocks of the stage share a register. -/
  | overlap (stage : Stage) (a b : Extent)
deriving DecidableEq

def Defect.message : Defect → String
  | zeroStride => "vertex_stride must be nonzero"
  | overflow block start =>
    s!"registers '{block.name}' starting at {start} overflow the register space"
  | overlap stage a b =>
    s!"{stage.name} registers '{a.block.name}' ({a.start}..{a.stop}) and " ++
      s!"'{b.block.name}' ({b.start}..{b.stop}) overlap"

/-- The pairs of members of a list, each with those after it. -/
def pairs {α : Type} : List α → List (α × α)
  | [] => []
  | a :: rest => rest.map (fun b => (a, b)) ++ pairs rest

namespace Layout

instance : Inhabited Layout := ⟨{}⟩

/-- The first register of a block. -/
def start (l : Layout) : Block → UInt32
  | .lights => l.lights
  | .ambientColor => l.ambientColor
  | .worldMatrix => l.worldMatrix
  | .constantColor => l.constantColor
  | .lightColor => l.lightColor

/-- Moves a block to another first register. -/
def place (l : Layout) (b : Block) (register : UInt32) : Layout :=
  match b with
  | .lights => { l with lights := register }
  | .ambientColor => { l with ambientColor := register }
  | .worldMatrix => { l with worldMatrix := register }
  | .constantColor => { l with constantColor := register }
  | .lightColor => { l with lightColor := register }

theorem start_place (l : Layout) (a b : Block) (register : UInt32) :
    (l.place a register).start b = if a = b then register else l.start b := by
  cases a <;> cases b <;> rfl

/-- A layout is determined by where its blocks start. -/
theorem ext_start {l m : Layout} (h : ∀ b, l.start b = m.start b) : l = m := by
  cases l; cases m
  have h0 := h .lights
  have h1 := h .ambientColor
  have h2 := h .worldMatrix
  have h3 := h .constantColor
  have h4 := h .lightColor
  simp only [start] at h0 h1 h2 h3 h4
  subst h0 h1 h2 h3 h4
  rfl

def extent (l : Layout) (b : Block) : Extent :=
  let first := (l.start b).toNat
  ⟨b, first, first + b.length⟩

/-! ## Defects -/

/-- Whether a block ends past the last number that a register end can have. -/
def overflows (l : Layout) (b : Block) : Bool := 4294967295 < (l.extent b).stop

/-- Whether two blocks share a register. -/
def overlaps (l : Layout) (a b : Block) : Bool :=
  (l.extent a).start < (l.extent b).stop && (l.extent b).start < (l.extent a).stop

/-- The first defect among the blocks of a stage. An overflow is found before any overlap. -/
def stageDefect? (l : Layout) (s : Stage) : Option Defect :=
  match s.blocks.find? l.overflows with
  | some b => some (.overflow b (l.extent b).start)
  | none =>
    match (pairs s.blocks).find? fun (a, b) => l.overlaps a b with
    | some (a, b) => some (.overlap s (l.extent a) (l.extent b))
    | none => none

/-- The first defect of a layout, if it has one. -/
def defect? (l : Layout) : Option Defect := (l.stageDefect? .vertex).or (l.stageDefect? .pixel)

end Layout

end LitMesh
