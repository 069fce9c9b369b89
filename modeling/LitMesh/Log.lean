/-!
# Log records

Operations do not write a log, they return the records they emit, in order. Whoever runs them
decides which levels to keep and where the lines go.
-/

namespace LitMesh

/-! ## Levels -/

/-- How serious a record is, the gravest first. -/
inductive Level
  | error | warn | info | debug | trace
deriving DecidableEq

namespace Level

def name : Level → String
  | error => "ERROR"
  | warn => "WARN"
  | info => "INFO"
  | debug => "DEBUG"
  | trace => "TRACE"

/-- The place of a level in the order of gravity. -/
def rank : Level → Nat
  | error => 1
  | warn => 2
  | info => 3
  | debug => 4
  | trace => 5

end Level

/-- The least grave level to keep, or nothing at all. -/
inductive Filter
  | off
  | upTo (level : Level)
deriving DecidableEq

def Filter.keeps : Filter → Level → Bool
  | off, _ => false
  | upTo bound, level => level.rank ≤ bound.rank

/-- The filter with the given lower-case name. -/
def Filter.ofName? : String → Option Filter
  | "off" => some .off
  | "error" => some (.upTo .error)
  | "warn" => some (.upTo .warn)
  | "info" => some (.upTo .info)
  | "debug" => some (.upTo .debug)
  | "trace" => some (.upTo .trace)
  | _ => none

/-! ## Records -/

/-- The part of the program that a record comes from. -/
inductive Source
  | lights | view | report | device | shaders | context | demo
deriving DecidableEq

/-- The name under which a part signs its lines. -/
def Source.path : Source → String
  | lights => "lumen_lanes::render_lane::light_order"
  | view => "lumen_lanes::render_lane::mesh_view"
  | report => "lumen_lanes::render_lane::report"
  | device => "lumen_infra::graphics::headless::device"
  | shaders => "lumen_infra::graphics::headless::shader"
  | context => "lumen_infra::graphics::headless::context"
  | demo => "sandbox"

structure Record where
  level : Level
  source : Source
  text : String
deriving DecidableEq

namespace Record

/-- The lines of a record: a header and the first line of the text, then the further lines, each
indented by four blanks. The level takes five columns. -/
def lines (r : Record) : List String :=
  let level := r.level.name ++ String.ofList (List.replicate (5 - r.level.name.length) ' ')
  match r.text.splitOn "\n" with
  | [] => []
  | first :: rest => s!"[{level} {r.source.path}] {first}" :: rest.map ("    " ++ ·)

end Record

/-- The lines that a log makes under a filter. -/
def logLines (filter : Filter) (log : List Record) : List String :=
  (log.filter fun r => filter.keeps r.level).flatMap Record.lines

/-! ## Outcomes -/

/-- What an operation on a state of type `σ` yields: its answer, the state after it, and the
records it emitted. -/
structure Outcome (σ α : Type) where
  answer : α
  state : σ
  log : List Record := []

/-- Carries an outcome over to a larger state and another kind of answer. -/
def Outcome.lift {σ τ α β : Type} (o : Outcome σ α) (place : σ → τ) (f : α → β) : Outcome τ β :=
  ⟨f o.answer, place o.state, o.log⟩

end LitMesh
