import Mathlib.Data.List.Basic
import LitMesh.Shader.Table

/-!
# The shader table is a map

A table of numbered entries, seen as a map from variants to what is known of them. Whatever is done
to a table, a variant is as the last edit of *that* variant left it (`get_run`), and the table
remembers the variant that a device accepted last (`lastBound_run`). Both hold because two variants
never share an entry (`VariantKey.index_injective`). What becomes of binding a variant is told by
its entry and by the device alone (`bind_congr`), so whatever is done to other variants makes no
difference (`table_run`).
-/

namespace LitMesh

theorem VariantKey.inTable_iff {k : VariantKey} : k.InTable ↔ ∃ l s b i, k = new l s b i := by
  constructor
  · intro h
    refine ⟨k.lights, k.specular, k.bump, k.selfIllum, ?_⟩
    have hlights : k.lights.toNat ≤ 3 := by
      simp only [InTable, index, count, maxPointLights] at h
      omega
    have hmin : min k.lights (UInt8.ofNat maxPointLights) = k.lights :=
      if_pos (UInt8.le_iff_toNat_le.2 hlights)
    rw [new, hmin]
  · rintro ⟨l, s, b, i, rfl⟩
    exact inTable_new l s b i

namespace VariantTable

/-! ## Actions -/

/-- What can be done to a table. A variant is registered, removed or marked as failed by putting
that state; every time one is bound, it is on a device of any state. -/
inductive Action
  | put (key : VariantKey) (h : key.InTable) (state : VariantState)
  | bind (key : VariantKey) (h : key.InTable) (d : Device)

inductive Answer
  | done
  /-- What became of binding a variant, and the device after it. -/
  | bound (result : Except ShaderError Unit) (d : Device)

def act (t : VariantTable) : Action → Outcome VariantTable Answer
  | .put key h state => ⟨.done, t.put key h state, []⟩
  | .bind key h d => (t.bind key h d).lift Prod.fst (.bound · (t.bind key h d).state.2)

/-- The variant that an action is about. -/
def Action.key : Action → VariantKey
  | put key _ _ | bind key _ _ => key

/-- What an action makes of the variant `k`, if it edits it. -/
def Action.edit? (k : VariantKey) : Action → Option VariantState
  | put key _ state => if key = k then some state else none
  | bind _ _ _ => none

/-- The variant that a device accepted. -/
def bound? : Action × Answer → Option VariantKey
  | (.bind key _ _, .bound (.ok ()) _) => some key
  | _ => none

/-- A table as it is set up, with every variant or without any. -/
def initial (all : Bool) (vertexProgram : VertexProgramId) : VariantTable :=
  if all then .full vertexProgram else .empty vertexProgram

/-- What is known of a variant in a table as it is set up. -/
def initialState (all : Bool) (k : VariantKey) : VariantState :=
  if all then .compiled ⟨UInt64.ofNat k.index⟩ else .missing

variable {t : VariantTable} {k : VariantKey} {h : k.InTable} {d : Device}

theorem get_initial (all : Bool) (vertexProgram : VertexProgramId) (h : k.InTable) :
    (initial all vertexProgram).get k h = initialState all k := by
  cases all with
  | true => exact Vector.getElem_ofFn h
  | false => exact Vector.getElem_replicate h

theorem lastBound_initial (all : Bool) (vertexProgram : VertexProgramId) :
    (initial all vertexProgram).lastBound = none := by
  cases all <;> rfl

/-! ## Binding -/

theorem bind_congr {t' : VariantTable} (hget : t'.get k h = t.get k h) (d : Device) :
    (t'.bind k h d).answer = (t.bind k h d).answer ∧
      (t'.bind k h d).state.2 = (t.bind k h d).state.2 := by
  cases hk : t.get k h with
  | missing => rw [bind_of_missing hk, bind_of_missing (hget.trans hk)]; exact ⟨rfl, rfl⟩
  | failed details => rw [bind_of_failed hk, bind_of_failed (hget.trans hk)]; exact ⟨rfl, rfl⟩
  | compiled program =>
    cases hr : d.hardware.refusal? (.setPixelProgram program) with
    | some e =>
      rw [bind_of_refused hk hr, bind_of_refused (hget.trans hk) hr]
      exact ⟨rfl, rfl⟩
    | none =>
      rw [bind_of_accepted hk hr, bind_of_accepted (hget.trans hk) hr]
      exact ⟨rfl, rfl⟩

/-! ## One action -/

theorem get_act (t : VariantTable) (a : Action) (h : k.InTable) :
    (t.act a).state.get k h = (a.edit? k).getD (t.get k h) := by
  cases a with
  | put key hkey state =>
    rw [show (t.act (.put key hkey state)).state = t.put key hkey state from rfl, get_put,
      Action.edit?]
    split <;> rfl
  | bind key hkey d =>
    rw [show (t.act (.bind key hkey d)).state = (t.bind key hkey d).state.1 from rfl,
      table_bind]
    cases (t.bind key hkey d).answer <;> rfl

/-- An action changes the memory of the last bind if it is a bind and succeeds. -/
theorem lastBound_act (t : VariantTable) (a : Action) :
    (t.act a).state.lastBound = (bound? (a, (t.act a).answer)).or t.lastBound := by
  cases a with
  | put key hkey state => rfl
  | bind key hkey d =>
    rw [show (t.act (.bind key hkey d)).state = (t.bind key hkey d).state.1 from rfl,
      show (t.act (.bind key hkey d)).answer =
        .bound (t.bind key hkey d).answer (t.bind key hkey d).state.2 from rfl,
      table_bind]
    cases (t.bind key hkey d).answer <;> rfl

theorem vertexProgram_act (t : VariantTable) (a : Action) :
    (t.act a).state.vertexProgram = t.vertexProgram := by
  cases a with
  | put key hkey state => rfl
  | bind key hkey d =>
    rw [show (t.act (.bind key hkey d)).state = (t.bind key hkey d).state.1 from rfl,
      table_bind]
    cases (t.bind key hkey d).answer <;> rfl

/-! ## Runs -/

/-- What actions make of a variant that starts out in the given state: what the last edit of it
says. -/
def stateAfter (first : VariantState) (k : VariantKey) (as : List Action) : VariantState :=
  ((as.filterMap (Action.edit? k)).getLast?).getD first

theorem stateAfter_concat (first : VariantState) (k : VariantKey) (as : List Action) (a : Action) :
    stateAfter first k (as ++ [a]) = (a.edit? k).getD (stateAfter first k as) := by
  rw [stateAfter, filterMap_concat, List.getLast?_append]
  cases a.edit? k <;> rfl

/-- Only the actions that are about a variant make a difference to it. -/
theorem stateAfter_filter (first : VariantState) (k : VariantKey) (as : List Action) :
    stateAfter first k (as.filter fun a => a.key = k) = stateAfter first k as := by
  have hedit : ∀ a : Action, a.key ≠ k → a.edit? k = none := by
    intro a hne
    cases a with
    | put key hkey state => exact if_neg hne
    | bind key hkey d => rfl
  rw [stateAfter, stateAfter, List.filterMap_filter]
  congr 2
  refine List.filterMap_congr fun a _ => ?_
  by_cases hkey : a.key = k
  · simp only [hkey, decide_true, if_true]
  · simp only [hkey, decide_false, Bool.false_eq_true, if_false, hedit a hkey]

theorem get_run (t : VariantTable) (as : List Action) (h : k.InTable) :
    (runAll act t as).state.get k h = stateAfter (t.get k h) k as := by
  have hrun : (runAll act t as).state.get k h =
      stateAfter (t.get k h) k ((historyOf act t as).map Prod.fst) := by
    refine runAll_induction (P := fun past (s : VariantTable) =>
      s.get k h = stateAfter (t.get k h) k (past.map Prod.fst)) rfl ?_ as
    intro past s a hs
    rw [get_act, hs, List.map_append, List.map_singleton, stateAfter_concat]
  rwa [map_fst_historyOf] at hrun

theorem lastBound_run (t : VariantTable) (as : List Action) :
    (runAll act t as).state.lastBound =
      (((historyOf act t as).filterMap bound?).getLast?).or t.lastBound := by
  refine runAll_induction (P := fun past (s : VariantTable) =>
    s.lastBound = ((past.filterMap bound?).getLast?).or t.lastBound) rfl ?_ as
  intro past s a hs
  rw [lastBound_act, hs, filterMap_concat, List.getLast?_append]
  cases bound? (a, (s.act a).answer) <;> rfl

theorem vertexProgram_run (t : VariantTable) (as : List Action) :
    (runAll act t as).state.vertexProgram = t.vertexProgram := by
  refine runAll_induction (P := fun _ (s : VariantTable) =>
    s.vertexProgram = t.vertexProgram) rfl ?_ as
  intro _ s a hs
  rw [vertexProgram_act, hs]

/-- The table and the runs of it that leave all other variants alone bind a variant alike. -/
theorem bind_run_filter (t : VariantTable) (as : List Action) (h : k.InTable) (d : Device) :
    let s := (runAll act t as).state
    let own := (runAll act t (as.filter fun a => a.key = k)).state
    (own.bind k h d).answer = (s.bind k h d).answer ∧
      (own.bind k h d).state.2 = (s.bind k h d).state.2 := by
  intro s own
  refine bind_congr ?_ d
  rw [get_run, get_run, stateAfter_filter]

theorem program?_eq_some_iff {program : PixelProgramId} :
    t.program? k h = some program ↔ t.get k h = .compiled program := by
  rw [program?]
  cases t.get k h <;> simp

/-- **The shader table is a map from variants to what is known of them.** Take a table that is set
up with all variants or with none, and do anything to it. The variant bound last is the one of the
last bind that succeeded. Every variant that has a key is as its own last edit left it, or as it was
set up: that decides its program and what becomes of binding it on any device. A variant that is
missing or failed is refused for that, and the device is not called. One that compiled makes one
call; if the device accepts it, the program is bound and the variant remembered, and otherwise both
stay as they were. What is done to other variants makes no difference. -/
theorem table_run (all : Bool) (vertexProgram : VertexProgramId) (as : List Action) :
    let t := initial all vertexProgram
    let s := (runAll act t as).state
    s.vertexProgram = vertexProgram ∧
    s.lastBound = ((historyOf act t as).filterMap bound?).getLast? ∧
    (∀ k : VariantKey, k.InTable ↔ ∃ l s b i, k = .new l s b i) ∧
    ∀ (k : VariantKey) (hk : k.InTable),
      let now := stateAfter (initialState all k) k as
      (∀ program, s.program? k hk = some program ↔ now = .compiled program) ∧
      ∀ d : Device,
        let o := s.bind k hk d
        (now = .missing → o = ⟨.error (.variantNotFound k), (s, d), []⟩) ∧
        (∀ details, now = .failed details →
          o = ⟨.error (.compilationFailed k details), (s, d), []⟩) ∧
        (∀ program, now = .compiled program →
          o.state.2.commands = d.commands.push (.setPixelProgram program) ∧
          match d.hardware.refusal? (.setPixelProgram program) with
          | none => o.answer = .ok () ∧ o.state.1 = { s with lastBound := some k } ∧
              o.state.2.hardware = { d.hardware with bindings.pixelProgram := some program }
          | some e => o.answer = .error (.bindFailed e) ∧ o.state.1 = s ∧
              o.state.2.hardware = d.hardware) ∧
        let own := ((runAll act t (as.filter fun a => a.key = k)).state).bind k hk d
        own.answer = o.answer ∧ own.state.2 = o.state.2 := by
  intro t s
  have hlast := lastBound_run t as
  rw [lastBound_initial, Option.or_none] at hlast
  have hvertex : s.vertexProgram = vertexProgram := by
    rw [vertexProgram_run]
    cases all <;> rfl
  refine ⟨hvertex, hlast, fun _ => VariantKey.inTable_iff, fun k hk => ?_⟩
  intro now
  -- from here on the table is known by the entry of the variant
  have hget : s.get k hk = now := by rw [get_run, get_initial]
  refine ⟨fun program => hget ▸ program?_eq_some_iff, fun d => ?_⟩
  intro o
  refine ⟨fun hnow => ?_, fun details hnow => ?_, fun program hnow => ?_, bind_run_filter t as hk d⟩
  · exact bind_of_missing (hget.trans hnow)
  · exact bind_of_failed (hget.trans hnow)
  · cases hr : d.hardware.refusal? (.setPixelProgram program) with
    | some e =>
      have ho : o = _ := bind_of_refused (hget.trans hnow) hr
      rw [ho]
      exact ⟨rfl, rfl, rfl, rfl⟩
    | none =>
      have ho : o = _ := bind_of_accepted (hget.trans hnow) hr
      rw [ho]
      exact ⟨rfl, rfl, rfl, rfl⟩

/-- A bind that the device refuses is not remembered, and neither is one of a failed variant. -/
theorem table_run_refused :
    let j := VariantKey.new 9 .mix .none true
    let k := VariantKey.new 0 .color .specified false
    let d := Device.ofSizes 0 0
    let lost := { d with hardware.faults.lost := true }
    let s := (runAll act (initial false ⟨7⟩)
      [.put j (VariantKey.inTable_new ..) (.compiled ⟨99⟩),
        .bind j (VariantKey.inTable_new ..) d,
        .put k (VariantKey.inTable_new ..) (.compiled ⟨5⟩),
        .bind k (VariantKey.inTable_new ..) lost,
        .put k (VariantKey.inTable_new ..) (.failed "no compiler")]).state
    s.lastBound = some j ∧ s.program? j (VariantKey.inTable_new ..) = some ⟨99⟩ ∧
      s.bind k (VariantKey.inTable_new ..) d =
        ⟨.error (.compilationFailed k "no compiler"), (s, d), []⟩ := by
  intro j k d lost s
  have hj : j.InTable := VariantKey.inTable_new ..
  have hk : k.InTable := VariantKey.inTable_new ..
  obtain ⟨-, hlast, -, hvariants⟩ := table_run false ⟨7⟩
    [.put j hj (.compiled ⟨99⟩), .bind j hj d, .put k hk (.compiled ⟨5⟩), .bind k hk lost,
      .put k hk (.failed "no compiler")]
  obtain ⟨hprogram, -⟩ := hvariants j hj
  obtain ⟨-, hbind⟩ := hvariants k hk
  exact ⟨hlast.trans rfl, (hprogram ⟨99⟩).2 rfl, (hbind d).2.1 _ rfl⟩

end VariantTable

end LitMesh
