import LitMesh.Proofs.Config.Layout
import LitMesh.View

/-!
# Validation is exact

A configuration is accepted exactly if its vertices take some bytes, every block ends within the
register numbers, and no register belongs to two blocks of a stage. A refusal is about a defect that
the configuration really has (`Config.validate_exact`).

Validation compares the ends of two blocks. What it is for is said here register by register
(`Layout.Occupies`); the two agree because no block is empty (`Layout.overlaps_iff`).
-/

namespace LitMesh

theorem Block.length_pos (b : Block) : 0 < b.length := by
  cases b <;> decide

theorem Block.of_mem_pairs {s : Stage} {a b : Block} (h : (a, b) ∈ pairs s.blocks) :
    a ≠ b ∧ a.stage = s ∧ b.stage = s := by
  revert h
  cases s <;> cases a <;> cases b <;> decide

namespace Layout

variable {l : Layout}

/-- The register belongs to the block. -/
def Occupies (l : Layout) (b : Block) (register : Nat) : Prop :=
  (l.start b).toNat ≤ register ∧ register < (l.start b).toNat + b.length

theorem overlaps_iff {a b : Block} :
    l.overlaps a b = true ↔ ∃ register, l.Occupies a register ∧ l.Occupies b register := by
  simp only [overlaps, Bool.and_eq_true, decide_eq_true_eq]
  simp only [extent, Occupies]
  have ha := a.length_pos
  have hb := b.length_pos
  constructor
  · intro h
    -- the block that starts later starts inside the other
    exact ⟨max (l.start a).toNat (l.start b).toNat, by omega, by omega⟩
  · rintro ⟨register, hina, hinb⟩
    omega

/-- A layout has no defect exactly if every block ends within the register numbers and no register
belongs to two blocks of a stage. -/
theorem defect?_eq_none_iff : l.defect? = none ↔
    (∀ b, (l.extent b).stop ≤ 4294967295) ∧
      ∀ a b register, a.stage = b.stage → l.Occupies a register → l.Occupies b register →
        a = b := by
  constructor
  · intro h
    refine ⟨stop_le h, fun a b register hs ha hb => ?_⟩
    -- a register that two blocks share is a pair of blocks that overlap
    refine Decidable.byContradiction fun hne => ?_
    have hshared : l.overlaps a b = true := overlaps_iff.2 ⟨register, ha, hb⟩
    rw [overlaps_eq_false_iff.2 (disjoint h hs hne)] at hshared
    cases hshared
  · rintro ⟨hstop, hone⟩
    have hnone (s : Stage) : l.stageDefect? s = none := by
      refine stageDefect?_eq_none_iff.2 ⟨fun b _ => by simpa [overflows] using hstop b, ?_⟩
      rintro ⟨a, b⟩ hp
      obtain ⟨hne, ha, hb⟩ := Block.of_mem_pairs hp
      rw [Bool.eq_false_iff]
      intro hshared
      obtain ⟨register, hina, hinb⟩ := overlaps_iff.1 hshared
      exact hne (hone a b register (ha.trans hb.symm) hina hinb)
    exact Option.or_eq_none_iff.2 ⟨hnone .vertex, hnone .pixel⟩

theorem stageDefect?_eq_some {s : Stage} {d : Defect} (h : l.stageDefect? s = some d) :
    (∃ b, l.overflows b = true ∧ d = .overflow b (l.extent b).start) ∨
      ∃ a b, (a, b) ∈ pairs s.blocks ∧ l.overlaps a b = true ∧
        d = .overlap s (l.extent a) (l.extent b) := by
  unfold stageDefect? at h
  split at h
  · rename_i b hover
    exact .inl ⟨b, List.find?_some hover, (Option.some.inj h).symm⟩
  · split at h
    · rename_i a b hlap
      have hshared := List.find?_some (p := fun p : Block × Block => l.overlaps p.1 p.2) hlap
      exact .inr ⟨a, b, List.mem_of_find?_eq_some hlap, hshared, (Option.some.inj h).symm⟩
    · cases h

theorem defect?_eq_some {d : Defect} (h : l.defect? = some d) :
    (∃ b, l.overflows b = true ∧ d = .overflow b (l.extent b).start) ∨
      ∃ a b, a ≠ b ∧ a.stage = b.stage ∧ l.overlaps a b = true ∧
        d = .overlap a.stage (l.extent a) (l.extent b) := by
  have hstage : ∃ s, l.stageDefect? s = some d := by
    rcases Option.or_eq_some_iff.1 h with hv | ⟨-, hp⟩
    · exact ⟨.vertex, hv⟩
    · exact ⟨.pixel, hp⟩
  obtain ⟨s, hs⟩ := hstage
  rcases stageDefect?_eq_some hs with hover | ⟨a, b, hp, hlap, rfl⟩
  · exact .inl hover
  · obtain ⟨hne, rfl, hb⟩ := Block.of_mem_pairs hp
    exact .inr ⟨a, b, hne, hb.symm, hlap, rfl⟩

end Layout

namespace Config

variable {c : Config}

theorem validate_eq_ok_iff : c.validate = .ok c ↔ c.Valid := by
  unfold validate Valid
  split
  · rename_i h
    simp only [h]
  · rename_i d h
    simp [h]

theorem validate_eq_error {e : ConfigError} (h : c.validate = .error e) :
    ∃ d, c.defect? = some d ∧ e = .invalid d := by
  unfold validate at h
  split at h
  · cases h
  · rename_i d hd
    exact ⟨d, hd, (Except.error.inj h).symm⟩

theorem valid_iff : c.Valid ↔ c.vertexStride ≠ 0 ∧ c.registers.defect? = none := by
  unfold Valid defect?
  split <;> simp_all

/-- A view can be had exactly of the configurations that are accepted, and keeps its own. -/
theorem map_config_ofConfig? (mesh : Mesh) (c : Config) :
    (View.ofConfig? mesh c).map View.config = c.validate := by
  unfold View.ofConfig? validate
  split <;> rename_i h <;> simp only [h] <;> rfl

/-- **Validation is sound and complete, and its errors are true.** With the end of a block taken as
an unbounded number: a configuration is accepted, and a view made of it, exactly if the stride is
not zero, every block ends within the register numbers, and no register belongs to two blocks of one
stage. Otherwise the message tells of a stride that is zero, of a block that does end past the
register numbers, or of two blocks of the named stage that do share a register. -/
theorem validate_exact (c : Config) (mesh : Mesh) :
    let start := fun b => (c.registers.start b).toNat
    let stop := fun b => start b + b.length
    Stage.vertex.blocks.map Block.length = [6, 1, 3] ∧
    Stage.pixel.blocks.map Block.length = [1, 3] ∧
    (c.validate = .ok c ↔ c.vertexStride ≠ 0 ∧ (∀ b, stop b ≤ 4294967295) ∧
      ∀ a b register, a.stage = b.stage →
        c.registers.Occupies a register → c.registers.Occupies b register → a = b) ∧
    (View.ofConfig? mesh c).map View.config = c.validate ∧
    ∀ e, c.validate = .error e → ∃ d, e = .invalid d ∧
      ((c.vertexStride = 0 ∧ d.message = "vertex_stride must be nonzero") ∨
      (∃ b, 4294967295 < stop b ∧
        d.message = s!"registers '{b.name}' starting at {start b} overflow the register space") ∨
      ∃ a b, a ≠ b ∧ a.stage = b.stage ∧
        (∃ register, c.registers.Occupies a register ∧ c.registers.Occupies b register) ∧
        d.message = s!"{a.stage.name} registers '{a.name}' ({start a}..{stop a}) and " ++
          s!"'{b.name}' ({start b}..{stop b}) overlap") := by
  intro start stop
  refine ⟨rfl, rfl, ?_, map_config_ofConfig? mesh c, fun e he => ?_⟩
  · rw [validate_eq_ok_iff, valid_iff, Layout.defect?_eq_none_iff]
    rfl
  · obtain ⟨d, hd, rfl⟩ := validate_eq_error he
    refine ⟨d, rfl, ?_⟩
    -- the stride is looked at before the layout
    unfold defect? at hd
    split at hd
    · rename_i hzero
      obtain rfl := Option.some.inj hd
      exact .inl ⟨hzero, rfl⟩
    · rcases Layout.defect?_eq_some hd with ⟨b, hover, rfl⟩ | ⟨a, b, hne, hs, hlap, rfl⟩
      · exact .inr (.inl ⟨b, of_decide_eq_true hover, rfl⟩)
      · exact .inr (.inr ⟨a, b, hne, hs, Layout.overlaps_iff.1 hlap, rfl⟩)

/-- The constant color in the middle of the light colors is refused, and a register is shared. -/
theorem validate_exact_overlap :
    let c : Config := { registers.constantColor := 5 }
    c.validate = .error (.invalid (.overlap .pixel ⟨.constantColor, 5, 6⟩ ⟨.lightColor, 4, 7⟩)) ∧
      ∃ a b register, a ≠ b ∧ c.registers.Occupies a register ∧
        c.registers.Occupies b register := by
  intro c
  have hrefused : c.validate =
      .error (.invalid (.overlap .pixel ⟨.constantColor, 5, 6⟩ ⟨.lightColor, 4, 7⟩)) := rfl
  refine ⟨hrefused, ?_⟩
  obtain ⟨-, -, -, -, htrue⟩ := validate_exact c ⟨.phong, ⟨1⟩, ⟨2⟩, 4, 6⟩
  obtain ⟨d, he, ⟨hzero, -⟩ | ⟨b, hover, -⟩ | ⟨a, b, hne, -, ⟨register, ha, hb⟩, -⟩⟩ :=
    htrue _ hrefused
  · exact absurd hzero (by decide)
  · exact absurd hover (by cases b <;> decide)
  · exact ⟨a, b, register, hne, ha, hb⟩

end Config

end LitMesh
