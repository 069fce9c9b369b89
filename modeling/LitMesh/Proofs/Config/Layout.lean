import LitMesh.Config

/-!
# Usable layouts

What it means that a layout has no defect, said in unbounded numbers: no block ends past the last
register number (`Layout.stop_le`), and no two blocks of a stage share a register
(`Layout.disjoint`). These two facts are all that a render needs to know of a configuration.
-/

namespace LitMesh

namespace Layout

variable {l : Layout}

theorem overlaps_comm (l : Layout) (a b : Block) : l.overlaps a b = l.overlaps b a :=
  Bool.and_comm ..

theorem overlaps_eq_false_iff {a b : Block} : l.overlaps a b = false ↔
    (l.extent b).stop ≤ (l.extent a).start ∨ (l.extent a).stop ≤ (l.extent b).start := by
  simp only [overlaps, Bool.and_eq_false_iff, decide_eq_false_iff_not, Nat.not_lt]

/-- Two blocks of a stage stand in its list of pairs in one order or the other. -/
theorem mem_pairs_blocks {s : Stage} {a b : Block} (ha : a.stage = s) (hb : b.stage = s)
    (hne : a ≠ b) : (a, b) ∈ pairs s.blocks ∨ (b, a) ∈ pairs s.blocks := by
  subst ha
  revert hb hne
  cases a <;> cases b <;> decide

theorem stageDefect?_eq_none_iff {s : Stage} : l.stageDefect? s = none ↔
    (∀ b ∈ s.blocks, l.overflows b = false) ∧
      ∀ p ∈ pairs s.blocks, l.overlaps p.1 p.2 = false := by
  unfold stageDefect?
  constructor
  · intro h
    split at h
    · cases h
    · rename_i hover
      split at h
      · cases h
      · rename_i hlap
        exact ⟨by simpa using hover, by simpa using hlap⟩
  · rintro ⟨hover, hlap⟩
    rw [List.find?_eq_none.2 (by simpa using hover), List.find?_eq_none.2 (by simpa using hlap)]

theorem stageDefect?_of_defect? (h : l.defect? = none) (s : Stage) : l.stageDefect? s = none := by
  obtain ⟨hv, hp⟩ := Option.or_eq_none_iff.1 h
  cases s with
  | vertex => exact hv
  | pixel => exact hp

theorem stop_le (h : l.defect? = none) (b : Block) : (l.extent b).stop ≤ 4294967295 := by
  obtain ⟨hover, -⟩ := stageDefect?_eq_none_iff.1 (stageDefect?_of_defect? h b.stage)
  have hb := hover b ((b.mem_blocks b.stage).2 rfl)
  simpa [overflows] using hb

/-- No two blocks of a stage of a usable layout share a register. -/
theorem disjoint (h : l.defect? = none) {a b : Block} (hs : a.stage = b.stage) (hne : a ≠ b) :
    (l.extent b).stop ≤ (l.extent a).start ∨ (l.extent a).stop ≤ (l.extent b).start := by
  obtain ⟨-, hlap⟩ := stageDefect?_eq_none_iff.1 (stageDefect?_of_defect? h b.stage)
  rcases mem_pairs_blocks hs rfl hne with hp | hp
  · exact overlaps_eq_false_iff.1 (hlap _ hp)
  · exact overlaps_eq_false_iff.1 ((overlaps_comm l a b).trans (hlap _ hp))

end Layout

theorem Config.Valid.registers {c : Config} (h : c.Valid) : c.registers.defect? = none := by
  unfold Config.Valid Config.defect? at h
  split at h
  · cases h
  · exact h

end LitMesh
