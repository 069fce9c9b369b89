import LitMesh.Proofs.Light.Resolution
import LitMesh.Proofs.Light.Weight

/-!
# Ordering lights is a stable sort

The order of lights comes from three exchanges of neighbours. They sort because of what each of them
achieves:

* the first leaves the lighter of the last two slots at the end,
* the second brings the heaviest slot to the front, and
* the third puts the other two in order behind it.

They keep slots of equal weight in slot order because an exchange moves only a strictly heavier slot
forward (`pairwise_settle`). Weights that are numbers have no other order like that
(`eq_byWeight_iff`). With NaN among the weights the slots are still permuted (`byWeight_perm`).
-/

namespace LitMesh

theorem exists_eq_of_slots {α : Type} (entries : Vector α maxPointLights) :
    ∃ a b c, entries = #v[a, b, c] := by
  refine ⟨entries[0], entries[1], entries[2], Vector.ext fun i hi => ?_⟩
  match i with
  | 0 | 1 | 2 => rfl

theorem Lights.countP_toList (lights : Lights) (p : PointLight → Bool) :
    lights.toList.countP p =
      ((List.finRange maxPointLights).filter fun k => p (lights.get k)).length := by
  obtain ⟨a, b, c, rfl⟩ := exists_eq_of_slots lights
  rw [← List.countP_eq_length_filter, ← Function.comp_def p, ← List.countP_map]
  rfl

namespace Order

variable {weight : Slot → Float32}

/-- The slot `a` may stand before `b`: it is not lighter, and comes first in a tie. -/
def Precedes (weight : Slot → Float32) (a b : Slot) : Prop :=
  ¬ weight a < weight b ∧ ((weight a == weight b) = true → a < b)

/-! ## One exchange -/

theorem settle_zero (a b c : Slot) : settle weight #v[a, b, c] 0 =
    if weight a < weight b then #v[b, a, c] else #v[a, b, c] := rfl

theorem settle_one (a b c : Slot) : settle weight #v[a, b, c] 1 =
    if weight b < weight c then #v[a, c, b] else #v[a, b, c] := rfl

/-- An exchange keeps every relation between slots that cannot hold of a lighter slot and a heavier
one behind it. -/
theorem pairwise_settle {R : Slot → Slot → Prop} (hR : ∀ a b, weight a < weight b → R b a)
    {order : Order} (h : order.toList.Pairwise R) (k : Fin 2) :
    (order.settle weight k).toList.Pairwise R := by
  -- of the three pairs only the exchanged one changes sides
  obtain ⟨a, b, c, rfl⟩ := exists_eq_of_slots order
  obtain ⟨hab, hac, hbc⟩ : R a b ∧ R a c ∧ R b c := by simpa [and_assoc] using h
  match k with
  | 0 =>
    rw [settle_zero]
    split
    · rename_i hlt
      simp [hR a b hlt, hbc, hac]
    · exact h
  | 1 =>
    rw [settle_one]
    split
    · rename_i hlt
      simp [hac, hab, hR b c hlt]
    · exact h

/-- The first exchange leaves the last two slots in order. -/
theorem exists_settle_last (weight : Slot → Float32) (order : Order) :
    ∃ a b c, order.settle weight 1 = #v[a, b, c] ∧ ¬ weight b < weight c := by
  obtain ⟨a, b, c, rfl⟩ := exists_eq_of_slots order
  rw [settle_one]
  split
  · rename_i hlt
    exact ⟨a, c, b, rfl, Weight.lt_asymm hlt⟩
  · rename_i hnot
    exact ⟨a, b, c, rfl, hnot⟩

/-- If the last two slots are in order, the second exchange brings the heaviest one of all to the
front. -/
theorem exists_settle_first {a b c : Slot} (hb : (weight b).isNaN = false)
    (hbc : ¬ weight b < weight c) :
    ∃ x y z, settle weight #v[a, b, c] 0 = #v[x, y, z] ∧
      ¬ weight x < weight y ∧ ¬ weight x < weight z := by
  rw [settle_zero]
  split
  · rename_i hlt
    exact ⟨b, a, c, rfl, Weight.lt_asymm hlt, hbc⟩
  · rename_i hnot
    exact ⟨a, b, c, rfl, hnot, Weight.not_lt_trans hb hnot hbc⟩

/-- If the heaviest slot is in front, putting the other two in order sorts all three. -/
theorem pairwise_settle_last {a b c : Slot} (hab : ¬ weight a < weight b)
    (hac : ¬ weight a < weight c) :
    (settle weight #v[a, b, c] 1).toList.Pairwise fun s t => ¬ weight s < weight t := by
  rw [settle_one]
  split
  · rename_i hlt
    simp [hab, hac, Weight.lt_asymm hlt]
  · rename_i hnot
    simp [hab, hac, hnot]

/-! ## The whole sort -/

theorem pairwise_byWeight_ties (weight : Slot → Float32) :
    (byWeight weight).toList.Pairwise fun a b => (weight a == weight b) = true → a < b := by
  have hR : ∀ a b, weight a < weight b → (weight b == weight a) = true → b < a := by
    intro a b hlt heq
    obtain ⟨ha, hb⟩ := Weight.isNaN_of_lt hlt
    exact absurd hlt ((Weight.beq_iff_not_lt hb ha).1 heq).2
  have hslots : slots.toList.Pairwise fun a b => (weight a == weight b) = true → a < b := by
    have hlt : slots.toList.Pairwise (· < ·) := by decide
    refine hlt.imp ?_
    exact fun hab _ => hab
  simp only [byWeight, List.foldl_cons, List.foldl_nil]
  exact pairwise_settle hR (pairwise_settle hR (pairwise_settle hR hslots 1) 0) 1

theorem pairwise_byWeight_weights (hweight : ∀ s, (weight s).isNaN = false) :
    (byWeight weight).toList.Pairwise fun a b => ¬ weight a < weight b := by
  obtain ⟨a, b, c, hlast, hbc⟩ := exists_settle_last weight slots
  obtain ⟨x, y, z, hfirst, hxy, hxz⟩ := exists_settle_first (a := a) (hweight b) hbc
  simp only [byWeight, List.foldl_cons, List.foldl_nil]
  rw [hlast, hfirst]
  exact pairwise_settle_last hxy hxz

theorem pairwise_byWeight (hweight : ∀ s, (weight s).isNaN = false) :
    (byWeight weight).toList.Pairwise (Precedes weight) :=
  (pairwise_byWeight_weights hweight).and (pairwise_byWeight_ties weight)

theorem Precedes.antisymm (hweight : ∀ s, (weight s).isNaN = false) {a b : Slot}
    (hab : Precedes weight a b) (hba : Precedes weight b a) : a = b := by
  have heq := (Weight.beq_iff_not_lt (hweight a) (hweight b)).2 ⟨hab.1, hba.1⟩
  have heq' := (Weight.beq_iff_not_lt (hweight b) (hweight a)).2 ⟨hba.1, hab.1⟩
  exact absurd (hab.2 heq) (Nat.lt_asymm (hba.2 heq'))

theorem eq_byWeight_iff (hweight : ∀ s, (weight s).isNaN = false) (order : Order) :
    order = byWeight weight ↔
      order.toList.Perm slots.toList ∧ order.toList.Pairwise (Precedes weight) := by
  constructor
  · rintro rfl
    exact ⟨byWeight_perm weight, pairwise_byWeight hweight⟩
  · rintro ⟨hperm, hsorted⟩
    refine Vector.toList_inj.1 (List.Perm.eq_of_pairwise ?_ hsorted (pairwise_byWeight hweight)
      (hperm.trans (byWeight_perm weight).symm))
    exact fun _ _ _ _ => Precedes.antisymm hweight

/-- **The order of lights is a stable sort.** Whatever the weights are, every slot has one rank. If
they are numbers, the order is the only one of the slots in which none stands behind a lighter one
and those of equal weight, to which the two zeros belong, stand in slot order. The number that goes
with it, for a light set that has come about in any way, is that of the slots whose weight is not
equal to zero: only the two zeros switch a light off. -/
theorem byWeight_sorts :
    (∀ weight : Slot → Float32,
      (byWeight weight).toList.Perm [0, 1, 2] ∧
      ((∀ s, (weight s).isNaN = false) → ∀ order : Order, order = byWeight weight ↔
        order.toList.Perm [0, 1, 2] ∧ order.toList.Pairwise fun a b =>
          ¬ weight a < weight b ∧ ((weight a == weight b) = true → a < b))) ∧
    (∀ light : PointLight, (light.isActive = false ↔ light.weight = 0 ∨ light.weight = -0) ∧
      (light.weight < 0 ∨ light.weight.isNaN = true → light.isActive = true)) ∧
    ∀ (as : List LightRack.Action) (n : Nat),
      let s := (runAll LightRack.act LightRack.new as).state n
      let weight : Slot → Float32 := fun k => (s.lights.get k).weight
      let r := s.resolved.answer
      r.order = byWeight weight ∧
      r.active = ((List.finRange 3).filter fun k => weight k != 0).length ∧ r.active ≤ 3 := by
  refine ⟨fun weight => ⟨byWeight_perm weight, eq_byWeight_iff⟩, fun light => ⟨?_, ?_⟩, ?_⟩
  · rw [← Weight.beq_zero_iff, PointLight.isActive, bne, Bool.not_eq_false']
  · intro h
    -- neither a negative number nor NaN compares equal to zero
    have hne : (light.weight == 0) = false := by
      rcases h with hlt | hnan
      · have hweight := (Weight.isNaN_of_lt hlt).1
        refine Bool.eq_false_iff.2 fun heq => ?_
        exact ((Weight.beq_iff_not_lt hweight (by decide)).1 heq).1 hlt
      · exact Weight.beq_of_isNaN (.inl hnan)
    rw [PointLight.isActive, bne, hne, Bool.not_false]
  · intro as n s weight r
    have hr : r = .ofLights s.lights := (LightRack.follows_run as n).answer_resolved
    rw [hr]
    exact ⟨rfl, s.lights.countP_toList PointLight.isActive, Resolved.active_le s.lights⟩

/-- Two zeros of different signs are level, and so the first of them stays in front. -/
theorem byWeight_sorts_zeros :
    let weight : Slot → Float32 := fun s => if s = 0 then -0 else if s = 1 then 2 else 0
    (∀ s, (weight s).isNaN = false) ∧ byWeight weight = #v[1, 0, 2] := by
  intro weight
  have hweight : ∀ s, (weight s).isNaN = false := by decide
  refine ⟨hweight, Eq.symm (((byWeight_sorts.1 weight).2 hweight #v[1, 0, 2]).2 ⟨?_, ?_⟩)⟩
  · decide
  · decide

end Order

end LitMesh
