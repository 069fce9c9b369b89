import LitMesh.Proofs.Light.Sorting
import Mathlib.Data.List.Nodup
import Mathlib.Data.List.Pairwise

/-!
# Whether active lights come first

Lights are counted by one rule and ordered by another: a light is active unless its weight is zero,
and the order goes by weight. The count says how many lights a shader looks at, from the front of
the order on, so it matters whether the active lights are there (`Order.Leads`). They are unless a
light of negative weight stands behind one that is off (`leads_byWeight_iff`).
-/

namespace LitMesh

/-! ## Initial parts of lists -/

section

variable {α : Type} {p : α → Bool} {l : List α}

/-- If what satisfies `p` comes first, then counting it says where it ends. -/
theorem lt_countP_iff (h : l.Pairwise fun a b => p b = true → p a = true) {i : Nat}
    (hi : i < l.length) : i < l.countP p ↔ p l[i] = true := by
  induction l generalizing i with
  | nil => exact absurd hi (Nat.not_lt_zero i)
  | cons a l ih =>
    obtain ⟨ha, hl⟩ := List.pairwise_cons.1 h
    -- if the first one satisfies `p`, it is counted; if not, nothing behind it does
    by_cases hpa : p a = true
    · rw [List.countP_cons_of_pos hpa]
      match i with
      | 0 => exact iff_of_true (Nat.succ_pos _) hpa
      | j + 1 => exact Nat.succ_lt_succ_iff.trans (ih hl (Nat.lt_of_succ_lt_succ hi))
    · -- nothing of the list satisfies `p`
      have hnone : ∀ b ∈ a :: l, ¬ p b = true := by
        rintro b (_ | ⟨_, hb⟩) hpb
        · exact hpa hpb
        · exact hpa (ha b hb hpb)
      rw [List.countP_eq_zero.2 hnone]
      exact iff_of_false (Nat.not_lt_zero i) (hnone _ (List.getElem_mem hi))

theorem getElem_mem_take_iff (hl : l.Nodup) {i n : Nat} (hi : i < l.length) :
    l[i] ∈ l.take n ↔ i < n := by
  rw [List.mem_take_iff_getElem]
  constructor
  · rintro ⟨j, hj, heq⟩
    obtain rfl := hl.getElem_inj_iff.1 heq
    omega
  · exact fun h => ⟨i, by omega, rfl⟩

theorem rel_or_rel_of_pairwise {R : α → α → Prop} (h : l.Pairwise R) {a b : α} (ha : a ∈ l)
    (hb : b ∈ l) (hne : a ≠ b) : R a b ∨ R b a := by
  have hsymm : Std.Symm fun a b => R a b ∨ R b a := ⟨fun _ _ => Or.symm⟩
  have hor : l.Pairwise fun a b => R a b ∨ R b a := h.imp Or.inl
  exact hor.forall ha hb hne

end

/-! ## Orders -/

namespace Order

variable {order : Order} {p : Slot → Bool} {weight : Slot → Float32}

theorem mem_slots (s : Slot) : s ∈ slots.toList := by
  revert s
  decide

/-- The slots that satisfy `p` come first in the order. -/
def Leads (order : Order) (p : Slot → Bool) : Prop :=
  order.toList.Pairwise fun a b => p b = true → p a = true

/-- Slots come first exactly if their ranks are those below their number. -/
theorem leads_iff_ranks : order.Leads p ↔
    ∀ rank : Slot, rank.val < order.toList.countP p ↔ p (order.get rank) = true := by
  constructor
  · intro h rank
    exact lt_countP_iff h (by rw [Vector.length_toList]; exact rank.isLt)
  · intro h
    refine List.pairwise_iff_getElem.2 fun i j hi hj hij hp => ?_
    rw [Vector.length_toList] at hi hj
    exact (h ⟨i, hi⟩).1 (Nat.lt_trans hij ((h ⟨j, hj⟩).2 hp))

/-- Slots come first exactly if as many from the front on are just these slots. -/
theorem leads_iff_take (horder : order.toList.Perm slots.toList) : order.Leads p ↔
    ∀ s, s ∈ order.toList.take (order.toList.countP p) ↔ p s = true := by
  have hnodup : order.toList.Nodup := horder.nodup_iff.2 (by decide)
  have htake (rank : Slot) : order.get rank ∈ order.toList.take (order.toList.countP p) ↔
      rank.val < order.toList.countP p :=
    getElem_mem_take_iff hnodup (by rw [Vector.length_toList]; exact rank.isLt)
  -- every slot has a rank, so slots and ranks say the same
  rw [leads_iff_ranks]
  constructor
  · intro h s
    have hs : s ∈ order.toList := horder.mem_iff.2 (mem_slots s)
    obtain ⟨i, hi, rfl⟩ := List.getElem_of_mem hs
    rw [Vector.length_toList] at hi
    exact (htake ⟨i, hi⟩).trans (h ⟨i, hi⟩)
  · intro h rank
    exact (htake rank).symm.trans (h (order.get rank))

theorem not_bne_zero_iff {x : Float32} (hx : x.isNaN = false) :
    ¬ (x != 0) = true ↔ ¬ x < 0 ∧ ¬ 0 < x := by
  rw [bne, Bool.not_eq_true, Bool.not_eq_false', Weight.beq_iff_not_lt hx (by decide)]

/-- The slots of nonzero weight come first exactly if no slot of negative weight stands beside one
of weight zero. -/
theorem leads_byWeight_iff (hweight : ∀ s, (weight s).isNaN = false) :
    (byWeight weight).Leads (fun s => weight s != 0) ↔
      (∀ s, ¬ weight s < 0) ∨ ∀ s, (weight s != 0) = true := by
  have hsorted := pairwise_byWeight_weights hweight
  have hmem (s : Slot) : s ∈ (byWeight weight).toList :=
    (byWeight_perm weight).mem_iff.2 (mem_slots s)
  constructor
  · intro hleads
    by_contra! hboth
    obtain ⟨⟨a, hneg⟩, b, hzero⟩ := hboth
    -- the slot `a` of negative weight is active, and so comes before `b`, which is not
    have ha : (weight a != 0) = true := by
      by_contra hne
      exact ((not_bne_zero_iff (hweight a)).1 hne).1 hneg
    have hab : a ≠ b := fun h => hzero (h ▸ ha)
    rcases rel_or_rel_of_pairwise (hsorted.and hleads) (hmem a) (hmem b) hab with h | h
    · have hnot := ((not_bne_zero_iff (hweight b)).1 hzero).1
      exact Weight.not_lt_trans (hweight b) h.1 hnot hneg
    · exact hzero (h.2 ha)
  · rintro (hneg | hall)
    · refine hsorted.imp ?_
      intro a b hab hb
      -- if `a` were zero, then `b`, which is not heavier, would be on neither side of zero
      by_contra ha
      have hnot := ((not_bne_zero_iff (hweight a)).1 ha).2
      exact (not_bne_zero_iff (hweight b)).2
        ⟨hneg b, Weight.not_lt_trans (hweight a) hnot hab⟩ hb
    · exact hsorted.imp fun _ _ => hall _

end Order

/-! ## Lights -/

namespace Resolved

variable {lights : Lights}

theorem order_ofLights (lights : Lights) :
    (ofLights lights).order = .byWeight fun s => (lights.get s).weight :=
  rfl

theorem order_perm (lights : Lights) : (ofLights lights).order.toList.Perm Order.slots.toList :=
  order_ofLights lights ▸ Order.byWeight_perm _

theorem active_eq_countP (lights : Lights) : (ofLights lights).active =
    (ofLights lights).order.toList.countP fun s => (lights.get s).isActive := by
  rw [(order_perm lights).countP_eq, List.countP_eq_length_filter]
  exact lights.countP_toList PointLight.isActive

theorem leads_order_iff (hweight : ∀ s, (lights.get s).weight.isNaN = false) :
    (ofLights lights).order.Leads (fun s => (lights.get s).isActive) ↔
      (∀ s, ¬ (lights.get s).weight < 0) ∨ ∀ s, (lights.get s).isActive = true := by
  rw [order_ofLights]
  exact Order.leads_byWeight_iff hweight

theorem take_active_iff (hweight : ∀ s, (lights.get s).weight.isNaN = false) :
    (∀ s, s ∈ (ofLights lights).order.toList.take (ofLights lights).active ↔
        (lights.get s).isActive = true) ↔
      (∀ s, ¬ (lights.get s).weight < 0) ∨ ∀ s, (lights.get s).isActive = true := by
  rw [active_eq_countP, ← Order.leads_iff_take (order_perm lights)]
  exact leads_order_iff hweight

theorem lt_active_iff (hweight : ∀ s, (lights.get s).weight.isNaN = false) :
    (∀ rank : Slot, rank.val < (ofLights lights).active ↔
        (lights.get ((ofLights lights).order.get rank)).isActive = true) ↔
      (∀ s, ¬ (lights.get s).weight < 0) ∨ ∀ s, (lights.get s).isActive = true := by
  rw [active_eq_countP, ← Order.leads_iff_ranks (p := fun s => (lights.get s).isActive)]
  exact leads_order_iff hweight

end Resolved

end LitMesh
