import LitMesh.Light.Set
import LitMesh.Run

/-!
# The order of a light set is never stale

A light set keeps an order that may be out of date, and a mark that says whether it is. What the set
shows is told by the events of its past alone: lights placed and orders asked for.
`LightSet.Follows` says how, and every operation keeps it:

* *lights*: each slot holds what was placed there last,
* *mark*: it is set exactly if the order is `Outdated`, and
* *order*: without the mark, the order is that of the lights.

A copy of a set has the past of its original. In a rack of sets, which are edited, resolved, cloned
and exchanged at will, every set follows its own past (`LightRack.follows_run`).
-/

namespace LitMesh

/-! ## The past of a set -/

/-- What can happen to a light set. -/
inductive LightEvent
  /-- A light was put into a slot. -/
  | placed (i : Nat) (light : PointLight)
  /-- The order was brought up to date, or was so already. -/
  | resolved

namespace LightEvent

/-- The lights that events leave behind, all of them off to begin with. -/
def lightsAfter (past : List LightEvent) : Lights :=
  past.foldl
    (fun lights e => match e with
      | placed i light => lights.setIfInBounds i light
      | resolved => lights)
    (Vector.replicate maxPointLights .off)

/-- The order has never been resolved, or a light was placed since it last was. -/
def Outdated (past : List LightEvent) : Prop :=
  resolved ∉ past ∨ ∃ before since, past = before ++ resolved :: since ∧ resolved ∉ since ∧
    ∃ i light, placed i light ∈ since

theorem lightsAfter_placed (past : List LightEvent) (i : Nat) (light : PointLight) :
    lightsAfter (past ++ [placed i light]) = (lightsAfter past).setIfInBounds i light := by
  rw [lightsAfter, List.foldl_append]
  rfl

theorem lightsAfter_resolved (past : List LightEvent) :
    lightsAfter (past ++ [resolved]) = lightsAfter past := by
  rw [lightsAfter, List.foldl_append]
  rfl

theorem outdated_nil : Outdated [] := .inl List.not_mem_nil

theorem outdated_placed (past : List LightEvent) (i : Nat) (light : PointLight) :
    Outdated (past ++ [placed i light]) := by
  by_cases hmem : resolved ∈ past
  · -- what follows the last resolution of the past, followed by the new light
    obtain ⟨since, before, hsplit, hnot⟩ :=
      List.eq_append_cons_of_mem (List.mem_reverse.2 hmem)
    rw [List.reverse_eq_iff] at hsplit
    refine .inr ⟨before.reverse, since.reverse ++ [placed i light], ?_, ?_, i, light, ?_⟩
    · simp [hsplit]
    · simpa using hnot
    · exact List.mem_append_right _ (List.mem_singleton_self _)
  · exact .inl (by simpa using hmem)

theorem not_outdated_resolved (past : List LightEvent) : ¬ Outdated (past ++ [resolved]) := by
  rintro (hnot | ⟨before, since, hsplit, hnot, i, light, hmem⟩)
  · exact hnot (List.mem_append_right _ (List.mem_singleton_self _))
  · -- the past ends with a resolution, so what came since the last one would hold another
    rcases List.eq_nil_or_concat since with rfl | ⟨middle, last, rfl⟩
    · cases hmem
    · rw [List.concat_eq_append] at hsplit hnot
      rw [← List.cons_append, ← List.append_assoc] at hsplit
      obtain ⟨-, hlast⟩ := List.append_inj' hsplit rfl
      rw [← hlast] at hnot
      exact hnot (List.mem_append_right _ (List.mem_singleton_self _))

end LightEvent

/-! ## One set -/

namespace LightSet

open LightEvent

/-- The set is what the events of its past have made of it. -/
structure Follows (s : LightSet) (past : List LightEvent) : Prop where
  lights : s.lights = lightsAfter past
  stale : s.stale = true ↔ Outdated past
  last : s.stale = false → s.last = .ofLights s.lights

theorem follows_new : Follows .new [] where
  lights := rfl
  stale := iff_of_true rfl outdated_nil
  last := nofun

variable {s s' : LightSet} {past : List LightEvent}

theorem set_of_lt {i : Nat} (hi : i < maxPointLights) (light : PointLight) :
    s.set i light = .ok { s with lights := s.lights.set i light, stale := true } :=
  dif_pos hi

theorem set_of_le {i : Nat} (hi : maxPointLights ≤ i) (light : PointLight) :
    s.set i light = .error ⟨i, maxPointLights⟩ :=
  dif_neg (Nat.not_lt.2 hi)

theorem Follows.set (h : s.Follows past) {i : Nat} {light : PointLight}
    (hs : s.set i light = .ok s') : s'.Follows (past ++ [.placed i light]) := by
  by_cases hi : i < maxPointLights
  · rw [set_of_lt hi] at hs
    obtain rfl := Except.ok.inj hs
    refine ⟨?_, iff_of_true rfl (outdated_placed past i light), nofun⟩
    rw [lightsAfter_placed, ← h.lights]
    refine Vector.ext fun j hj => ?_
    rw [Vector.getElem_set, Vector.getElem_setIfInBounds]
  · rw [set_of_le (Nat.not_lt.1 hi)] at hs
    cases hs

theorem Follows.resolveOrder (h : s.Follows past) :
    s.resolveOrder.state.Follows (past ++ [.resolved]) := by
  refine ⟨?_, ?_, fun _ => ?_⟩
  · rw [lights_resolveOrder, lightsAfter_resolved, h.lights]
  · rw [stale_resolveOrder]
    exact iff_of_false Bool.false_ne_true (not_outdated_resolved past)
  · unfold LightSet.resolveOrder
    split
    · rfl
    · rename_i hstale
      exact h.last (Bool.eq_false_iff.2 hstale)

theorem answer_resolveOrder (s : LightSet) : s.resolveOrder.answer = s.stale := by
  unfold LightSet.resolveOrder
  split <;> simp_all

/-- What is asked of a set is told by its lights, whenever it was asked before. -/
theorem Follows.answer_resolved (h : s.Follows past) : s.resolved.answer = .ofLights s.lights := by
  have hnow := h.resolveOrder.last (stale_resolveOrder s)
  rwa [lights_resolveOrder] at hnow

end LightSet

/-! ## Many sets -/

namespace LightRack

/-- Enters an action into the pasts of the sets that it changed. -/
def enter (pasts : Nat → List LightEvent) : Action × Answer → Nat → List LightEvent
  | (.set n i light, .done) => put pasts n (pasts n ++ [.placed i light])
  | (.set _ _ _, _) => pasts
  | (.resolveOrder n, _) | (.resolved n, _) => put pasts n (pasts n ++ [.resolved])
  | (.clone source target, _) => put pasts target (pasts source)
  | (.exchange m n, _) => put (put pasts m (pasts n)) n (pasts m)

/-- The past of every set of a rack that was new when the history began. -/
def pastsAfter (history : List (Action × Answer)) : Nat → List LightEvent :=
  history.foldl enter fun _ => []

variable {r : LightRack} {pasts : Nat → List LightEvent}

/-- A set and its past can be put in together. -/
theorem follows_put (h : ∀ k, (r k).Follows (pasts k)) {s : LightSet} {past : List LightEvent}
    (hs : s.Follows past) (n k : Nat) :
    (put r n s k).Follows (put pasts n past k) := by
  by_cases hk : k = n
  · subst hk
    rw [put_self, put_self]
    exact hs
  · rw [put_of_ne _ _ hk, put_of_ne _ _ hk]
    exact h k

theorem follows_act (h : ∀ k, (r k).Follows (pasts k)) (a : Action) (k : Nat) :
    ((r.act a).state k).Follows (enter pasts (a, (r.act a).answer) k) := by
  cases a with
  | set n i light =>
    simp only [act]
    cases hs : (r n).set i light with
    | ok s => exact follows_put h ((h n).set hs) n k
    | error e => exact h k
  | resolveOrder n | resolved n => exact follows_put h (h n).resolveOrder n k
  | clone source target => exact follows_put h (h source) target k
  -- the second replacement takes its set and its past from before the first
  | exchange m n => exact follows_put (follows_put h (h n) m) (h m) n k

/-- Every set of a rack follows its own past. -/
theorem follows_run (as : List Action) (k : Nat) :
    ((runAll act new as).state k).Follows (pastsAfter (historyOf act new as) k) := by
  refine runAll_induction
    (P := fun past (r : LightRack) => ∀ k, (r k).Follows (pastsAfter past k)) ?_ ?_ as k
  · exact fun _ => LightSet.follows_new
  · intro past r a h k
    rw [pastsAfter, List.foldl_append]
    exact follows_act h a k

end LightRack

end LitMesh
