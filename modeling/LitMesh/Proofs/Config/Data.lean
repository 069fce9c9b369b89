import Mathlib.Data.List.Forall2
import Mathlib.Data.List.Nodup
import LitMesh.Proofs.Config.Ron

/-!
# Configurations as structured data

The same entries that a document holds can be held by structured data: by an object that names the
fields, in any order, or by a list of the first of them (`Data.Records`). Data is read in the order
in which the fields are declared, and documents in the order in which they are written. Fields that
are put into a record one after the other may change places, so both come to the same record
(`Data.overlay_records`).
-/

namespace LitMesh

namespace Data

section Records

variable {ι α σ : Type} {all : List ι} {name : ι → String} {key : α → ι}
  {value : α → Data → Prop} {as : List α}

/-- A record with the given fields, out of all those that it might have. -/
inductive Records (all : List ι) (name : ι → String) (key : α → ι) (value : α → Data → Prop)
    (as : List α) : Data → Prop
  | object {ds : List Data} : List.Forall₂ value as ds →
      Records all name key value as (.object ((as.map fun a => name (key a)).zip ds))
  | list {ds : List Data} : List.Forall₂ value as ds → as.map key <+: all →
      Records all name key value as (.list ds)

variable {put : σ → ι → Data → Option σ} {place : σ → α → σ} {ds : List Data}

theorem foldlM_items (hput : ∀ a ∈ as, ∀ s d, value a d → put s (key a) d = some (place s a))
    (hds : List.Forall₂ value as ds) (hinit : as.map key <+: all) (s : σ) :
    ((all.map fun i => (name i, i)).zip ds).foldlM (fun s ((_, i), d) => put s i d) s =
      some (as.foldl place s) := by
  induction hds generalizing all s with
  | nil => simp
  | @cons a d as ds hd hds ih =>
    -- the values are those of the first keys, so both lists go down together
    cases all with
    | nil => simp at hinit
    | cons i all =>
      rw [List.map_cons, List.cons_prefix_cons] at hinit
      obtain ⟨rfl, hinit⟩ := hinit
      have hfirst := hput a (by simp) s d hd
      have hrest := ih (fun b hb => hput b (by simp [hb])) hinit (place s a)
      simp [hfirst, hrest]

variable [DecidableEq ι]

/-- The field with the given key, if it is there. -/
def fieldAt? (key : α → ι) (as : List α) (i : ι) : Option α := as.find? fun a => key a = i

theorem fieldAt?_eq_some_iff (hkeys : (as.map key).Nodup) {a : α} {i : ι} :
    fieldAt? key as i = some a ↔ a ∈ as ∧ key a = i := by
  have hfound {b : α} {j : ι} (h : fieldAt? key as j = some b) : b ∈ as ∧ key b = j :=
    ⟨List.mem_of_find?_eq_some h, by simpa using List.find?_some h⟩
  refine ⟨hfound, ?_⟩
  rintro ⟨ha, rfl⟩
  cases h : fieldAt? key as (key a) with
  | none => exact absurd (decide_eq_true rfl) (List.find?_eq_none.1 h a ha)
  | some b =>
    obtain ⟨hb, hkey⟩ := hfound h
    rw [List.inj_on_of_nodup_map hkeys hb ha hkey]

theorem lookup_members (key : α → ι) (hname : Function.Injective name)
    (hds : List.Forall₂ value as ds) (i : ι) :
    (fieldAt? key as i = none ∧ ((as.map fun a => name (key a)).zip ds).lookup (name i) = none) ∨
      ∃ a d, fieldAt? key as i = some a ∧ value a d ∧
        ((as.map fun a => name (key a)).zip ds).lookup (name i) = some d := by
  induction hds with
  | nil => exact .inl ⟨rfl, rfl⟩
  | @cons a d as ds hd hds ih =>
    by_cases h : key a = i
    · exact .inr ⟨a, d, by simp [fieldAt?, h], hd, by simp [h]⟩
    · have hne : name i ≠ name (key a) := fun heq => h (hname heq).symm
      simpa [fieldAt?, h, List.lookup_cons, beq_false_of_ne hne] using ih

/-- Reading the members puts the fields into the record in the order of their keys. -/
theorem foldlM_members (hput : ∀ a ∈ as, ∀ s d, value a d → put s (key a) d = some (place s a))
    (hname : Function.Injective name) (hkeys : (as.map key).Nodup)
    (hds : List.Forall₂ value as ds) (s : σ) :
    (all.map fun i => (name i, i)).foldlM (fun s (n, i) =>
      match ((as.map fun a => name (key a)).zip ds).lookup n with
      | some d => put s i d
      | none => some s) s = some ((all.filterMap (fieldAt? key as)).foldl place s) := by
  induction all generalizing s with
  | nil => rfl
  | cons i all ih =>
    -- a key without a field is passed over, and the member of any other is its value
    rcases lookup_members key hname hds i with ⟨hnone, hlookup⟩ | ⟨a, d, hsome, hd, hlookup⟩
    · simp [hlookup, hnone, ih]
    · obtain ⟨ha, rfl⟩ := (fieldAt?_eq_some_iff hkeys).1 hsome
      simp [hlookup, hsome, hput a ha s d hd, ih]

theorem filterMap_perm (hkeys : (as.map key).Nodup) (hall : all.Nodup)
    (hmem : ∀ a ∈ as, key a ∈ all) : (all.filterMap (fieldAt? key as)).Perm as := by
  have hnodup : (all.filterMap (fieldAt? key as)).Nodup := by
    refine List.Nodup.filterMap (fun i j a hi hj => ?_) hall
    obtain ⟨-, rfl⟩ := (fieldAt?_eq_some_iff hkeys).1 hi
    exact ((fieldAt?_eq_some_iff hkeys).1 hj).2
  refine (List.perm_ext_iff_of_nodup hnodup hkeys.of_map).2 fun a => ?_
  rw [List.mem_filterMap]
  constructor
  · rintro ⟨i, -, hi⟩
    exact ((fieldAt?_eq_some_iff hkeys).1 hi).1
  · exact fun ha => ⟨key a, hmem a ha, (fieldAt?_eq_some_iff hkeys).2 ⟨ha, rfl⟩⟩

/-- A record is read as the fields put into it, in whatever order they are given. -/
theorem overlay_records (hput : ∀ a ∈ as, ∀ s d, value a d → put s (key a) d = some (place s a))
    (hcomm : ∀ s a b, key a ≠ key b → place (place s a) b = place (place s b) a)
    (hname : Function.Injective name) (hall : all.Nodup) (hmem : ∀ a ∈ as, key a ∈ all)
    (hkeys : (as.map key).Nodup) {d : Data} (h : Records all name key value as d) (s : σ) :
    d.overlay (all.map fun i => (name i, i)) put s = some (as.foldl place s) := by
  cases h with
  | list hds hinit =>
    have hlength := hinit.length_le
    rw [List.length_map, hds.length_eq] at hlength
    rw [overlay, List.length_map, if_pos hlength]
    exact foldlM_items hput hds hinit s
  | object hds =>
    have hperm := filterMap_perm hkeys hall hmem
    -- the object is read in the order of the keys, which makes no difference to distinct fields
    have hsame : ∀ a ∈ all.filterMap (fieldAt? key as), ∀ b ∈ all.filterMap (fieldAt? key as),
        ∀ s, place (place s a) b = place (place s b) a := by
      intro a ha b hb s
      by_cases h : key a = key b
      · rw [List.inj_on_of_nodup_map hkeys (hperm.mem_iff.1 ha) (hperm.mem_iff.1 hb) h]
      · exact hcomm s a b h
    rw [overlay, ← hperm.foldl_eq' hsame s]
    exact foldlM_members hput hname hkeys hds s

end Records

end Data

/-! ## Configurations -/

/-- A layout with the given blocks. -/
def LayoutData (fields : List (Block × UInt32)) : Data → Prop :=
  Data.Records Block.all Block.name Prod.fst (fun (_, n) d => d = .int n.toNat) fields

namespace Config

/-- The value of an entry. -/
def Entry.ValueData : Entry → Data → Prop
  | registers fields => LayoutData fields
  | vertexStride n => fun d => d = .int n.toNat

/-- Structured data with the given entries, as an object or as a list. -/
def Holds (d : Data) (es : List Entry) : Prop :=
  Data.Records Field.all Field.name Entry.field Entry.ValueData es d

end Config

theorem Block.mem_all (b : Block) : b ∈ all := by
  cases b <;> decide

theorem Config.Field.mem_all (f : Field) : f ∈ all := by
  cases f <;> decide

theorem Data.word32?_toNat (n : UInt32) : (Data.int n.toNat).word32? = some n := by
  have hn := n.toNat_lt
  rw [word32?, if_pos (by omega), Int.toNat_natCast, UInt32.ofNat_toNat]

theorem Layout.place_comm (l : Layout) {a b : Block} (h : a ≠ b) (m n : UInt32) :
    (l.place a m).place b n = (l.place b n).place a m := by
  refine Layout.ext_start fun c => ?_
  simp only [start_place]
  split_ifs with hb ha
  · exact absurd (ha.trans hb.symm) h
  · rfl
  · rfl
  · rfl

theorem Layout.ofData?_of_data {fields : List (Block × UInt32)}
    (hnodup : (fields.map Prod.fst).Nodup) {d : Data} (h : LayoutData fields d) :
    Layout.ofData? d = some (fields.foldl (fun l (b, n) => l.place b n) {}) := by
  refine Data.overlay_records ?_ ?_ Config.block_name_injective (by decide)
    (fun p _ => p.1.mem_all) hnodup h ({} : Layout)
  · rintro ⟨b, n⟩ - l d rfl
    rw [Data.word32?_toNat]
    rfl
  · exact fun l p q hne => l.place_comm hne p.2 q.2

theorem Layout.layoutData_toData (l : Layout) :
    LayoutData (Block.all.map fun b => (b, l.start b)) l.toData := by
  have hvalues : List.Forall₂ (fun (p : Block × UInt32) d => d = Data.int p.2.toNat)
      (Block.all.map fun b => (b, l.start b)) (Block.all.map fun b => .int (l.start b).toNat) :=
    List.forall₂_map_left_iff.2 (List.forall₂_map_right_iff.2 (List.forall₂_same.2 fun _ _ => rfl))
  exact .object hvalues

namespace Config

theorem put_comm (c : Config) {a b : Entry} (h : a.field ≠ b.field) :
    (c.put a).put b = (c.put b).put a := by
  cases a <;> cases b <;> first | rfl | exact absurd rfl h

/-- Data is read as what its entries mean, whether it is an object or a list. -/
theorem ofData?_of_holds {d : Data} {es : List Entry} (hes : Distinct es) (h : Holds d es) :
    ofData? d = some (overlay es) := by
  refine Data.overlay_records ?_ (fun c a b => put_comm c) field_name_injective (by decide)
    (fun e _ => e.field.mem_all) hes.fields h {}
  · rintro (fields | n) he c d hd
    · rw [Entry.field, readField, Layout.ofData?_of_data (hes.blocks fields he) hd]
      rfl
    · obtain rfl := hd
      rw [Entry.field, readField, Data.word32?_toNat]
      rfl

theorem holds_toData (c : Config) : Holds c.toData c.entries := by
  have hlayout : LayoutData (Block.all.map fun b => (b, c.registers.start b))
      c.registers.toData := c.registers.layoutData_toData
  have hvalues : List.Forall₂ Entry.ValueData c.entries
      [c.registers.toData, .int c.vertexStride.toNat] := .cons hlayout (.cons rfl .nil)
  exact .object hvalues

end Config

end LitMesh
