import LitMesh.Proofs.Config.Data

/-!
# Partial documents

A document that leaves fields out means the defaults with its own fields put over them
(`Config.overlay_reads`). The defaults stand in at two levels: for a layout that is left out, and
for the blocks that a layout leaves out.

Both levels are records into which fields are put one after the other. What can be read from such a
record is what the last field put there says, and since no field is put twice, that is what the only
one says (`foldl_of_mem`, `foldl_of_not_mem`).
-/

namespace LitMesh

/-! ## Fields put into a record -/

section Put

variable {ι α σ β : Type} {put : σ → α → σ} (get : σ → β) (key : α → ι) {as : List α}

/-- What no field is about stays as it was. -/
theorem foldl_of_not_mem {i : ι} (hskip : ∀ s a, key a ≠ i → get (put s a) = get s)
    (h : ∀ a ∈ as, key a ≠ i) (s : σ) : get (as.foldl put s) = get s := by
  induction as generalizing s with
  | nil => rfl
  | cons a as ih =>
    rw [List.foldl_cons, ih (fun b hb => h b (by simp [hb])), hskip s a (h a (by simp))]

/-- What one of the fields is about is as that field says. -/
theorem foldl_of_mem {a : α} {b : β} (hput : ∀ s, get (put s a) = b)
    (hskip : ∀ s c, key c ≠ key a → get (put s c) = get s) (hkeys : (as.map key).Nodup)
    (ha : a ∈ as) (s : σ) : get (as.foldl put s) = b := by
  obtain ⟨before, after, rfl⟩ := List.append_of_mem ha
  -- no field after this one has its key
  have hafter : ∀ c ∈ after, key c ≠ key a := by
    intro c hc heq
    rw [List.map_append, List.map_cons] at hkeys
    have hnodup := (List.nodup_append.1 hkeys).2.1
    exact (List.nodup_cons.1 hnodup).1 (List.mem_map.2 ⟨c, hc, heq⟩)
  rw [List.foldl_append, List.foldl_cons, foldl_of_not_mem get key hskip hafter, hput]

end Put

/-! ## Layouts -/

namespace Layout

variable {fields : List (Block × UInt32)} {b : Block}

theorem start_place_of_ne {l : Layout} {p : Block × UInt32} (h : p.1 ≠ b) :
    (l.place p.1 p.2).start b = l.start b :=
  (start_place l p.1 b p.2).trans (if_neg h)

theorem start_foldl_of_mem (hnodup : (fields.map Prod.fst).Nodup) {n : UInt32}
    (h : (b, n) ∈ fields) (l : Layout) :
    (fields.foldl (fun l (b, n) => l.place b n) l).start b = n := by
  refine foldl_of_mem (fun l => start l b) Prod.fst (fun l => ?_)
    (fun _ _ => start_place_of_ne) hnodup h l
  exact (start_place l b b n).trans (if_pos rfl)

theorem start_foldl_of_not_mem (h : ∀ n, (b, n) ∉ fields) (l : Layout) :
    (fields.foldl (fun l (b, n) => l.place b n) l).start b = l.start b := by
  have hother : ∀ p ∈ fields, p.1 ≠ b := by
    rintro ⟨_, n⟩ hp rfl
    exact h n hp
  exact foldl_of_not_mem (fun l => start l b) Prod.fst (fun _ _ => start_place_of_ne) hother l

end Layout

/-! ## Configurations -/

open Ron

namespace Config

variable {es : List Entry}

theorem registers_put_of_ne {c : Config} {e : Entry} (h : e.field ≠ .registers) :
    (c.put e).registers = c.registers := by
  cases e with
  | registers fields => exact absurd rfl h
  | vertexStride n => rfl

theorem vertexStride_put_of_ne {c : Config} {e : Entry} (h : e.field ≠ .vertexStride) :
    (c.put e).vertexStride = c.vertexStride := by
  cases e with
  | registers fields => rfl
  | vertexStride n => exact absurd rfl h

theorem vertexStride_overlay_of_mem (hes : Distinct es) {n : UInt32}
    (h : .vertexStride n ∈ es) : (overlay es).vertexStride = n :=
  foldl_of_mem vertexStride Entry.field (fun _ => rfl) (fun _ _ => vertexStride_put_of_ne)
    hes.fields h {}

theorem vertexStride_overlay_of_not_mem (h : ∀ n, .vertexStride n ∉ es) :
    (overlay es).vertexStride = ({} : Config).vertexStride := by
  refine foldl_of_not_mem vertexStride Entry.field (fun _ _ => vertexStride_put_of_ne) ?_ {}
  rintro (fields | n) he hfield
  · cases hfield
  · exact h n he

theorem registers_overlay_of_mem (hes : Distinct es) {fields : List (Block × UInt32)}
    (h : .registers fields ∈ es) :
    (overlay es).registers = fields.foldl (fun l (b, n) => l.place b n) {} :=
  foldl_of_mem registers Entry.field (fun _ => rfl) (fun _ _ => registers_put_of_ne) hes.fields h {}

theorem registers_overlay_of_not_mem (h : ∀ fields, .registers fields ∉ es) :
    (overlay es).registers = {} := by
  refine foldl_of_not_mem registers Entry.field (fun _ _ => registers_put_of_ne) ?_ {}
  rintro (fields | n) he hfield
  · exact h fields he
  · cases hfield

theorem start_overlay_of_mem (hes : Distinct es) {fields : List (Block × UInt32)} {b : Block}
    {n : UInt32} (h : .registers fields ∈ es) (hb : (b, n) ∈ fields) :
    (overlay es).registers.start b = n := by
  rw [registers_overlay_of_mem hes h]
  exact Layout.start_foldl_of_mem (hes.blocks fields h) hb {}

theorem start_overlay_of_not_mem (hes : Distinct es) {b : Block}
    (h : ∀ fields n, .registers fields ∈ es → (b, n) ∉ fields) :
    (overlay es).registers.start b = Layout.start {} b := by
  by_cases hlayout : ∃ fields, .registers fields ∈ es
  · obtain ⟨fields, hfields⟩ := hlayout
    rw [registers_overlay_of_mem hes hfields]
    exact Layout.start_foldl_of_not_mem (fun n => h fields n hfields) {}
  · rw [registers_overlay_of_not_mem fun fields hfields => hlayout ⟨fields, hfields⟩]

/-- **Partial documents overlay the defaults.** Take any values for any of the six fields, the
blocks of a layout among them, each at most once and in any order. They stand for the configuration
that has them in their fields and the default in every other field. A document that holds them, in
whatever way it is written, is read as what validation makes of that configuration. Structured data
that holds them is read as that configuration itself, be it an object or a list of the first fields,
and so is the layout in it. And any configuration that is written as data comes back. -/
theorem overlay_reads :
    (∀ es, Distinct es →
      ((∀ n, .vertexStride n ∈ es → (overlay es).vertexStride = n) ∧
        ((∀ n, .vertexStride n ∉ es) → (overlay es).vertexStride = 36) ∧
        (∀ fields b n, .registers fields ∈ es → (b, n) ∈ fields →
          (overlay es).registers.start b = n) ∧
        ∀ b, (∀ fields n, .registers fields ∈ es → (b, n) ∉ fields) →
          (overlay es).registers.start b = Layout.start ⟨10, 20, 30, 0, 4⟩ b) ∧
      (∀ source, Writes source es → ofRon? source = (overlay es).validate) ∧
      ∀ d, Holds d es → ofData? d = some (overlay es)) ∧
    (∀ es, Writes (document es) es) ∧
    ∀ c, ofData? c.toData = some c := by
  refine ⟨fun es hes => ⟨⟨?_, ?_, ?_, ?_⟩, ?_, ?_⟩, writes_document, fun c => ?_⟩
  · exact fun n => vertexStride_overlay_of_mem hes
  · exact vertexStride_overlay_of_not_mem
  · exact fun fields b n => start_overlay_of_mem hes
  · exact fun b => start_overlay_of_not_mem hes
  · exact fun source => ofRon?_of_writes hes
  · exact fun d => ofData?_of_holds hes
  · rw [ofData?_of_holds c.distinct_entries c.holds_toData, overlay_entries]

/-- Two blocks of the layout and the stride: as a document with a comment and a number in
hexadecimal, and as an object with the layout as a list. -/
theorem overlay_reads_three :
    let source := "// stock\n(vertex_stride: 0x2_4, registers: (lights: +40, ambient_color: 50,))"
    let c : Config := { registers := { lights := 40, ambientColor := 50 } }
    ofRon? source = .ok c ∧ ofData? (.object [("vertex_stride", .int 36),
      ("registers", .list [.int 40, .int 50])]) = some c := by
  intro source c
  let blocks : List (Block × UInt32) := [(.lights, 40), (.ambientColor, 50)]
  let es : List Entry := [.vertexStride 36, .registers blocks]
  have hes : Distinct es := by
    refine ⟨by decide, fun fields h => ?_⟩
    obtain rfl : fields = blocks := by simpa [es] using h
    decide
  -- the document is put together from the inside, as the grammar has it
  have hspace : Gap [' '] := gap_of_blank (by decide)
  have hlayout : LayoutText blocks _ :=
    .unnamed .nil (.cons (.intro .plain .nil hspace
      (.intro .plus .decimal (digits_toDigits 40) (.inl rfl))) .nil hspace
        (.cons (.intro .plain .nil hspace (numeral_toDigits 50)) .nil .nil .close))
  have htwo : Digits 16 2 ['2'] := .first rfl (by decide)
  have hdigits : Digits 16 (16 * 2 + 4) ['2', '_', '4'] := .digit htwo.underscore rfl (by decide)
  have hstride : Numeral 36 _ := .intro .none .hexadecimal hdigits (.inl rfl)
  have hstruct : StructText "MeshViewConfig" (fun e : Entry => FieldText e.field.name e.ValueText)
      es _ :=
    .unnamed .nil (.cons (.intro .plain .nil hspace hstride) .nil hspace
      (.last (.intro .plain .nil hspace hlayout) .nil))
  have hcomment : Gap ['/', '/', ' ', 's', 't', 'o', 'c', 'k', '\n'] :=
    .line (by decide : '\n' ∉ [' ', 's', 't', 'o', 'c', 'k']) .nil
  have hdocument := DocumentText.intro hcomment hstruct (.gap .nil)
  have hwrites : Writes source es :=
    (congrArg (DocumentText _ _ es) (by decide +kernel)).mpr hdocument
  have hlist : LayoutData blocks (.list [.int 40, .int 50]) :=
    .list (.cons rfl (.cons rfl .nil)) (by decide)
  have hvalues : List.Forall₂ Entry.ValueData es [.int 36, .list [.int 40, .int 50]] :=
    .cons rfl (.cons hlist .nil)
  obtain ⟨-, hron, hdata⟩ := overlay_reads.1 _ hes
  exact ⟨hron source hwrites, hdata _ (.object hvalues)⟩

end Config

end LitMesh
