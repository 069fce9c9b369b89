import LitMesh.Proofs.Render.Commands

/-!
# What a material selects

A material selects a variant of the pixel shader and the textures that it reads. Edits of a material
overwrite its fields, so each field holds what was written to it last (`foldl_eq_last`). Of these
fields the variant takes only the presence of three maps and the specular alpha
(`index_variantKey_iff`), and the samplers take the textures themselves, each from its own map.
-/

namespace LitMesh

/-- A field that edits overwrite holds what was written to it last. -/
theorem foldl_eq_last {σ α β : Type} {edit : σ → α → σ} {f : σ → β} {written? : α → Option β}
    (hedit : ∀ s a, f (edit s a) = (written? a).getD (f s)) (s : σ) (as : List α) :
    f (as.foldl edit s) = ((as.filterMap written?).getLast?).getD (f s) := by
  induction as generalizing s with
  | nil => rfl
  | cons a rest ih =>
    rw [List.foldl_cons, ih, hedit, List.filterMap_cons]
    cases written? a with
    | none => rfl
    | some b => rw [Option.getD_some, List.getLast?_cons, Option.getD_some]

/-! ## Edits of a material -/

namespace MaterialEdit

/-- What an edit writes to the map `t`, if it writes to that map. -/
def texture? (t : MapType) : MaterialEdit → Option (Option TextureId)
  | setMap u texture => if u = t then some texture else none
  | withMap u texture => if u = t then some (some texture) else none
  | withSpecularAlpha _ | withColor _ => none

/-- What an edit writes to the specular alpha, if it writes to it. -/
def specularAlpha? : MaterialEdit → Option Bool
  | withSpecularAlpha on => some on
  | setMap _ _ | withMap _ _ | withColor _ => none

end MaterialEdit

namespace Material

theorem map_edit (m : Material) (e : MaterialEdit) (t : MapType) :
    (m.edit e).map t = (e.texture? t).getD (m.map t) := by
  cases e with
  | setMap u texture | withMap u texture =>
    simp only [edit, withMap, map_setMap, MaterialEdit.texture?]
    split <;> rfl
  | withSpecularAlpha on | withColor c => rfl

theorem specularAlpha_edit (m : Material) (e : MaterialEdit) :
    (m.edit e).specularAlpha = e.specularAlpha?.getD m.specularAlpha := by
  cases e <;> rfl

end Material

/-! ## Variants -/

theorem SpecularMode.ofFlags_inj {a b a' b' : Bool} :
    ofFlags a b = ofFlags a' b' ↔ a = a' ∧ b = b' := by
  revert a b a' b'
  decide

theorem BumpMode.ofFlag_inj {a a' : Bool} : ofFlag a = ofFlag a' ↔ a = a' := by
  revert a a'
  decide

theorem VariantKey.index_inj {j k : VariantKey} : j.index = k.index ↔ j = k :=
  ⟨index_injective, congrArg index⟩

/-- Two materials under lights have the same variant exactly if as many lights count, they have the
same of the maps that matter, and their specular alphas agree. -/
theorem index_variantKey_iff {n n' : Nat} {m m' : Material} :
    (variantKey n m).index = (variantKey n' m').index ↔
      min n maxPointLights = min n' maxPointLights ∧
      m.hasMap .specular = m'.hasMap .specular ∧ m.specularAlpha = m'.specularAlpha ∧
      m.hasMap .bump = m'.hasMap .bump ∧
      m.hasMap .selfIllumination = m'.hasMap .selfIllumination := by
  have hlights : (variantKey n m).lights = (variantKey n' m').lights ↔
      min n maxPointLights = min n' maxPointLights := by
    rw [← UInt8.toNat_inj, lights_variantKey, lights_variantKey]
  have hkey : variantKey n m = variantKey n' m' ↔
      (variantKey n m).lights = (variantKey n' m').lights ∧
      SpecularMode.ofFlags (m.hasMap .specular) m.specularAlpha =
        .ofFlags (m'.hasMap .specular) m'.specularAlpha ∧
      BumpMode.ofFlag (m.hasMap .bump) = .ofFlag (m'.hasMap .bump) ∧
      m.hasMap .selfIllumination = m'.hasMap .selfIllumination :=
    VariantKey.mk.injEq .. ▸ Iff.rfl
  -- the number is injective, and so is each part of the key
  rw [VariantKey.index_inj, hkey, hlights, SpecularMode.ofFlags_inj, BumpMode.ofFlag_inj,
    and_assoc]

/-- **A material decides by its last edits what a render draws with.** Whatever is written to a
material, each map holds what was written to that map last. The variant counts the active lights up
to three; it looks at the presence of the specular map, the bump map and the self-illumination map
and at the specular alpha, and two variants have the same number exactly if they agree on these. A
render with the material binds that variant, and it binds each map to its own sampler. -/
theorem edits_select (m₀ : Material) (edits : List MaterialEdit) :
    let m := edits.foldl Material.edit m₀
    let texture : MapType → Option TextureId := fun t =>
      ((edits.filterMap (·.texture? t)).getLast?).getD (m₀.map t)
    let alpha := ((edits.filterMap (·.specularAlpha?)).getLast?).getD m₀.specularAlpha
    (∀ t, m.map t = texture t) ∧
    (∀ active : Nat, let key := variantKey active m
      key.lights.toNat = min active 3 ∧
      (key.specular = match (texture .specular).isSome, alpha with
        | false, false => .none
        | true, false => .texture
        | false, true => .color
        | true, true => .mix) ∧
      (key.bump = if (texture .bump).isSome then .specified else .none) ∧
      key.selfIllum = (texture .selfIllumination).isSome) ∧
    (∀ (active active' : Nat) (m' : Material),
      (variantKey active m).index = (variantKey active' m').index ↔
        min active 3 = min active' 3 ∧
        (texture .specular).isSome = (m'.map .specular).isSome ∧ alpha = m'.specularAlpha ∧
        (texture .bump).isSome = (m'.map .bump).isSome ∧
        (texture .selfIllumination).isSome = (m'.map .selfIllumination).isSome) ∧
    ∀ (v : View) (c : Context), v.material = some m →
      let active := v.lights.resolved.answer.active
      let program? := c.shaders.program? (variantKey active m) (inTable_variantKey active m)
      ∃ sent, (v.render c false).state.2.device.commands.toList =
          c.device.commands.toList ++ sent ∧
        sent.filter (fun cmd => cmd.kind = .setPixelProgram) =
          program?.toList.map .setPixelProgram ∧
        sent.filter (fun cmd => cmd.kind = .setTexture) =
          [.setTexture .diffuse (texture .diffuse), .setTexture .specular (texture .specular),
            .setTexture .bumpHeight (texture .bump),
            .setTexture .selfIllumination (texture .selfIllumination)] := by
  intro m texture alpha
  have hmap : ∀ t, m.map t = texture t := fun t =>
    foldl_eq_last (f := (·.map t)) (Material.map_edit · · t) m₀ edits
  have halpha : m.specularAlpha = alpha := foldl_eq_last Material.specularAlpha_edit m₀ edits
  refine ⟨hmap, fun active => ?_, fun active active' m' => ?_, fun v c hm => ?_⟩
  · refine ⟨lights_variantKey active m, ?_, ?_, ?_⟩ <;>
      simp only [variantKey, VariantKey.new, Material.hasMap, hmap, halpha]
    · cases (texture .specular).isSome <;> cases alpha <;> rfl
    · cases (texture .bump).isSome <;> rfl
  · rw [index_variantKey_iff, ← halpha]
    simp only [Material.hasMap, hmap]
  · refine ⟨v.commands m c.shaders c.cache c.world, ?_,
      View.filter_commands_pixelProgram c.shaders c.cache c.world, ?_⟩
    · rw [View.render_of_material hm, View.commands_draw, View.filterMap_command?_attempted]
    · rw [View.filter_commands_texture]
      simp only [← hmap]
      rfl

/-- A bump map that was taken away again leaves no trace, and any specular map is as good as any
other for the variant. -/
theorem edits_select_taken_away :
    let edits : List MaterialEdit := [.withMap .bump ⟨7⟩, .setMap .specular (some ⟨4⟩),
      .withSpecularAlpha true, .setMap .bump none, .withColor .black]
    let m := edits.foldl Material.edit default
    let other := (Material.withMap default .specular ⟨9⟩).withSpecularAlpha true
    let v := { View.new ⟨.phong, ⟨1⟩, ⟨2⟩, 4, 6⟩ with material := some m }
    (variantKey 259 m).index = (variantKey 3 other).index ∧
      ∃ sent, (v.render .new false).state.2.device.commands.toList = sent ∧
        sent.filter (fun cmd => cmd.kind = .setTexture) =
          [.setTexture .diffuse none, .setTexture .specular (some ⟨4⟩),
            .setTexture .bumpHeight none, .setTexture .selfIllumination none] := by
  intro edits m other v
  obtain ⟨-, -, hindex, hrender⟩ := edits_select default edits
  obtain ⟨sent, hsent, -, htextures⟩ := hrender v .new rfl
  exact ⟨(hindex 259 3 other).2 (by decide), sent, hsent, htextures⟩

end LitMesh
