import LitMesh.Proofs.Device.Location
import Mathlib.Algebra.Group.Nat.Defs
import Mathlib.Data.List.Nodup

/-!
# What a device owns

What has become of a device that started with nothing is told by the history of its run. Every
action keeps four things in step with the history, each on its own:

* *numbers*: buffers and textures are numbered from one on in the order of their creation, and the
  device holds those and no others, every buffer with its bytes (`Issued`),
* *bindings*: only resources of the device are bound (`Hardware.BindsOwn`),
* *sizes*: the register files are as long as they were, and
* *draws*: the device has counted those that succeeded.

**Theorem (`resources_run`).** As long as the numbers do not run out, no handle is given out twice,
a buffer keeps the bytes it was created with, no other handle names any, and only what was created
is ever bound, whatever is done to the device, well or badly.
-/

namespace LitMesh

/-! ## Little-endian bytes -/

namespace Bytes

/-- The lowest `width` bytes of a number, the least significant first. -/
def littleEndian (width n : Nat) : List UInt8 :=
  (List.range width).map fun k => UInt8.ofNat (n / 256 ^ k)

theorem ofWord16_eq_littleEndian (w : UInt16) : ofWord16 w = littleEndian 2 w.toNat := by
  have h0 : w.toUInt8 = UInt8.ofNat (w.toNat / 256 ^ 0) := UInt8.toNat_inj.1 (by simp)
  have h1 : (w >>> 8).toUInt8 = UInt8.ofNat (w.toNat / 256 ^ 1) :=
    UInt8.toNat_inj.1 (by simp [Nat.shiftRight_eq_div_pow])
  rw [ofWord16, h0, h1]
  rfl

theorem toUInt8_shiftRight (w s : UInt32) (k : Nat) (hs : s.toNat % 32 = 8 * k) :
    (w >>> s).toUInt8 = UInt8.ofNat (w.toNat / 256 ^ k) := by
  apply UInt8.toNat_inj.1
  rw [UInt32.toNat_toUInt8, UInt32.toNat_shiftRight, UInt8.toNat_ofNat', hs,
    Nat.shiftRight_eq_div_pow, Nat.pow_mul]

theorem ofWord32_eq_littleEndian (w : UInt32) : ofWord32 w = littleEndian 4 w.toNat := by
  have h0 : w.toUInt8 = UInt8.ofNat (w.toNat / 256 ^ 0) := UInt8.toNat_inj.1 (by simp)
  rw [ofWord32, h0, toUInt8_shiftRight w 8 1 rfl, toUInt8_shiftRight w 16 2 rfl,
    toUInt8_shiftRight w 24 3 rfl]
  rfl

end Bytes

/-- The values of the data in order, each little-endian. -/
def BufferData.littleEndian : BufferData → List UInt8
  | bytes data => data
  | words16 data => data.flatMap fun w => Bytes.littleEndian 2 w.toNat
  | words32 data => data.flatMap fun w => Bytes.littleEndian 4 w.toNat
  | vectors data => data.flatMap fun v => v.toList.flatMap fun w => Bytes.littleEndian 4 w.toNat

theorem BufferData.toBytes_eq_littleEndian (data : BufferData) :
    data.toBytes = data.littleEndian := by
  have hwords : Bytes.ofWord32 = fun w => Bytes.littleEndian 4 w.toNat :=
    funext Bytes.ofWord32_eq_littleEndian
  cases data with
  | bytes data => rfl
  | words16 data =>
    exact congrArg (fun f => data.flatMap f) (funext Bytes.ofWord16_eq_littleEndian)
  | words32 data => rw [toBytes, littleEndian, hwords]
  | vectors data => rw [toBytes, littleEndian, hwords]

/-! ## Numbers -/

/-- Numbers given out one after the other from one on, and the number that comes next. -/
structure Numbered (given : List UInt64) (next : UInt64) : Prop where
  given_eq : given = (List.range given.length).map fun i => UInt64.ofNat (i + 1)
  next_eq : next = UInt64.ofNat (given.length + 1)

namespace Numbered

variable {given : List UInt64} {next : UInt64}

theorem nil : Numbered [] 1 := ⟨rfl, rfl⟩

theorem concat (h : Numbered given next) : Numbered (given ++ [next]) (next + 1) := by
  have hlength : (given ++ [next]).length = given.length + 1 := List.length_append
  constructor
  · rw [hlength, List.range_succ, List.map_append, ← h.given_eq, List.map_singleton, ← h.next_eq]
  · rw [hlength, h.next_eq]
    exact (UInt64.ofNat_add (given.length + 1) 1).symm

/-- Numbers repeat only after all of them have been given out. -/
theorem nodup (h : Numbered given next) (hlt : given.length < 2 ^ 64) : given.Nodup := by
  rw [h.given_eq]
  refine List.nodup_range.map_on fun i hi j hj hij => ?_
  -- both numbers are below the word size, so equal words are equal numbers
  rw [List.mem_range] at hi hj
  have hnat := congrArg UInt64.toNat hij
  rw [UInt64.toNat_ofNat', UInt64.toNat_ofNat', Nat.mod_eq_of_lt (by omega),
    Nat.mod_eq_of_lt (by omega)] at hnat
  omega

end Numbered

/-! ## Bindings -/

namespace Resources

variable {r : Resources}

theorem hasBuffer_addBuffer {id : BufferId} (h : r.hasBuffer id = true) (bytes : List UInt8) :
    (r.addBuffer bytes).hasBuffer id = true := by
  simp only [hasBuffer, contents?, addBuffer, List.lookup_cons] at h ⊢
  split
  · rfl
  · exact h

theorem hasTexture_addTexture {id : TextureId} (h : r.hasTexture id = true) :
    r.addTexture.hasTexture id = true := by
  simp only [hasTexture, addTexture, List.contains_cons, Bool.or_eq_true] at h ⊢
  exact .inr h

end Resources

namespace Hardware

/-- Only resources of the device are bound. -/
structure BindsOwn (h : Hardware) : Prop where
  texture : ∀ sampler id, h.read (.texture sampler) = some id → h.resources.hasTexture id = true
  stream : ∀ source, h.bindings.streamSource = some source →
    h.resources.hasBuffer source.buffer = true
  index : ∀ id, h.bindings.indexBuffer = some id → h.resources.hasBuffer id = true

variable {h : Hardware}

theorem bindsOwn_unbound {h : Hardware} (hb : h.bindings = {}) : h.BindsOwn where
  texture sampler id hid := by
    rw [read, hb] at hid
    cases sampler <;> cases hid
  stream source hs := by
    rw [hb] at hs
    cases hs
  index id hid := by
    rw [hb] at hid
    cases hid

/-- A command binds nothing before its handle has been checked. -/
theorem bindsOwn_apply (hown : h.BindsOwn) {c : Command} (hr : h.argumentRefusal? c = none) :
    (h.apply c).BindsOwn := by
  -- three commands bind resources, each after it has looked for its handle
  cases c with
  | setTexture sampler texture =>
    refine ⟨fun other id hid => ?_, hown.stream, hown.index⟩
    -- the sampler that is written has the new texture, any other the one that it had
    by_cases hsame : other = sampler
    · subst hsame
      obtain rfl : texture = some id := (Vector.getElem_set_self _).symm.trans hid
      show h.resources.hasTexture id = true
      simpa [argumentRefusal?] using hr
    · refine hown.texture other id ((read_apply_of_notMem ?_).symm.trans hid)
      intro hmem
      exact hsame (Location.texture.inj (List.mem_singleton.1 hmem))
  | setStreamSource stream buffer offset stride =>
    refine ⟨hown.texture, fun source hs => ?_, hown.index⟩
    obtain rfl := Option.some.inj hs
    simp only [argumentRefusal?, bufferRefusal?] at hr
    split at hr
    · split at hr
      · assumption
      · cases hr
    · cases hr
  | setIndices buffer =>
    refine ⟨hown.texture, hown.stream, fun id hid => ?_⟩
    obtain rfl := Option.some.inj hid
    simp only [argumentRefusal?, bufferRefusal?] at hr
    split at hr
    · assumption
    · cases hr
  | _ => exact ⟨hown.texture, hown.stream, hown.index⟩

theorem bindsOwn_exec (hown : h.BindsOwn) (c : Command) : (h.exec c).2.BindsOwn := by
  cases hr : h.refusal? c with
  | some e =>
    rw [exec_of_refused hr]
    exact hown
  | none =>
    rw [exec_of_accepted hr]
    exact bindsOwn_apply hown (Option.or_eq_none_iff.1 hr).2

end Hardware

/-! ## What a history tells -/

namespace Device

/-- The action can give out a handle. -/
def Action.creates : Action → Bool
  | .createBuffer _ | .createTexture => true
  | _ => false

/-- The buffer that an action created, with its bytes. -/
def createdBuffer? : Action × Answer → Option (BufferId × List UInt8)
  | (.createBuffer bytes, .buffer id) => some (id, bytes)
  | _ => none

/-- The texture that an action created. -/
def createdTexture? : Action × Answer → Option TextureId
  | (.createTexture, .texture id) => some id
  | _ => none

/-- The action was a draw, and the device carried it out. -/
def drew : Action × Answer → Bool
  | (.call (.drawIndexedPrimitive _), .called (.ok _)) => true
  | _ => false

/-- The buffers that were created, the first one first. -/
def createdBuffers (past : List (Action × Answer)) : List (BufferId × List UInt8) :=
  past.filterMap createdBuffer?

/-- The textures that were created, the first one first. -/
def createdTextures (past : List (Action × Answer)) : List TextureId :=
  past.filterMap createdTexture?

theorem createdBuffers_concat (past : List (Action × Answer)) (p : Action × Answer) :
    createdBuffers (past ++ [p]) = createdBuffers past ++ (createdBuffer? p).toList :=
  filterMap_concat ..

theorem createdTextures_concat (past : List (Action × Answer)) (p : Action × Answer) :
    createdTextures (past ++ [p]) = createdTextures past ++ (createdTexture? p).toList :=
  filterMap_concat ..

theorem createdBuffers_idle {p : Action × Answer} (past : List (Action × Answer))
    (h : createdBuffer? p = none) : createdBuffers (past ++ [p]) = createdBuffers past := by
  rw [createdBuffers_concat, h, Option.toList_none, List.append_nil]

theorem createdTextures_idle {p : Action × Answer} (past : List (Action × Answer))
    (h : createdTexture? p = none) : createdTextures (past ++ [p]) = createdTextures past := by
  rw [createdTextures_concat, h, Option.toList_none, List.append_nil]

theorem creates_of_createdBuffer? (p : Action × Answer) (h : (createdBuffer? p).isSome = true) :
    p.1.creates = true := by
  revert h
  fun_cases createdBuffer? p <;> simp [Action.creates]

theorem creates_of_createdTexture? (p : Action × Answer) (h : (createdTexture? p).isSome = true) :
    p.1.creates = true := by
  revert h
  fun_cases createdTexture? p <;> simp [Action.creates]

theorem length_filterMap_le_countP {α : Type} {f : Action × Answer → Option α}
    (hf : ∀ p, (f p).isSome = true → p.1.creates = true) (past : List (Action × Answer)) :
    (past.filterMap f).length ≤ (past.map Prod.fst).countP Action.creates := by
  rw [List.length_filterMap_eq_countP, List.countP_map]
  exact List.countP_mono_left fun p _ => hf p

/-! ## One action -/

variable {d : Device} {past : List (Action × Answer)}

/-- The resources of a device are those that were created, under numbers in a row. -/
structure Issued (past : List (Action × Answer)) (r : Resources) : Prop where
  buffers : r.buffers = (createdBuffers past).reverse
  textures : r.textures = (createdTextures past).reverse
  bufferNumbers : Numbered ((createdBuffers past).map (·.1.val)) r.nextBuffer
  textureNumbers : Numbered ((createdTextures past).map (·.val)) r.nextTexture

namespace Issued

variable {r : Resources}

theorem addBuffer (h : Issued past r) (bytes : List UInt8) :
    Issued (past ++ [(.createBuffer bytes, .buffer ⟨r.nextBuffer⟩)]) (r.addBuffer bytes) := by
  have htextures : createdTextures (past ++ [(.createBuffer bytes, .buffer ⟨r.nextBuffer⟩)]) =
      createdTextures past := createdTextures_idle past rfl
  constructor
  · rw [createdBuffers_concat, List.reverse_append, ← h.buffers]
    rfl
  · rw [htextures]
    exact h.textures
  · rw [createdBuffers_concat, List.map_append]
    exact h.bufferNumbers.concat
  · rw [htextures]
    exact h.textureNumbers

theorem addTexture (h : Issued past r) :
    Issued (past ++ [(.createTexture, .texture ⟨r.nextTexture⟩)]) r.addTexture := by
  have hbuffers : createdBuffers (past ++ [(.createTexture, .texture ⟨r.nextTexture⟩)]) =
      createdBuffers past := createdBuffers_idle past rfl
  constructor
  · rw [hbuffers]
    exact h.buffers
  · rw [createdTextures_concat, List.reverse_append, ← h.textures]
    rfl
  · rw [hbuffers]
    exact h.bufferNumbers
  · rw [createdTextures_concat, List.map_append]
    exact h.textureNumbers.concat

/-- An action that creates nothing and keeps the resources is of no account. -/
theorem idle (h : Issued past r) {p : Action × Answer} (hbuffer : createdBuffer? p = none)
    (htexture : createdTexture? p = none) : Issued (past ++ [p]) r := by
  have hbuffers := createdBuffers_idle past hbuffer
  have htextures := createdTextures_idle past htexture
  exact ⟨hbuffers ▸ h.buffers, htextures ▸ h.textures, hbuffers ▸ h.bufferNumbers,
    htextures ▸ h.textureNumbers⟩

theorem nodup_buffers (h : Issued past r) (hlt : (createdBuffers past).length < 2 ^ 64) :
    ((createdBuffers past).map Prod.fst).Nodup := by
  refine List.Nodup.of_map BufferId.val ?_
  rw [List.map_map]
  exact h.bufferNumbers.nodup (by rwa [List.length_map])

theorem nodup_textures (h : Issued past r) (hlt : (createdTextures past).length < 2 ^ 64) :
    (createdTextures past).Nodup :=
  List.Nodup.of_map TextureId.val (h.textureNumbers.nodup (by rwa [List.length_map]))

theorem contents?_eq_none_iff (h : Issued past r) (id : BufferId) :
    r.contents? id = none ↔ id ∉ (createdBuffers past).map Prod.fst := by
  rw [Resources.contents?, h.buffers, List.lookup_eq_none_iff, List.mem_map]
  constructor
  · rintro hne ⟨p, hp, rfl⟩
    exact bne_iff_ne.1 (hne p (List.mem_reverse.2 hp)) rfl
  · intro hnone p hp
    exact bne_iff_ne.2 fun hid => hnone ⟨p, List.mem_reverse.1 hp, hid.symm⟩

theorem hasBuffer_iff (h : Issued past r) (id : BufferId) :
    r.hasBuffer id = true ↔ id ∈ (createdBuffers past).map Prod.fst := by
  rw [Resources.hasBuffer, Option.isSome_iff_ne_none, Ne, h.contents?_eq_none_iff,
    Decidable.not_not]

theorem hasTexture_iff (h : Issued past r) (id : TextureId) :
    r.hasTexture id = true ↔ id ∈ createdTextures past := by
  rw [Resources.hasTexture, h.textures, List.contains_iff_mem, List.mem_reverse]

/-- Under different handles, each buffer is found under its own. -/
theorem contents?_of_mem (h : Issued past r)
    (hnodup : ((createdBuffers past).map Prod.fst).Nodup) {id : BufferId} {bytes : List UInt8}
    (hmem : (id, bytes) ∈ createdBuffers past) : r.contents? id = some bytes := by
  rw [← List.mem_reverse, ← h.buffers] at hmem
  have hkeys : (r.buffers.map Prod.fst).Nodup := by
    rw [h.buffers, List.map_reverse]
    exact List.nodup_reverse.2 hnodup
  obtain ⟨newer, older, hsplit⟩ := List.append_of_mem hmem
  refine List.lookup_eq_some_iff.2 ⟨newer, older, hsplit, fun p hp => bne_iff_ne.2 ?_⟩
  rintro rfl
  rw [hsplit, List.map_append, List.map_cons] at hkeys
  exact List.disjoint_of_nodup_append hkeys (List.mem_map_of_mem hp) List.mem_cons_self

end Issued

theorem issued_act (h : Issued past d.hardware.resources) (a : Action) :
    Issued (past ++ [(a, (d.act a).answer)]) (d.act a).state.hardware.resources := by
  cases a with
  | createBuffer bytes => exact h.addBuffer bytes
  | createTexture => exact h.addTexture
  | call c =>
    have hsame : (d.act (.call c)).state.hardware.resources = d.hardware.resources :=
      (Hardware.alike_exec d.hardware c).resources
    rw [hsame]
    exact h.idle rfl rfl
  | _ => exact h.idle rfl rfl

theorem bindsOwn_act (h : d.hardware.BindsOwn) (a : Action) :
    (d.act a).state.hardware.BindsOwn := by
  cases a with
  | call c => exact Hardware.bindsOwn_exec h c
  | createBuffer bytes =>
    exact ⟨h.texture, fun source hs => Resources.hasBuffer_addBuffer (h.stream source hs) bytes,
      fun id hid => Resources.hasBuffer_addBuffer (h.index id hid) bytes⟩
  | createTexture =>
    exact ⟨fun sampler id hid => Resources.hasTexture_addTexture (h.texture sampler id hid),
      h.stream, h.index⟩
  | reset => exact Hardware.bindsOwn_unbound rfl
  | _ => exact ⟨h.texture, h.stream, h.index⟩

theorem sizes_act (d : Device) (a : Action) :
    (d.act a).state.hardware.vertexRegisters.size = d.hardware.vertexRegisters.size ∧
      (d.act a).state.hardware.pixelRegisters.size = d.hardware.pixelRegisters.size := by
  cases a with
  | call c =>
    have halike := Hardware.alike_exec d.hardware c
    exact ⟨halike.vertexSize, halike.pixelSize⟩
  | _ => exact ⟨rfl, rfl⟩

theorem drawCount_act (d : Device) (a : Action) :
    (d.act a).state.hardware.drawCount =
      d.hardware.drawCount + if drew (a, (d.act a).answer) then 1 else 0 := by
  cases a with
  | call c =>
    show (d.hardware.exec c).2.drawCount =
      d.hardware.drawCount + if drew (.call c, .called (d.hardware.exec c).1) then 1 else 0
    -- a refused draw is not counted, and it answers that it was refused
    cases hr : d.hardware.refusal? c with
    | some e =>
      rw [Hardware.exec_of_refused hr, if_neg (by cases c <;> exact Bool.false_ne_true),
        UInt32.add_zero]
    | none =>
      rw [Hardware.exec_of_accepted hr]
      cases c with
      | drawIndexedPrimitive draw => rfl
      | _ => exact (UInt32.add_zero _).symm
  | _ => exact (UInt32.add_zero _).symm

/-! ## Runs -/

theorem issued_run (vertex pixel : Nat) (as : List Action) :
    Issued ((ofSizes vertex pixel).history as)
      ((ofSizes vertex pixel).run as).state.hardware.resources := by
  refine runAll_induction (P := fun past (d : Device) => Issued past d.hardware.resources) ?_ ?_ as
  · exact ⟨rfl, rfl, .nil, .nil⟩
  · exact fun past d a h => issued_act h a

theorem bindsOwn_run (vertex pixel : Nat) (as : List Action) :
    ((ofSizes vertex pixel).run as).state.hardware.BindsOwn :=
  runAll_induction (P := fun _ (d : Device) => d.hardware.BindsOwn) (Hardware.bindsOwn_unbound rfl)
    (fun _ _ a h => bindsOwn_act h a) as

theorem sizes_run (vertex pixel : Nat) (as : List Action) :
    let d := ((ofSizes vertex pixel).run as).state
    d.hardware.vertexRegisters.size = vertex ∧ d.hardware.pixelRegisters.size = pixel := by
  refine runAll_induction (P := fun _ (d : Device) =>
    d.hardware.vertexRegisters.size = vertex ∧ d.hardware.pixelRegisters.size = pixel) ?_ ?_ as
  · exact ⟨Array.size_replicate, Array.size_replicate⟩
  · rintro - d a ⟨hvertex, hpixel⟩
    exact ⟨(sizes_act d a).1.trans hvertex, (sizes_act d a).2.trans hpixel⟩

theorem drawCount_run (vertex pixel : Nat) (as : List Action) :
    ((ofSizes vertex pixel).run as).state.hardware.drawCount =
      UInt32.ofNat (((ofSizes vertex pixel).history as).countP drew) := by
  refine runAll_induction
    (P := fun past (d : Device) => d.hardware.drawCount = UInt32.ofNat (past.countP drew)) rfl ?_ as
  intro past d a h
  rw [drawCount_act, h, List.countP_append, List.countP_singleton, UInt32.ofNat_add]
  split <;> rfl

/-- **A device owns what it created and nothing else.** Let a new device be used in any way, as long
as fewer than `2 ^ 64 - 1` resources are created and fewer than `2 ^ 32` draws succeed. Then no
handle has been given out twice; every buffer holds the bytes it was created with, values
little-endian and in order, and no other handle has any; what is bound are resources that were
created; the register files are as long as they were; and the draws that succeeded have been
counted. -/
theorem resources_run (vertex pixel : Nat) (as : List Action)
    (hcreated : as.countP Action.creates < 2 ^ 64 - 1)
    (hdrawn : ((ofSizes vertex pixel).history as).countP drew < 2 ^ 32) :
    let past := (ofSizes vertex pixel).history as
    let h := ((ofSizes vertex pixel).run as).state.hardware
    let buffers := (createdBuffers past).map Prod.fst
    (buffers.Nodup ∧ (createdTextures past).Nodup) ∧
    (∀ data id, (.createBufferFrom data, .buffer id) ∈ past →
      h.resources.contents? id = some data.littleEndian) ∧
    (∀ id, id ∉ buffers → h.resources.contents? id = none) ∧
    (∀ sampler id, h.read (.texture sampler) = some id → id ∈ createdTextures past) ∧
    (∀ source, h.bindings.streamSource = some source → source.buffer ∈ buffers) ∧
    (∀ id, h.bindings.indexBuffer = some id → id ∈ buffers) ∧
    (h.vertexRegisters.size = vertex ∧ h.pixelRegisters.size = pixel) ∧
    h.drawCount.toNat = past.countP drew := by
  intro past h buffers
  have hissued : Issued past h.resources := issued_run vertex pixel as
  have hown : h.BindsOwn := bindsOwn_run vertex pixel as
  have hpast : past.map Prod.fst = as := map_fst_historyOf _ as
  -- fewer creations than numbers: the handles of either kind are distinct
  have hnodup : buffers.Nodup := by
    have hle := length_filterMap_le_countP creates_of_createdBuffer? past
    rw [hpast] at hle
    exact hissued.nodup_buffers (Nat.lt_of_le_of_lt hle (by omega))
  have hnodup' : (createdTextures past).Nodup := by
    have hle := length_filterMap_le_countP creates_of_createdTexture? past
    rw [hpast] at hle
    exact hissued.nodup_textures (Nat.lt_of_le_of_lt hle (by omega))
  refine ⟨⟨hnodup, hnodup'⟩, fun data id hmem => ?_, fun id => (hissued.contents?_eq_none_iff id).2,
    fun sampler id hid => ?_, fun source hs => ?_, fun id hid => ?_, sizes_run vertex pixel as, ?_⟩
  · rw [← data.toBytes_eq_littleEndian]
    exact hissued.contents?_of_mem hnodup (List.mem_filterMap.2 ⟨_, hmem, rfl⟩)
  · exact (hissued.hasTexture_iff id).1 (hown.texture sampler id hid)
  · exact (hissued.hasBuffer_iff source.buffer).1 (hown.stream source hs)
  · exact (hissued.hasBuffer_iff id).1 (hown.index id hid)
  · rw [show h.drawCount = _ from drawCount_run vertex pixel as, UInt32.toNat_ofNat',
      Nat.mod_eq_of_lt hdrawn]

/-- Two buffers, three 16-bit words and a vector of two NaNs, a zero and a one, and one draw before
the device is lost. Each NaN keeps its own pattern. -/
theorem resources_run_draw :
    let draw : Command := .drawIndexedPrimitive ⟨.triangleList, 0, 0, 3, 0, 1⟩
    let vectors := .vectors [#v[0x7fc00001, 0xffc00000, 0x80000000, 0x3f800000]]
    let as := [.createBufferFrom (.words16 [0, 1, 515]), .createBufferFrom vectors,
      .createTexture, .call (.setStreamSource 0 ⟨2⟩ 0 36), .call (.setIndices ⟨1⟩),
      .call (.setTexture .diffuse (some ⟨1⟩)), .call (.setTexture .specular (some ⟨5⟩)),
      .call draw, .lose, .call draw]
    let h := ((ofSizes 2 1).run as).state.hardware
    h.resources.contents? ⟨1⟩ = some [0, 0, 1, 0, 3, 2] ∧
      h.resources.contents? ⟨2⟩ =
        some [1, 0, 192, 127, 0, 0, 192, 255, 0, 0, 0, 128, 0, 0, 128, 63] ∧
      h.resources.contents? ⟨3⟩ = none ∧ h.drawCount.toNat = 1 := by
  intro draw vectors as h
  obtain ⟨-, hcontents, hnone, -, -, -, -, hdraws⟩ :=
    resources_run 2 1 as (by decide) (by decide)
  exact ⟨hcontents (.words16 [0, 1, 515]) ⟨1⟩ List.mem_cons_self,
    hcontents vectors ⟨2⟩ (List.mem_cons_of_mem _ List.mem_cons_self),
    hnone ⟨3⟩ (by decide), hdraws⟩

end Device

end LitMesh
