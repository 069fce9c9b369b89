import LitMesh.Proofs.Render.Accounts
import LitMesh.Proofs.Render.Effects

/-!
# The world matrix in the registers

A point is a row that is multiplied from the left, while a shader takes dot products with registers.
So a render uploads the columns of the world matrix, as the rows of its transpose, and leaves out
the last one, which moves no coordinate that is kept. The dot product of a point with the register
of a column is the coordinate that the matrix takes it to (`View.transform_render`), to the last
bit, because both sum the same products from `x` to `w`.
-/

namespace LitMesh

/-- The `k`-th component, counting from `x`. -/
def Vec3.entry (a : Vec3) : Fin 3 → Float32
  | 0 => a.x
  | 1 => a.y
  | 2 => a.z

namespace Mat4

theorem entry_transformPoint (m : Mat4) (p : Vec3) (k : Fin 3) :
    (m.transformPoint p).entry k = (p.extend 1).dot (m.col k.castSucc) := by
  match k with
  | 0 => rfl
  | 1 => rfl
  | 2 => rfl

/-- The rows that a render uploads are the first three columns. -/
theorem getElem?_rows_transpose (m : Mat4) (k : Fin 3) :
    [m.transpose.row0, m.transpose.row1, m.transpose.row2][k.val]? = some (m.col k.castSucc) := by
  match k with
  | 0 => rfl
  | 1 => rfl
  | 2 => rfl

end Mat4

namespace View

variable {v : View} {c : Context} {busy : Bool}

theorem get?_worldMatrix_render (hs : .uploadWorldMatrix ∈ v.undertaken c busy)
    (hclear : ∀ f ∈ (v.render c busy).answer.failures, f.step ≠ .uploadWorldMatrix) (k : Fin 3) :
    (v.render c busy).state.2.device.hardware.vertexRegisters.get?
      (v.config.registers.worldMatrix + UInt32.ofNat k) = some (c.world.col k.castSucc) := by
  obtain ⟨m, hdraw, hattempted⟩ := draw_of_mem_undertaken hs nofun
  rw [hdraw] at hclear ⊢
  have hprep : .uploadWorldMatrix ∈ v.preparations c :=
    (v.mem_preparations c).2 ⟨hattempted, nofun⟩
  have hholds : (v.draw m c).state.2.device.hardware.vertexRegisters.Holds
      v.config.registers.worldMatrix.toNat
      [c.world.transpose.row0, c.world.transpose.row1, c.world.transpose.row2] :=
    effect_draw_of_mem_preparations hprep hclear
  -- a usable block ends within the register numbers
  have hstop := Layout.stop_le v.valid.registers .worldMatrix
  rw [hholds.get?_add hstop k.isLt, ← List.getElem?_eq_getElem]
  exact c.world.getElem?_rows_transpose k

/-- **The registers transform points as the world matrix does.** After a render that attempted to
upload the world matrix and does not report it, each of the three registers from `worldMatrix` on
holds a column of the matrix, from the top row to the bottom. So the dot product of any point, with
`1` as its fourth coordinate, with the register of column `k` is coordinate `k` of the image of the
point, bit by bit. -/
theorem transform_render (v : View) (c : Context) (busy : Bool)
    (hs : .uploadWorldMatrix ∈ v.undertaken c busy)
    (hclear : ∀ f ∈ (v.render c busy).answer.failures, f.step ≠ .uploadWorldMatrix)
    (p : Vec3) (k : Fin 3) :
    ∃ register : Vec4,
      (v.render c busy).state.2.device.hardware.vertexRegisters.get?
        (v.config.registers.worldMatrix + UInt32.ofNat k) = some register ∧
      (∀ i, register.entry i = (c.world.row i).entry k.castSucc) ∧
      (p.extend 1).dot register = (c.world.transformPoint p).entry k :=
  ⟨c.world.col k.castSucc, get?_worldMatrix_render hs hclear k,
    fun i => c.world.row_col i k.castSucc, (c.world.entry_transformPoint p k).symm⟩

/-- A device that has room for the matrix, no pixel registers and no buffers. The column of `y`
holds the translation by `6`, which takes `2` to `8`. -/
theorem transform_render_translated :
    let v := { View.new ⟨.phong, ⟨1⟩, ⟨2⟩, 4, 6⟩ with material := some default }
    let c : Context :=
      { device := .ofSizes 33 0, shaders := .empty ⟨0⟩, world := .translation ⟨5, 6, 7⟩ }
    ∃ register : Vec4,
      (v.render c false).state.2.device.hardware.vertexRegisters.get? 31 = some register ∧
      register.w = 6 ∧ Vec4.dot ⟨1, 2, 3, 1⟩ register = 8 := by
  intro v c
  have hs : .uploadWorldMatrix ∈ v.undertaken c false := by decide
  have hclear : ∀ f ∈ (v.render c false).answer.failures, f.step ≠ .uploadWorldMatrix := by
    intro f hf hstep
    have hcause := mem_failures_render.1 hf
    rw [hstep] at hcause
    cases hcause
  obtain ⟨register, hget, hcol, hdot⟩ := transform_render v c false hs hclear ⟨1, 2, 3⟩ 1
  exact ⟨register, hget, hcol 3, hdot.trans (by decide +kernel)⟩

end View

end LitMesh
