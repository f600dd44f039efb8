import VoxelGrid.Layout.Address
import VoxelGrid.Proofs.Layout.Basic
import VoxelGrid.Proofs.Mask

/-! Addresses under a layout whose exponents are not negative. The chunk is the floor of the
quotient by the extent and the block is the remainder, so that a position and its address determine
each other. -/

namespace VoxelGrid

theorem chunkIndex_of_nonneg (w : Int) {power : Int} (h : 0 ≤ power) :
    chunkIndex w power = .ok (w / 2 ^ power.toNat) := by
  rw [chunkIndex, shiftRight_of_nonneg _ h]
  rfl

theorem chunkPosition_of_nonNegative {l : Layout} (h : l.NonNegative) (p : Position) :
    chunkPosition p l.powers =
      .ok ⟨p.x / l.extents.x, p.y / l.extents.y, p.z / l.extents.z⟩ := by
  refine Triple.traverse_eq_ok_iff.mpr fun axis => ?_
  rw [chunkIndex_of_nonneg _ (h axis)]
  cases axis <;> rfl

theorem Layout.split_of_nonNegative {l : Layout} (h : l.NonNegative) (p : Position) :
    l.split p = .ok ⟨⟨p.x / l.extents.x, p.y / l.extents.y, p.z / l.extents.z⟩,
      ⟨p.x % l.extents.x, p.y, p.z % l.extents.z⟩⟩ := by
  have hblock : blockPosition p (l.extents.map (· - 1)) =
      ⟨p.x % l.extents.x, p.y, p.z % l.extents.z⟩ := by
    rw [blockPosition, verticalOffset]
    congr 1 <;> exact maskBits_two_pow_sub_one _ _
  rw [split, chunkPosition_of_nonNegative h, masks_of_nonNegative h, ← hblock]
  rfl

theorem ediv_eq_and_emod_eq_iff (w chunk : Int) {size block : Int} (hlow : 0 ≤ block)
    (hhigh : block < size) : w / size = chunk ∧ w % size = block ↔ w = chunk * size + block := by
  rw [Int.ediv_emod_unique (hlow.trans_lt hhigh), mul_comm, add_comm]
  constructor
  · rintro ⟨h, -, -⟩
    exact h.symm
  · rintro rfl
    exact ⟨rfl, hlow, hhigh⟩

namespace Layout

theorem fdiv_extents (l : Layout) (axis : Axis) (w : Int) :
    w.fdiv (l.extents.get axis) = w / l.extents.get axis :=
  Int.fdiv_eq_ediv_of_nonneg w (l.extents_pos axis).le

theorem split_eq_ok_iff {l : Layout} (h : l.NonNegative) {cx cz y bx bz : Int}
    (hbx : 0 ≤ bx) (hbx' : bx < l.extents.x) (hbz : 0 ≤ bz) (hbz' : bz < l.extents.z)
    {p : Position} : l.split p = .ok ⟨⟨cx, y / l.extents.y, cz⟩, ⟨bx, y, bz⟩⟩ ↔
      p = ⟨cx * l.extents.x + bx, y, cz * l.extents.z + bz⟩ := by
  rcases p with ⟨px, py, pz⟩
  have hpx := ediv_eq_and_emod_eq_iff px cx hbx hbx'
  have hpz := ediv_eq_and_emod_eq_iff pz cz hbz hbz'
  rw [split_of_nonNegative h]
  simp only [Except.ok.injEq, Address.mk.injEq, Triple.mk.injEq]
  rw [← hpx, ← hpz]
  -- the chunk's height follows from that of the block, so it restricts nothing
  constructor
  · rintro ⟨⟨hcx, -, hcz⟩, hx, hy, hz⟩
    exact ⟨⟨hcx, hx⟩, hy, hcz, hz⟩
  · rintro ⟨⟨hcx, hx⟩, rfl, hcz, hz⟩
    exact ⟨⟨hcx, rfl, hcz⟩, hx, rfl, hz⟩

/-- Every position has an address from which it can be told, and every address with its block inside
the chunk, at the height that the chunk covers, belongs to one position. -/
theorem split_decomposes {l : Layout} (h : l.NonNegative) :
    l.sizes = .ok l.extents ∧
      (∀ p, ∃ a, l.split p = .ok a ∧
        a.chunk = ⟨p.x.fdiv l.extents.x, p.y.fdiv l.extents.y, p.z.fdiv l.extents.z⟩ ∧
        a.block.y = p.y ∧
        (0 ≤ a.block.x ∧ a.block.x < l.extents.x) ∧ (0 ≤ a.block.z ∧ a.block.z < l.extents.z) ∧
        a.chunk.x * l.extents.x + a.block.x = p.x ∧ a.chunk.z * l.extents.z + a.block.z = p.z) ∧
      ∀ cx cz y bx bz : Int, 0 ≤ bx → bx < l.extents.x → 0 ≤ bz → bz < l.extents.z → ∀ p,
        l.split p = .ok ⟨⟨cx, y.fdiv l.extents.y, cz⟩, ⟨bx, y, bz⟩⟩ ↔
          p = ⟨cx * l.extents.x + bx, y, cz * l.extents.z + bz⟩ := by
  have hx : 0 < l.extents.x := l.extents_pos .x
  have hz : 0 < l.extents.z := l.extents_pos .z
  refine ⟨sizes_of_nonNegative h, fun p => ?_, ?_⟩
  · refine ⟨_, split_of_nonNegative h p, ?_, rfl, ?_, ?_, ?_, ?_⟩
    · have hfx : p.x.fdiv l.extents.x = p.x / l.extents.x := l.fdiv_extents .x p.x
      have hfy : p.y.fdiv l.extents.y = p.y / l.extents.y := l.fdiv_extents .y p.y
      have hfz : p.z.fdiv l.extents.z = p.z / l.extents.z := l.fdiv_extents .z p.z
      rw [hfx, hfy, hfz]
    · exact ⟨Int.emod_nonneg _ hx.ne', Int.emod_lt_of_pos _ hx⟩
    · exact ⟨Int.emod_nonneg _ hz.ne', Int.emod_lt_of_pos _ hz⟩
    · exact Int.ediv_mul_add_emod ..
    · exact Int.ediv_mul_add_emod ..
  · intro cx cz y bx bz hbx hbx' hbz hbz' p
    have hy : y.fdiv l.extents.y = y / l.extents.y := l.fdiv_extents .y y
    rw [hy]
    exact split_eq_ok_iff h hbx hbx' hbz hbz'

theorem split_decomposes_standard :
    standard.NonNegative ∧ standard.extents = ⟨32, 64, 32⟩ ∧
      standard.split ⟨-33, 70, 12⟩ = .ok ⟨⟨-2, 1, 0⟩, ⟨31, 70, 12⟩⟩ ∧
        ∀ p, standard.split p = .ok ⟨⟨-2, 1, 0⟩, ⟨31, 70, 12⟩⟩ → p = ⟨-33, 70, 12⟩ := by
  have h : standard.NonNegative := by rintro (_ | _ | _) <;> decide
  have hiff := (split_decomposes h).2.2 (-2) 0 70 31 12 (by decide) (by decide) (by decide)
    (by decide)
  exact ⟨h, rfl, (hiff ⟨-33, 70, 12⟩).mpr rfl, fun p hp => (hiff p).mp hp⟩

end Layout

end VoxelGrid
