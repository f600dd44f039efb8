import VoxelGrid.Storage.Access

/-! What is read after a write. Writing replaces files only, so a path that leads to a place goes on
leading there. -/

namespace VoxelGrid.Storage.Store

variable {s : Store} {files : List (Place × List UInt8)} {place other : Place}
variable {content : List UInt8}

theorem get?_put : get? { s with files := put s.files place content } other =
    if other = place then some content else s.get? other := by
  unfold get?
  dsimp only
  induction s.files with
  | nil => by_cases h : other = place <;> simp [put, h, eq_comm]
  | cons entry rest ih =>
    obtain ⟨p, c⟩ := entry
    rw [put]
    -- The first entry of the place is replaced; an entry of another place stays before the rest.
    by_cases hp : p = place
    · subst hp
      by_cases h : other = p <;> simp [h, eq_comm]
    · by_cases h : p = other
      · subst h
        simp [hp]
      · simp [hp, h, ih]

theorem walk_of_files (steps : List String) :
    { s with files := files }.walk place steps = .ok other ↔ s.walk place steps = .ok other := by
  induction steps generalizing place with
  | nil => rfl
  | cons step rest ih =>
    have hdirectory : { s with files := files }.isDirectory place = s.isDirectory place := rfl
    simp only [walk, hdirectory]
    split
    · exact iff_of_false nofun nofun
    split
    · exact ih
    split
    · exact ih
    split
    · exact iff_of_false nofun nofun
    · exact ih

theorem locate_of_files {path : String} :
    { s with files := files }.locate path = .ok other ↔ s.locate path = .ok other := by
  unfold locate
  split
  · rfl
  split
  · rfl
  split
  · rfl
  · exact walk_of_files _

theorem resolve_eq_ok_iff {path : String} :
    s.resolve path = .ok place ↔ s.locate path = .ok place ∧ s.isDirectory place = false := by
  rw [resolve]
  rcases s.locate path with fault | found
  · exact iff_of_false nofun fun h => nomatch h.1
  · dsimp only [bind, Except.bind]
    cases hdirectory : s.isDirectory found with
    | true =>
      refine iff_of_false nofun ?_
      rintro ⟨⟨⟩, hplace⟩
      cases hdirectory.symm.trans hplace
    | false =>
      constructor
      · rintro ⟨⟩
        exact ⟨rfl, hdirectory⟩
      · rintro ⟨⟨⟩, -⟩
        rfl

theorem resolve_of_files {path : String} :
    { s with files := files }.resolve path = .ok place ↔ s.resolve path = .ok place := by
  rw [resolve_eq_ok_iff, resolve_eq_ok_iff, locate_of_files]
  rfl

theorem write_of_resolve {path : String} (h : s.resolve path = .ok place) (content : List UInt8) :
    s.write path content = .ok { s with files := put s.files place content } := by
  rw [write, h]
  rfl

/-- Any content can be written to the file that a path leads to. -/
def Writable (s : Store) (path : String) : Prop :=
  ∀ content, ∃ after, s.write path content = .ok after

theorem write_of_error {path : String} {fault : Fault} (h : s.resolve path = .error fault)
    (content : List UInt8) : s.write path content = .error fault := by
  rw [write, h]
  rfl

theorem writable_iff {path : String} : s.Writable path ↔ ∃ place, s.resolve path = .ok place := by
  constructor
  · intro h
    rcases hresolve : s.resolve path with fault | place
    · obtain ⟨after, hafter⟩ := h []
      rw [write_of_error hresolve] at hafter
      cases hafter
    · exact ⟨place, rfl⟩
  · rintro ⟨place, hplace⟩ content
    exact ⟨_, write_of_resolve hplace content⟩

theorem run_write {path : String} (h : s.resolve path = .ok place) (content : List UInt8) :
    (Access.write path content : StateM Store (Except Fault Unit)).run s =
      (.ok (), { s with files := put s.files place content }) := by
  simp only [Access.write, StateT.run_bind, StateT.run_get, pure_bind, write_of_resolve h content]
  rfl

theorem run_write_of_error {path : String} {fault : Fault} (h : s.resolve path = .error fault)
    (content : List UInt8) :
    (Access.write path content : StateM Store (Except Fault Unit)).run s = (.error fault, s) := by
  simp only [Access.write, StateT.run_bind, StateT.run_get, pure_bind, write_of_error h content]
  rfl

/-- What was written is read back. -/
theorem read_put {path : String} (h : s.resolve path = .ok place) :
    { s with files := put s.files place content }.read path = .ok content := by
  rw [read, resolve_of_files.mpr h]
  simp only [bind, Except.bind, get?_put, if_true]

end VoxelGrid.Storage.Store
