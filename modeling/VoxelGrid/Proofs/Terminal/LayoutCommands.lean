import VoxelGrid.Proofs.Layout.SaveLoad
import VoxelGrid.Proofs.Layout.Split
import VoxelGrid.Proofs.Terminal.Command

/-! The commands that write a preset to a layout file and address blocks by a layout file or a preset.
A preset that was written and the preset itself give one and the same table. -/

namespace VoxelGrid

open Storage (Store Place)

namespace Preset

variable {name : String} {l : Layout}

theorem exists_mem_of_find? (h : find? name = some l) :
    ∃ p ∈ all, p.name = normalize name ∧ p.layout = l := by
  obtain ⟨p, hp, hlayout⟩ := Option.map_eq_some_iff.mp h
  exact ⟨p, List.mem_of_find?_eq_some hp, by simpa using List.find?_some hp, hlayout⟩

/-- Every preset passes the check of a layout file. -/
theorem validate_draft_of_find? (h : find? name = some l) : l.draft.validate = .ok l := by
  have hall : ∀ p ∈ all, p.layout.draft.validate = .ok p.layout := by
    simp only [all, List.forall_mem_cons]
    exact ⟨rfl, rfl, rfl, rfl, rfl, nofun⟩
  obtain ⟨p, hp, -, rfl⟩ := exists_mem_of_find? h
  exact hall p hp

theorem nonNegative_of_find? (h : find? name = some l) : l.NonNegative :=
  fun axis => (Draft.validate_eq_ok_iff.mp (validate_draft_of_find? h) axis).2.1

/-- A hyphen stands for an underscore, and no preset's name begins with one. -/
theorem head?_ne_of_find? (h : find? name = some l) : name.toList.head? ≠ some '-' := by
  have hall : ∀ p ∈ all, p.name.toList.head? ≠ some '_' := by
    simp only [all, List.forall_mem_cons]
    refine ⟨?_, ?_, ?_, ?_, ?_, nofun⟩ <;> decide
  obtain ⟨p, hp, hname, -⟩ := exists_mem_of_find? h
  intro hhead
  apply hall p hp
  rw [hname, normalize, String.toList_map, List.head?_map, hhead]
  rfl

end Preset

namespace Terminal

variable {host : Host} {s : Store} {name file path X Y Z : String} {x y z : Int} {l : Layout}
variable {p : Position}

/-! The commands themselves -/

theorem hasNumeral_extents (h : l.draft.validate = .ok l) (axis : Axis) :
    HasNumeral (l.extents.get axis) := by
  obtain ⟨-, hlow, hhigh⟩ := Draft.validate_eq_ok_iff.mp h axis
  have hpower : (l.powers.get axis).toNat ≤ 30 := Int.toNat_le.mpr hhigh
  have hpow : (2 : Nat) ^ (l.powers.get axis).toNat ≤ 2 ^ 30 :=
    Nat.pow_le_pow_right Nat.two_pos hpower
  have htwo : (2 : Int).natAbs = 2 := rfl
  refine hasNumeral_of_lt 10 (by decide) ?_
  rw [Layout.get_extents, Int.natAbs_pow, htwo]
  omega

/-- The table of a position with short coordinates has no long integer: chunks are nearer to the
origin than blocks, and places in a chunk are smaller than it is. -/
theorem splitOutcome_of_validate (h : l.draft.validate = .ok l) (hx : HasNumeral p.x)
    (hy : HasNumeral p.y) (hz : HasNumeral p.z) :
    ∃ sizes a, l.sizes = .ok sizes ∧ l.split p = .ok a ∧
      splitOutcome host p l = .finished 0 ((addressTable p sizes a).lines host.columns) := by
  have hnonneg : l.NonNegative := fun axis => (Draft.validate_eq_ok_iff.mp h axis).2.1
  have hsizes := Layout.sizes_of_nonNegative hnonneg
  have hsplit := Layout.split_of_nonNegative hnonneg p
  have hchunk {w : Int} (hw : HasNumeral w) (e : Int) : HasNumeral (w / e) :=
    hw.of_natAbs_le (Int.natAbs_ediv_le_natAbs w e)
  have hblock (w : Int) (axis : Axis) : HasNumeral (w % l.extents.get axis) := by
    have hpos := l.extents_pos axis
    have hlow := Int.emod_nonneg w hpos.ne'
    have hhigh := Int.emod_lt_of_pos w hpos
    exact (hasNumeral_extents h axis).of_natAbs_le (by omega)
  refine ⟨_, _, hsizes, hsplit, ?_⟩
  simp only [splitOutcome, hsizes, hsplit]
  rw [if_pos]
  simp only [addressIntegers, Triple.toList, List.forall_mem_append, List.forall_mem_cons,
    List.not_mem_nil, false_imp_iff, implies_true, and_true]
  exact ⟨⟨⟨⟨hx, hy, hz⟩, hasNumeral_extents h .x, hasNumeral_extents h .y, hasNumeral_extents h .z⟩,
    hchunk hx _, hchunk hy _, hchunk hz _⟩, hblock p.x .x, hy, hblock p.z .z⟩

theorem run_layoutCommand {place : Place} (hfile : fileName? file = some path)
    (hname : Preset.find? name = some l) (hplace : s.resolve path = .ok place) :
    ∃ lines events, (layoutCommand host name file : StateM Store (Outcome × List Event)).run s =
      ((.finished 0 lines, events),
        { s with files := Store.put s.files place (Utf8.encode l.written.text) }) := by
  have hsizes := Layout.sizes_of_nonNegative (Preset.nonNegative_of_find? hname)
  simp only [layoutCommand, hfile, hname, StateT.run_bind, Layout.run_save_of_resolve hplace, hsizes]
  exact ⟨_, _, rfl⟩

/-- A failure leaves all files alone: nothing is written before the preset is known. -/
theorem run_layoutCommand_of_not (h : Preset.find? name = none ∨
      ∀ path, fileName? file = some path → ¬s.Writable path) :
    ∃ lines, (layoutCommand host name file : StateM Store (Outcome × List Event)).run s =
      ((.finished 1 lines, []), s) := by
  rw [layoutCommand]
  cases hfile : fileName? file with
  | none => exact ⟨_, rfl⟩
  | some path =>
    cases hname : Preset.find? name with
    | none => exact ⟨_, rfl⟩
    | some l =>
      have hnot : ¬s.Writable path := (h.resolve_left (by simp [hname])) path hfile
      rcases hresolve : s.resolve path with fault | place
      · simp only [StateT.run_bind, Layout.run_save_of_error hresolve]
        exact ⟨_, rfl⟩
      · exact absurd (Store.writable_iff.mpr ⟨place, hresolve⟩) hnot

theorem run_splitCommand_of_load {preset : String} (hfile : fileName? file = some path)
    (hload : (Layout.load host.nesting path : StateM Store (Except Error Layout)).run s =
      (.ok l, s)) :
    (splitCommand host p preset (some file) : StateM Store (Outcome × List Event)).run s =
      ((splitOutcome host p l, (l.loadEvent path).toOption.toList), s) := by
  simp only [splitCommand, chosenLayout, Option.map_some, hfile, StateT.run_bind, hload]
  rfl

theorem run_splitCommand_of_find? (h : Preset.find? name = some l) :
    (splitCommand host p name none : StateM Store (Outcome × List Event)).run s =
      ((splitOutcome host p l, []), s) := by
  simp only [splitCommand, chosenLayout, Option.map_none, h]
  rfl

/-! Whole command lines -/

theorem runOn_layout {outcome : Outcome} {events : List Event} {after : Store}
    (h : name.toList.head? ≠ some '-')
    (hrun : (layoutCommand host name file : StateM Store (Outcome × List Event)).run s =
      ((outcome, events), after)) :
    runOn host s ["layout", name, "--output", file] = ((outcome, []), after) := by
  have hread : Command.layout.grammar.read? [name, "--output", file] =
      some ⟨[("output", file)], [name]⟩ := by
    rw [Grammar.isOperand_of_head?_ne rfl h]
    rfl
  exact runOn_of_command rfl hread rfl hrun

/-- Coordinates are operands, however long they are and whatever options follow them. -/
theorem runOn_split {options : List (String × String)} {rest : List String} {outcome : Outcome}
    {events : List Event} (h : ∀ a ∈ [X, Y, Z], (spelled? a).isSome)
    (hread : Command.split.grammar.read? rest = some ⟨options, []⟩)
    (himmediate : immediate? host ⟨options, [X, Y, Z]⟩ = none)
    (hrun : (Command.split.run host ⟨options, [X, Y, Z]⟩ :
      StateM Store (Outcome × List Event)).run s = ((outcome, events), s)) :
    runOn host s ("split" :: X :: Y :: Z :: rest) = ((outcome, []), s) := by
  have hoperand : ∀ a ∈ [X, Y, Z], Command.split.grammar.IsOperand a := by
    intro a ha
    obtain ⟨n, hn⟩ := Option.isSome_iff_exists.mp (h a ha)
    exact Command.takesIntegers_split.isOperand hn
  simp only [List.forall_mem_cons] at hoperand
  obtain ⟨hX, hY, hZ, -⟩ := hoperand
  have hall : Command.split.grammar.read? (X :: Y :: Z :: rest) = some ⟨options, [X, Y, Z]⟩ := by
    rw [hX, hY, hZ, hread]
    rfl
  exact runOn_of_command rfl hall himmediate hrun

section Split

variable (hX : integer? X = some x) (hY : integer? Y = some y) (hZ : integer? Z = some z)
include hX hY hZ

theorem isSome_spelled? : ∀ a ∈ [X, Y, Z], (spelled? a).isSome := by
  simp [spelled?_of_integer? hX, spelled?_of_integer? hY, spelled?_of_integer? hZ]

theorem mapM_integer? : [X, Y, Z].mapM integer? = some [x, y, z] := by
  simp [hX, hY, hZ]

theorem runOn_split_layout (hfile : fileName? file = some path)
    (hload : (Layout.load host.nesting path : StateM Store (Except Error Layout)).run s =
      (.ok l, s)) :
    runOn host s ["split", X, Y, Z, "--layout", file] =
      ((splitOutcome host ⟨x, y, z⟩ l, []), s) := by
  have hread : Command.split.grammar.read? ["--layout", file] = some ⟨[("layout", file)], []⟩ := rfl
  have hrun : (Command.split.run host ⟨[("layout", file)], [X, Y, Z]⟩ : StateM Store _).run s =
      ((splitOutcome host ⟨x, y, z⟩ l, (l.loadEvent path).toOption.toList), s) := by
    simp only [Command.run, mapM_integer? hX hY hZ]
    exact run_splitCommand_of_load hfile hload
  exact runOn_split (isSome_spelled? hX hY hZ) hread rfl hrun

theorem runOn_split_preset (h : Preset.find? name = some l) :
    runOn host s ["split", X, Y, Z, "--preset", name] =
      ((splitOutcome host ⟨x, y, z⟩ l, []), s) := by
  have hread : Command.split.grammar.read? ["--preset", name] = some ⟨[("preset", name)], []⟩ := rfl
  have hrun : (Command.split.run host ⟨[("preset", name)], [X, Y, Z]⟩ : StateM Store _).run s =
      ((splitOutcome host ⟨x, y, z⟩ l, []), s) := by
    simp only [Command.run, mapM_integer? hX hY hZ]
    exact run_splitCommand_of_find? h
  exact runOn_split (isSome_spelled? hX hY hZ) hread rfl hrun

end Split

/-- Coordinates that are too long are a wrong usage, before a layout is looked for. -/
theorem runOn_split_long {options : List (String × String)} {rest : List String}
    (hread : Command.split.grammar.read? rest = some ⟨options, []⟩)
    (himmediate : immediate? host ⟨options, [toString x, toString y, toString z]⟩ = none)
    (hlong : ¬ (HasNumeral x ∧ HasNumeral y ∧ HasNumeral z)) :
    runOn host s ("split" :: toString x :: toString y :: toString z :: rest) =
      ((.usage, []), s) := by
  have hspelled : ∀ a ∈ [toString x, toString y, toString z], (spelled? a).isSome := by
    simp only [List.forall_mem_cons, spelled?_toString, Option.isSome_some, true_and]
    exact nofun
  have hnone : [toString x, toString y, toString z].mapM integer? = none := by
    simp only [List.mapM_cons, integer?_toString]
    by_cases hx : HasNumeral x
    · by_cases hy : HasNumeral y
      · have hz : ¬ HasNumeral z := fun hz => hlong ⟨hx, hy, hz⟩
        simp [hx, hy, hz]
      · simp [hx, hy]
    · simp [hx]
  have hrun : (Command.split.run host ⟨options, [toString x, toString y, toString z]⟩ :
      StateM Store _).run s = ((.usage, []), s) := by
    simp only [Command.run, hnone]
    rfl
  exact runOn_split hspelled hread himmediate hrun

/-- A preset written to a file serves as the preset does, under every spelling of its name and of the
coordinates, and whatever the file held. A name without a preset, or a file that cannot be written,
leaves all files alone. -/
theorem preset_file_interchangeable (hnesting : 0 < host.nesting) (s : Store)
    (name file : String) :
    (∀ n : Int, integer? (toString n) = if HasNumeral n then some n else none) ∧
    (∀ (l : Layout) (path : String), Preset.find? name = some l → fileName? file = some path →
      s.Writable path →
      ∃ lines after,
        runOn host s ["layout", name, "--output", file] = ((.finished 0 lines, []), after) ∧
        (∀ (x y z : Int) (X Y Z : String),
          integer? X = some x → integer? Y = some y → integer? Z = some z →
          ∃ sizes a, l.sizes = .ok sizes ∧ l.split ⟨x, y, z⟩ = .ok a ∧
            runOn host after ["split", X, Y, Z, "--layout", file] =
              ((.finished 0 ((addressTable ⟨x, y, z⟩ sizes a).lines host.columns), []), after) ∧
            ∀ t, runOn host t ["split", X, Y, Z, "--preset", name] =
              ((.finished 0 ((addressTable ⟨x, y, z⟩ sizes a).lines host.columns), []), t)) ∧
        ∀ x y z : Int, ¬ (HasNumeral x ∧ HasNumeral y ∧ HasNumeral z) →
          runOn host after ["split", toString x, toString y, toString z, "--layout", file] =
            ((.usage, []), after) ∧
          ∀ t, runOn host t ["split", toString x, toString y, toString z, "--preset", name] =
            ((.usage, []), t)) ∧
    (Preset.find? name = none ∨ (∀ path, fileName? file = some path → ¬s.Writable path) →
      name.toList.head? ≠ some '-' →
      ∃ lines, runOn host s ["layout", name, "--output", file] = ((.finished 1 lines, []), s)) := by
  refine ⟨integer?_toString, ?_, ?_⟩
  · intro l path hname hfile hwritable
    obtain ⟨place, hplace⟩ := Store.writable_iff.mp hwritable
    obtain ⟨lines, events, hrun⟩ := run_layoutCommand hfile hname hplace
    refine ⟨lines, _, runOn_layout (Preset.head?_ne_of_find? hname) hrun, ?_, ?_⟩
    · intro x y z X Y Z hX hY hZ
      have hvalid := Preset.validate_draft_of_find? hname
      have hload := Layout.run_load_of_written hnesting (Store.read_put hplace) hvalid
      obtain ⟨sizes, a, hsizes, hsplit, houtcome⟩ :=
        splitOutcome_of_validate hvalid (p := ⟨x, y, z⟩) (hasNumeral_of_integer? hX)
          (hasNumeral_of_integer? hY) (hasNumeral_of_integer? hZ)
      refine ⟨sizes, a, hsizes, hsplit, ?_, fun t => ?_⟩
      · rw [runOn_split_layout hX hY hZ hfile hload, houtcome]
      · rw [runOn_split_preset hX hY hZ hname, houtcome]
    · intro x y z hlong
      exact ⟨runOn_split_long rfl rfl hlong, fun t => runOn_split_long rfl rfl hlong⟩
  · intro hnot hhead
    obtain ⟨lines, hrun⟩ := run_layoutCommand_of_not hnot
    exact ⟨lines, runOn_layout hhead hrun⟩

/-- Over a file that is no text, with a coordinate that is too long, and with a name that no preset
has. -/
theorem preset_file_interchangeable_over_octet :
    let host : Host := ⟨80, 1⟩
    0 < host.nesting ∧
    ∃ lines after table,
      runOn host (Layout.storeOf [0xFF]) ["layout", "CUBIC16", "--output", "./layout.json"] =
        ((.finished 0 lines, []), after) ∧
      runOn host after ["split", "-33", "+70", "12", "--layout", "./layout.json"] =
        ((.finished 0 table, []), after) ∧
      runOn host .empty ["split", "-33", "+70", "12", "--preset", "CUBIC16"] =
        ((.finished 0 table, []), .empty) ∧
      runOn host after ["split", toString (10 ^ maxDigits : Int), "0", "0", "--layout",
        "./layout.json"] = ((.usage, []), after) ∧
      ∃ refusal, runOn host (Layout.storeOf [0xFF])
        ["layout", "cubic64", "--output", "./layout.json"] =
          ((.finished 1 refusal, []), Layout.storeOf [0xFF]) := by
  intro host
  have hnesting : 0 < host.nesting := Nat.one_pos
  have hname : Preset.find? "CUBIC16" = some ⟨4, 4, 4⟩ := by decide +kernel
  have hnone : Preset.find? "cubic64" = none := by decide +kernel
  have hfile : fileName? "./layout.json" = some "layout.json" := rfl
  have hwritable : (Layout.storeOf [0xFF]).Writable "layout.json" := fun _ => ⟨_, rfl⟩
  obtain ⟨-, hpreset, -⟩ :=
    preset_file_interchangeable hnesting (Layout.storeOf [0xFF]) "CUBIC16" "./layout.json"
  obtain ⟨lines, after, hlayout, hsplit, hlong⟩ := hpreset _ _ hname hfile hwritable
  obtain ⟨sizes, a, -, -, hbyFile, hbyPreset⟩ := hsplit (-33) 70 12 "-33" "+70" "12" rfl rfl rfl
  have husage := (hlong (10 ^ maxDigits) 0 0 fun h => not_hasNumeral_pow h.1).1
  obtain ⟨-, -, hunknown⟩ :=
    preset_file_interchangeable hnesting (Layout.storeOf [0xFF]) "cubic64" "./layout.json"
  exact ⟨hnesting, lines, after, _, hlayout, hbyFile, hbyPreset .empty, husage,
    hunknown (.inl hnone) (by decide)⟩

/-- A preset is written, but neither its file nor the preset itself splits a position with a
coordinate that is too long. -/
theorem split_long_refused :
    let host : Host := ⟨80, 1⟩
    let written := runOn host .empty ["layout", "flat", "--output", "layout.json"]
    let coordinates := [toString (10 ^ maxDigits : Int), toString (0 : Int), toString (0 : Int)]
    written.1.1.exitCode = 0 ∧
      (runOn host written.2
        ("split" :: coordinates ++ ["--layout", "layout.json"])).1.1.exitCode = 2 ∧
      (runOn host .empty ("split" :: coordinates ++ ["--preset", "flat"])).1.1.exitCode = 2 := by
  intro host written coordinates
  have hname : Preset.find? "flat" = some ⟨5, 0, 5⟩ := by decide +kernel
  have hplace : Store.empty.resolve "layout.json" = .ok ["layout.json"] := rfl
  have hlong : ¬ (HasNumeral (10 ^ maxDigits) ∧ HasNumeral 0 ∧ HasNumeral 0) :=
    fun h => not_hasNumeral_pow h.1
  have husage {options : List (String × String)} {rest : List String} {s : Store}
      (hread : Command.split.grammar.read? rest = some ⟨options, []⟩)
      (himmediate : immediate? host ⟨options, coordinates⟩ = none) :
      runOn host s ("split" :: coordinates ++ rest) = ((.usage, []), s) :=
    runOn_split_long hread himmediate hlong
  have hfile : Command.split.grammar.read? ["--layout", "layout.json"] =
      some ⟨[("layout", "layout.json")], []⟩ := rfl
  have hpreset : Command.split.grammar.read? ["--preset", "flat"] =
      some ⟨[("preset", "flat")], []⟩ := rfl
  refine ⟨?_, ?_, ?_⟩
  · obtain ⟨lines, events, hrun⟩ : ∃ lines events,
        (layoutCommand host "flat" "layout.json" : StateM Store (Outcome × List Event)).run .empty =
          ((.finished 0 lines, events), _) := run_layoutCommand rfl hname hplace
    have hwritten : written = ((.finished 0 lines, []), _) :=
      runOn_layout (Preset.head?_ne_of_find? hname) hrun
    rw [hwritten]
    rfl
  · rw [husage hfile rfl]
    rfl
  · rw [husage hpreset rfl]
    rfl

end Terminal

end VoxelGrid
