import VoxelGrid.Proofs.Key.RoundTrip
import VoxelGrid.Proofs.Terminal.Command
import VoxelGrid.Proofs.Terminal.Screen

/-! The commands that encode pairs and decode keys. What one of them prints can be typed for the other
and brings back what was typed first; what has no answer ends in an error line. -/

namespace VoxelGrid.Terminal

open Storage (Store)

/-! Printed integers -/

section Printed

variable {width : Nat} {x y : Int}

theorem isPlain_toString (n : Int) :
    ∀ c ∈ (toString n).toList, Columns.IsPlain c ∧ c ≠ ' ' := by
  have hdigit : ∀ c ∈ Nat.toDigits 10 n.natAbs, Columns.IsPlain c ∧ c ≠ ' ' := by
    intro c hc
    have hisDigit := Json.isDigit_toDigits _ c hc
    have hbounds : 48 ≤ c.toNat ∧ c.toNat ≤ 57 := Char.isDigit_iff_toNat.mp hisDigit
    exact ⟨⟨by omega, by omega⟩, Json.ne_of_isDigit hisDigit (by decide)⟩
  rcases le_or_gt 0 n with h | h
  · rw [toList_toString_of_nonneg h]
    exact hdigit
  · rw [toList_toString_of_neg h, List.forall_mem_cons]
    exact ⟨⟨by decide, by decide⟩, hdigit⟩

/-- A sign and as many digits as the largest key has. -/
theorem length_toString_le (h : (x.natAbs : Int) ≤ keyMax) : (toString x).length ≤ 20 := by
  have hkeyMax : keyMax < 10 ^ 19 := by decide
  have hdigits : (Nat.toDigits 10 x.natAbs).length ≤ 19 := by
    rw [Nat.length_toDigits_le_iff (by decide) (by decide)]
    omega
  rw [← String.length_toList]
  rcases le_or_gt 0 x with hx | hx
  · rw [toList_toString_of_nonneg hx]
    omega
  · rw [toList_toString_of_neg hx, List.length_cons]
    omega

theorem shown_toString (hwidth : 20 ≤ width) (h : (x.natAbs : Int) ≤ keyMax) :
    shown width (toString x) = [toString x] := by
  have hlength := length_toString_le h
  refine shown_of_plain (fun c hc => (isPlain_toString x c hc).1) (fun hspace => ?_) ?_
  · exact (isPlain_toString x ' ' (List.mem_of_getLast? hspace)).2 rfl
  · omega

theorem shown_two_integers (hwidth : 41 ≤ width) (hx : (x.natAbs : Int) ≤ keyMax)
    (hy : (y.natAbs : Int) ≤ keyMax) :
    shown width (toString x ++ " " ++ toString y) = [toString x ++ " " ++ toString y] := by
  have hlengthx := length_toString_le hx
  have hlengthy := length_toString_le hy
  have htext : (toString x ++ " " ++ toString y).toList =
      (toString x).toList ++ ' ' :: (toString y).toList := by simp
  refine shown_of_plain (fun c hc => ?_) (fun hspace => ?_) ?_
  · rw [htext, List.mem_append, List.mem_cons] at hc
    rcases hc with hc | rfl | hc
    · exact (isPlain_toString x c hc).1
    · decide
    · exact (isPlain_toString y c hc).1
  · rw [htext, List.getLast?_append, List.getLast?_cons,
      List.getLast?_eq_some_getLast (toList_toString_ne_nil y)] at hspace
    exact (isPlain_toString y _ (List.getLast_mem (toList_toString_ne_nil y))).2 (by simpa using hspace)
  · rw [String.length_append, String.length_append]
    change _ + 1 + _ ≤ width
    omega

end Printed

/-- The outcome is a failure, and what it shows is the message about an error. -/
def Outcome.Reports (outcome : Outcome) (e : Error) : Prop :=
  ∃ lines, outcome = .finished 1 lines ∧
    lines.flatMap (visible ·.toList) = visible s!"Error: {e.message}".toList

theorem reports_reportError (host : Host) (e : Error) : (reportError host e).Reports e := by
  refine ⟨_, rfl, ?_⟩
  rw [List.flatMap_singleton]
  exact visible_shown _ _

variable {host : Host} {x y key : Int}

theorem encodeCommand_of_ok (hwidth : 20 ≤ host.columns) (h : Key.encode x y = .ok key) :
    encodeCommand host x y = .finished 0 [toString key] := by
  obtain ⟨hplace, hle⟩ := Key.encode_eq_ok_iff.mp h
  have hnonneg : 0 ≤ key := hplace ▸ Key.place_nonneg x y
  have hshown : shown host.columns (toString key) = [toString key] :=
    shown_toString hwidth (by omega)
  simp only [encodeCommand, h, success, List.flatMap_singleton, hshown]

theorem encodeCommand_of_error {e : Error} (h : Key.encode x y = .error e) :
    encodeCommand host x y = reportError host e := by
  rw [encodeCommand, h]

theorem exitCode_encodeCommand_iff :
    (encodeCommand host x y).exitCode = 0 ↔ ∃ key, Key.encode x y = .ok key := by
  cases h : Key.encode x y with
  | ok key =>
    simp only [encodeCommand, h]
    exact iff_of_true rfl ⟨key, rfl⟩
  | error e =>
    rw [encodeCommand_of_error h]
    exact iff_of_false Nat.one_ne_zero nofun

theorem decodeCommand_of_ok (hwidth : 41 ≤ host.columns) (h : Key.decode key = .ok (x, y)) :
    decodeCommand host key = .finished 0 [toString x ++ " " ++ toString y] := by
  have hencode := Key.decode_eq_ok_iff.mp h
  have hle := (Key.encode_eq_ok_iff.mp hencode).2
  obtain ⟨hx, hy⟩ := Key.natAbs_le_of_encode hencode
  have hshown := shown_two_integers hwidth (hx.trans hle) (hy.trans hle)
  simp only [decodeCommand, h, success, List.flatMap_singleton]
  exact congrArg (Outcome.finished 0) hshown

theorem decodeCommand_of_error {e : Error} (h : Key.decode key = .error e) :
    decodeCommand host key = reportError host e := by
  rw [decodeCommand, h]

theorem exitCode_decodeCommand_iff :
    (decodeCommand host key).exitCode = 0 ↔ 0 ≤ key ∧ key ≤ keyMax := by
  by_cases h : IsKey key
  · obtain ⟨x, y, hdecode⟩ := Key.exists_decode h
    simp only [decodeCommand, hdecode]
    exact iff_of_true rfl h
  · rw [decodeCommand_of_error (Key.decode_of_not_isKey h)]
    exact iff_of_false Nat.one_ne_zero h

variable {s : Store} {arguments : List String} {X Y K : String}

theorem runOn_encode (hX : integer? X = some x) (hY : integer? Y = some y)
    (h : arguments.erase "--" = [X, Y]) :
    runOn host s ("encode" :: arguments) = ((encodeCommand host x y, []), s) := by
  have hoperands : [X, Y].mapM integer? = some [x, y] := by simp [hX, hY]
  have hspelled : ∀ a ∈ [X, Y], (spelled? a).isSome := by
    simp [spelled?_of_integer? hX, spelled?_of_integer? hY]
  have hrun : (Command.encode.run host ⟨[], [X, Y]⟩ : StateM Store _).run s =
      ((encodeCommand host x y, []), s) := by
    simp only [Command.run, hoperands]
    rfl
  exact runOn_of_integers rfl Command.takesIntegers_encode hspelled h hrun

theorem runOn_decode (hK : integer? K = some key) (h : arguments.erase "--" = [K]) :
    runOn host s ("decode" :: arguments) = ((decodeCommand host key, []), s) := by
  have hoperands : [K].mapM integer? = some [key] := by simp [hK]
  have hspelled : ∀ a ∈ [K], (spelled? a).isSome := by simp [spelled?_of_integer? hK]
  have hrun : (Command.decode.run host ⟨[], [K]⟩ : StateM Store _).run s =
      ((decodeCommand host key, []), s) := by
    simp only [Command.run, hoperands]
    rfl
  exact runOn_of_integers rfl Command.takesIntegers_decode hspelled h hrun

theorem runOn_encode_toString (hx : HasNumeral x) (hy : HasNumeral y) :
    runOn host s ["encode", toString x, toString y] = ((encodeCommand host x y, []), s) :=
  runOn_encode (integer?_toString_of_hasNumeral hx) (integer?_toString_of_hasNumeral hy)
    (erase_map_toString [x, y])

theorem runOn_decode_toString (hkey : HasNumeral key) :
    runOn host s ["decode", toString key] = ((decodeCommand host key, []), s) :=
  runOn_decode (integer?_toString_of_hasNumeral hkey) (erase_map_toString [key])

/-- What either command prints for integers, in whatever way these are written and with or without
two hyphens among them, is what the other command takes back. Two numbers and a space must have room
on a line. -/
theorem encode_decode_commands_inverse (hwidth : 41 ≤ host.columns) (s : Store) :
    (∀ n : Int, HasNumeral n → integer? (toString n) = some n) ∧
    (∀ (x y : Int) (X Y : String) (arguments : List String),
      integer? X = some x → integer? Y = some y → arguments.erase "--" = [X, Y] →
      ∃ outcome, runOn host s ("encode" :: arguments) = ((outcome, []), s) ∧
        (outcome.exitCode = 0 ↔ ∃ key, Key.encode x y = .ok key) ∧
        (∀ key, Key.encode x y = .ok key → outcome = .finished 0 [toString key] ∧
          runOn host s ["decode", toString key] =
            ((.finished 0 [toString x ++ " " ++ toString y], []), s)) ∧
        ∀ e, Key.encode x y = .error e → outcome.Reports e) ∧
    ∀ (key : Int) (K : String) (arguments : List String),
      integer? K = some key → arguments.erase "--" = [K] →
      ∃ outcome, runOn host s ("decode" :: arguments) = ((outcome, []), s) ∧
        (outcome.exitCode = 0 ↔ 0 ≤ key ∧ key ≤ keyMax) ∧
        (0 ≤ key → key ≤ keyMax → ∃ x y : Int,
          outcome = .finished 0 [toString x ++ " " ++ toString y] ∧
          runOn host s ["encode", toString x, toString y] = ((.finished 0 [toString key], []), s)) ∧
        (¬(0 ≤ key ∧ key ≤ keyMax) → outcome.Reports (.keyOutOfRange key)) := by
  refine ⟨fun _ => integer?_toString_of_hasNumeral, ?_, ?_⟩
  · intro x y X Y arguments hX hY harguments
    refine ⟨_, runOn_encode hX hY harguments, exitCode_encodeCommand_iff, ?_, ?_⟩
    · intro key h
      have hdecode := Key.decode_eq_ok_iff.mpr h
      rw [runOn_decode_toString (Key.isKey_of_encode h).hasNumeral,
        decodeCommand_of_ok hwidth hdecode]
      exact ⟨encodeCommand_of_ok (by omega) h, rfl⟩
    · intro e h
      rw [encodeCommand_of_error h]
      exact reports_reportError host e
  · intro key K arguments hK harguments
    refine ⟨_, runOn_decode hK harguments, exitCode_decodeCommand_iff, ?_, ?_⟩
    · intro hlow hhigh
      obtain ⟨x, y, h⟩ := Key.exists_decode ⟨hlow, hhigh⟩
      have hencode := Key.decode_eq_ok_iff.mp h
      obtain ⟨hx, hy⟩ := Key.hasNumeral_of_encode hencode
      refine ⟨x, y, decodeCommand_of_ok hwidth h, ?_⟩
      rw [runOn_encode_toString hx hy, encodeCommand_of_ok (by omega) hencode]
    · intro h
      -- a number that was typed can be written, so the refusal can name it
      have hraised : (Error.keyOutOfRange key).raised = .keyOutOfRange key :=
        Error.raised_of_hasNumeral (Key.integers_keyOutOfRange key) (hasNumeral_of_integer? hK)
      rw [decodeCommand_of_error (Key.decode_of_not_isKey h), hraised]
      exact reports_reportError host _

/-- A negative number before two hyphens and none, and numbers without an answer. -/
theorem encode_decode_commands_inverse_negative :
    let host : Host := ⟨41, 0⟩
    41 ≤ host.columns ∧
      runOn host .empty ["encode", "-3", "--", "+07"] = ((.finished 0 ["204"], []), .empty) ∧
      runOn host .empty ["decode", "204"] = ((.finished 0 ["-3 7"], []), .empty) ∧
      runOn host .empty ["encode", "-3", "7"] = ((.finished 0 ["204"], []), .empty) ∧
      (∃ outcome, runOn host .empty ["encode", "0", "-2147483648"] = ((outcome, []), .empty) ∧
        ∃ e, outcome.Reports e) ∧
      ∃ outcome, runOn host .empty ["decode", "-1"] = ((outcome, []), .empty) ∧
        outcome.Reports (.keyOutOfRange (-1)) := by
  intro host
  have hwidth : 41 ≤ host.columns := le_rfl
  obtain ⟨-, hencode, hdecode⟩ := encode_decode_commands_inverse hwidth .empty
  have hkey : Key.encode (-3) 7 = .ok 204 := rfl
  have hminus : integer? "-3" = some (-3) := rfl
  refine ⟨hwidth, ?_, ?_, ?_, ?_, ?_⟩
  · obtain ⟨outcome, hrun, -, hprinted, -⟩ :=
      hencode (-3) 7 "-3" "+07" ["-3", "--", "+07"] hminus rfl rfl
    exact (hprinted 204 hkey).1 ▸ hrun
  · obtain ⟨outcome, -, -, hprinted, -⟩ :=
      hencode (-3) 7 "-3" "+07" ["-3", "--", "+07"] hminus rfl rfl
    exact (hprinted 204 hkey).2
  · obtain ⟨outcome, hrun, -, hprinted, -⟩ := hencode (-3) 7 "-3" "7" ["-3", "7"] hminus rfl rfl
    exact (hprinted 204 hkey).1 ▸ hrun
  · have hlarge : keyMax < Key.place 0 (-2147483648) := by decide
    have hread : integer? "-2147483648" = some (-2147483648) := by decide +kernel
    obtain ⟨outcome, hrun, -, -, hrefused⟩ :=
      hencode 0 (-2147483648) "0" "-2147483648" ["0", "-2147483648"] rfl hread rfl
    obtain ⟨e, herror⟩ := Key.exists_encode_error_iff.mpr hlarge
    exact ⟨outcome, hrun, e, hrefused e herror⟩
  · obtain ⟨outcome, hrun, -, -, hrefused⟩ := hdecode (-1) "-1" ["-1"] rfl rfl
    exact ⟨outcome, hrun, hrefused (by decide)⟩

end VoxelGrid.Terminal
