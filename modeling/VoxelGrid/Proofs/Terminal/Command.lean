import VoxelGrid.Proofs.Terminal.Arguments
import VoxelGrid.Terminal.Command

/-! Runs of single commands over a store. The name of a command comes first, and what is not an
option after it is what the command works on. -/

namespace VoxelGrid.Terminal

open Storage (Store)

/-- A command line over a store: what it comes to, what it reports, and the store after it. -/
abbrev runOn (host : Host) (s : Store) (arguments : List String) : (Outcome × List Event) × Store :=
  (run host arguments : StateM Store (Outcome × List Event)).run s

namespace Command

theorem head?_of_ofName? {name : String} {c : Command} (h : ofName? name = some c) :
    name.toList.head? ≠ some '-' := by
  unfold ofName? at h
  split at h
  pick_goal 7
  · cases h
  all_goals decide

theorem takesIntegers_split : split.grammar.TakesIntegers := by
  refine ⟨rfl, rfl, fun c hc => ?_⟩
  have hp : c ≠ 'p' := by
    rintro rfl
    revert hc
    decide
  have hl : c ≠ 'l' := by
    rintro rfl
    revert hc
    decide
  simp [grammar, helpRule, hp.symm, hl.symm]

theorem takesIntegers_encode : encode.grammar.TakesIntegers := ⟨rfl, rfl, fun _ _ => rfl⟩

theorem takesIntegers_decode : decode.grammar.TakesIntegers := ⟨rfl, rfl, fun _ _ => rfl⟩

end Command

variable {host : Host} {s after : Store} {name : String} {rest : List String} {c : Command}
variable {inner : Arguments} {outcome : Outcome} {events : List Event}

/-- What a command reports is not shown unless it is asked for before the command. -/
theorem runOn_of_command (hname : Command.ofName? name = some c)
    (hread : c.grammar.read? rest = some inner) (hinner : immediate? host inner = none)
    (hrun : (c.run host inner : StateM Store (Outcome × List Event)).run s =
      ((outcome, events), after)) :
    runOn host s (name :: rest) = ((outcome, []), after) := by
  have hhead := Command.head?_of_ofName? hname
  have hends : name ≠ "--" := by
    rintro rfl
    exact hhead rfl
  have hglobal : globalGrammar.read? (name :: rest) = some ⟨[], name :: rest⟩ := by
    rw [Grammar.read?, if_neg hends, if_neg fun h => hhead h.1, if_neg (by decide)]
  have himmediate : immediate? host ⟨[], name :: rest⟩ = none := rfl
  have hverbose : (Arguments.value? ⟨[], name :: rest⟩ "verbose").isSome = false := rfl
  rw [runOn, run, if_neg (List.cons_ne_nil name rest)]
  simp only [hglobal, himmediate, hname, hread, hinner, hverbose, StateT.run_bind, hrun]
  rfl

/-- A command that takes integers for operands meets them with or without two hyphens among them. -/
theorem runOn_of_integers {operands : List String} (hname : Command.ofName? name = some c)
    (hc : c.grammar.TakesIntegers) (h : ∀ a ∈ operands, (spelled? a).isSome)
    (hrest : rest.erase "--" = operands)
    (hrun : (c.run host ⟨[], operands⟩ : StateM Store (Outcome × List Event)).run s =
      ((outcome, events), after)) :
    runOn host s (name :: rest) = ((outcome, []), after) := by
  subst hrest
  have hread : c.grammar.read? rest = some ⟨[], rest.erase "--"⟩ := by
    apply Grammar.read?_of_operands
    intro a ha
    obtain ⟨n, hn⟩ := Option.isSome_iff_exists.mp (h a ha)
    exact hc.isOperand hn
  exact runOn_of_command hname hread rfl hrun

theorem erase_map_toString (ns : List Int) : (ns.map toString).erase "--" = ns.map toString := by
  apply List.erase_of_not_mem
  intro hmem
  obtain ⟨n, -, hn⟩ := List.mem_map.mp hmem
  have hread : spelled? "--" = some n := hn ▸ spelled?_toString n
  cases hread

end VoxelGrid.Terminal
