/-!
Arguments of a command, told apart into options and operands. An option has a long name after two
hyphens and may have a letter after one; letters can be written together, and the value of an option
follows it in the same argument or the next one. A command whose operands are numbers takes an
unknown option for an operand, since a negative number begins with a hyphen too.
-/

namespace VoxelGrid.Terminal

structure OptionRule where
  name : String
  letter : Option Char
  takesValue : Bool

/-- `keepsUnknown`: an unknown option is an operand. `mixed`: options may follow operands. -/
structure Grammar where
  options : List OptionRule
  keepsUnknown : Bool
  mixed : Bool

/-- Options in their order, each with its value, where one without a value has the empty one. -/
structure Arguments where
  options : List (String × String)
  operands : List String

/-- What one argument says: the options in it, an operand, and the option whose value is next. -/
structure Reading where
  options : List (String × String)
  operand : Option String
  pending : Option String

namespace Arguments

def withOptions (a : Arguments) (options : List (String × String)) (operand : Option String) :
    Arguments :=
  ⟨options ++ a.options, operand.toList ++ a.operands⟩

/-- The last value given to an option. -/
def value? (a : Arguments) (name : String) : Option String :=
  (a.options.reverse.find? (·.1 = name)).map Prod.snd

end Arguments

namespace Grammar

/-- Reads letters that follow one hyphen; `unknown` are the letters without a rule so far. -/
def readLetters? (g : Grammar) (unknown : List Char) : List Char → Option Reading
  | [] => some ⟨[], if unknown = [] then none else some (String.ofList ('-' :: unknown)), none⟩
  | c :: rest =>
    match g.options.find? (·.letter = some c) with
    | none => if g.keepsUnknown then g.readLetters? (unknown ++ [c]) rest else none
    | some rule =>
      if rule.takesValue then
        let operand := if unknown = [] then none else some (String.ofList ('-' :: unknown))
        if rest = [] then some ⟨[], operand, some rule.name⟩
        else some ⟨[(rule.name, String.ofList rest)], operand, none⟩
      else
        (g.readLetters? unknown rest).map fun r => ⟨(rule.name, "") :: r.options, r.operand, r.pending⟩

/-- Reads an argument that begins with a hyphen and is longer than that. -/
def readOption? (g : Grammar) (argument : List Char) : Option Reading :=
  let name := argument.takeWhile (· ≠ '=')
  let explicit := argument.drop (name.length + 1)
  match g.options.find? fun rule => "--".toList ++ rule.name.toList = name with
  | some rule =>
    if name.length < argument.length then
      if rule.takesValue then some ⟨[(rule.name, String.ofList explicit)], none, none⟩ else none
    else if rule.takesValue then some ⟨[], none, some rule.name⟩
    else some ⟨[(rule.name, "")], none, none⟩
  | none =>
    if argument.take 2 = ['-', '-'] then
      if g.keepsUnknown then some ⟨[], some (String.ofList argument), none⟩ else none
    else g.readLetters? [] (argument.drop 1)

/-- Reads all arguments; two hyphens alone end the options. -/
def read? (g : Grammar) : List String → Option Arguments
  | [] => some ⟨[], []⟩
  | argument :: rest =>
    if argument = "--" then some ⟨[], rest⟩
    else if argument.toList.head? = some '-' ∧ 1 < argument.length then
      match g.readOption? argument.toList with
      | none => none
      | some ⟨options, operand, none⟩ => (g.read? rest).map (·.withOptions options operand)
      | some ⟨options, operand, some name⟩ =>
        match rest with
        | [] => none
        | value :: rest =>
          (g.read? rest).map (·.withOptions (options ++ [(name, value)]) operand)
    else if g.mixed then (g.read? rest).map (·.withOptions [] (some argument))
    else some ⟨[], argument :: rest⟩

end Grammar

end VoxelGrid.Terminal
