import VoxelGrid.Host
import VoxelGrid.Key.Codec
import VoxelGrid.Layout.Address
import VoxelGrid.Layout.File
import VoxelGrid.Layout.Preset
import VoxelGrid.Terminal.Arguments
import VoxelGrid.Terminal.Integer
import VoxelGrid.Terminal.Screen
import VoxelGrid.Terminal.Table

/-!
The commands. Arguments that a command cannot take end it with code 2, a failure in its work ends it
with code 1 and an error line, and help is shown wherever it is asked for among readable options. A
run reports its work only where it is asked to be verbose.
-/

namespace VoxelGrid

def version : String := "0.1.0"

namespace Terminal

inductive Outcome where
  | usage
  | help
  | finished (code : Nat) (lines : List String)

def Outcome.exitCode : Outcome → Nat
  | .usage => 2
  | .help => 0
  | .finished code _ => code

/-- The end of a run that cannot say why it fails. -/
def breakdown : Outcome := .finished 1 []

def helpRule : OptionRule := ⟨"help", none, false⟩

def globalGrammar : Grammar where
  options :=
    [⟨"version", some 'V', false⟩, ⟨"verbose", some 'v', false⟩,
      ⟨"install-completion", none, false⟩, ⟨"show-completion", none, false⟩, helpRule]
  keepsUnknown := false
  mixed := false

inductive Command where
  | split
  | encode
  | decode
  | power
  | listPresets
  | layout

namespace Command

def ofName? : String → Option Command
  | "split" => some .split
  | "encode" => some .encode
  | "decode" => some .decode
  | "power" => some .power
  | "list-presets" => some .listPresets
  | "layout" => some .layout
  | _ => none

def grammar : Command → Grammar
  | .split =>
    ⟨[⟨"preset", some 'p', true⟩, ⟨"layout", some 'l', true⟩, helpRule], true, true⟩
  | .encode | .decode | .power => ⟨[helpRule], true, true⟩
  | .listPresets => ⟨[helpRule], false, true⟩
  | .layout => ⟨[⟨"output", some 'o', true⟩, helpRule], false, true⟩

end Command

section Host

variable (host : Host)

def success (texts : List String) : Outcome := .finished 0 (texts.flatMap (shown host.columns))

def failure (texts : List String) : Outcome := .finished 1 (texts.flatMap (shown host.columns))

def reportError (e : Error) : Outcome := failure host [s!"Error: {e.message}"]

def unknownPreset (name : String) : Outcome :=
  failure host (s!"Error: Unknown preset: {name}" :: "Available presets:" ::
    Preset.names.map fun preset => s!"  - {preset}")

def encodeCommand (x y : Int) : Outcome :=
  match Key.encode x y with
  | .ok key => success host [toString key]
  | .error e => reportError host e

def decodeCommand (key : Int) : Outcome :=
  match Key.decode key with
  | .ok (x, y) => success host [s!"{x} {y}"]
  | .error e => reportError host e

/-- The power of two can have one digit more than the value. -/
def powerCommand (value : Int) : Outcome :=
  let ceil := PowerOfTwo.ceil value
  let answer := if PowerOfTwo.holds value then "True" else "False"
  let note := "Note: values <= 0 have no power of two; ceil is reported as 0"
  if HasNumeral ceil then
    success host <|
      [s!"Ceil power of two: {ceil}", s!"Is power of two:   {answer}",
        s!"Exponent:          {PowerOfTwo.exponent value}"] ++ (if value ≤ 0 then [note] else [])
  else breakdown

end Host

def addressTable (p : Position) (sizes : Triple Int) (address : Address) : Table where
  title := s!"Position {p.text}"
  columns :=
    [⟨"Axis", .left, [Axis.x, .y, .z].map Axis.name⟩,
      ⟨"Chunk size", .right, sizes.toList.map toString⟩,
      ⟨"Chunk", .right, address.chunk.toList.map toString⟩,
      ⟨"Block", .right, address.block.toList.map toString⟩]
  rows := 3

/-- The integers in the table of an address. -/
def addressIntegers (p : Position) (sizes : Triple Int) (address : Address) : List Int :=
  p.toList ++ sizes.toList ++ address.chunk.toList ++ address.block.toList

/-- What goes wrong with an address, or with an integer in its table, is not caught. -/
def splitOutcome (host : Host) (p : Position) (layout : Layout) : Outcome :=
  match layout.split p, layout.sizes with
  | .ok address, .ok sizes =>
    if ∀ n ∈ addressIntegers p sizes address, HasNumeral n then
      .finished 0 ((addressTable p sizes address).lines host.columns)
    else breakdown
  | _, _ => breakdown

def presetTable (presets : List Preset) : Table where
  title := "Available Presets"
  columns :=
    [⟨"Name", .left, presets.map Preset.name⟩,
      ⟨"Description", .left, presets.map Preset.description⟩,
      ⟨"Powers", .left, presets.map (·.layout.powers.text)⟩,
      ⟨"Blocks per chunk", .right, presets.map fun p =>
        match p.layout.volume with
        | .ok volume => toString volume
        | .error _ => ""⟩]
  rows := presets.length

/-- The name of a file that an option gives, in plain form. No name holds a null character. -/
def fileName? (path : String) : Option String :=
  if path.toList.contains '\x00' then none else some (Storage.normalize path)

section Host

variable (host : Host)

/-- How a run ends when its layout file cannot be loaded. Too deep a nesting breaks it down. -/
def notLoaded (path : String) : Error → Outcome
  | .malformedJson (.tooDeep _) => breakdown
  | e => failure host [s!"Error: Cannot load layout {path}: {e.message}"]

variable {m : Type → Type} [Monad m] [Storage.Access m]

/-- A layout file comes before a preset, whose name is then not looked at. -/
def chosenLayout (preset : String) (file : Option String) :
    m (Except Outcome (Layout × List Event)) := do
  match file.map fileName? with
  | some none => return .error breakdown
  | some (some path) =>
    match ← Layout.load host.nesting path with
    | .error e => return .error (notLoaded host path e)
    | .ok layout => return .ok (layout, (layout.loadEvent path).toOption.toList)
  | none =>
    match Preset.find? preset with
    | some layout => return .ok (layout, [])
    | none => return .error (unknownPreset host preset)

def splitCommand (p : Position) (preset : String) (file : Option String) :
    m (Outcome × List Event) := do
  match ← chosenLayout host preset file with
  | .error outcome => return (outcome, [])
  | .ok (layout, events) => return (splitOutcome host p layout, events)

def layoutCommand (preset output : String) : m (Outcome × List Event) := do
  match fileName? output, Preset.find? preset with
  | none, _ => return (breakdown, [])
  | _, none => return (unknownPreset host preset, [])
  | some path, some layout =>
    match ← layout.save path with
    | .error e => return (failure host [s!"Error: Cannot write layout {path}: {e.message}"], [])
    | .ok event => return (success host [s!"Success! Layout saved to: {path}"], [event])

def Command.run (c : Command) (a : Arguments) : m (Outcome × List Event) :=
  let silent (outcome : Outcome) : m (Outcome × List Event) := pure (outcome, [])
  match c, a.operands with
  | .listPresets, [] => silent (.finished 0 ((presetTable Preset.all).lines host.columns))
  | .layout, [preset] => layoutCommand host preset ((a.value? "output").getD "layout.json")
  | .listPresets, _ | .layout, _ => silent .usage
  | c, operands =>
    match c, operands.mapM integer? with
    | .split, some [x, y, z] =>
      splitCommand host ⟨x, y, z⟩ ((a.value? "preset").getD "default") (a.value? "layout")
    | .encode, some [x, y] => silent (encodeCommand host x y)
    | .decode, some [key] => silent (decodeCommand host key)
    | .power, some [value] => silent (powerCommand host value)
    | _, _ => silent .usage

/-- What the first of the options that end the run at once asks for. The completions of a shell come
last; no shell is known here. -/
def immediate? (a : Arguments) : Option Outcome :=
  let first := a.options.findSome? fun (name, _) =>
    if name = "version" then some (success host [s!"chunkcodec version {version}"])
    else if name = "help" then some .help
    else none
  let completion := a.options.any fun (name, _) =>
    name = "install-completion" || name = "show-completion"
  first <|> if completion then some breakdown else none

/-- Runs the command line. Where no command has the name given, the rest may still be global
options, as after two hyphens. -/
def run (arguments : List String) : m (Outcome × List Event) :=
  if arguments = [] then pure (.usage, [])
  else
    match globalGrammar.read? arguments with
    | none => pure (.usage, [])
    | some a =>
      match immediate? host a, a.operands with
      | some outcome, _ => pure (outcome, [])
      | none, [] => pure (.usage, [])
      | none, name :: rest =>
        match Command.ofName? name with
        | none => pure (((globalGrammar.read? a.operands).bind (immediate? host)).getD .usage, [])
        | some command =>
          match command.grammar.read? rest with
          | none => pure (.usage, [])
          | some inner =>
            match immediate? host inner with
            | some outcome => pure (outcome, [])
            | none => do
              let (outcome, events) ← command.run host inner
              return (outcome, if (a.value? "verbose").isSome then events else [])

end Host

end Terminal

end VoxelGrid
