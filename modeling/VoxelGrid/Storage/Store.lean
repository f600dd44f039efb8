import VoxelGrid.Storage.Fault
import VoxelGrid.Storage.Path

/-!
Files and directories below a working directory. Opening a file walks the steps of its path, and all
but the last must lead through directories; writing replaces the whole content of one file.
-/

namespace VoxelGrid.Storage

/-- Names from the working directory down, or from the root where the first one is empty. -/
abbrev Place := List String

structure Store where
  files : List (Place × List UInt8)
  directories : List Place

namespace Store

def empty : Store := ⟨[], []⟩

def get? (s : Store) (place : Place) : Option (List UInt8) :=
  (s.files.find? (·.1 = place)).map Prod.snd

def put (files : List (Place × List UInt8)) (place : Place) (content : List UInt8) :
    List (Place × List UInt8) :=
  match files with
  | [] => [(place, content)]
  | (p, c) :: rest => if p = place then (p, content) :: rest else (p, c) :: put rest place content

/-- The working directory, what encloses it and the root are always there. -/
def isDirectory (s : Store) (place : Place) : Bool :=
  place.all (· = "..") || place = [""] || s.directories.contains place

def parent (place : Place) : Place :=
  if place.all (· = "..") then place ++ [".."]
  else if place = [""] then place
  else place.dropLast

/-- Follows the steps of a path from a place. -/
def walk (s : Store) (place : Place) : List String → Except Fault Place
  | [] => .ok place
  | step :: rest =>
    if !s.isDirectory place then
      .error (if (s.get? place).isSome then .notADirectory else .notFound)
    else if IsIdle step then s.walk place rest
    else if step = ".." then s.walk (parent place) rest
    else if maxName < step.utf8ByteSize then .error .nameTooLong
    else s.walk (place ++ [step]) rest

/-- The place that a path leads to, whether or not something is there. -/
def locate (s : Store) (path : String) : Except Fault Place :=
  if path.toList.contains '\x00' then .error .nullInName
  else if path = "" then .error .notFound
  else if maxPath < path.utf8ByteSize then .error .nameTooLong
  else s.walk (if root path = "" then [] else [""]) (steps path)

/-- The place of a file, there or to be made. -/
def resolve (s : Store) (path : String) : Except Fault Place := do
  let place ← s.locate path
  if s.isDirectory place then .error .isDirectory else .ok place

def read (s : Store) (path : String) : Except Fault (List UInt8) := do
  let place ← s.resolve path
  match s.get? place with
  | some content => .ok content
  | none => .error .notFound

def write (s : Store) (path : String) (content : List UInt8) : Except Fault Store := do
  let place ← s.resolve path
  return { s with files := put s.files place content }

/-- Makes a directory in one that is there. -/
def makeDirectory (s : Store) (path : String) : Except Fault Store := do
  let place ← s.locate path
  if s.isDirectory place ∨ (s.get? place).isSome then .error .alreadyExists
  else .ok { s with directories := place :: s.directories }

/-- What came of a change, where a failure names its path, and the store after it. -/
abbrev Change := Except (Fault × String) Unit × Store

/-- Makes a directory, or finds it there. -/
def findDirectory (s : Store) (path : String) : Change :=
  match s.makeDirectory path, s.locate path with
  | .ok s, _ => (.ok (), s)
  | .error fault, .ok place =>
    (if s.isDirectory place then .ok () else .error (fault, path), s)
  | .error fault, .error _ => (.error (fault, path), s)

/-- Finds or makes the directory of steps that are given last first. What encloses a directory is
made only where it is missing. -/
def openDirectory (s : Store) (root : String) : List String → Change
  | [] => (.ok (), s)
  | step :: outer =>
    let path := join root (step :: outer).reverse
    match s.makeDirectory path with
    | .error .notFound =>
      match s.openDirectory root outer with
      | (.ok (), s) => s.findDirectory path
      | failed => failed
    | _ => s.findDirectory path

/-- Writes a file after the directories that enclose it are found or made. These stay even where the
file cannot be written. -/
def create (s : Store) (path : String) (content : List UInt8) : Change :=
  match s.openDirectory (root path) (properSteps path).dropLast.reverse with
  | (.ok (), s) =>
    match s.write (normalize path) content with
    | .ok s => (.ok (), s)
    | .error fault => (.error (fault, normalize path), s)
  | failed => failed

/-- Whether a place is below the working directory. -/
def IsInside (place : Place) : Prop := place.head? ≠ some ".." ∧ place.head? ≠ some ""

instance : DecidablePred IsInside := fun _ => inferInstanceAs (Decidable (_ ∧ _))

def listing (s : Store) : List (Place × List UInt8) := s.files.filter (IsInside ·.1)

/-- The files whose content is not the same in an earlier store. -/
def changedSince (s before : Store) : List (Place × List UInt8) :=
  s.listing.filter fun (place, content) => before.get? place ≠ some content

end Store

end VoxelGrid.Storage
