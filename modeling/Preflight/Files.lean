import Preflight.Fault
import Preflight.Path

/-!
# Files

What stands at each path: a file with its text, a directory, or nothing.  Names have a greatest
length, and where a longer one is looked up the search fails.
-/

namespace Preflight

inductive Files.Entry where
  | file (content : String)
  | directory
  deriving DecidableEq, Repr

structure Files where
  /-- The working directory, where relative paths start. -/
  workingDirectory : Path
  entryAt : Path → Except Fault (Option Files.Entry)

namespace Files

/-- A tree of files and directories under the working directory, by the names that lead there. -/
structure Tree where
  files : List (List String × String)
  directories : List (List String)

namespace Tree

def isDirectory (t : Tree) (place : List String) : Bool :=
  place.isEmpty || t.directories.any (place.isPrefixOf ·) ||
    t.files.any fun (names, _) => place.isPrefixOf names && place != names

/-- What stands at a place of the tree. -/
def entry? (t : Tree) (place : List String) : Option Entry :=
  match t.files.lookup place with
  | some content => some (.file content)
  | none => if t.isDirectory place then some .directory else none

/-- The place that a name leads to, none outside of the tree. -/
def step (place : List String) (name : String) : Option (List String) :=
  if name = ".." then (if place.isEmpty then none else some place.dropLast)
  else some (place ++ [name])

/-- Follows the names of a path from a place on.  Nothing is known of what is outside the tree but
that the directories above it exist. -/
def walk (t : Tree) (path : Path) (place : Option (List String)) :
    List String → Except Fault (Option Entry)
  | [] =>
    match place with
    | some place => .ok (t.entry? place)
    | none => .ok (some .directory)
  | name :: rest =>
    if !(place.all t.isDirectory) then .ok none
    else if Path.isLongName name then .error (.nameTooLong path.text)
    else
      match place with
      | some place => t.walk path (step place name) rest
      | none => if name = ".." then t.walk path none rest else .ok none

/-- What stands at a path, for a tree that stands in a working directory. -/
def entryAt (t : Tree) (workingDirectory p : Path) : Except Fault (Option Entry) :=
  if p.hasNull then .ok none
  else if p.isLong then .error (.nameTooLong p.text)
  else if p.root = workingDirectory.root && workingDirectory.parts.isPrefixOf p.parts then
    t.walk p (some []) (p.parts.drop workingDirectory.parts.length)
  else t.walk p (if p.root = "" then some [] else none) p.parts

/-- The files of a tree that stands in a working directory. -/
def toFiles (t : Tree) (workingDirectory : Path) : Files :=
  ⟨workingDirectory, t.entryAt workingDirectory⟩

end Tree

/-- Reads line ends of every kind as one line feed. -/
def plainLines : List Char → List Char
  | '\r' :: '\n' :: rest => '\n' :: plainLines rest
  | '\r' :: rest => '\n' :: plainLines rest
  | c :: rest => c :: plainLines rest
  | [] => []

/-- The text of the content of a file. -/
def textOf (content : String) : String := String.ofList (plainLines content.toList)

end Files

end Preflight
