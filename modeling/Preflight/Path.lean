import Preflight.Text.Split

/-!
# Paths of files

A path is a row of names under a root.  Empty names and single points are dropped when it is read;
two points stay, since what they mean depends on the files.
-/

namespace Preflight

structure Path where
  /-- What an absolute path starts with, empty for a relative one. -/
  root : String
  parts : List String
  deriving DecidableEq, Repr, Inhabited

namespace Path

/-- The slashes at the start of a text, of which exactly two stay two and more become one. -/
def rootOf (cs : List Char) : String :=
  match (cs.takeWhile (· = '/')).length with
  | 0 => ""
  | 2 => "//"
  | _ => "/"

def isName (part : String) : Bool := part != "" && part != "."

def ofString (s : String) : Path :=
  ⟨rootOf s.toList, (Text.splitText '/' s).filter isName⟩

/-- The path as a text; the one without any name is a point. -/
def text (p : Path) : String :=
  if p.root = "" && p.parts.isEmpty then "." else p.root ++ String.intercalate "/" p.parts

/-- The most bytes of a name. -/
def mostNameBytes : Nat := 255

/-- The most bytes of a path. -/
def mostBytes : Nat := 4095

def isLongName (part : String) : Bool := mostNameBytes < part.utf8ByteSize

/-- Whether the path has too many bytes as a whole. -/
def isLong (p : Path) : Bool := mostBytes < p.text.utf8ByteSize

/-- Whether a null character is in the path, which then leads nowhere. -/
def hasNull (p : Path) : Bool := p.parts.any (·.contains '\x00')

/-- The path of the directory that the last name stands in. -/
def parent (p : Path) : Path := ⟨p.root, p.parts.dropLast⟩

/-- The path of a file in a directory. -/
def child (p : Path) (name : String) : Path := ⟨p.root, p.parts ++ [name]⟩

def name (p : Path) : String := p.parts.getLast?.getD ""

/-- The end of the name from its last point on, if there is something on both sides. -/
def suffix (p : Path) : String :=
  match Text.splitLast? '.' p.name.toList with
  | some (before, after) =>
    if before.isEmpty || after.isEmpty then "" else String.ofList ('.' :: after)
  | none => ""

end Path

end Preflight
