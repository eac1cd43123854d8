import SaslBind.Text.Quoted

/-!
# Paths, and errors of the file system

A path is a root, which may be missing, and the names on the way.  Empty names and single points do not
count, two points do.  Exactly two slashes at the beginning are a root of their own; any other number
of them is one slash.

What the file system answers if it can not do what is asked for is a `FileError`: a number, and what that means.
-/

namespace SaslBind

/-- A path to a file. -/
structure Path where
  root : Text
  names : List Text
deriving DecidableEq, Repr

namespace Path

def slash : CodePoint := CodePoint.ofChar '/'

/-- The name of the folder above. -/
def above : Text := "..".toText

/-- The name of the folder itself. -/
def here : Text := ".".toText

/-- The root that a text begins with. -/
def rootOf (t : Text) : Text :=
  match (t.takeWhile (· = slash)).length with
  | 0 => []
  | 2 => [slash, slash]
  | _ => [slash]

/-- The path that a text writes. -/
def ofText (t : Text) : Path :=
  ⟨rootOf t, (t.split slash).filter fun name => !name.isEmpty && name ≠ here⟩

/-- The text of a path; one point if nothing else is in it. -/
def text (p : Path) : Text :=
  if p.root.isEmpty && p.names.isEmpty then here else p.root ++ Text.join [slash] p.names

end Path

/-- Why a file can not be read or made. -/
inductive FileError where
  | missing
  | taken
  | notFolder
  | isFolder
  | nameTooLong
deriving DecidableEq, Repr

namespace FileError

def number : FileError → Nat
  | .missing => 2
  | .taken => 17
  | .notFolder => 20
  | .isFolder => 21
  | .nameTooLong => 36

def meaning : FileError → String
  | .missing => "No such file or directory"
  | .taken => "File exists"
  | .notFolder => "Not a directory"
  | .isFolder => "Is a directory"
  | .nameTooLong => "File name too long"

/-- The wording of an error with a path. -/
def message (e : FileError) (p : Path) : Text :=
  "[Errno ".toText ++ Text.ofNat e.number ++ "] ".toText ++ e.meaning.toText ++ ": ".toText ++ p.text.quoted

end FileError

end SaslBind
