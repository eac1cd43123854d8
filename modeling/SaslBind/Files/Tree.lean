import SaslBind.Fault
import SaslBind.Text.Entries

/-!
# Trees of files

A tree has folders, with files and other folders in them by name.

* `FileTree.walk` : what names lead to;
* `FileTree.append` : puts octets at the end of a file, making it and its folders if they are missing;
* `FileTree.remove` : takes a file out;
* `FileTree.list` : all files with the names on the way to them.

Names are octets: two names that write the same ones are the same.
-/

namespace SaslBind

/-- A file or a folder. -/
inductive FileTree where
  | file (content : List UInt8)
  | folder (entries : List (Text × FileTree))
deriving Repr, Inhabited

namespace FileTree

/-- How many octets a name has at most. -/
def longestName : Nat := 255

/-- How many octets a name takes. -/
def size (name : Text) : Nat := name.restore.length

/-- What is in a folder under a name. -/
def find? (name : Text) (entries : List (Text × FileTree)) : Option FileTree := entries.lookup name.carried

/-- What the names lead to, from the folders on the way so far, the innermost first; above the
outermost one is `top`. -/
def walk (top : FileTree) (trail : List FileTree) : List Text → Except FileError FileTree
  | [] => .ok (trail.headD top)
  | name :: names =>
    match trail.headD top with
    | .file _ => .error .notFolder
    | .folder entries =>
      if name = Path.above then walk top (trail.drop 1) names
      else if longestName < size name then .error .nameTooLong
      else
        match find? name entries with
        | none => .error .missing
        | some node => walk top (node :: trail) names

/-- The entries of a folder; a file has none. -/
def entries : FileTree → Entries FileTree
  | .folder es => es
  | .file _ => []

/-- The content of a file; a folder has none. -/
def content : FileTree → List UInt8
  | .folder _ => []
  | .file bs => bs

def isFile : FileTree → Bool
  | .folder _ => false
  | .file _ => true

/-- Puts a node where the names lead to, as `change` makes it from what is there now. -/
def update (change : Option FileTree → FileTree) : List Text → Option FileTree → FileTree
  | [], node => change node
  | name :: names, node =>
    let es := (node.getD (.folder [])).entries
    .folder (Entries.put name.carried (update change names (find? name es)) es)

/-- Puts octets at the end of a file. -/
def append (tree : FileTree) (names : List Text) (bs : List UInt8) : FileTree :=
  let extend : Option FileTree → FileTree
    | some (.file content) => .file (content ++ bs)
    | _ => .file bs
  update extend names (some tree)

/-- Makes a folder where there is none yet. -/
def makeFolder (tree : FileTree) (names : List Text) : FileTree :=
  update (fun node => node.getD (.folder [])) names (some tree)

/-- Takes out what the names lead to, if there is something. -/
def remove : List Text → FileTree → FileTree
  | _, .file content => .file content
  | [], .folder es => .folder es
  | [name], .folder es => .folder (Entries.remove name.carried es)
  | name :: names, .folder es =>
    match find? name es with
    | none => .folder es
    | some node => .folder (Entries.put name.carried (remove names node) es)

mutual

/-- All files with the names on the way to them. -/
def list (way : List Text) : FileTree → List (List Text × List UInt8)
  | .file content => [(way, content)]
  | .folder es => listEntries way es

/-- All files of entries. -/
def listEntries (way : List Text) : List (Text × FileTree) → List (List Text × List UInt8)
  | [] => []
  | (name, node) :: es => list (way ++ [name]) node ++ listEntries way es

end

end FileTree

end SaslBind
