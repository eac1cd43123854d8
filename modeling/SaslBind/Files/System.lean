import SaslBind.Files.Tree

/-!
# File systems

All files that a process can reach, and the folder in which it works.  Where a path is read, two points lead to the folder
above.  A file that is to be made is looked for by the names of its path alone: two points take back the name before them,
whether there is such a folder or not.  Folders that are missing on the way are made, save where the system keeps a folder
closed.

* `FileSystem.read` : the content of a file;
* `FileSystem.absolute` : a path from the root;
* `FileSystem.extend` : octets at the end of a file, which is made if it is missing;
* `FileSystem.rename`, `FileSystem.remove` : other changes.

An error of the file system is a `FileError`; a path that no file system can be asked for is a fault.  What only reads
files takes a `FileReader`.
-/

namespace SaslBind

/-- A way to read files: the content, an error of the file system, or a fault of the path. -/
abbrev FileReader := Path → Except Fault (Except FileError (List UInt8))

/-- The files of a system. -/
structure FileSystem where
  root : FileTree
  /-- The names that lead from the root to the working folder. -/
  working : List Text
  /-- The folders under the root in which nothing can be made. -/
  closed : List Text
deriving Repr

namespace FileSystem

/-- A system with these files in its working folder, and with nothing else. -/
def ofTree (root : FileTree) : FileSystem := ⟨root, [], []⟩

/-! ### Reading -/

/-- How many octets a whole path has at most. -/
def longestPath : Nat := 4095

/-- The names of a path from the root. -/
def names (fs : FileSystem) (p : Path) : List Text := if p.root.isEmpty then fs.working ++ p.names else p.names

/-- What a path leads to. -/
def locate (fs : FileSystem) (p : Path) : Except FileError FileTree :=
  if longestPath < FileTree.size p.text then .error .nameTooLong else FileTree.walk fs.root [] (fs.names p)

/-- A fault of a path that can not be asked for at all. -/
def pathFault? (p : Path) : Option Fault :=
  match p.text.foreignRun? with
  | some run => some (.unencodable run)
  | none => if p.text.any (·.value = 0) then some .nullInPath else none

def read (fs : FileSystem) : FileReader := fun p =>
  match pathFault? p with
  | some f => .error f
  | none =>
    match fs.locate p with
    | .error e => .ok (.error e)
    | .ok (.folder _) => .ok (.error .isFolder)
    | .ok (.file content) => .ok (.ok content)

/-- What the names lead to from the root, if they lead to anything. -/
def at? (fs : FileSystem) (names : List Text) : Option FileTree := (FileTree.walk fs.root [] names).toOption

/-! ### Making files -/

/-- One name more on the way from the root. -/
def step (way : List Text) (name : Text) : List Text := if name = Path.above then way.dropLast else way ++ [name]

/-- A path from the root, with no points in it. -/
def absolute (fs : FileSystem) (p : Path) : Path :=
  ⟨if p.root.isEmpty then [Path.slash] else p.root, (fs.names p).foldl step []⟩

/-- Whether nothing can be made on the way that names lead from the root. -/
def isClosed (fs : FileSystem) (names : List Text) : Bool := names.head?.any fs.closed.contains

/-- What stands in the way of a file in a folder with these entries, and the names up to there after
those of the folder.  Where the way is `closed`, that nothing is there yet does too. -/
def obstacle? (closed : Bool) (way : List Text) (es : List (Text × FileTree)) :
    List Text → Option (FileError × List Text)
  | [] => some (.isFolder, way)
  | name :: names =>
    let here := way ++ [name]
    if FileTree.longestName < FileTree.size name then some (.nameTooLong, here)
    else
      match FileTree.find? name es, names with
      | some (.file _), [] => none
      | none, names =>
        if closed then some (.missing, here) else if names.isEmpty then none else obstacle? closed here [] names
      | some (.file _), [_] => some (.taken, here)
      | some (.file _), next :: _ => some (.notFolder, here ++ [next])
      | some (.folder es), names => obstacle? closed here es names

/-- A file can be made where a path leads from the root, or it is there already. -/
def check (fs : FileSystem) (p : Path) : Except Fault Unit :=
  match pathFault? p, obstacle? (fs.isClosed p.names) [] fs.root.entries p.names with
  | some f, _ => .error f
  | none, some (e, names) => .error (.file e ⟨p.root, names⟩)
  | none, none => .ok ()

/-- Octets at the end of the file where a path leads from the root. -/
def extend (fs : FileSystem) (p : Path) (bs : List UInt8) : Except Fault FileSystem :=
  (fs.check p).map fun _ => { fs with root := fs.root.append p.names bs }

/-! ### Other changes -/

/-- What the names lead to from the root is taken out. -/
def remove (fs : FileSystem) (names : List Text) : FileSystem := { fs with root := fs.root.remove names }

/-- A file is taken from one path to another, both from the root. -/
def rename (fs : FileSystem) (old new : Path) : Except Fault FileSystem :=
  (fs.remove old.names).extend new (((fs.at? old.names).map FileTree.content).getD [])

end FileSystem

end SaslBind
