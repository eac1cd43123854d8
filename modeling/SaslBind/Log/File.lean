import SaslBind.Files.System
import SaslBind.Log.Level
import SaslBind.Log.Schedule
import SaslBind.Log.Template.Fill

/-!
# Log files

Records go to the end of a log file, each on a line of its own.  Before one of them the file may be turned over: it gets
another name if the next one is to have its name, files that belong to the log and are too old are taken out, and a new
file is made.

* `LogFile.opened` : a log file is made, or one that is there is gone on with;
* `LogFile.isDue` : whether the file is to be turned over before a line;
* `LogFile.oldFiles` : the files that belong to the log and have been kept long enough;
* `LogFile.turnOver` : the next file;
* `LogFile.put` : one record more; `LogFile.left`, what there is if it is lost.

What a log file takes from its surroundings is an `Occasion` for each record: the time and the heading of its line, whether
some time has come, and how old files are.
-/

namespace SaslBind

/-- What the surroundings are when a record goes to a log file. -/
structure Occasion where
  now : Moment
  /-- What the line of a record of this level begins with: the time, the level and the place in the program. -/
  heading : Log.Level → Text
  /-- When the file was made that is open. -/
  made : Moment
  /-- Whether the time has come to turn the file over, if that goes by time.  It may be impossible to say. -/
  timeIsUp : Except Fault Bool
  /-- How old the file is where these names lead from the root, in microseconds. -/
  age : List Text → Int
  /-- What is reported on the error output if the record is lost. -/
  report : Text

/-- The line of a record in a log file. -/
def Occasion.line (o : Occasion) (r : Log.Record) : Text := o.heading r.level ++ r.message ++ "\n".toText

/-- A log file: its name, in which the time may have a place, when it is turned over, and for how many microseconds old
files are kept. -/
structure LogFile where
  name : List Log.Template.Piece
  rotation : Log.Rotation
  retention : Int

/-- A log file that is open: its path from the root, among all files. -/
structure OpenLog where
  path : Path
  files : FileSystem

namespace OpenLog

def size (b : OpenLog) : Nat := (((b.files.at? b.path.names).map FileTree.content).getD []).length

/-- Octets at the end of the file. -/
def append (b : OpenLog) (bs : List UInt8) : Except Fault OpenLog :=
  (b.files.extend b.path bs).map fun files => { b with files }

end OpenLog

namespace LogFile

/-- The path from the root that the file has at some time. -/
def pathAt (l : LogFile) (now : Moment) (files : FileSystem) : Except Fault Path :=
  (Log.Template.fill now l.name).map fun name => files.absolute (.ofText name)

/-- The file is made, if it is not there yet. -/
def opened (l : LogFile) (now : Moment) (files : FileSystem) : Except Fault OpenLog := do
  let path ← l.pathAt now files
  OpenLog.append ⟨path, files⟩ []

/-- Whether the file is to be turned over before this line. -/
def isDue (l : LogFile) (o : Occasion) (b : OpenLog) (line : Text) : Except Fault Bool :=
  match l.rotation with
  | .size limit => .ok (limit.precedes (.exactly ((b.size + line.length : Nat) : Int)))
  | .time => o.timeIsUp

/-! ### Names of old files -/

/-- A name and its extension, from its last point on; points at the beginning do not count. -/
def splitExtension {α : Type} (isPoint : α → Bool) (name : List α) : List α × List α :=
  let points := name.takeWhile isPoint
  let rest := name.dropWhile isPoint
  let extension := (rest.reverse.takeWhile (!isPoint ·)).length + 1
  if rest.length < extension then (name, [])
  else (points ++ rest.take (rest.length - extension), rest.drop (rest.length - extension))

def point : CodePoint := CodePoint.ofChar '.'

/-- The name that a file gets which was made at some time, before its extension; a number tells it from others. -/
def spareName (name : Text) (made : Moment) (n : Nat) : Text :=
  let (stem, extension) := splitExtension (· = point) name
  let number := if n = 0 then [] else point :: Text.ofNat (n + 1)
  stem ++ point :: Log.Template.Percent.layOut made Log.Template.fileLayout.toText ++ number ++ extension

/-- The path that the open file gets when it is turned over: the first that leads to nothing. -/
def sparePath (b : OpenLog) (made : Moment) : Path :=
  let folder := b.path.names.dropLast
  let spare (n : Nat) : Path := ⟨b.path.root, folder ++ [spareName (b.path.names.getLast?.getD []) made n]⟩
  let taken := ((b.files.at? folder).map (·.entries.length)).getD 0
  ((List.range (taken + 1)).find? fun n => (b.files.at? (spare n).names).isNone).map spare |>.getD (spare 0)

/-- A name in which some places stand for any characters. -/
abbrev Pattern := List (Option CodePoint)

/-- The ends of a text, the whole text among them. -/
def ends : Text → List Text
  | [] => [[]]
  | c :: t => (c :: t) :: ends t

/-- Whether a name is one of a pattern. -/
def fits : Pattern → Text → Bool
  | [], t => t.isEmpty
  | none :: p, t => (ends t).any (fits p)
  | some _ :: _, [] => false
  | some c :: p, d :: t => c = d && fits p t

/-- Whether a name is meant by a pattern: any characters do not begin with a point. -/
def means (p : Pattern) (name : Text) : Bool :=
  !(p.head? = some none && name.head? = some point) && fits p name

/-- The names that patterns, one for each folder on the way, mean from a folder on. -/
def expand (files : FileSystem) (way : List Text) : List Pattern → List (List Text)
  | [] => [way]
  | p :: ps =>
    match files.at? way with
    | some (.folder es) =>
      if p.isEmpty then if ps.isEmpty then [] else expand files way ps
      else if p = Path.here.map some then expand files way ps
      else if p = Path.above.map some then expand files way.dropLast ps
      else (es.filter fun e => means p e.1).flatMap fun e => expand files (way ++ [e.1]) ps
    | _ => []

/-- The parts of a pattern between slashes. -/
def parts : Pattern → List Pattern
  | [] => [[]]
  | c :: p =>
    if c = some Path.slash then [] :: parts p
    else
      match parts p with
      | [] => [[c]]
      | first :: rest => (c :: first) :: rest

/-- The files that a pattern means, from the root or else from the working folder. -/
def matching (files : FileSystem) (p : Pattern) : List (List Text) :=
  match p with
  | some c :: rest => if c = Path.slash then expand files [] (parts rest) else expand files files.working (parts p)
  | p => expand files files.working (parts p)

/-- What the names of all files of the log have in common: more may follow, and stand before the extension. -/
def patterns (l : LogFile) : List Pattern :=
  let whole : Pattern := l.name.map fun
    | .char c => some c
    | .blank _ => none
  let last := (whole.reverse.takeWhile (· ≠ some Path.slash)).length
  let (stem, extension) := splitExtension (· = some point) (whole.drop (whole.length - last))
  let more : Pattern := [some point, none]
  let before := whole.take (whole.length - last) ++ stem ++ more ++ extension
  [whole, whole ++ more] ++ if extension.isEmpty then [] else [before, before ++ more]

/-- The files that belong to the log and have been kept long enough. -/
def oldFiles (l : LogFile) (o : Occasion) (files : FileSystem) : List (List Text) :=
  (l.patterns.flatMap (matching files)).filter fun names =>
    ((files.at? names).any FileTree.isFile) && l.retention ≤ o.age names

/-! ### Records -/

/-- The file that is open gets another name if a new file is to have its name. -/
def setAside (b : OpenLog) (path : Path) (made : Moment) : Except Fault FileSystem :=
  if path = b.path then b.files.rename path (sparePath b made) else .ok b.files

/-- The next file; old ones are taken out before it is made. -/
def turnOver (l : LogFile) (o : Occasion) (b : OpenLog) : Except Fault OpenLog := do
  let path ← l.pathAt o.now b.files
  let files ← setAside b path o.made
  OpenLog.append ⟨path, (l.oldFiles o files).foldl FileSystem.remove files⟩ []

/-- The file that the next line goes to. -/
def next (l : LogFile) (o : Occasion) (b : OpenLog) (line : Text) : Except Fault OpenLog := do
  if ← l.isDue o b line then l.turnOver o b else pure b

/-- The line of a record at the end of the file, which may be turned over before; only UTF-8 can be written. -/
def put (l : LogFile) (o : Occasion) (b : OpenLog) (r : Log.Record) : Except Fault OpenLog := do
  let line := o.line r
  let b ← l.next o b line
  match line.surrogateRun? with
  | some run => throw (.unencodable run)
  | none => b.append line.octets

/-- What there is of the log if a record is lost: the file may have been turned over before its line could not be written. -/
def left (l : LogFile) (o : Occasion) (b : OpenLog) (r : Log.Record) : OpenLog :=
  match l.next o b (o.line r) with
  | .ok next => next
  | .error _ => b

end LogFile

end SaslBind
