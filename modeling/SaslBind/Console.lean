import SaslBind.Launcher
import SaslBind.Log.File

/-!
# The launcher on a console

On a console the launcher takes its settings from the environment and shows log records: on the error
output from one level on, and in a log file if the settings name one.

* `Console.start` : the set-up of a run: its settings, and where records go;
* `Console.run` : the whole run on a file system.

Records go to the log file one by one, while the launcher works.  What it reads, it reads before all other records than those
of `Launcher.opening`.
-/

namespace SaslBind

namespace Console

/-! ### Settings -/

/-- The level of a name. -/
def levelOf (name : Text) : Except Fault Log.Level :=
  match Log.Level.ofName? name with
  | some level => .ok level
  | none => .error (.unknownLevel name)

/-- The text of a setting; only texts come from an environment. -/
def textOf (v : Value) : Text := v.text?.getD []

/-- Whether a setting is the truth value true. -/
def isSet (v : Value) : Bool :=
  match v with
  | .bool b => b
  | _ => false

/-- The level from which on the error output shows records. -/
def shownLevel (t : Settings) : Except Fault Log.Level := if isSet t.debug then .ok .debug else levelOf (textOf t.logLevel)

/-- The log file that settings describe. -/
def logFileOf (t : Settings) : Except Fault LogFile := do
  let name ← Log.Template.parse (textOf t.logFile)
  let rotation ← Log.readRotation (textOf t.logRotation)
  let retention ← Log.readRetention (textOf t.logRetention)
  pure ⟨name, rotation, retention⟩

/-! ### Set-up -/

/-- What there is around a run: the time, the files, the environment, where the version is looked up, and what the
surroundings are when records go to the log file. -/
structure Surroundings where
  now : Moment
  files : FileSystem
  environment : Environment
  version : VersionSource
  occasions : Nat → Occasion

/-- Why a run did not get past its set-up, and the files that there are then. -/
structure Failure where
  fault : Fault
  files : FileSystem

/-- Where records go besides the error output: the log file, the level from which on it takes records, and the path that it
has at first. -/
structure Target where
  file : LogFile
  level : Log.Level
  path : Path

/-- What a run begins with after its set-up. -/
structure Start where
  settings : Settings
  /-- The level from which on the error output shows records. -/
  shown : Log.Level
  /-- The files, with the log file among them. -/
  files : FileSystem
  target : Option Target

/-- The log file that settings describe, made at some time. -/
def openLog (now : Moment) (files : FileSystem) (t : Settings) : Except Fault (LogFile × OpenLog) := do
  let l ← logFileOf t
  let b ← l.opened now files
  pure (l, b)

/-- The log file is made if the settings name one.  Its level is looked up only after that. -/
def aim (now : Moment) (files : FileSystem) (t : Settings) : Except Failure (FileSystem × Option Target) :=
  if (textOf t.logFile).isEmpty then .ok (files, none)
  else
    match openLog now files t with
    | .error f => .error ⟨f, files⟩
    | .ok (l, b) =>
      match levelOf (textOf t.logLevel) with
      | .error f => .error ⟨f, b.files⟩
      | .ok level => .ok (b.files, some ⟨l, level, b.path⟩)

/-- The set-up of a run. -/
def start (s : Surroundings) : Except Failure Start := do
  let settings ← (Settings.ofEnvironment s.environment s.version).mapError (⟨·, s.files⟩)
  let shown ← (shownLevel settings).mapError (⟨·, s.files⟩)
  let (files, target) ← aim s.now s.files settings
  pure ⟨settings, shown, files, target⟩

/-! ### Records -/

/-- How far a run is: the log file, how many records went to it, and those of them that were lost. -/
structure Progress where
  log : OpenLog
  count : Nat
  lost : List Log.Record

/-- What an event shows on the error output. -/
def shownOnErr (shown : Log.Level) : Event → Text
  | .record r => if r.level.shownFrom shown then r.line else []
  | e => e.textOn .err

/-- A record goes to the log file, or is lost; what is reported then comes first. -/
def Progress.file (l : LogFile) (occasions : Nat → Occasion) (w : Progress) (r : Log.Record) : Text × Progress :=
  match l.put (occasions w.count) w.log r with
  | .ok log => ([], { w with log, count := w.count + 1 })
  | .error _ =>
    ((occasions w.count).report,
      { w with log := l.left (occasions w.count) w.log r, count := w.count + 1, lost := w.lost ++ [r] })

/-- What comes of an event in the log file. -/
def Progress.take (t : Target) (occasions : Nat → Occasion) (w : Progress) : Event → Text × Progress
  | .record r => if r.level.shownFrom t.level then w.file t.file occasions r else ([], w)
  | .write .. => ([], w)

/-- What events show on the error output, and what comes of them in the log file. -/
def Progress.takeAll (shown : Log.Level) (t : Target) (occasions : Nat → Occasion) (w : Progress) :
    List Event → Text × Progress
  | [] => ([], w)
  | e :: events =>
    let (report, w) := w.take t occasions e
    let (rest, w) := w.takeAll shown t occasions events
    (shownOnErr shown e ++ report ++ rest, w)

/-! ### Runs -/

/-- How a run ended, what was written, the files after it, and the records that the log file should have taken. -/
structure Result where
  exit : Except Fault ResultCode
  out : Text
  err : Text
  files : FileSystem
  lost : List Log.Record

namespace Start

/-- What there is of the log file when the launcher begins to read. -/
def early (b : Start) (t : Target) (occasions : Nat → Occasion) (args : List Text) : Progress :=
  (Progress.takeAll b.shown t occasions ⟨⟨t.path, b.files⟩, 0, []⟩ (Launcher.opening args)).2

/-- The files that the launcher reads. -/
def readFiles (b : Start) (occasions : Nat → Occasion) (args : List Text) : FileSystem :=
  match b.target with
  | none => b.files
  | some t => (b.early t occasions args).log.files

/-- How the launcher ends, and what happens on the way. -/
def launch (b : Start) (occasions : Nat → Occasion) (args : List Text) : Except Fault ResultCode × List Event :=
  Launcher.main (Launcher.tools (b.readFiles occasions args).read) (.ok b.settings) args ⟨true, true⟩

/-- A run after its set-up. -/
def run (b : Start) (occasions : Nat → Occasion) (args : List Text) : Result :=
  let (exit, events) := b.launch occasions args
  let out := Event.text .out events
  match b.target with
  | none => ⟨exit, out, events.flatMap (shownOnErr b.shown), b.files, []⟩
  | some t =>
    let (err, w) := Progress.takeAll b.shown t occasions ⟨⟨t.path, b.files⟩, 0, []⟩ events
    ⟨exit, out, err, w.log.files, w.lost⟩

end Start

def run (s : Surroundings) (args : List Text) : Result :=
  match start s with
  | .error e => ⟨.error e.fault, [], [], e.files, []⟩
  | .ok b => b.run s.occasions args

end Console

end SaslBind
