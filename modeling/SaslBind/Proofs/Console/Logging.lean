import SaslBind.Proofs.Console.Start
import SaslBind.Proofs.Launcher.Records

/-!
# Logging only adds records

On the error output a run shows what it says there, and between that the records that pass.  The records that pass the
level of the settings go to the log file, each on a line at the end of the file that is open then, and nothing else does.
All records pass on the error output if debugging is asked for, and else those that go to the log file as well.

Which records are shown changes nothing else, with one exception: a log file may be turned over before the launcher reads
the password file, and may take that out as one of its own old files.

* `Event.isOnErr` : the events of the error output;
* `Start.LogsTo` : what a run puts into its log file;
* `Start.Leaves` : what a run leaves of its events on the outputs and in the log file.

Main statement: `logging_only_adds`.
-/

namespace SaslBind

namespace Event

/-- What an event shows where it is shown. -/
def line : Event → Text
  | .write _ t => t
  | .record r => r.line

/-- Whether an event is one of the error output, if that shows these records. -/
def isOnErr (keeps : Log.Record → Bool) : Event → Bool
  | .write sink _ => sink = .err
  | .record r => keeps r

end Event

namespace Console

theorem flatMap_shownOnErr (shown : Log.Level) (events : List Event) :
    events.flatMap (shownOnErr shown) = (events.filter (Event.isOnErr (·.level.shownFrom shown))).flatMap Event.line := by
  induction events with
  | nil => rfl
  | cons e events ih =>
    cases e with
    | record r => cases h : r.level.shownFrom shown <;> simp [shownOnErr, Event.isOnErr, Event.line, h, ih]
    | write sink t => cases sink <;> simp [shownOnErr, Event.isOnErr, Event.textOn, Event.line, ih]

/-- The records from a level on, in order. -/
def recordsFrom (level : Log.Level) (events : List Event) : List Log.Record :=
  (events.filterMap Event.record?).filter (·.level.shownFrom level)

theorem recordsFrom_write (level : Log.Level) (sink : Sink) (t : Text) (events : List Event) :
    recordsFrom level (.write sink t :: events) = recordsFrom level events := rfl

theorem recordsFrom_record (level : Log.Level) (r : Log.Record) (events : List Event) :
    recordsFrom level (.record r :: events) =
      if r.level.shownFrom level then r :: recordsFrom level events else recordsFrom level events := by
  change (r :: events.filterMap Event.record?).filter (·.level.shownFrom level) = _
  rw [List.filter_cons]
  rfl

/-! ### What comes of events -/

section

variable {shown : Log.Level} {target : Target} {occasions : Nat → Occasion} {w : Progress} {e : Event}
  {events : List Event} {fates : List (Log.Record × Fate)}

/-- What comes of events: the records from a level on go to the log file with some fates, and if none is lost then nothing
but the events is shown on the error output. -/
structure Progress.Goes (w : Progress) (shown : Log.Level) (target : Target) (occasions : Nat → Occasion)
    (events : List Event) (fates : List (Log.Record × Fate)) : Prop where
  records : fates.map Prod.fst = recordsFrom target.level events
  filed : target.file.Filed occasions w.count w.log fates (w.takeAll shown target occasions events).2.log
  lost : (w.takeAll shown target occasions events).2.lost = w.lost ++ LogFile.lostOf fates
  err : LogFile.lostOf fates = [] →
    (w.takeAll shown target occasions events).1 = events.flatMap (shownOnErr shown)

theorem Progress.Goes.skip (h : w.Goes shown target occasions events fates)
    (skipped : w.take target occasions e = ([], w))
    (none : recordsFrom target.level (e :: events) = recordsFrom target.level events) :
    w.Goes shown target occasions (e :: events) fates := by
  refine ⟨h.records.trans none.symm, ?_, ?_, fun noLoss => ?_⟩
  · simpa only [takeAll, skipped] using h.filed
  · simpa only [takeAll, skipped] using h.lost
  · simp only [takeAll, skipped, h.err noLoss, List.append_nil, List.flatMap_cons]

/-- A record that is put into the log file, or into the next one. -/
theorem Progress.Goes.put {r : Log.Record} {c : OpenLog} (fate : Fate) (kept : fate ≠ .lost)
    (h : Goes { w with log := c, count := w.count + 1 } shown target occasions events fates)
    (first : recordsFrom target.level (.record r :: events) = r :: recordsFrom target.level events)
    (taken : w.take target occasions (.record r) = ([], { w with log := c, count := w.count + 1 }))
    (filed : ∀ {last}, target.file.Filed occasions (w.count + 1) c fates last →
      target.file.Filed occasions w.count w.log ((r, fate) :: fates) last) :
    w.Goes shown target occasions (.record r :: events) ((r, fate) :: fates) := by
  have lost : LogFile.lostOf ((r, fate) :: fates) = LogFile.lostOf fates := by
    rw [LogFile.lostOf, List.filter_cons_of_neg (by simpa using kept)]
    rfl
  refine ⟨?_, ?_, ?_, fun none => ?_⟩
  · rw [first, List.map_cons, h.records]
  · simpa only [takeAll, taken] using filed h.filed
  · simpa only [takeAll, taken, lost] using h.lost
  · simp only [takeAll, taken, h.err (lost.symm.trans none), List.append_nil, List.flatMap_cons]

theorem Progress.Goes.lose {r : Log.Record} {c : OpenLog} {report : Text}
    (h : Goes { w with log := c, count := w.count + 1, lost := w.lost ++ [r] } shown target occasions events fates)
    (first : recordsFrom target.level (.record r :: events) = r :: recordsFrom target.level events)
    (taken : w.take target occasions (.record r) =
      (report, { w with log := c, count := w.count + 1, lost := w.lost ++ [r] }))
    (filed : ∀ {last}, target.file.Filed occasions (w.count + 1) c fates last →
      target.file.Filed occasions w.count w.log ((r, .lost) :: fates) last) :
    w.Goes shown target occasions (.record r :: events) ((r, .lost) :: fates) := by
  refine ⟨?_, ?_, ?_, fun noLoss => ?_⟩
  · rw [first, List.map_cons, h.records]
  · simpa only [takeAll, taken] using filed h.filed
  · simp only [takeAll, taken, h.lost, List.append_assoc]
    rfl
  · cases noLoss

theorem exists_goes (shown : Log.Level) (target : Target) (occasions : Nat → Occasion) (events : List Event)
    (made : w.log.Made) : ∃ fates, w.Goes shown target occasions events fates := by
  induction events generalizing w with
  | nil => exact ⟨[], rfl, .nil _ _, (List.append_nil _).symm, fun _ => rfl⟩
  | cons e events ih =>
    cases e with
    | write sink t =>
      obtain ⟨fates, goes⟩ := ih made
      exact ⟨fates, goes.skip rfl (recordsFrom_write _ sink t events)⟩
    | record r =>
      by_cases passes : r.level.shownFrom target.level
      case neg =>
        obtain ⟨fates, goes⟩ := ih made
        exact ⟨fates, goes.skip (if_neg passes) (by rw [recordsFrom_record, if_neg passes])⟩
      case pos =>
        have first : recordsFrom target.level (.record r :: events) = r :: recordsFrom target.level events := by
          rw [recordsFrom_record, if_pos passes]
        have taken : w.take target occasions (.record r) = w.file target.file occasions r := if_pos passes
        rcases LogFile.exists_fate (l := target.file) made (occasions w.count) r with
          ⟨c, put, due, plain, written⟩ | ⟨next, c, put, due, turned, plain, written⟩ | ⟨f, put, why⟩
        · obtain ⟨fates, goes⟩ := ih (w := { w with log := c, count := w.count + 1 }) (OpenLog.made_of_append written)
          exact ⟨_, goes.put .stayed (by decide) first (by rw [taken, Progress.file, put])
            (.stayed due plain written)⟩
        · obtain ⟨fates, goes⟩ := ih (w := { w with log := c, count := w.count + 1 }) (OpenLog.made_of_append written)
          exact ⟨_, goes.put .turned (by decide) first (by rw [taken, Progress.file, put])
            (.turned due turned plain written)⟩
        · obtain ⟨fates, goes⟩ :=
            ih (w := ⟨target.file.left (occasions w.count) w.log r, w.count + 1, w.lost ++ [r]⟩)
              (LogFile.made_left made _ r)
          exact ⟨_, goes.lose first (by rw [taken, Progress.file, put]) (.lost why)⟩

end

/-! ### What a run leaves -/

variable {s s' : Surroundings} {b : Start} {args : List Text}

/-- What happens in a run after its set-up. -/
def Start.events (b : Start) (occasions : Nat → Occasion) (args : List Text) : List Event := (b.launch occasions args).2

/-- The records of a run, in order. -/
def Start.records (b : Start) (occasions : Nat → Occasion) (args : List Text) : List Log.Record :=
  (b.events occasions args).filterMap Event.record?

/-- The events that are shown on the error output. -/
def Start.onErr (b : Start) (occasions : Nat → Occasion) (args : List Text) : List Event :=
  (b.events occasions args).filter (Event.isOnErr (·.level.shownFrom b.shown))

/-- What a run says on the error output, less the records that are shown there. -/
def saidOnErr (s : Surroundings) (args : List Text) : Text :=
  match start s with
  | .ok b => Event.text .err (b.events s.occasions args)
  | .error _ => []

/-- What a run puts into its log file: the records from the level of the settings on, each with its fate. -/
structure Start.LogsTo (s : Surroundings) (b : Start) (args : List Text) (filed : List Log.Record) (l : LogFile)
    (opened last : OpenLog) (fates : List (Log.Record × Fate)) : Prop where
  file : logFileOf b.settings = .ok l
  begins : l.opened s.now s.files = .ok opened
  level : ∃ level, b.settings.NamesLevel level ∧ filed = (b.records s.occasions args).filter (·.level.shownFrom level)
  records : fates.map Prod.fst = filed
  put : l.Filed s.occasions 0 opened fates last
  files : (Console.run s args).files = last.files
  lost : (Console.run s args).lost = LogFile.lostOf fates
  /-- If all records stay with the file then their lines stand at its end, after what was there before the run. -/
  single : (∀ e ∈ fates, e.2 = .stayed) → last.path = opened.path ∧
    s.files.extend opened.path (LogFile.lines s.occasions 0 filed).octets = .ok last.files
  /-- They do if the file is to be turned over before none of them, and their headings can be written. -/
  calm : (∀ n level, ((s.occasions n).heading level).hasSurrogate = false) →
    l.Calm s.occasions 0 s.files opened.path [] filed → ∀ e ∈ fates, e.2 = .stayed

/-- What a run leaves: the events that are shown on the error output, and the records that go to the log file. -/
structure Start.Leaves (s : Surroundings) (b : Start) (args : List Text) (shown : List Event)
    (filed : List Log.Record) : Prop where
  settings : Settings.ofEnvironment s.environment s.version = .ok b.settings
  exit : (Console.run s args).exit = (b.launch s.occasions args).1
  out : (Console.run s args).out = Event.text .out (b.events s.occasions args)
  /-- If no record is lost, then the error output shows these events and nothing else. -/
  err : (Console.run s args).lost = [] → (Console.run s args).err = shown.flatMap Event.line
  sublist : shown.Sublist (b.events s.occasions args)
  said : Event.text .err shown = saidOnErr s args
  /-- If debugging is asked for, all records are on the error output. -/
  debug : isSet b.settings.debug → shown.filterMap Event.record? = b.records s.occasions args
  /-- If it is not, then those from the level of the settings on. -/
  level : ¬ isSet b.settings.debug → ∃ level, b.settings.NamesLevel level ∧
    shown.filterMap Event.record? = (b.records s.occasions args).filter (·.level.shownFrom level)
  noLog : textOf b.settings.logFile = [] → filed = [] ∧ (Console.run s args).files = s.files ∧ (Console.run s args).lost = []
  /-- In the log file are those from the level of the settings on. -/
  log : textOf b.settings.logFile ≠ [] → ∃ l opened last fates, b.LogsTo s args filed l opened last fates
  /-- So if debugging is not asked for then both have the same records. -/
  same : ¬ isSet b.settings.debug → textOf b.settings.logFile ≠ [] → shown.filterMap Event.record? = filed
  /-- The error output always has those of the log file. -/
  both : filed.Sublist (shown.filterMap Event.record?)
  /-- The launcher reads files after the first of these events and before all others. -/
  opening : Launcher.opening args <+: b.events s.occasions args

theorem records_onErr (b : Start) (occasions : Nat → Occasion) (args : List Text) :
    (b.onErr occasions args).filterMap Event.record? =
      (b.records occasions args).filter (·.level.shownFrom b.shown) :=
  Event.records_filter _ _

theorem ordinary_records (plain : ∀ arg ∈ args, arg.hasSurrogate = false) (occasions : Nat → Occasion) :
    ∀ r ∈ b.records occasions args, r.Ordinary := by
  intro r hr
  obtain ⟨e, he, hs⟩ := List.mem_filterMap.1 hr
  cases e with
  | write sink t => cases hs
  | record r' =>
    obtain rfl := Option.some.inj hs
    exact Launcher.logs_tools (b.readFiles occasions args).read (.ok b.settings) plain _ r' he

theorem records_onErr_of_debug (h : b.Follows s) (plain : ∀ arg ∈ args, arg.hasSurrogate = false)
    (debug : isSet b.settings.debug) (occasions : Nat → Occasion) :
    (b.onErr occasions args).filterMap Event.record? = b.records occasions args := by
  rw [records_onErr, h.debug debug]
  exact List.filter_eq_self.2 fun r hr => (ordinary_records plain occasions r hr).shown

theorem run_of_error {e : Failure} (h : start s = .error e) (args : List Text) :
    run s args = ⟨.error e.fault, [], [], e.files, []⟩ := by rw [run, h]

theorem run_of_noTarget (h : start s = .ok b) (none : b.target = none) (args : List Text) :
    run s args = ⟨(b.launch s.occasions args).1, Event.text .out (b.events s.occasions args),
      (b.events s.occasions args).flatMap (shownOnErr b.shown), b.files, []⟩ := by
  rw [run, h]
  simp only [Start.run, none]
  rfl

theorem run_of_target (h : start s = .ok b) {target : Target} (ht : b.target = some target) (args : List Text) :
    run s args =
      let (err, w) := Progress.takeAll b.shown target s.occasions ⟨⟨target.path, b.files⟩, 0, []⟩
        (b.events s.occasions args)
      ⟨(b.launch s.occasions args).1, Event.text .out (b.events s.occasions args), err, w.log.files, w.lost⟩ := by
  rw [run, h]
  simp only [Start.run, ht]
  rfl

/-- How a run ends, and what it writes to the output, is not a matter of its log file. -/
theorem exit_out_of_start (h : start s = .ok b) (args : List Text) :
    (run s args).exit = (b.launch s.occasions args).1 ∧
      (run s args).out = Event.text .out (b.events s.occasions args) := by
  cases ht : b.target with
  | none =>
    rw [run_of_noTarget h ht]
    exact ⟨rfl, rfl⟩
  | some target =>
    rw [run_of_target h ht]
    exact ⟨rfl, rfl⟩

/-- What a run puts into the log file that it has. -/
theorem exists_logsTo (h : start s = .ok b) (plain : ∀ arg ∈ args, arg.hasSurrogate = false) {target : Target}
    (ht : b.target = some target) :
    (∃ l opened last fates,
      b.LogsTo s args ((b.records s.occasions args).filter (·.level.shownFrom target.level)) l opened last fates) ∧
    ((run s args).lost = [] → (run s args).err = (b.events s.occasions args).flatMap (shownOnErr b.shown)) := by
  have follows := follows_start h
  obtain ⟨there, file, named, opened⟩ := follows.log ht
  obtain ⟨fates, goes⟩ := exists_goes (w := ⟨⟨target.path, b.files⟩, 0, []⟩) b.shown target s.occasions
    (b.events s.occasions args) (made_of_follows follows ht)
  have lost : (run s args).lost = LogFile.lostOf fates := by
    rw [run_of_target h ht]
    exact goes.lost
  refine ⟨⟨target.file, ⟨target.path, b.files⟩, _, fates, file, opened, ⟨target.level, named, rfl⟩, goes.records,
    goes.filed, by rw [run_of_target h ht], lost, fun stayed => ?_, fun headings calm => ?_⟩, fun none => ?_⟩
  · have single := goes.filed.grown stayed (opened_eq_ok_iff.1 opened).2
    rw [goes.records] at single
    exact single
  · have calm : target.file.Calm s.occasions 0 s.files target.path [] (fates.map Prod.fst) := by
      rw [goes.records]
      exact calm
    refine goes.filed.forall_stayed (opened_eq_ok_iff.1 opened).2 calm fun n e he => ?_
    have logged : e.1 ∈ recordsFrom target.level (b.events s.occasions args) := by
      rw [← goes.records]
      exact List.mem_map_of_mem he
    have ordinary := ordinary_records plain s.occasions e.1 (List.mem_of_mem_filter logged)
    simp [Occasion.line, headings n e.1.level, ordinary.plain]
  · rw [run_of_target h ht]
    exact goes.err (lost.symm.trans none)

theorem leaves_of_start (h : start s = .ok b) (plain : ∀ arg ∈ args, arg.hasSurrogate = false) :
    ∃ filed, b.Leaves s args (b.onErr s.occasions args) filed := by
  have follows := follows_start h
  obtain ⟨exit, out⟩ := exit_out_of_start h args
  have said : Event.text .err (b.onErr s.occasions args) = saidOnErr s args := by
    rw [Start.onErr, Event.text_filter fun _ => rfl, saidOnErr, h]
  have debug (on : isSet b.settings.debug) := records_onErr_of_debug follows plain on s.occasions
  have level (off : ¬ isSet b.settings.debug) : ∃ level, b.settings.NamesLevel level ∧
      (b.onErr s.occasions args).filterMap Event.record? =
        (b.records s.occasions args).filter (·.level.shownFrom level) :=
    ⟨b.shown, follows.level off, records_onErr b s.occasions args⟩
  have opening := Launcher.opening_prefix (b.readFiles s.occasions args).read (.ok b.settings) args ⟨true, true⟩
  cases ht : b.target with
  | none =>
    obtain ⟨empty, unchanged⟩ := follows.noLog ht
    have ended := run_of_noTarget h ht args
    have err : (run s args).err = (b.onErr s.occasions args).flatMap Event.line := by
      rw [ended]
      exact flatMap_shownOnErr b.shown _
    exact ⟨[], follows.settings, exit, out, fun _ => err, List.filter_sublist, said, debug, level,
      fun _ => ⟨rfl, by rw [ended]; exact unchanged, by rw [ended]⟩, fun there => absurd empty there,
      fun _ there => absurd empty there, List.nil_sublist _, opening⟩
  | some target =>
    obtain ⟨there, -, named, -⟩ := follows.log ht
    obtain ⟨logs, err⟩ := exists_logsTo h plain ht
    -- without debugging the level on the error output is that of the log file
    have same (off : ¬ isSet b.settings.debug) : (b.onErr s.occasions args).filterMap Event.record? =
        (b.records s.occasions args).filter (·.level.shownFrom target.level) := by
      obtain level : b.shown = target.level := Option.some.inj ((follows.level off).symm.trans named)
      rw [← level]
      exact records_onErr b s.occasions args
    refine ⟨(b.records s.occasions args).filter (·.level.shownFrom target.level), follows.settings, exit, out,
      fun none => (err none).trans (flatMap_shownOnErr b.shown _), List.filter_sublist, said, debug, level,
      fun empty => absurd empty there, fun _ => logs, fun off _ => same off, ?_, opening⟩
    by_cases on : isSet b.settings.debug
    · rw [debug on]
      exact List.filter_sublist
    · rw [same on]

/-! ### Levels apart -/

/-- The password file, if there is one, can be read after the set-ups of two runs, and after the record about the tool, in
both of them or in neither. -/
def ReadAlike (s s' : Surroundings) (args : List Text) : Prop :=
  ∀ b b' p, start s = .ok b → start s' = .ok b' → Launcher.readPath? args = some p →
    FileReader.ReadAlike (b.readFiles s.occasions args).read (b'.readFiles s'.occasions args).read p

/-- So it is if that record turns the log file over in neither of them. -/
theorem readAlike_of_forall_settled (same : s.SameButLevels s') (valid : s.environment.LevelsValid)
    (valid' : s'.environment.LevelsValid) (settled : ∀ b, start s = .ok b → b.Settled s.occasions args)
    (settled' : ∀ b, start s' = .ok b → b.Settled s'.occasions args) : ReadAlike s s' args := by
  intro b b' p h h' _
  have agree := start_agree same valid valid'
  rw [h, h'] at agree
  cases agree with
  | ok alike => exact alike.readAlike (follows_start h) (follows_start h') (settled b h) (settled' b' h') p

/-- Surroundings that differ in good values about levels make no difference but to the records that are shown, if the
password file is read alike. -/
theorem same_of_levels_apart (same : s.SameButLevels s') (valid : s.environment.LevelsValid)
    (valid' : s'.environment.LevelsValid) (reads : ReadAlike s s' args) :
    (run s args).exit = (run s' args).exit ∧ (run s args).out = (run s' args).out ∧
      saidOnErr s args = saidOnErr s' args := by
  have agree := start_agree same valid valid'
  unfold saidOnErr
  cases h : start s with
  | error e =>
    rw [h] at agree
    have h' := agree.of_error
    rw [run_of_error h, run_of_error h', h']
    exact ⟨rfl, rfl, rfl⟩
  | ok b =>
    rw [h] at agree
    obtain ⟨b', h', alike⟩ := agree.of_ok
    have launched : b.launch s.occasions args = b'.launch s'.occasions args :=
      alike.launch_eq fun p hp => reads b b' p h h' hp
    obtain ⟨exit, out⟩ := exit_out_of_start h args
    obtain ⟨exit', out'⟩ := exit_out_of_start h' args
    rw [exit, out, exit', out', h']
    simp only [Start.events, launched, and_self]

/-- An occasion on which a log file is as old as it was, and all lines look alike. -/
def still : Occasion where
  now := ⟨⟨2024, 2, 29⟩, ClockTime.ofSeconds 0 0, none⟩
  heading level := "[".toText ++ level.name.toText ++ "] ".toText
  made := ⟨⟨2024, 2, 29⟩, ClockTime.ofSeconds 0 0, none⟩
  timeIsUp := .ok false
  age _ := 0
  report := []

/-- Errors only are to be shown, and go to a log file. -/
def quiet : Surroundings where
  now := still.now
  files := .ofTree (.folder [("pw".toText, .file [0x73])])
  environment := [("LOG_FILE".toText, "logs/a.log".toText), ("LOG_LEVEL".toText, "error".toText)]
  version := ⟨none, some "0.1.0".toText⟩
  occasions _ := still

/-- All records are to be shown, and the usual ones go to a log file. -/
def loud : Surroundings :=
  { quiet with environment := [("DEBUG".toText, "Yes".toText), ("LOG_FILE".toText, "logs/a.log".toText)] }

/-- A tool that reads a password file. -/
def readingArguments (name : Text) : List Text :=
  ["bind-properties".toText, "--authid=u:a".toText, "--password-file".toText, name]

theorem settled_of_time (h : ((start s).toOption.bind Start.target).map (·.file.rotation) = some .time)
    (calm : (s.occasions 0).timeIsUp = .ok false) (hb : start s = .ok b) : b.Settled s.occasions args := by
  intro target r ht _
  have time : target.file.rotation = .time := by simpa [hb, Except.toOption, ht] using h
  rw [LogFile.isDue, time, calm]

/-- A log file that is turned over before every line, of which no old files are kept, and a password file whose name is
that of an old one. -/
def cleaning (level : String) : Surroundings :=
  { quiet with
    files := .ofTree (.folder [("a.pw.log".toText, .file [0x73])])
    environment := [("LOG_FILE".toText, "a.log".toText), ("LOG_ROTATION".toText, "1 B".toText),
      ("LOG_RETENTION".toText, "-1 d".toText), ("LOG_LEVEL".toText, level.toText)] }

end Console

end SaslBind
