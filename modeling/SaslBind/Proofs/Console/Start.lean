import SaslBind.Proofs.Files.Contents
import SaslBind.Proofs.Launcher.Dispatch
import SaslBind.Proofs.Log.Filing
import SaslBind.Proofs.Settings.Levels

/-!
# The set-up of a run

Before the launcher begins, a run takes its settings from the environment, decides from which level on records are shown,
and makes the log file.  What comes of that is its `Start`; all else that a run does follows from it.

* `Start.Follows` : what a start has of its surroundings; `follows_start`, a set-up makes such a start;
* `Surroundings.SameButLevels` : surroundings that differ in the variables about levels at most;
* `Start.Settled` : the log file is not turned over before the launcher reads files.

Main statements: `start_agree`, set-ups in such surroundings agree, and `Start.Alike.launch_eq`, so do the runs after them
if they read the same.
-/

namespace SaslBind

namespace Console

variable {s : Surroundings} {b b' : Start} {now : Moment} {t t' : Settings} {level : Log.Level} {files made : FileSystem}
  {occasions occasions' : Nat → Occasion} {args : List Text}

/-! ### What a start has of its surroundings -/

theorem levelOf_eq_ok_iff {name : Text} : levelOf name = .ok level ↔ Log.Level.ofName? name = some level := by
  unfold levelOf
  cases Log.Level.ofName? name <;> simp

theorem shownLevel_of_debug (h : shownLevel t = .ok level) (debug : isSet t.debug) : level = .debug := by
  rw [shownLevel, if_pos debug] at h
  exact (Except.ok.inj h).symm

theorem namesLevel_of_shownLevel (h : shownLevel t = .ok level) (off : ¬ isSet t.debug) : t.NamesLevel level := by
  rw [shownLevel, if_neg off] at h
  exact levelOf_eq_ok_iff.1 h

theorem opened_eq_ok_iff {l : LogFile} {log : OpenLog} :
    l.opened now files = .ok log ↔ l.pathAt now files = .ok log.path ∧ files.extend log.path [] = .ok log.files := by
  unfold LogFile.opened
  cases hp : l.pathAt now files with
  | error f => simp [bind, Except.bind]
  | ok path =>
    change OpenLog.append ⟨path, files⟩ [] = .ok log ↔ _
    rw [OpenLog.append_eq_ok_iff]
    constructor
    · rintro ⟨same, h⟩
      exact ⟨congrArg Except.ok same.symm, by rwa [same]⟩
    · rintro ⟨same, h⟩
      obtain rfl := Except.ok.inj same
      exact ⟨rfl, h⟩

/-- Where records go: nowhere if the settings name no file, and else to the file that they name, which is there. -/
theorem aim_cases {target : Option Target} (h : aim now files t = .ok (made, target)) :
    (target = none ∧ textOf t.logFile = [] ∧ made = files) ∨
      ∃ l level path, target = some ⟨l, level, path⟩ ∧ textOf t.logFile ≠ [] ∧ logFileOf t = .ok l ∧
        t.NamesLevel level ∧ l.opened now files = .ok ⟨path, made⟩ := by
  unfold aim at h
  split at h
  next empty =>
    obtain ⟨rfl, rfl⟩ := Prod.mk.inj (Except.ok.inj h)
    exact .inl ⟨rfl, List.isEmpty_iff.1 empty, rfl⟩
  next there =>
    split at h
    · cases h
    next l log opened =>
      split at h
      · cases h
      next level named =>
        obtain ⟨rfl, rfl⟩ := Prod.mk.inj (Except.ok.inj h)
        obtain ⟨l', file, opened⟩ := ok_of_bind opened
        obtain ⟨log', made, same⟩ := ok_of_bind opened
        obtain ⟨rfl, rfl⟩ := Prod.mk.inj (Except.ok.inj same)
        exact .inr ⟨l', level, log'.path, rfl, fun empty => there (List.isEmpty_iff.2 empty), file,
          levelOf_eq_ok_iff.1 named, made⟩

/-- What a start has of its surroundings: the settings of the environment, the level on the error output, and the log
file that the settings name, which is there. -/
structure Start.Follows (b : Start) (s : Surroundings) : Prop where
  settings : Settings.ofEnvironment s.environment s.version = .ok b.settings
  debug : isSet b.settings.debug → b.shown = .debug
  level : ¬ isSet b.settings.debug → b.settings.NamesLevel b.shown
  noLog : b.target = none → textOf b.settings.logFile = [] ∧ b.files = s.files
  log : ∀ {target : Target}, b.target = some target → textOf b.settings.logFile ≠ [] ∧
    logFileOf b.settings = .ok target.file ∧ b.settings.NamesLevel target.level ∧
      target.file.opened s.now s.files = .ok ⟨target.path, b.files⟩

theorem ok_of_mapError {ε ε' α : Type} {f : ε → ε'} {x : Except ε α} {a : α} (h : x.mapError f = .ok a) : x = .ok a := by
  cases x with
  | error e => cases h
  | ok a => exact congrArg Except.ok (Except.ok.inj h)

theorem follows_start (h : start s = .ok b) : b.Follows s := by
  obtain ⟨settings, hs, h⟩ := ok_of_bind h
  obtain ⟨shown, hl, h⟩ := ok_of_bind h
  obtain ⟨⟨files, target⟩, ha, h⟩ := ok_of_bind h
  obtain rfl := Except.ok.inj h
  have shownLevel := ok_of_mapError hl
  refine ⟨ok_of_mapError hs, shownLevel_of_debug shownLevel, namesLevel_of_shownLevel shownLevel, ?_, ?_⟩
  · intro none
    rcases aim_cases ha with ⟨-, empty, same⟩ | ⟨l, level, path, some, -⟩
    · exact ⟨empty, same⟩
    · exact nomatch none.symm.trans some
  · intro target' some'
    rcases aim_cases ha with ⟨none, -⟩ | ⟨l, level, path, some, there, file, named, opened⟩
    · exact nomatch none.symm.trans some'
    · obtain rfl := Option.some.inj (some.symm.trans some')
      exact ⟨there, file, named, opened⟩

theorem made_of_follows (h : b.Follows s) {target : Target} (ht : b.target = some target) :
    OpenLog.Made ⟨target.path, b.files⟩ := by
  obtain ⟨-, -, -, opened⟩ := h.log ht
  exact ⟨s.files, [], (opened_eq_ok_iff.1 opened).2⟩

/-! ### Levels apart -/

/-- Surroundings that differ at most in the two variables about levels.  If the time is not the same then the log file
still has the same name. -/
structure Surroundings.SameButLevels (s s' : Surroundings) : Prop where
  environment : s.environment.SameButLevels s'.environment
  version : s.version = s'.version
  files : s.files = s'.files
  name : ∀ t l, Settings.ofEnvironment s.environment s.version = .ok t → logFileOf t = .ok l →
    l.pathAt s.now s.files = l.pathAt s'.now s.files

/-- Two starts with the same files, and settings that differ at most in what they say about levels. -/
structure Start.Alike (b b' : Start) : Prop where
  settings : b.settings.SameButLevels b'.settings
  files : b.files = b'.files

/-- If the settings name a level then only the log file can keep a run from getting past its set-up. -/
theorem exists_start_eq (named : t.NamesLevel level) (now : Moment) (files : FileSystem) :
    ∃ shown, shownLevel t = .ok shown ∧ aim now files t =
      if (textOf t.logFile).isEmpty then .ok (files, none)
      else ((openLog now files t).mapError (⟨·, files⟩)).map fun (l, log) => (log.files, some ⟨l, level, log.path⟩) := by
  obtain ⟨shown, hs⟩ : ∃ shown, shownLevel t = .ok shown := by
    unfold shownLevel
    split
    · exact ⟨.debug, rfl⟩
    · exact ⟨level, levelOf_eq_ok_iff.2 named⟩
  refine ⟨shown, hs, ?_⟩
  unfold aim
  rw [levelOf_eq_ok_iff.2 named]
  split
  · rfl
  · cases openLog now files t <;> rfl

theorem logFileOf_eq (same : t.SameButLevels t') : logFileOf t = logFileOf t' := by
  unfold logFileOf
  rw [same.logFile, same.logRotation, same.logRetention]

/-- **Set-ups with levels apart.**  In surroundings that differ in good values about levels, set-ups fail with the same
fault, or the starts have the same files and the same settings about all else. -/
theorem start_agree {s s' : Surroundings} (same : s.SameButLevels s') (valid : s.environment.LevelsValid)
    (valid' : s'.environment.LevelsValid) : Agree Start.Alike (start s) (start s') := by
  have settings := Settings.ofEnvironment_agree same.environment valid valid' s.version
  unfold start
  rw [← same.version, ← same.files]
  have names := same.name
  revert settings names
  generalize Settings.ofEnvironment s.environment s.version = x, Settings.ofEnvironment s'.environment s.version = y
  intro agree names
  cases agree with
  | error f => exact .error _
  | @ok t t' h =>
    obtain ⟨apart, ⟨level, named⟩, level', named'⟩ := h
    obtain ⟨shown, hs, ha⟩ := exists_start_eq named s.now s.files
    obtain ⟨shown', hs', ha'⟩ := exists_start_eq named' s'.now s.files
    have opened : openLog s'.now s.files t' = openLog s.now s.files t := by
      unfold openLog
      rw [← logFileOf_eq apart]
      cases hl : logFileOf t with
      | error f => rfl
      | ok l => simp only [bind, Except.bind, LogFile.opened, names t l rfl hl]
    simp only [Except.mapError, bind, Except.bind, hs, hs', ha, ha', ← apart.logFile, opened]
    by_cases empty : (textOf t.logFile).isEmpty
    · simp only [empty, if_true]
      exact .ok ⟨apart, rfl⟩
    · simp only [empty]
      cases openLog s.now s.files t with
      | error f => exact .error _
      | ok log => exact .ok ⟨apart, rfl⟩

/-! ### What is read -/

/-- The record about the tool that is to run does not turn the log file over. -/
def Start.Settled (b : Start) (occasions : Nat → Occasion) (args : List Text) : Prop :=
  ∀ target r, b.target = some target → .record r ∈ Launcher.opening args →
    target.file.isDue (occasions 0) ⟨target.path, b.files⟩ ((occasions 0).line r) = .ok false

/-- There is at most one event before anything is read, and that is a record. -/
theorem opening_cases (args : List Text) :
    Launcher.opening args = [] ∨ ∃ r, Launcher.opening args = [.record r] := by
  unfold Launcher.opening
  split
  · exact .inr ⟨_, rfl⟩
  · exact .inl rfl

theorem readFiles_cases (h : b.Follows s) (settled : b.Settled occasions args) :
    b.readFiles occasions args = b.files ∨
      ∃ (target : Target) (bs : List UInt8), b.target = some target ∧
        b.files.extend target.path bs = .ok (b.readFiles occasions args) := by
  unfold Start.readFiles
  cases ht : b.target with
  | none => exact .inl rfl
  | some target =>
    simp only [Start.early]
    rcases opening_cases args with none | ⟨r, one⟩
    · rw [none]
      exact .inl rfl
    · rw [one]
      have due := settled target r ht (by rw [one]; exact List.mem_singleton_self _)
      simp only [Progress.takeAll, Progress.take, Progress.file]
      split
      · rcases LogFile.exists_fate (made_of_follows h ht) (occasions 0) r with
          ⟨c, put, -, -, written⟩ | ⟨next, c, -, turned, -⟩ | ⟨f, put, -⟩
        · rw [put]
          exact .inr ⟨target, _, rfl, (OpenLog.append_eq_ok_iff.1 written).2⟩
        · exact nomatch due.symm.trans turned
        · rw [put]
          exact .inl (congrArg OpenLog.files (LogFile.left_of_stays due))
      · exact .inl rfl

/-- What the launcher reads is what there was before it began, if the log file is not turned over. -/
theorem readAlike_of_settled (h : b.Follows s) (settled : b.Settled occasions args) (p : Path) :
    FileReader.ReadAlike b.files.read (b.readFiles occasions args).read p := by
  rcases readFiles_cases h settled with same | ⟨target, bs, ht, grown⟩
  · rw [same]
    exact .refl (.refl fun _ => trivial) _
  · obtain ⟨-, -, -, opened⟩ := h.log ht
    exact FileSystem.readAlike_of_sameShape (FileSystem.sameShape_extend (opened_eq_ok_iff.1 opened).2 grown) p

theorem main_congr (same : t.version = t'.version) (tools : Launcher.Table) (args : List Text) :
    Launcher.main tools (.ok t) args = Launcher.main tools (.ok t') args := by
  have lines : t.versionLines = t'.versionLines := by rw [Settings.versionLines, same, Settings.versionLines]
  have printed : Launcher.printVersion (.ok t) = Launcher.printVersion (.ok t') := by
    have given (t : Settings) : (Session.lift (.ok t) : Session Settings) = pure t := rfl
    unfold Launcher.printVersion
    rw [given, given, pure_bind, pure_bind, lines]
  unfold Launcher.main
  rw [printed]

/-- Runs after starts that are alike do the same, if they read the same. -/
theorem Start.Alike.launch_eq (h : b.Alike b') (reads : ∀ p, Launcher.readPath? args = some p →
    FileReader.ReadAlike (b.readFiles occasions args).read (b'.readFiles occasions' args).read p) :
    b.launch occasions args = b'.launch occasions' args := by
  unfold Start.launch
  rw [Launcher.main_of_readAlike reads, main_congr h.settings.version]

theorem Start.Alike.readAlike {s' : Surroundings} (h : b.Alike b') (hb : b.Follows s) (hb' : b'.Follows s')
    (settled : b.Settled occasions args) (settled' : b'.Settled occasions' args) (p : Path) :
    FileReader.ReadAlike (b.readFiles occasions args).read (b'.readFiles occasions' args).read p := by
  have before := readAlike_of_settled hb settled p
  have before' := readAlike_of_settled hb' settled' p
  rw [← h.files] at before'
  exact before.join (fun _ _ _ h h' => h.join (fun _ _ _ _ _ => trivial) h') before'

end Console

end SaslBind
