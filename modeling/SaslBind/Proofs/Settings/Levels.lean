import SaslBind.Console
import SaslBind.Proofs.Related

/-!
# Settings about levels

Two of the settings say which records are shown: whether all records for debugging are, and from which level on.  If
environments differ in nothing else, and both have good values for the two, then so do the settings that they give.

* `Environment.SameButLevels`, `Environment.LevelsValid` : environments that differ in these two variables at most, and
  environments with good values for them;
* `Settings.SameButLevels` : settings that differ in these two fields at most.

Main statement: `Settings.ofEnvironment_agree`.
-/

namespace SaslBind

namespace Environment

/-- Environments that differ at most in the two variables about levels. -/
def SameButLevels (e e' : Environment) : Prop :=
  ∀ name, name ≠ Setting.debug.key.toText → name ≠ Setting.logLevel.key.toText → e.lookup name = e'.lookup name

/-- An environment in which the two variables about levels have good values, if they are there at all: a truth value,
and the name of a level in its upper case. -/
structure LevelsValid (e : Environment) : Prop where
  debug : ∀ t, e.lookup Setting.debug.key.toText = some t → ∃ b, Setting.checkTruth (.text t) = .ok b
  logLevel : ∀ t, e.lookup Setting.logLevel.key.toText = some t → ∃ level, Log.Level.ofName? t.upper = some level

theorem levelsValid_of_check {e : Environment}
    (debug : (e.lookup Setting.debug.key.toText).all fun t => (Setting.checkTruth (.text t)).isOk)
    (logLevel : (e.lookup Setting.logLevel.key.toText).all fun t => (Log.Level.ofName? t.upper).isSome) :
    e.LevelsValid := by
  constructor
  · intro t given
    rw [given, Option.all_some] at debug
    cases checked : Setting.checkTruth (.text t) with
    | ok b => exact ⟨b, rfl⟩
    | error c =>
      rw [checked] at debug
      cases debug
  · intro t given
    rw [given, Option.all_some] at logLevel
    exact Option.isSome_iff_exists.1 logLevel

/-- The variables as values by name. -/
def values (e : Environment) : Entries Value := e.map fun (k, v) => (k, .text v)

theorem lookup_values (e : Environment) (name : Text) : e.values.lookup name = (e.lookup name).map .text :=
  Entries.lookup_map (fun _ t => Value.text t) e name

end Environment

namespace Settings

/-- Settings that differ at most in what they say about levels. -/
structure SameButLevels (s s' : Settings) : Prop where
  logFile : s.logFile = s'.logFile
  logRetention : s.logRetention = s'.logRetention
  logRotation : s.logRotation = s'.logRotation
  version : s.version = s'.version

/-- The settings name a level. -/
def NamesLevel (s : Settings) (level : Log.Level) : Prop := Log.Level.ofName? (Console.textOf s.logLevel) = some level

variable {e e' : Environment} {values values' : Entries Value} {lookup : Except Fault Value}

theorem outcome_debug (valid : e.LevelsValid) (lookup : Except Fault Value) :
    ∃ v, outcome e.values lookup .debug = .value v := by
  unfold outcome
  rw [Environment.lookup_values]
  cases h : e.lookup Setting.debug.key.toText with
  | none => exact ⟨.bool false, rfl⟩
  | some t =>
    obtain ⟨b, hb⟩ := valid.debug t h
    exact ⟨.bool b, by simp [Setting.check, hb, Except.map]⟩

theorem outcome_logLevel (valid : e.LevelsValid) (lookup : Except Fault Value) :
    ∃ v level, outcome e.values lookup .logLevel = .value v ∧ Log.Level.ofName? (Console.textOf v) = some level := by
  unfold outcome
  rw [Environment.lookup_values]
  cases h : e.lookup Setting.logLevel.key.toText with
  | none => exact ⟨.word "INFO", .info, rfl, by decide⟩
  | some t =>
    obtain ⟨level, hl⟩ := valid.logLevel t h
    exact ⟨.text t.upper, level, rfl, hl⟩

theorem outcome_eq (same : e.SameButLevels e') {s : Setting} (hd : s ≠ .debug) (hl : s ≠ .logLevel)
    (lookup : Except Fault Value) : outcome e.values lookup s = outcome e'.values lookup s := by
  have keys : ∀ s : Setting, s ≠ .debug → s ≠ .logLevel →
      s.key.toText ≠ Setting.debug.key.toText ∧ s.key.toText ≠ Setting.logLevel.key.toText := by
    intro s
    cases s <;> decide
  obtain ⟨kd, kl⟩ := keys s hd hl
  unfold outcome
  rw [Environment.lookup_values, Environment.lookup_values, same _ kd kl]

/-- Values for the two fields about levels matter to no other field. -/
theorem construct_agree {d d' l l' : Value} (hd : outcome values lookup .debug = .value d)
    (hd' : outcome values' lookup .debug = .value d') (hl : outcome values lookup .logLevel = .value l)
    (hl' : outcome values' lookup .logLevel = .value l')
    (others : ∀ s, s ≠ .debug → s ≠ .logLevel → outcome values lookup s = outcome values' lookup s) :
    Agree (fun s s' => s.SameButLevels s' ∧ s.logLevel = l ∧ s'.logLevel = l') (construct values lookup)
      (construct values' lookup) := by
  have file := others .logFile (by decide) (by decide)
  have retention := others .logRetention (by decide) (by decide)
  have rotation := others .logRotation (by decide) (by decide)
  have version := others .version (by decide) (by decide)
  obtain ⟨rest, listed, listed'⟩ : ∃ rest, Setting.all.map (outcome values lookup) = .value d :: .value l :: rest ∧
      Setting.all.map (outcome values' lookup) = .value d' :: .value l' :: rest := by
    refine ⟨[.logFile, .logRetention, .logRotation, .version].map (outcome values' lookup), ?_, ?_⟩
    · simp [Setting.all, hd, hl, file, retention, rotation, version]
    · simp [Setting.all, hd', hl']
  unfold construct
  simp only [listed, listed', List.findSome?_cons, List.filterMap_cons, Outcome.fault?, Outcome.error?]
  cases rest.findSome? Outcome.fault? with
  | some f => exact .error f
  | none =>
    cases rest.filterMap Outcome.error? with
    | cons e es => exact .error _
    | nil =>
      refine .ok ⟨⟨?_, ?_, ?_, ?_⟩, ?_, ?_⟩
      · simp only [file]
      · simp only [retention]
      · simp only [rotation]
      · simp only [version]
      · simp only [hl, Outcome.value?, Option.getD_some]
      · simp only [hl', Outcome.value?, Option.getD_some]

/-- **Levels apart.**  Environments that differ in good values about levels give settings that differ in no more, or
the same fault. -/
theorem ofEnvironment_agree (same : e.SameButLevels e') (valid : e.LevelsValid) (valid' : e'.LevelsValid)
    (source : VersionSource) :
    Agree (fun s s' => s.SameButLevels s' ∧ (∃ level, s.NamesLevel level) ∧ ∃ level, s'.NamesLevel level)
      (ofEnvironment e source) (ofEnvironment e' source) := by
  obtain ⟨d, hd⟩ := outcome_debug valid (lookupVersion source)
  obtain ⟨d', hd'⟩ := outcome_debug valid' (lookupVersion source)
  obtain ⟨l, level, hl, named⟩ := outcome_logLevel valid (lookupVersion source)
  obtain ⟨l', level', hl', named'⟩ := outcome_logLevel valid' (lookupVersion source)
  refine (construct_agree hd hd' hl hl' fun s hs hs' => outcome_eq same hs hs' _).imp ?_
  rintro s s' ⟨apart, rfl, rfl⟩
  exact ⟨apart, ⟨level, named⟩, ⟨level', named'⟩⟩

end Settings

end SaslBind
