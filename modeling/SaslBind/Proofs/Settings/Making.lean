import SaslBind.Proofs.Settings.Fields
import SaslBind.Proofs.Settings.Levels

/-!
# What becomes of settings

Settings are made of values by name and of a look at the version.  If no version is given, a failure of that look is
all that is reported.  Otherwise each field judges its own value, and what is reported is one error for each value that
is refused.

* `Settings.Refused`, `Settings.Holds` : a given value that its field does not take, and what a field holds otherwise;
* `Settings.IsErrorOf` : what is reported of a refused value;
* `Settings.ComesTo` : the outcome as a whole.

Main statements: `construct_eq_ok_iff`, when settings are made and of what, and `comesTo_construct`.
-/

namespace SaslBind

namespace Settings

variable {values values' : Entries Value} {lookup : Except Fault Value} {s : Settings} {f : Setting}

/-- A given value that its field does not take. -/
def Refused (values : Entries Value) (f : Setting) : Prop :=
  ∃ v, values.lookup f.key.toText = some v ∧ ∀ w, ¬ f.Takes v w

/-- What a field holds: what it stores for the value that is given for it, or else what it stores without one. -/
inductive Holds (values : Entries Value) (lookup : Except Fault Value) (f : Setting) : Value → Prop
  | given {v w : Value} (h : values.lookup f.key.toText = some v) (ht : f.Takes v w) : Holds values lookup f w
  | unset {w : Value} (h : values.lookup f.key.toText = none) (hu : f.unset lookup = .ok w) : Holds values lookup f w

/-- The error of a field about the value that is given for it. -/
def IsErrorOf (values : Entries Value) (f : Setting) (e : FieldError) : Prop :=
  ∃ v c, values.lookup f.key.toText = some v ∧ f.check v = .error c ∧ e = ⟨[.name f.key.toText], c⟩

/-- The version is given, or it is found. -/
def Versioned (values : Entries Value) (lookup : Except Fault Value) : Prop :=
  values.lookup Setting.version.key.toText = none → ∃ v, lookup = .ok v

theorem forall_not_takes_iff {v : Value} : (∀ w, ¬ f.Takes v w) ↔ ∃ c, f.check v = .error c := by
  simp only [← Setting.check_eq_ok_iff]
  cases f.check v with
  | ok w => simp
  | error c => simp

theorem refused_iff : Refused values f ↔ ∃ e, IsErrorOf values f e := by
  simp only [Refused, forall_not_takes_iff]
  constructor
  · rintro ⟨v, given, c, refused⟩
    exact ⟨_, v, c, given, refused, rfl⟩
  · rintro ⟨-, v, c, given, refused, -⟩
    exact ⟨v, given, c, refused⟩

/-- Only a value of which no text is made is refused for the level. -/
theorem refused_logLevel_iff : Refused values .logLevel ↔
    ∃ v, values.lookup Setting.logLevel.key.toText = some v ∧ v.isTooLong = true := by
  constructor
  · rintro ⟨v, given, refused⟩
    refine ⟨v, given, ?_⟩
    by_contra short
    exact refused _ (.level (Bool.eq_false_iff.2 short))
  · rintro ⟨v, given, long⟩
    refine ⟨v, given, fun w taken => ?_⟩
    cases taken with
    | level short => exact nomatch long.symm.trans short
    | text _ hl => exact absurd rfl hl

theorem not_refused_logLevel_environment (e : Environment) : ¬ Refused e.values .logLevel := by
  rw [refused_logLevel_iff, Environment.lookup_values]
  rintro ⟨v, given, long⟩
  obtain ⟨t, -, rfl⟩ := Option.map_eq_some_iff.1 given
  cases long

/-! ### One field -/

theorem unset_eq_error_iff {e : Fault} : f.unset lookup = .error e ↔ f = .version ∧ lookup = .error e := by
  cases f <;> simp [Setting.unset]

theorem outcome_eq_value_iff {w : Value} : outcome values lookup f = .value w ↔ Holds values lookup f w := by
  constructor
  · intro h
    unfold outcome at h
    split at h
    next v given =>
      split at h
      next w' taken =>
        obtain rfl := Outcome.value.inj h
        exact .given given (Setting.check_eq_ok_iff.1 taken)
      · cases h
    next missing =>
      split at h
      next w' default =>
        obtain rfl := Outcome.value.inj h
        exact .unset missing default
      · cases h
  · rintro (⟨given, taken⟩ | ⟨missing, default⟩)
    · simp only [outcome, given, Setting.check_eq_ok_iff.2 taken]
    · simp only [outcome, missing, default]

theorem outcome_eq_error_iff {e : FieldError} : outcome values lookup f = .error e ↔ IsErrorOf values f e := by
  constructor
  · intro h
    unfold outcome at h
    split at h
    next v given =>
      split at h
      · cases h
      next c refused => exact ⟨v, c, given, refused, (Outcome.error.inj h).symm⟩
    next => split at h <;> cases h
  · rintro ⟨v, c, given, refused, rfl⟩
    simp only [outcome, given, refused]

theorem outcome_eq_fault_iff {e : Fault} : outcome values lookup f = .fault e ↔
    f = .version ∧ values.lookup Setting.version.key.toText = none ∧ lookup = .error e := by
  constructor
  · intro h
    unfold outcome at h
    split at h
    next => split at h <;> cases h
    next missing =>
      split at h
      · cases h
      next failed =>
        obtain rfl := Outcome.fault.inj h
        obtain ⟨rfl, failed⟩ := unset_eq_error_iff.1 failed
        exact ⟨rfl, missing, failed⟩
  · rintro ⟨rfl, missing, rfl⟩
    simp only [outcome, missing, Setting.unset]

/-- Without a fault, a field is refused or holds a value. -/
theorem error_or_value (versioned : Versioned values lookup) (f : Setting) :
    (∃ e, outcome values lookup f = .error e) ∨ ∃ w, outcome values lookup f = .value w := by
  cases h : outcome values lookup f with
  | value w => exact .inr ⟨w, rfl⟩
  | error e => exact .inl ⟨e, rfl⟩
  | fault e =>
    obtain ⟨-, missing, failed⟩ := outcome_eq_fault_iff.1 h
    obtain ⟨v, found⟩ := versioned missing
    exact nomatch found.symm.trans failed

instance (values : Entries Value) (f : Setting) : Decidable (Refused values f) :=
  match h : outcome values (.ok .null) f with
  | .error e => isTrue (refused_iff.2 ⟨e, outcome_eq_error_iff.1 h⟩)
  | .value _ | .fault _ => isFalse fun refused => by
    obtain ⟨e, error⟩ := refused_iff.1 refused
    exact nomatch h.symm.trans (outcome_eq_error_iff.2 error)

/-! ### All fields -/

/-- The errors are those of the refused values, one for each, in the order of the fields. -/
theorem errors_forall₂ (versioned : Versioned values lookup) (fields : List Setting) :
    List.Forall₂ (IsErrorOf values) (fields.filter (Refused values ·))
      ((fields.map (outcome values lookup)).filterMap Outcome.error?) := by
  induction fields with
  | nil => exact .nil
  | cons f fields ih =>
    obtain ⟨e, error⟩ | ⟨w, value⟩ := error_or_value versioned f
    · have refused : Refused values f := refused_iff.2 ⟨e, outcome_eq_error_iff.1 error⟩
      rw [List.filter_cons_of_pos (by simpa using refused), List.map_cons, error]
      exact .cons (outcome_eq_error_iff.1 error) ih
    · have taken : ¬ Refused values f := fun refused => by
        obtain ⟨e, error⟩ := refused_iff.1 refused
        exact nomatch value.symm.trans (outcome_eq_error_iff.2 error)
      rw [List.filter_cons_of_neg (by simpa using taken), List.map_cons, value]
      exact ih

theorem fault?_eq_some_iff {o : Outcome} {e : Fault} : o.fault? = some e ↔ o = .fault e := by
  cases o <;> simp [Outcome.fault?]

/-- A failure of the look at the version is all that is reported. -/
theorem construct_unversioned {e : Fault} (missing : values.lookup Setting.version.key.toText = none)
    (failed : lookup = .error e) : construct values lookup = .error e := by
  have version : outcome values lookup .version = .fault e := outcome_eq_fault_iff.2 ⟨rfl, missing, failed⟩
  have first : (Setting.all.map (outcome values lookup)).findSome? Outcome.fault? = some e := by
    cases found : (Setting.all.map (outcome values lookup)).findSome? Outcome.fault? with
    | none =>
      have quiet := List.findSome?_eq_none_iff.1 found _ (List.mem_map_of_mem (Setting.mem_all .version))
      rw [fault?_eq_some_iff.2 version] at quiet
      cases quiet
    | some e' =>
      obtain ⟨o, mem, fault⟩ := List.exists_of_findSome?_eq_some found
      obtain ⟨f, -, rfl⟩ := List.mem_map.1 mem
      obtain ⟨-, -, failed'⟩ := outcome_eq_fault_iff.1 (fault?_eq_some_iff.1 fault)
      rw [Except.error.inj (failed'.symm.trans failed)]
  unfold construct
  simp only [first]

/-- Otherwise the errors of fields are collected. -/
theorem construct_versioned (versioned : Versioned values lookup) :
    (∃ es, es ≠ [] ∧ List.Forall₂ (IsErrorOf values) (Setting.all.filter (Refused values ·)) es ∧
      construct values lookup = .error (.invalid .settings es)) ∨
    (Setting.all.filter (Refused values ·) = [] ∧
      ∃ s, construct values lookup = .ok s ∧ ∀ f, Holds values lookup f (s.get f)) := by
  have faultless : (Setting.all.map (outcome values lookup)).findSome? Outcome.fault? = none := by
    refine List.findSome?_eq_none_iff.2 fun o ho => ?_
    obtain ⟨f, -, rfl⟩ := List.mem_map.1 ho
    obtain ⟨e, error⟩ | ⟨w, value⟩ := error_or_value versioned f
    · rw [error]; rfl
    · rw [value]; rfl
  have errors := errors_forall₂ versioned Setting.all
  unfold construct
  simp only [faultless]
  cases hes : (Setting.all.map (outcome values lookup)).filterMap Outcome.error? with
  | cons e es =>
    rw [hes] at errors
    exact .inl ⟨e :: es, List.cons_ne_nil _ _, errors, rfl⟩
  | nil =>
    rw [hes] at errors
    refine .inr ⟨List.forall₂_nil_right_iff.1 errors, _, rfl, fun f => ?_⟩
    obtain ⟨e, error⟩ | ⟨w, value⟩ := error_or_value versioned f
    · have listed : e ∈ (Setting.all.map (outcome values lookup)).filterMap Outcome.error? :=
        List.mem_filterMap.2 ⟨_, List.mem_map_of_mem (Setting.mem_all f), by rw [error]; rfl⟩
      rw [hes] at listed
      cases listed
    · have held := outcome_eq_value_iff.1 value
      cases f <;> simpa [get, value, Outcome.value?] using held

theorem filter_eq_nil_iff : Setting.all.filter (Refused values ·) = [] ↔ ∀ f, ¬ Refused values f := by
  simp [List.filter_eq_nil_iff, Setting.mem_all]

theorem Holds.unique {w w' : Value} (h : Holds values lookup f w) (h' : Holds values lookup f w') : w = w' :=
  Outcome.value.inj ((outcome_eq_value_iff.2 h).symm.trans (outcome_eq_value_iff.2 h'))

theorem eq_of_get {s s' : Settings} (h : ∀ f, s.get f = s'.get f) : s = s' := by
  obtain ⟨debug, logLevel, logFile, logRetention, logRotation, version⟩ := s
  rw [show debug = _ from h .debug, show logLevel = _ from h .logLevel, show logFile = _ from h .logFile,
    show logRetention = _ from h .logRetention, show logRotation = _ from h .logRotation,
    show version = _ from h .version]
  rfl

/-- Settings are made exactly if each field has something to hold, and they hold that. -/
theorem construct_eq_ok_iff : construct values lookup = .ok s ↔ ∀ f, Holds values lookup f (s.get f) := by
  constructor
  · intro h
    have versioned : Versioned values lookup := by
      intro missing
      cases found : lookup with
      | ok v => exact ⟨v, rfl⟩
      | error e => exact nomatch (construct_unversioned missing found).symm.trans h
    obtain ⟨es, -, -, refused⟩ | ⟨-, s', made, holds⟩ := construct_versioned versioned
    · exact nomatch refused.symm.trans h
    · obtain rfl := Except.ok.inj (made.symm.trans h)
      exact holds
  · intro holds
    have versioned : Versioned values lookup := by
      intro missing
      cases holds .version with
      | given given => exact nomatch missing.symm.trans given
      | unset _ found => exact ⟨_, found⟩
    have taken : ∀ f, ¬ Refused values f := by
      rintro f ⟨v, given, refused⟩
      cases holds f with
      | given given' takes =>
        obtain rfl := Option.some.inj (given.symm.trans given')
        exact refused _ takes
      | unset missing => exact nomatch given.symm.trans missing
    obtain ⟨es, nonempty, errors, -⟩ | ⟨-, s', made, holds'⟩ := construct_versioned versioned
    · rw [filter_eq_nil_iff.2 taken] at errors
      exact absurd (List.forall₂_nil_left_iff.1 errors) nonempty
    · rw [made, eq_of_get fun f => (holds' f).unique (holds f)]

/-- Only what is given under the names of the fields matters. -/
theorem construct_congr (same : ∀ f : Setting, values.lookup f.key.toText = values'.lookup f.key.toText) :
    construct values lookup = construct values' lookup := by
  have fields : outcome values lookup = outcome values' lookup := by
    funext f
    unfold outcome
    rw [same f]
  simp only [construct, fields]

/-- What becomes of values by name and of a look at the version. -/
structure ComesTo (values : Entries Value) (lookup : Except Fault Value) (result : Except Fault Settings) : Prop where
  /-- A failure of the look at the version hides all else. -/
  unversioned : values.lookup Setting.version.key.toText = none → ∀ e, lookup = .error e → result = .error e
  /-- Otherwise something is reported exactly if a value is refused. -/
  refused_iff : Versioned values lookup → ((∃ es, result = .error (.invalid .settings es)) ↔ ∃ f, Refused values f)
  /-- There is one error for each value that is refused, in the order of the fields. -/
  errors : Versioned values lookup → ∀ es, result = .error (.invalid .settings es) →
    List.Forall₂ (IsErrorOf values) (Setting.all.filter (Refused values ·)) es
  /-- If none is refused, there are settings, and each field holds what it should. -/
  made : Versioned values lookup → (∀ f, ¬ Refused values f) →
    ∃ s, result = .ok s ∧ ∀ f, Holds values lookup f (s.get f)

theorem comesTo_construct (values : Entries Value) (lookup : Except Fault Value) :
    ComesTo values lookup (construct values lookup) where
  unversioned missing _ failed := construct_unversioned missing failed
  refused_iff versioned := by
    obtain ⟨es, nonempty, errors, result⟩ | ⟨none, s, result, -⟩ := construct_versioned versioned
    · refine ⟨fun _ => by_contra fun taken => nonempty ?_, fun _ => ⟨es, result⟩⟩
      rw [filter_eq_nil_iff.2 (not_exists.1 taken)] at errors
      exact List.forall₂_nil_left_iff.1 errors
    · constructor
      · rintro ⟨es, refused⟩
        exact nomatch result.symm.trans refused
      · rintro ⟨f, refused⟩
        exact absurd refused (filter_eq_nil_iff.1 none f)
  errors versioned es refused := by
    obtain ⟨es', -, errors, result⟩ | ⟨-, s, result, -⟩ := construct_versioned versioned
    · obtain ⟨-, rfl⟩ := Fault.invalid.inj (Except.error.inj (result.symm.trans refused))
      exact errors
    · exact nomatch result.symm.trans refused
  made versioned taken := by
    obtain ⟨es, nonempty, errors, -⟩ | ⟨-, made⟩ := construct_versioned versioned
    · rw [filter_eq_nil_iff.2 taken] at errors
      exact absurd (List.forall₂_nil_left_iff.1 errors) nonempty
    · exact made

theorem construct_of_longLevel {v : Value} (long : v.isTooLong = true) :
    construct [("LOG_LEVEL".toText, v), ("VERSION".toText, .word "1")] lookup =
      .error (.invalid .settings [⟨[.name "LOG_LEVEL".toText], .rule (Numeral.limitMessage none)⟩]) := by
  have level : outcome [("LOG_LEVEL".toText, v), ("VERSION".toText, .word "1")] lookup .logLevel =
      .error ⟨[.name "LOG_LEVEL".toText], .rule (Numeral.limitMessage none)⟩ :=
    outcome_eq_error_iff.2 ⟨v, _, rfl, by simp only [Setting.check, long, if_true], rfl⟩
  simp only [construct, Setting.all, List.map_cons, List.map_nil, level]
  rfl

end Settings

end SaslBind
