import SaslBind.Proofs.Settings.Making

/-!
# Settings made again

What fields store is stored for itself again, so settings that are made of the values of settings are the same.  The
level is stored in upper case, and upper case is upper case already.

* `Settings.asGiven` : the values of settings, under the names by which they are given;
* `Settings.SameButLevel` : values that differ at most in the level, which is the same text in upper case.

Main statement: `settings_again`.
-/

namespace SaslBind

namespace Settings

variable {values values' : Entries Value} {lookup : Except Fault Value} {s : Settings} {t : Text}

/-- The values of settings, under the names by which they are given. -/
def asGiven (s : Settings) : Entries Value := Setting.all.map fun f => (f.key.toText, s.get f)

theorem lookup_asGiven (s : Settings) (f : Setting) : s.asGiven.lookup f.key.toText = some (s.get f) := by
  cases f <;> rfl

/-- Values by name that differ at most in the level, of which both give a text, in upper case the same. -/
structure SameButLevel (values values' : Entries Value) : Prop where
  others : ∀ f : Setting, f ≠ .logLevel → values.lookup f.key.toText = values'.lookup f.key.toText
  level : ∃ t t' : Text, values.lookup Setting.logLevel.key.toText = some (.text t) ∧
    values'.lookup Setting.logLevel.key.toText = some (.text t') ∧ t.upper = t'.upper

/-- What a field holds is taken as it is, if it is not a version that was found. -/
theorem Holds.takes {f : Setting} {w : Value} (h : Holds values lookup f w) (hv : f = .version → ∃ t, w = .text t) :
    f.Takes w w := by
  cases h with
  | given _ takes => exact takes.again
  | unset _ default =>
    by_cases version : f = .version
    · obtain ⟨t, rfl⟩ := hv version
      subst version
      exact .text (by decide) (by decide) (.text t)
    · exact Setting.takes_unset version default

/-- Settings are made again of their values, whatever a look at the version would give. -/
theorem construct_asGiven (made : construct values lookup = .ok s) (text : s.version = .text t)
    (lookup' : Except Fault Value) : construct s.asGiven lookup' = .ok s := by
  have holds := construct_eq_ok_iff.1 made
  refine construct_eq_ok_iff.2 fun f => .given (lookup_asGiven s f) ((holds f).takes ?_)
  rintro rfl
  exact ⟨t, text⟩

theorem level_of_construct (made : construct values lookup = .ok s) :
    ∃ t : Text, s.logLevel = .text t ∧ t.upper = t := by
  have takes : Setting.logLevel.Takes s.logLevel s.logLevel :=
    (construct_eq_ok_iff.1 made .logLevel).takes fun h => nomatch h
  exact ⟨_, takes.level_eq, Text.upper_upper _⟩

theorem SameButLevel.construct_eq (same : SameButLevel values values') (lookup : Except Fault Value) :
    construct values lookup = construct values' lookup := by
  obtain ⟨t, t', level, level', upper⟩ := same.level
  have fields : outcome values lookup = outcome values' lookup := by
    funext f
    unfold outcome
    by_cases hf : f = .logLevel
    · subst hf
      rw [level, level']
      simp only [Setting.check, Value.isTooLong, Value.str, upper, Bool.false_eq_true, if_false]
    · rw [same.others f hf]
  simp only [construct, fields]

/-- **Settings made again.**  Settings with a text as their version are made again of their values, and print the same
about the version.  Texts for the level that are the same in upper case give the same settings; upper case stays as it
is in upper case, and so does the level of any settings. -/
theorem settings_again :
    (∀ values lookup s t, construct values lookup = .ok s → s.version = .text t → ∀ lookup',
      construct s.asGiven lookup' = .ok s ∧ (construct s.asGiven lookup').bind versionLines = s.versionLines) ∧
    (∀ values values', SameButLevel values values' → ∀ lookup, construct values lookup = construct values' lookup) ∧
    (∀ t : Text, t.upper.upper = t.upper) ∧
    ∀ values lookup s, construct values lookup = .ok s → ∃ t : Text, s.logLevel = .text t ∧ t.upper = t := by
  refine ⟨fun values lookup s t made text lookup' => ?_, fun values values' => SameButLevel.construct_eq,
    Text.upper_upper, fun values lookup s => level_of_construct⟩
  have again := construct_asGiven made text lookup'
  exact ⟨again, by simp only [again, Except.bind]⟩

/-- Settings of a word in capitals and of a level with a letter that is two in upper case. -/
theorem settings_again_sharpS :
    let values (level : String) : Entries Value := [("LOG_LEVEL".toText, .word level), ("DEBUG".toText, .word "oN")]
    let made : Settings := ⟨.bool true, .word "STRASSE", .null, .word "10 days", .word "1d", .word "1.0"⟩
    construct (values "straße") (.ok (.word "1.0")) = .ok made ∧
    construct made.asGiven (.error .missingArgument) = .ok made ∧
    construct (values "straße") (.ok .null) = construct (values "STRASSe") (.ok .null) ∧
    ∃ t : Text, made.logLevel = .text t ∧ t.upper = t := by
  intro values made
  obtain ⟨again, level, -, upper⟩ := settings_again
  have inUpper : "straße".toText.upper = "STRASSE".toText := by decide +kernel
  have first : construct (values "straße") (.ok (.word "1.0")) = .ok made := by
    refine construct_eq_ok_iff.2 fun f => ?_
    cases f with
    | debug => exact .given rfl (.word (Setting.meansTruth_iff.2 (by decide)))
    | logLevel =>
      have takes : Setting.logLevel.Takes (.word "straße") (.text "straße".toText.upper) := .level rfl
      rw [inUpper] at takes
      exact .given rfl takes
    | _ => exact .unset rfl rfl
  have same : SameButLevel (values "straße") (values "STRASSe") := by
    refine ⟨fun f hf => ?_, _, _, rfl, rfl, by decide +kernel⟩
    have apart : (f.key.toText == "LOG_LEVEL".toText) = false := by
      cases f with
      | logLevel => exact absurd rfl hf
      | _ => decide
    simp only [values, List.lookup_cons, apart]
  exact ⟨first, (again _ _ _ _ first rfl _).1, level _ _ same _, upper _ _ _ first⟩

end Settings

end SaslBind
