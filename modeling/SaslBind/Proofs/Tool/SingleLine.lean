import SaslBind.Proofs.Properties.Described
import SaslBind.Proofs.Properties.SingleLine
import SaslBind.Proofs.Tool.Outcome

/-!
# Where the output of the tool breaks

A run that succeeds with values has made an object of them and shows the line about it.  The texts in that line are
those of three options, as they were given, so the tool shows a single line exactly if each of them is one.

* `report_cases` : a fault that is reported is no success;
* `made_of_success` : what a success tells of the values;
* `shownKeys` : the options whose texts are shown; `textsOf_properties`, these are the texts of the object;
* `shows_of_success` : what is shown is the line about that object.

Main statement: `singleLine_iff_texts`, for all objects and for all runs.  `identity_breaks_line` shows that not every
line is single.
-/

namespace SaslBind

namespace Tool

namespace BindProperties

open CommandLine
open Properties (shownFields)

variable {files : FileReader} {values : List (Key × Given)} {args : List Text} {p : Properties} {secret : Value}
  {r : Request} {key : Key}

/-! ### What a success tells -/

/-- A fault is reported as an error of the parameters, or leaves the tool. -/
theorem report_cases (f : Fault) : (∃ t, (report f).Says .paramError .err t) ∨ (report f).Faults f := by
  cases f with
  | unknownQop item =>
    exact .inl ⟨_, (Session.says_write .err _).bind (Session.says_pure ResultCode.paramError .err)⟩
  | invalid model es =>
    exact .inl ⟨_, (Session.says_writeLines .err _).bind (Session.says_pure ResultCode.paramError .err)⟩
  | _ => exact .inr (Session.faults_fail _)

theorem report_ne_success (f : Fault) : (report f .both).1 ≠ .ok .success := by
  rcases report_cases f with ⟨t, events, said, -⟩ | ⟨events, failed, -⟩
  · rw [said]
    exact nofun
  · rw [failed]
    exact nofun

/-- After a success there is an object, and a line about it. -/
theorem made_of_success (h : (runWith Request.properties files values .both).1 = .ok .success) :
    ∃ secret r p line, password files values = .ok (.ok secret) ∧ request values secret = .ok r ∧
      r.properties = .ok p ∧ p.describe = .ok line := by
  cases hp : password files values with
  | error f =>
    rw [runWith, hp] at h
    cases h
  | ok found =>
    cases found with
    | error e =>
      rw [runWith, hp] at h
      cases h
    | ok secret =>
      rw [runWith_of_password hp, proceed] at h
      cases hm : (request values secret).bind Request.properties with
      | error f =>
        rw [hm] at h
        exact absurd h (report_ne_success f)
      | ok p =>
        rw [hm] at h
        obtain ⟨r, hr, made⟩ := ok_of_bind hm
        cases hl : p.describe with
        | error f =>
          simp only [hl] at h
          cases h
        | ok line => exact ⟨secret, r, p, line, rfl, hr, made, hl⟩

/-! ### Texts of options -/

/-- The options whose texts the line shows. -/
def shownKeys : List Key := [.authid, .authzid, .realm]

/-- A field that is shown takes an option that has a text, and keeps that text. -/
theorem bareTexts_of_check {f : Field} (hf : f ∈ shownFields) {a : Attribute}
    (h : f.check (valueOf (given? values key)) = .ok a) : a.value.bareTexts = (textOf? values key).toList := by
  have shown : f = .authenticationId ∨ f = .authorizationId ∨ f = .realm := by simpa [shownFields] using hf
  unfold textOf?
  cases hg : given? values key with
  | none =>
    rw [hg] at h
    rcases shown with rfl | rfl | rfl
    · cases h
    · obtain rfl := Except.ok.inj h
      rfl
    · obtain rfl := Except.ok.inj h
      rfl
  | some g =>
    rw [hg] at h
    cases g with
    | nothing => rcases shown with rfl | rfl | rfl <;> cases h
    | text t => rcases shown with rfl | rfl | rfl <;> (obtain rfl := Except.ok.inj h; rfl)

theorem textsOf_construct {named : Properties.Arguments} (hp : Properties.construct named = .ok p) {f : Field}
    (hf : f ∈ shownFields) (given : Properties.construct1 named f = f.check (valueOf (given? values key))) :
    p.textsOf f = (textOf? values key).toList := by
  obtain ⟨-, -, -, fields⟩ := Properties.construct_ok hp
  obtain ⟨a, ha, hl⟩ := fields f
  rw [given] at ha
  rw [← bareTexts_of_check hf ha, Properties.textsOf, Object.read_of_lookup (Properties.isPlain_name f) hl]

theorem textsOf_properties (hr : request values secret = .ok r) (hp : r.properties = .ok p) :
    shownFields.flatMap p.textsOf = shownKeys.filterMap (textOf? values) := by
  obtain ⟨levels, -, rfl⟩ := ok_of_map hr
  rw [Request.properties_eq] at hp
  have identity : p.textsOf .authenticationId = (textOf? values .authid).toList :=
    textsOf_construct hp (by decide) rfl
  have alternate : p.textsOf .authorizationId = (textOf? values .authzid).toList :=
    textsOf_construct hp (by decide) rfl
  have realm : p.textsOf .realm = (textOf? values .realm).toList := textsOf_construct hp (by decide) rfl
  simp [shownFields, shownKeys, List.filterMap_eq_flatMap_toList, identity, alternate, realm]

/-! ### Runs -/

/-- What is shown after a success with values is the line about an object with their texts. -/
theorem shows_of_success {sinks : Sinks} (h : (main files args sinks).1 = .ok .success)
    (help : spec.parse args ≠ .error .help) :
    ∃ values, ∃ p : Properties, ∃ line, spec.parse args = .ok values ∧ p.describe = .ok line ∧
      shownFields.flatMap p.textsOf = shownKeys.filterMap (textOf? values) ∧
      (main files args).Shows .success .out (line ++ "\n".toText) := by
  rw [(unheeding_main files args).result_eq sinks] at h
  cases parsed : spec.parse args with
  | error why =>
    cases why with
    | help => exact absurd parsed help
    | wrong e =>
      obtain ⟨events, said, -⟩ : (main files args).Says .paramError .err _ := Spec.says_run_wrong parsed
      rw [said] at h
      cases h
  | ok values =>
    rw [main_eq_runWith parsed] at h
    obtain ⟨secret, r, p, line, hs, hr, hp, hl⟩ := made_of_success h
    have made : (request values secret).bind Request.properties = .ok p := by rw [hr]; exact hp
    have said : (main files args).Says .success .out (line ++ "\n".toText) := by
      rw [main_eq_runWith parsed, runWith_of_password hs, proceed, made]
      simp only [hl]
      exact says_line line
    exact ⟨values, p, line, rfl, hl, textsOf_properties hr hp, said.shows (unheeding_main files args)⟩

theorem isSingleLine_iff_texts {line : Text}
    (h : line.lineBreaks = (shownKeys.filterMap (textOf? values)).flatMap Text.lineBreaks) :
    line.IsSingleLine ↔ ∀ key ∈ shownKeys, ∀ t, textOf? values key = some t → t.IsSingleLine := by
  simp only [Text.isSingleLine_iff, h, List.flatMap_eq_nil_iff, List.mem_filterMap]
  exact ⟨fun all key hk t ht => all t ⟨key, hk, ht⟩, fun all t ⟨key, hk, ht⟩ => all key hk t ht⟩

/-- **Where lines break.**  The line about an object breaks where the texts do that it shows, those of its identity, of
its alternate identity and of its realm, so it is a single line exactly if each of them is; and objects have a line if
their fields hold values of their kind and nothing is known beyond them.  A run of the tool that succeeds without help
writes the line about an object to the output, and it is a single line exactly if the texts of the three options are. -/
theorem singleLine_iff_texts (p : Properties) (files : FileReader) (args : List Text) (sinks : Sinks) :
    (∀ line, p.describe = .ok line →
      line.lineBreaks = (shownFields.flatMap p.textsOf).flatMap Text.lineBreaks ∧
      (line.IsSingleLine ↔ ∀ f ∈ shownFields, ∀ t, p.read f.name.toText = .ok (.text t) → t.IsSingleLine)) ∧
    (∀ steps : List (Text × Action), (∀ step ∈ steps, step.2.KeepsTypes ∧ step.2.AddsNothing) → ∀ slot,
      (Slots.run [] steps).2.lookup slot = some p → ∃ line, p.describe = .ok line) ∧
    ((main files args sinks).1 = .ok .success → spec.parse args ≠ .error .help →
      ∃ values, ∃ q : Properties, ∃ line, spec.parse args = .ok values ∧ q.describe = .ok line ∧
        (main files args).Shows .success .out (line ++ "\n".toText) ∧
        line.lineBreaks = (shownKeys.filterMap (textOf? values)).flatMap Text.lineBreaks ∧
        (line.IsSingleLine ↔ ∀ key ∈ shownKeys, ∀ t, textOf? values key = some t → t.IsSingleLine)) := by
  refine ⟨fun line hl => ⟨Properties.lineBreaks_describe hl, Properties.isSingleLine_describe hl⟩,
    fun steps h slot => Slots.exists_describe_run steps h slot p, fun h help => ?_⟩
  obtain ⟨values, q, line, parsed, hl, texts, shown⟩ := shows_of_success h help
  have breaks := Properties.lineBreaks_describe hl
  rw [texts] at breaks
  exact ⟨values, q, line, parsed, hl, shown, breaks, isSingleLine_iff_texts breaks⟩

/-- An identity with a line feed in it. -/
def brokenIdentity : Text := "u:a\nb".toText

/-- A run that makes an object with that identity. -/
def brokenRun : List (Text × Action) := [("a".toText, .make [.text brokenIdentity] [])]

/-- The identity as an option. -/
def brokenArguments : List Text := ["--authid=".toText ++ brokenIdentity]

/-- The line about that object is not single; the tool writes a single line about a user in a realm. -/
theorem singleLine_iff_texts_identity :
    (∃ p line, (Slots.run [] brokenRun).2.lookup "a".toText = some p ∧ p.describe = .ok line ∧ ¬ line.IsSingleLine) ∧
    ∃ line : Text, (main noFiles userArguments).Shows .success .out (line ++ "\n".toText) ∧ line.IsSingleLine := by
  constructor
  · have keeps : ∀ step ∈ brokenRun, step.2.KeepsTypes ∧ step.2.AddsNothing := by
      simp [brokenRun, Action.KeepsTypes, Action.AddsNothing]
    obtain ⟨p, hp, identity⟩ : ∃ p, (Slots.run [] brokenRun).2.lookup "a".toText = some p ∧
        p.read Field.authenticationId.name.toText = .ok (.text brokenIdentity) := ⟨_, rfl, rfl⟩
    have told := singleLine_iff_texts p noFiles userArguments .both
    obtain ⟨line, hl⟩ := told.2.1 brokenRun keeps _ hp
    have broken : ¬ brokenIdentity.IsSingleLine := by decide
    exact ⟨p, line, hp, hl, fun one => broken ((told.1 line hl).2.1 one .authenticationId (by decide) _ identity)⟩
  · have parsed : spec.parse userArguments = .ok [(.authid, .text "u:a".toText), (.realm, .text "r".toText)] := by
      decide +kernel
    have told := singleLine_iff_texts .blank noFiles userArguments .both
    obtain ⟨values, q, line, parsed', -, shown, -, single⟩ := told.2.2 (by decide +kernel) (by simp [parsed])
    obtain rfl := Except.ok.inj (parsed.symm.trans parsed')
    refine ⟨line, shown, single.2 ?_⟩
    decide

/-- Not all objects have a single line, and not all runs of the tool that succeed write one. -/
theorem identity_breaks_line :
    (¬ ∀ steps slot p line, (Slots.run [] steps).2.lookup slot = some p → p.describe = .ok line → line.IsSingleLine) ∧
    ¬ ∀ files args (sinks : Sinks), sinks.has .out → (main files args sinks).1 = .ok .success →
      spec.parse args ≠ .error .help →
      ∃ line : Text, line.IsSingleLine ∧ Event.text .out (main files args sinks).2 = line ++ "\n".toText := by
  constructor
  · intro single
    obtain ⟨p, hp, line⟩ : ∃ p, (Slots.run [] brokenRun).2.lookup "a".toText = some p ∧
        p.describe = .ok (Properties.line brokenIdentity none none [.auth]) := ⟨_, rfl, rfl⟩
    have broken : ¬ (Properties.line brokenIdentity none none [.auth]).IsSingleLine := by decide
    exact broken (single brokenRun _ p _ hp line)
  · intro single
    obtain ⟨line, one, shown⟩ := single noFiles brokenArguments .both rfl (by decide +kernel) (by decide +kernel)
    have written : Event.text .out (main noFiles brokenArguments .both).2 =
        Properties.line brokenIdentity none none [.auth] ++ "\n".toText := by decide +kernel
    obtain rfl := List.append_cancel_right (written.symm.trans shown)
    revert one
    decide

end BindProperties

end Tool

end SaslBind
