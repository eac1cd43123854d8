import SaslBind.Proofs.Files.Askable
import SaslBind.Proofs.Properties.Line
import SaslBind.Proofs.Qop.Listing
import SaslBind.Proofs.Tool.PasswordOptions

/-!
# What the tool shows is what the library makes

With texts for its options the tool does what a caller of the library does with them: a password file that can not be
read comes first, then levels that can not be decoded, and else the properties are made, which never fails, and their
line is shown.  Nothing is shown before a failure.

* `Session.Ends` : a result code, and what is shown on the sinks;
* `textOf?` : the text of an option; `GivesSecret` : the password, or the content of its file;
* `answered` : a password file is either read or it is not;
* `main_unreadable`, `main_undecoded`, `main_made` : the three outcomes.

Main statement: `main_refines_library`.
-/

namespace SaslBind

namespace Session

/-- A session ends with a result code and has shown a text on each sink that is there. -/
def Ends (x : Session ResultCode) (code : ResultCode) (shown : Sink → Text) : Prop :=
  ∀ sinks, ∃ events, x sinks = (.ok code, events) ∧
    ∀ sink, Event.text sink events = if sinks.has sink then shown sink else []

/-- A line on one sink, and nothing on the other. -/
def lineOn (sink : Sink) (line : Text) : Sink → Text := fun s => if s = sink then line ++ "\n".toText else []

theorem ends_writeLine (sink : Sink) (line : Text) (code : ResultCode) :
    Ends (do writeLine sink line; pure code) code (lineOn sink line) := by
  intro sinks
  have more : (line ++ "\n".toText).isEmpty = false := by simp [String.toText]
  refine ⟨_, rfl, fun s => ?_⟩
  rw [more, List.append_nil, Bool.not_false, Bool.and_true]
  unfold lineOn
  by_cases hs : s = sink
  · subst hs
    cases sinks.has s <;> simp [Event.text, Event.textOn]
  · cases sinks.has sink <;> simp [Event.text, Event.textOn, hs, Ne.symm hs]

theorem Ends.record {x : Session ResultCode} {code : ResultCode} {shown : Sink → Text} (h : Ends x code shown)
    (level : Log.Level) (message : Text) : Ends (do Session.record level message; x) code shown := by
  intro sinks
  obtain ⟨events, hx, ht⟩ := h sinks
  refine ⟨.record ⟨level, message⟩ :: events, ?_, ht⟩
  simp only [Bind.bind, Session.bind, Session.record, hx, List.singleton_append]

end Session

namespace Tool

namespace BindProperties

open CommandLine
open Attribute (optionalText)
open Session (lineOn)

variable {values : List (Key × Given)}

/-! ### Texts of options -/

/-- The text of an option, if it was given. -/
def textOf? (values : List (Key × Given)) (key : Key) : Option Text :=
  match given? values key with
  | some (.text t) => some t
  | _ => none

def AllTexts (values : List (Key × Given)) : Prop := ∀ x ∈ values, x.2 ≠ .nothing

theorem mem_of_given? {key : Key} {g : Given} (h : given? values key = some g) : (key, g) ∈ values := by
  obtain ⟨l₁, l₂, hl, -⟩ := List.lookup_eq_some_iff.1 h
  have hm : (key, g) ∈ values.reverse := by simp [hl]
  exact List.mem_reverse.1 hm

theorem given?_eq (h : AllTexts values) (key : Key) : given? values key = (textOf? values key).map .text := by
  unfold textOf?
  cases hg : given? values key with
  | none => rfl
  | some g =>
    cases g with
    | text t => rfl
    | nothing => exact absurd rfl (h _ (mem_of_given? hg))

theorem valueOf_given? (h : AllTexts values) (key : Key) :
    valueOf (given? values key) = optionalText (textOf? values key) := by
  rw [given?_eq h]
  cases textOf? values key <;> rfl

/-- The levels are decoded from the text of their option, which is empty if it was not given. -/
theorem levels_eq (h : AllTexts values) : levels values = Qop.decodeText ((textOf? values .qop).getD []) := by
  unfold levels
  rw [given?_eq h]
  cases textOf? values .qop <;> rfl

/-- The authentication ID is among the values of every command line that has any. -/
theorem exists_text_authid {args : List Text} (parsed : spec.parse args = .ok values) (h : AllTexts values) :
    ∃ authid, textOf? values .authid = some authid := by
  obtain ⟨phrases, hs, -, rfl⟩ := (Spec.parse_eq_ok_iff spec_named).1 parsed
  obtain ⟨-, ⟨x, hx, hk⟩, -⟩ := (sentence_iff phrases).1 hs
  have hm : (Key.authid, x.given) ∈ phrases.map Phrase.value := List.mem_map.2 ⟨x, hx, Prod.ext hk rfl⟩
  have present : given? (phrases.map Phrase.value) .authid ≠ none := by
    intro hn
    have other := List.lookup_eq_none_iff.1 hn _ (List.mem_reverse.2 hm)
    simp at other
  rw [given?_eq h] at present
  exact Option.ne_none_iff_exists'.1 fun hn => present (by rw [hn]; rfl)

/-! ### Secrets -/

/-- What is given as the secret: the password, or nothing, or the content of the password file. -/
inductive GivesSecret (disk : FileSystem) (values : List (Key × Given)) : Value → Prop
  | password (h : textOf? values .passwordFile = none) :
      GivesSecret disk values (optionalText (textOf? values .password))
  | content {f : Text} {bs : List UInt8} (hf : textOf? values .passwordFile = some f)
      (hr : disk.read (.ofText f) = .ok (.ok bs)) : GivesSecret disk values (.octets .fixed bs)

variable {disk : FileSystem} {secret : Value}

theorem GivesSecret.check (h : GivesSecret disk values secret) :
    ∃ bs, Field.password.check secret = .ok (.password bs) := by
  cases h with
  | password h => cases textOf? values .password <;> exact ⟨_, rfl⟩
  | content hf hr => exact ⟨_, rfl⟩

theorem GivesSecret.password_eq (ht : AllTexts values) (h : GivesSecret disk values secret) :
    BindProperties.password disk.read values = .ok (.ok secret) := by
  unfold BindProperties.password
  rw [given?_eq ht .passwordFile]
  cases h with
  | password h =>
    rw [h, ← valueOf_given? ht]
    rfl
  | content hf hr =>
    rw [hf]
    simp only [Option.map_some, hr]
    rfl

theorem answered (disk : FileSystem) (askable : ∀ f, textOf? values .passwordFile = some f → f.Askable) :
    (∃ f e, textOf? values .passwordFile = some f ∧ disk.read (.ofText f) = .ok (.error e)) ∨
      ∃ secret, GivesSecret disk values secret := by
  cases hf : textOf? values .passwordFile with
  | none => exact .inr ⟨_, .password hf⟩
  | some f =>
    obtain ⟨answer, ha⟩ := FileSystem.read_of_askable disk (askable f hf)
    cases answer with
    | error e => exact .inl ⟨f, e, rfl, ha⟩
    | ok bs => exact .inr ⟨_, .content hf ha⟩

/-! ### Outcomes -/

variable {args : List Text}

theorem main_eq_runWith (parsed : spec.parse args = .ok values) (files : FileReader) :
    main files args = runWith Request.properties files values := by
  unfold main mainWith Spec.run
  rw [parsed]

theorem main_unreadable (parsed : spec.parse args = .ok values) (ht : AllTexts values) {f : Text} {e : FileError}
    (hf : textOf? values .passwordFile = some f) (hr : disk.read (.ofText f) = .ok (.error e)) :
    (main disk.read args).Ends .localError
      (lineOn .err ("Unable to read password file: ".toText ++ e.message (.ofText f))) := by
  have failed : password disk.read values = .ok (.error (e, .ofText f)) := by
    unfold password
    rw [given?_eq ht .passwordFile, hf]
    simp only [Option.map_some, hr]
    rfl
  rw [main_eq_runWith parsed, runWith, failed]
  exact (Session.ends_writeLine .err _ .localError).record _ _

theorem request_eq (ht : AllTexts values) {authid : Text} (ha : textOf? values .authid = some authid) :
    request values secret = (Qop.decodeText ((textOf? values .qop).getD [])).map fun levels =>
      ⟨.text authid, secret, optionalText (textOf? values .authzid), optionalText (textOf? values .realm), levels⟩ := by
  unfold request
  rw [levels_eq ht, valueOf_given? ht .authid, valueOf_given? ht .authzid, valueOf_given? ht .realm, ha]
  rfl

theorem main_undecoded (parsed : spec.parse args = .ok values) (ht : AllTexts values)
    (hs : GivesSecret disk values secret) {fault : Fault}
    (hq : Qop.decodeText ((textOf? values .qop).getD []) = .error fault) :
    (main disk.read args).Ends .paramError (lineOn .err fault.message) := by
  obtain ⟨authid, ha⟩ := exists_text_authid parsed ht
  obtain ⟨item, rfl⟩ := Qop.unknownQop_of_decodeText hq
  rw [main_eq_runWith parsed, runWith_of_password (hs.password_eq ht), proceed, request_eq ht ha, hq]
  exact Session.ends_writeLine .err _ .paramError

/-- Else the properties are made, and their line is shown. -/
theorem main_made (parsed : spec.parse args = .ok values) (ht : AllTexts values) (hs : GivesSecret disk values secret)
    {authid : Text} (ha : textOf? values .authid = some authid) {levels : List Qop}
    (hq : Qop.decodeText ((textOf? values .qop).getD []) = .ok levels) {p : Properties} {line : Text}
    (hp : Properties.call [.text authid, secret]
      (Properties.furtherTexts (textOf? values .authzid) (textOf? values .realm) levels) = .ok p)
    (hl : p.describe = .ok line) :
    (main disk.read args).Ends .success (lineOn .out line) := by
  rw [main_eq_runWith parsed, runWith_of_password (hs.password_eq ht), proceed, request_eq ht ha, hq]
  have made : ((Except.ok levels : Except Fault (List Qop)).map fun levels =>
      (⟨.text authid, secret, optionalText (textOf? values .authzid), optionalText (textOf? values .realm), levels⟩ :
        Request)).bind Request.properties = .ok p := hp
  rw [made]
  simp only [hl]
  exact Session.ends_writeLine .out line .success

/-- **What the tool shows is what the library makes.**  On a command line with texts for all options that it names,
and with a password file that can be asked for, if any: a file that can not be read is reported, whatever the levels
are; else, levels that can not be decoded are reported with the message of their fault; else, the properties are made
of the texts, with nothing for what was not given, and their line is shown.  The properties are never rejected, and
an empty realm shows in the line while one that was not given does not. -/
theorem main_refines_library (parsed : spec.parse args = .ok values) (texts : AllTexts values) (disk : FileSystem)
    (askable : ∀ f, textOf? values .passwordFile = some f → f.Askable) :
    ((∃ f e, textOf? values .passwordFile = some f ∧ disk.read (.ofText f) = .ok (.error e)) ∨
      ∃ secret, GivesSecret disk values secret) ∧
    (∀ f e, textOf? values .passwordFile = some f → disk.read (.ofText f) = .ok (.error e) →
      (main disk.read args).Ends .localError
        (lineOn .err ("Unable to read password file: ".toText ++ e.message (.ofText f)))) ∧
    (∀ secret, GivesSecret disk values secret → ∃ authid, textOf? values .authid = some authid ∧
      match Qop.decodeText ((textOf? values .qop).getD []) with
      | .error fault => (main disk.read args).Ends .paramError (lineOn .err fault.message)
      | .ok levels => ∃ p line,
        Properties.call [.text authid, secret]
          [(Field.authorizationId.name.toText, optionalText (textOf? values .authzid)),
            (Field.realm.name.toText, optionalText (textOf? values .realm)),
            (Field.allowedQop.name.toText, .list (levels.map .qop))] = .ok p ∧
        p.describe = .ok line ∧
        line = Properties.line authid (textOf? values .authzid) (textOf? values .realm) (Field.orDefault levels) ∧
        (main disk.read args).Ends .success (lineOn .out line)) ∧
    ∀ authid authzid levels,
      Properties.line authid authzid none levels ≠ Properties.line authid authzid (some []) levels := by
  refine ⟨answered disk askable, fun f e => main_unreadable parsed texts, fun secret hs => ?_, Properties.line_ne_line⟩
  obtain ⟨authid, ha⟩ := exists_text_authid parsed texts
  refine ⟨authid, ha, ?_⟩
  cases hq : Qop.decodeText ((textOf? values .qop).getD []) with
  | error fault => exact main_undecoded parsed texts hs hq
  | ok levels =>
    obtain ⟨bs, hb⟩ := hs.check
    obtain ⟨p, hp, hl⟩ := Properties.made_of_texts hb authid (textOf? values .authzid) (textOf? values .realm) levels
    exact ⟨p, _, hp, hl, rfl, main_made parsed texts hs ha hq hp hl⟩

/-- An identity, an empty realm and a file that holds the password. -/
def fileArguments : List Text := ["--authid=u:a".toText, "--realm=".toText, "--password-file".toText, "./pw".toText]

/-- The values of an identity, an empty realm and a file. -/
def fileValues : List (Key × Given) :=
  [(.authid, .text "u:a".toText), (.realm, .text []), (.passwordFile, .text "./pw".toText)]

/-- Only one file, and it is where the process works. -/
def pwFolder : FileSystem := .ofTree (.folder [("pw".toText, .file [0x73])])

/-- No file at all. -/
def emptyFolder : FileSystem := .ofTree (.folder [])

/-- The empty realm is shown if the file is there, and the missing file is reported if it is not. -/
theorem main_refines_library_fileArguments :
    spec.parse fileArguments = .ok fileValues ∧ AllTexts fileValues ∧
      (∀ f, textOf? fileValues .passwordFile = some f → f.Askable) ∧
      (main pwFolder.read fileArguments).Ends .success
        (lineOn .out (Properties.line "u:a".toText none (some []) [.auth])) ∧
      (main emptyFolder.read fileArguments).Ends .localError
        (lineOn .err ("Unable to read password file: ".toText ++ FileError.missing.message (.ofText "./pw".toText))) := by
  have parsed : spec.parse fileArguments = .ok fileValues := by decide +kernel
  have texts : AllTexts fileValues := by simp [AllTexts, fileValues]
  have file : textOf? fileValues .passwordFile = some "./pw".toText := rfl
  have askable : ∀ f, textOf? fileValues .passwordFile = some f → f.Askable := by
    intro f hf
    obtain rfl := Option.some.inj (file.symm.trans hf)
    exact ⟨by decide, by decide⟩
  have there : pwFolder.read (.ofText "./pw".toText) = .ok (.ok [0x73]) := by decide +kernel
  have gone : emptyFolder.read (.ofText "./pw".toText) = .ok (.error .missing) := by decide +kernel
  obtain ⟨-, -, made, -⟩ := main_refines_library parsed texts pwFolder askable
  obtain ⟨-, unread, -⟩ := main_refines_library parsed texts emptyFolder askable
  obtain ⟨authid, ha, outcome⟩ := made _ (.content file there)
  obtain rfl : "u:a".toText = authid := Option.some.inj ha
  obtain ⟨p, line, -, -, rfl, shown⟩ := outcome
  exact ⟨parsed, texts, askable, shown, unread _ _ file gone⟩

end BindProperties

end Tool

end SaslBind
