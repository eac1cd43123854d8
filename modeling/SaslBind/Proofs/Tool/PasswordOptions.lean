import SaslBind.Proofs.CommandLine.Attached
import SaslBind.Proofs.Files.Contents
import SaslBind.Proofs.Properties.Alike
import SaslBind.Proofs.Tool.Grammar

/-!
# The options for the password do not show

Running the tool with the password among its arguments, or with a file that holds it, has the same outcome as
running it without: the same result code or fault, and the same events on both sinks and in the log.

* `Key.isForSecret`, `givesSecret` : the options for the password and its file, and the tokens that are read as these;
* `proceed_eq` : the tool goes on in the same way with any two secrets;
* `Silent` : values without any for the secret; `runWith_cons`, a secret in front of them changes nothing;
* `parse_secret`, `main_secret` : nor does an option for it in front of tokens that give none.

Main statements: `main_hides_password`, and `main_of_readAlike`, what stands in the file for the password does not show.
-/

namespace SaslBind

namespace Tool

namespace BindProperties

open CommandLine

/-- Whether an option gives the password or the file that holds it. -/
def Key.isForSecret : Key → Bool
  | .password | .passwordFile => true
  | .authid | .authzid | .realm | .qop => false

/-- Whether a token is read as an option for the password or for its file. -/
def givesSecret (token : Text) : Bool :=
  match spec.read token with
  | .option o _ => o.key.isForSecret
  | _ => false

/-! ### Secrets that are taken -/

/-- Secrets of which nothing is known but that they are octets. -/
def AnySecret (_ _ : List UInt8) : Prop := True

/-- What is taken as a secret: text, the content of a file, or nothing. -/
inductive IsSecret : Value → Prop
  | text (t : Text) : IsSecret (.text t)
  | content (bs : List UInt8) : IsSecret (.octets .fixed bs)
  | nothing : IsSecret .null

theorem IsSecret.supplied {v w : Value} (hv : IsSecret v) (hw : IsSecret w) : Supplied AnySecret v w := by
  have taken {v : Value} (h : IsSecret v) : ∃ bs, Field.checkSecret v = .ok bs := by
    cases h <;> exact ⟨_, rfl⟩
  obtain ⟨bs, hb⟩ := taken hv
  obtain ⟨cs, hc⟩ := taken hw
  unfold Supplied
  rw [hb, hc]
  exact .ok trivial

theorem properties_alike (r : Request) {v w : Value} (h : Supplied AnySecret v w) :
    Agree (Object.Alike AnySecret) { r with password := v }.properties { r with password := w }.properties :=
  Properties.call_alike (.secret r.authid h []) (.refl ButSecret.refl _)

theorem request_alike (values : List (Key × Given)) {v w : Value} (h : Supplied AnySecret v w) :
    Agree (Object.Alike AnySecret) ((request values v).bind Request.properties)
      ((request values w).bind Request.properties) := by
  unfold request
  -- the levels are decoded before the properties are made, and from other options
  cases levels values with
  | error f => exact .error f
  | ok qs =>
    exact properties_alike ⟨valueOf (given? values .authid), .null, valueOf (given? values .authzid),
      valueOf (given? values .realm), qs⟩ h

/-- What the tool does once it has the password. -/
def proceed (values : List (Key × Given)) (secret : Value) : Session ResultCode :=
  match (request values secret).bind Request.properties with
  | .error f => report f
  | .ok p => do
    let line ← Session.lift p.describe
    Session.writeLine .out line
    pure .success

theorem proceed_eq (values : List (Key × Given)) {v w : Value} (hv : IsSecret v) (hw : IsSecret w) :
    proceed values v = proceed values w := by
  have made := request_alike values (hv.supplied hw)
  unfold proceed
  revert made
  generalize (request values v).bind Request.properties = x, (request values w).bind Request.properties = y
  rintro (h | f)
  · simp only [Properties.describe_eq h]
  · rfl

/-! ### Values that hide a secret -/

/-- Values without any for the password or its file. -/
def Silent (values : List (Key × Given)) : Prop := ∀ x ∈ values, x.1.isForSecret = false

theorem given?_cons_of_ne {x : Key × Given} {key : Key} (h : key ≠ x.1) (values : List (Key × Given)) :
    given? (x :: values) key = given? values key := by
  have other : [x].lookup key = none := by simpa using h
  rw [given?, List.reverse_cons, List.lookup_append, other, Option.or_none]
  rfl

theorem Silent.given? {values : List (Key × Given)} (h : Silent values) {key : Key} (hk : key.isForSecret) :
    given? values key = none := by
  refine List.lookup_eq_none_iff.2 fun x hx => ?_
  have hne : key ≠ x.1 := by
    rintro rfl
    rw [h x (List.mem_reverse.1 hx)] at hk
    cases hk
  simpa using hne

theorem Silent.given?_cons {values : List (Key × Given)} (h : Silent values) {key : Key} (hk : key.isForSecret)
    (g : Given) : BindProperties.given? ((key, g) :: values) key = some g := by
  have before : values.reverse.lookup key = none := h.given? hk
  have here : [(key, g)].lookup key = some g := by simp
  rw [BindProperties.given?, List.reverse_cons, List.lookup_append, before, here, Option.none_or]

/-- What is asked for besides the password does not depend on the options for it. -/
theorem request_cons {x : Key × Given} (hx : x.1.isForSecret) (values : List (Key × Given)) (secret : Value) :
    request (x :: values) secret = request values secret := by
  have other (key : Key) (hk : key.isForSecret = false) : given? (x :: values) key = given? values key := by
    refine given?_cons_of_ne ?_ values
    rintro rfl
    rw [hx] at hk
    cases hk
  have levels : levels (x :: values) = levels values := by
    unfold BindProperties.levels
    rw [other .qop rfl]
  unfold request
  rw [levels, other .authid rfl, other .authzid rfl, other .realm rfl]

theorem runWith_of_password {files : FileReader} {values : List (Key × Given)} {secret : Value}
    (h : password files values = .ok (.ok secret)) :
    runWith Request.properties files values = proceed values secret := by
  unfold runWith
  rw [h]
  rfl

theorem Silent.password {values : List (Key × Given)} (h : Silent values) (files : FileReader) :
    password files values = .ok (.ok .null) := by
  unfold BindProperties.password
  rw [h.given? rfl, h.given? rfl]
  rfl

/-- The tool does the same with a secret in front of silent values as without it. -/
theorem runWith_cons {files files' : FileReader} {x : Key × Given} (hx : x.1.isForSecret)
    {values : List (Key × Given)} (h : Silent values) {secret : Value} (hs : IsSecret secret)
    (hp : password files (x :: values) = .ok (.ok secret)) :
    runWith Request.properties files (x :: values) = runWith Request.properties files' values := by
  have same : proceed (x :: values) secret = proceed values secret := by
    unfold proceed
    rw [request_cons hx]
  rw [runWith_of_password hp, runWith_of_password (h.password files'), same]
  exact proceed_eq values hs .nothing

/-! ### Files that hide a secret -/

theorem runWith_of_readAlike {files files' : FileReader} {values : List (Key × Given)}
    (h : ∀ t, given? values .passwordFile = some (.text t) → FileReader.ReadAlike files files' (.ofText t)) :
    runWith Request.properties files values = runWith Request.properties files' values := by
  have same (hp : password files values = password files' values) :
      runWith Request.properties files values = runWith Request.properties files' values := by
    unfold runWith
    rw [hp]
  cases hg : given? values .passwordFile with
  | none => exact same (by unfold password; rw [hg])
  | some g =>
    cases g with
    | nothing => exact same (by unfold password; rw [hg])
    | text t =>
      have failed {files : FileReader} {f : Fault} (hx : files (.ofText t) = .error f) :
          password files values = .error f := by simp [password, hg, hx, Except.map]
      have unread {files : FileReader} {e : FileError} (hx : files (.ofText t) = .ok (.error e)) :
          password files values = .ok (.error (e, .ofText t)) := by simp [password, hg, hx, Except.map]
      have read {files : FileReader} {bs : List UInt8} (hx : files (.ofText t) = .ok (.ok bs)) :
          password files values = .ok (.ok (.octets .fixed bs)) := by simp [password, hg, hx, Except.map]
      have agree := h t hg
      unfold FileReader.ReadAlike at agree
      generalize hx : files (.ofText t) = x, hy : files' (.ofText t) = y at agree
      cases agree with
      | error f => exact same ((failed hx).trans (failed hy).symm)
      | ok inner =>
        cases inner with
        | error e => exact same ((unread hx).trans (unread hy).symm)
        | @ok bs bs' =>
          rw [runWith_of_password (read hx), runWith_of_password (read hy)]
          exact proceed_eq values (.content bs) (.content bs')

/-- What stands in the password file does not show, only whether it can be read; no other file matters. -/
theorem main_of_readAlike {files files' : FileReader} {args : List Text}
    (h : ∀ p, passwordPath? args = some p → FileReader.ReadAlike files files' p) : main files args = main files' args := by
  unfold main mainWith Spec.run
  cases parsed : spec.parse args with
  | error why => rfl
  | ok values =>
    refine runWith_of_readAlike fun t given => h _ ?_
    simp only [passwordPath?, parsed, given]

/-! ### Command lines that hide a secret -/

/-- An option that is not for the secret goes together with all others. -/
theorem group_of_silent : ∀ o ∈ spec.options, o.key.isForSecret = false → o.group = none := by decide

/-- An option for the secret is none of those that are required. -/
theorem name_ne_of_required : ∀ o ∈ spec.options, o.key.isForSecret →
    ∀ o' ∈ spec.options, o'.required → o.name ≠ o'.name := by decide

/-- The options of the tool, written in full, are read as such. -/
theorem read_option {o : Opt Key} (ho : o ∈ spec.options) (v : Text) :
    spec.read (o.name ++ equalsSign :: v) = .option o (some v) :=
  Spec.read_of_spells spec_named ⟨ho, .inl rfl⟩ (some v)

theorem not_isForSecret_of_reads {tokens : List Text}
    (h : ∀ token ∈ tokens.takeWhile (· ≠ terminator), givesSecret token = false) {o : Opt Key}
    (ho : spec.Reads tokens o) : o.key.isForSecret = false := by
  obtain ⟨token, hm, attached, hr⟩ := ho
  have hs := h token hm
  unfold givesSecret at hs
  rwa [hr] at hs

/-- An option for the secret in front of tokens that give none adds its value and does nothing else. -/
theorem parse_secret {tokens : List Text}
    (h : ∀ token ∈ tokens.takeWhile (· ≠ terminator), givesSecret token = false) {o : Opt Key} (ho : o ∈ spec.options)
    (hk : o.key.isForSecret) {v : Text} (hv : v ≠ terminator) :
    spec.parse ((o.name ++ equalsSign :: v) :: tokens) =
      (spec.parse tokens).map fun values => (o.key, .text v) :: values := by
  have given : Given.ofAttached v = .text v := if_neg hv
  rw [← given]
  refine Spec.parse_attached (Spec.attached_ne_terminator o.name v) (read_option ho v) (fun o' ho' => ?_) (name_ne_of_required o ho hk)
  have silent : o'.key.isForSecret = false := not_isForSecret_of_reads h ho'
  obtain ⟨token, -, attached, hr⟩ := ho'
  have alone : o'.group = none := group_of_silent o' (Spec.spells_of_read spec_named hr).1.1 silent
  simp [Spec.conflict?, alone]

/-- The tool does the same with an option for the secret in front of tokens that give none as without it. -/
theorem main_secret {files files' : FileReader} {tokens : List Text}
    (h : ∀ token ∈ tokens.takeWhile (· ≠ terminator), givesSecret token = false) {o : Opt Key} (ho : o ∈ spec.options)
    (hk : o.key.isForSecret) {v : Text} (hv : v ≠ terminator) {secret : Value} (hs : IsSecret secret)
    (hp : ∀ values, Silent values → password files ((o.key, .text v) :: values) = .ok (.ok secret)) :
    main files ((o.name ++ equalsSign :: v) :: tokens) = main files' tokens := by
  unfold main mainWith Spec.run
  rw [parse_secret h ho hk hv]
  cases hparse : spec.parse tokens with
  | error why => rfl
  | ok values =>
    -- what was read of the other tokens has no secret in it, so there is none to exclude or to override
    have silent : Silent values := by
      intro x hx
      obtain ⟨o', ho', hk'⟩ := Spec.reads_of_parse hparse hx
      exact hk' ▸ not_isForSecret_of_reads h ho'
    exact runWith_cons hk silent hs (hp values silent)

/-- **The options for the password do not show.**  In front of tokens that give no secret themselves, a password
or the path of a file that can be read leaves the outcome of the tool as it is without them: the result code or
the fault, what is written to each sink, and the log.  Without them no file is read, so its content does not
show either. -/
theorem main_hides_password {tokens : List Text}
    (h : ∀ token ∈ tokens.takeWhile (· ≠ terminator), givesSecret token = false) {v f : Text} (hv : v ≠ terminator)
    (hf : f ≠ terminator) {files : FileReader} {bs : List UInt8} (hread : files (.ofText f) = .ok (.ok bs))
    (files' : FileReader) :
    main files (("--password=".toText ++ v) :: tokens) = main files' tokens ∧
    main files (("--password-file=".toText ++ f) :: tokens) = main files' tokens := by
  have mem : passwordOption ∈ spec.options := List.getElem_mem _
  have mem' : passwordFileOption ∈ spec.options := List.getElem_mem _
  constructor
  · refine main_secret h mem rfl hv (.text v) fun values silent => ?_
    have noFile : given? ((Key.password, .text v) :: values) .passwordFile = none :=
      (given?_cons_of_ne (show Key.passwordFile ≠ Key.password by decide) values).trans (silent.given? rfl)
    have text : given? ((Key.password, .text v) :: values) .password = some (.text v) := silent.given?_cons rfl _
    change password files ((Key.password, .text v) :: values) = _
    unfold password
    rw [noFile, text]
    rfl
  · refine main_secret h mem' rfl hf (.content bs) fun values silent => ?_
    have file : given? ((Key.passwordFile, .text f) :: values) .passwordFile = some (.text f) :=
      silent.given?_cons rfl _
    change password files ((Key.passwordFile, .text f) :: values) = _
    unfold password
    rw [file]
    simp only [hread]
    rfl

/-- The arguments for a user in a realm. -/
def userArguments : List Text := ["--authid".toText, "u:a".toText, "--realm=r".toText]

/-- Where there is only one file, which holds a password. -/
def onePassword : FileReader := fun p => .ok (if p = .ofText "pw".toText then .ok [0x73] else .error .missing)

/-- Where there are no files. -/
def noFiles : FileReader := fun _ => .ok (.error .missing)

/-- A user in a realm is shown with a password, with a file that holds one, and without. -/
theorem main_hides_password_userArguments :
    (∀ token ∈ userArguments.takeWhile (· ≠ terminator), givesSecret token = false) ∧
    main onePassword (("--password=".toText ++ "s".toText) :: userArguments) =
      main noFiles userArguments ∧
    main onePassword (("--password-file=".toText ++ "pw".toText) :: userArguments) =
      main noFiles userArguments := by
  have silent : ∀ token ∈ userArguments.takeWhile (· ≠ terminator), givesSecret token = false := by decide
  have content : onePassword (.ofText "pw".toText) = .ok (.ok [0x73]) := rfl
  have short : "s".toText ≠ terminator := by decide
  have file : "pw".toText ≠ terminator := by decide
  exact ⟨silent, main_hides_password silent short file content _⟩

end BindProperties

end Tool

end SaslBind
