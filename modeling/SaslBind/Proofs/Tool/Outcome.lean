import SaslBind.Proofs.CommandLine.Screen
import SaslBind.Proofs.Properties.Rejected
import SaslBind.Proofs.Tool.Refinement
import SaslBind.Tool

/-!
# How the tools end

Both tools heed no sinks and are orderly.  The one that prints bind properties answers with success or with one of two
codes of failure, save for options that it can not use: the terminator as the value of the levels or of the password
file, and a password file whose path can not be asked for.  Those leave it as faults.

* `unheeding_main`, `orderly_main` : what is known of a tool without running it;
* `Request.made_or_rejected` : what is asked for is made, or rejected with errors that are reported;
* `escape?` : the fault that leaves the tool; `runWith_outcome`, there is no other, and without it the tool answers;
* `Usable` : options that the tool can use; `usable_iff`, these and no others let no fault out.

Main statement: `main_returns_iff`.
-/

namespace SaslBind

namespace Tool

namespace BindProperties

open CommandLine

theorem exists_helpText : ∃ help, spec.helpText = .ok help := spec.isOk_helpText (by decide)

/-! ### Sinks that are missing -/

theorem unheeding_report (f : Fault) : (report f).Unheeding := by
  cases f with
  | unknownQop item => exact (Session.Unheeding.writeLine .err _).bind fun _ => .pure _
  | invalid model es => exact (Session.Unheeding.writeLines .err _).bind fun _ => .pure _
  | _ => exact .fail _

theorem unheeding_reportFile (e : FileError) (p : Path) : (reportFile e p).Unheeding :=
  (Session.Unheeding.record _ _).bind fun _ => (Session.Unheeding.writeLine .err _).bind fun _ => .pure _

theorem unheeding_runWith (make : Request → Except Fault Properties) (files : FileReader)
    (values : List (Key × Given)) : (runWith make files values).Unheeding := by
  unfold runWith
  split
  · exact .fail _
  · exact unheeding_reportFile _ _
  · split
    · exact unheeding_report _
    · exact (Session.Unheeding.lift _).bind fun line => (Session.Unheeding.writeLine .out line).bind fun _ => .pure _

theorem unheeding_main (files : FileReader) (args : List Text) : (main files args).Unheeding := by
  obtain ⟨help, h⟩ := exists_helpText
  exact Spec.unheeding_run h (unheeding_runWith Request.properties files) args

/-! ### Requests -/

/-- What is asked for besides an identity and a secret. -/
def Request.further (r : Request) : Properties.Arguments :=
  [(Field.authorizationId.name.toText, r.authzid), (Field.realm.name.toText, r.realm),
    (Field.allowedQop.name.toText, .list (r.levels.map .qop))]

theorem Request.properties_eq (r : Request) :
    r.properties = Properties.construct (Properties.withSecret r.authid r.password r.further) := by
  have free : Properties.Free r.further := Properties.free_further _ _ _
  have called : r.properties = Properties.call [r.authid, r.password] r.further := rfl
  rw [called, Properties.call, Properties.bind_place free]

/-- What is asked for is made, and has a line, or it is rejected with at least one error. -/
theorem Request.made_or_rejected (r : Request) :
    (∃ p line, r.properties = .ok p ∧ p.describe = .ok line) ∨
      ∃ es, es ≠ [] ∧ r.properties = .error (.invalid .properties es) := by
  have settled : ∀ f, Properties.Settles
      (Properties.construct1 (Properties.withSecret r.authid r.password r.further) f) := by
    intro f
    cases f with
    | authenticationId => exact Properties.check_settles (f := .authenticationId) (by decide) r.authid
    | password => exact Properties.check_settles (f := .password) (by decide) r.password
    | authorizationId => exact Properties.check_settles (f := .authorizationId) (by decide) r.authzid
    | realm => exact Properties.check_settles (f := .realm) (by decide) r.realm
    | allowedQop =>
      have taken : Properties.construct1 (Properties.withSecret r.authid r.password r.further) .allowedQop =
          .ok (.allowedQop (Field.orDefault r.levels)) := Field.check_levels r.levels
      rw [taken]
      exact .taken _
  rw [r.properties_eq]
  rcases Properties.made_or_rejected settled with made | ⟨es, hne, -, rejected⟩
  · exact .inl made
  · exact .inr ⟨es, hne, rejected⟩

/-! ### What is said -/

theorem answers_reportFile (e : FileError) (p : Path) : (reportFile e p).Answers := by
  refine .refuses (.inr rfl) ?_ ((Session.says_record _ _ .err).bind
    ((Session.says_write .err _).bind (Session.says_pure ResultCode.localError .err)))
  simp [String.toText]

theorem answers_unknownQop (item : Text) : (report (.unknownQop item)).Answers := by
  refine .refuses (.inl rfl) ?_ ((Session.says_write .err _).bind (Session.says_pure ResultCode.paramError .err))
  simp [String.toText]

theorem answers_invalid (model : Model) {es : List FieldError} (h : es ≠ []) :
    (report (.invalid model es)).Answers := by
  refine .refuses (.inl rfl) ?_
    ((Session.says_writeLines .err (es.map rejection)).bind (Session.says_pure ResultCode.paramError .err))
  have lines : es.map rejection ≠ [] := mt List.map_eq_nil_iff.1 h
  simpa using Session.shownLines_ne_nil lines

theorem says_line (line : Text) :
    Session.Says (do let line ← Session.lift (.ok line); Session.writeLine .out line; pure ResultCode.success)
      .success .out (line ++ "\n".toText) := by
  have text : line ++ "\n".toText = [] ++ (line ++ "\n".toText ++ []) := by rw [List.append_nil, List.nil_append]
  rw [text]
  exact (Session.says_lift line .out).bind ((Session.says_write .out _).bind
    (Session.says_pure ResultCode.success .out))

theorem answers_line (line : Text) :
    Session.Answers (do let line ← Session.lift (.ok line); Session.writeLine .out line; pure .success) :=
  .succeeds (by simp [String.toText]) (says_line line)

/-! ### Faults -/

/-- The fault that leaves the tool, if one does: that of the password file, or, if a password was found, that of levels
which are no text. -/
def escape? (files : FileReader) (values : List (Key × Given)) : Option Fault :=
  match password files values with
  | .error f => some f
  | .ok (.error _) => none
  | .ok (.ok _) => if given? values .qop = some .nothing then some (noMethod "split") else none

theorem levels_cases (values : List (Key × Given)) :
    (given? values .qop = some .nothing ∧ levels values = .error (noMethod "split")) ∨
      given? values .qop ≠ some .nothing ∧
        ((∃ item, levels values = .error (.unknownQop item)) ∨ ∃ qs, levels values = .ok qs) := by
  unfold levels
  cases given? values .qop with
  | none => exact .inr ⟨by simp, .inr ⟨[], rfl⟩⟩
  | some g =>
    cases g with
    | nothing => exact .inl ⟨rfl, rfl⟩
    | text t =>
      refine .inr ⟨by simp, ?_⟩
      cases hd : Qop.decodeText t with
      | ok qs => exact .inr ⟨qs, hd⟩
      | error fault =>
        obtain ⟨item, rfl⟩ := Qop.unknownQop_of_decodeText hd
        exact .inl ⟨item, hd⟩

/-- The tool answers, unless a fault leaves it. -/
theorem runWith_outcome (files : FileReader) (values : List (Key × Given)) :
    match escape? files values with
    | some f => (runWith Request.properties files values).Faults f
    | none => (runWith Request.properties files values).Answers := by
  unfold escape? runWith
  cases hp : password files values with
  | error f => exact Session.faults_fail f
  | ok found =>
    cases found with
    | error e => exact answers_reportFile e.1 e.2
    | ok secret =>
      rcases levels_cases values with ⟨hq, hl⟩ | ⟨hq, ⟨item, hl⟩ | ⟨qs, hl⟩⟩
      · simp only [hq, request, hl]
        exact Session.faults_fail _
      · simp only [hq, request, hl]
        exact answers_unknownQop item
      · simp only [hq, request, hl]
        rcases Request.made_or_rejected ⟨valueOf (given? values .authid), secret, valueOf (given? values .authzid),
          valueOf (given? values .realm), qs⟩ with ⟨p, line, hm, hd⟩ | ⟨es, hne, hm⟩
        · simp only [Except.map, Except.bind, hm, hd]
          exact answers_line line
        · simp only [Except.map, Except.bind, hm]
          exact answers_invalid _ hne

/-- Options that the tool can use.  The value of the levels does not matter if a password file can not be read, since that
is reported first. -/
structure Usable (disk : FileSystem) (values : List (Key × Given)) : Prop where
  file : given? values .passwordFile ≠ some .nothing
  path : ∀ f, given? values .passwordFile = some (.text f) → f.Askable
  levels : given? values .qop = some .nothing →
    ∃ f e, given? values .passwordFile = some (.text f) ∧ disk.read (.ofText f) = .ok (.error e)

section

variable {files : FileReader} {disk : FileSystem} {values : List (Key × Given)} {f : Text}

theorem password_of_none (hf : given? values .passwordFile = none) :
    password files values = .ok (.ok (valueOf (given? values .password))) := by
  unfold password
  rw [hf]

theorem password_of_nothing (hf : given? values .passwordFile = some .nothing) :
    password files values = .error (noMethod "read_bytes") := by
  unfold password
  rw [hf]

theorem password_of_askable (disk : FileSystem) (hf : given? values .passwordFile = some (.text f)) (ha : f.Askable) :
    (∃ e, disk.read (.ofText f) = .ok (.error e) ∧ password disk.read values = .ok (.error (e, .ofText f))) ∨
      ∃ bs, disk.read (.ofText f) = .ok (.ok bs) ∧ password disk.read values = .ok (.ok (.octets .fixed bs)) := by
  obtain ⟨answer, hr⟩ := FileSystem.read_of_askable disk ha
  unfold password
  rw [hf]
  cases answer with
  | error e => exact .inl ⟨e, hr, by simp only [hr]; rfl⟩
  | ok bs => exact .inr ⟨bs, hr, by simp only [hr]; rfl⟩

theorem password_of_not_askable (disk : FileSystem) (hf : given? values .passwordFile = some (.text f))
    (ha : ¬ f.Askable) :
    ∃ fault, FileSystem.pathFault? (.ofText f) = some fault ∧ password disk.read values = .error fault := by
  obtain ⟨fault, hp⟩ := Option.ne_none_iff_exists'.1 (mt FileSystem.pathFault?_eq_none_iff.1 ha)
  have hr : disk.read (.ofText f) = .error fault := by
    unfold FileSystem.read
    rw [hp]
  refine ⟨fault, hp, ?_⟩
  unfold password
  rw [hf]
  simp only [hr]
  rfl

theorem escape?_of_fault {fault : Fault} (hp : password files values = .error fault) :
    escape? files values = some fault := by
  unfold escape?
  rw [hp]

theorem escape?_of_unread {why : FileError × Path} (hp : password files values = .ok (.error why)) :
    escape? files values = none := by
  unfold escape?
  rw [hp]

theorem escape?_of_secret {secret : Value} (hp : password files values = .ok (.ok secret)) :
    escape? files values = none ↔ given? values .qop ≠ some .nothing := by
  unfold escape?
  rw [hp]
  simp

/-- No fault leaves the tool exactly if it can use its options. -/
theorem usable_iff (disk : FileSystem) (values : List (Key × Given)) :
    Usable disk values ↔ escape? disk.read values = none := by
  cases hf : given? values .passwordFile with
  | none =>
    rw [escape?_of_secret (password_of_none hf)]
    constructor
    · intro h hq
      obtain ⟨f, e, hf', -⟩ := h.levels hq
      cases hf.symm.trans hf'
    · intro hq
      exact ⟨by simp [hf], fun f hf' => (by cases hf.symm.trans hf'), fun hq' => absurd hq' hq⟩
  | some g =>
    cases g with
    | nothing =>
      rw [escape?_of_fault (password_of_nothing hf)]
      exact ⟨fun h => absurd hf h.file, fun h => by cases h⟩
    | text f =>
      by_cases ha : f.Askable
      · have path : ∀ f', given? values .passwordFile = some (.text f') → f'.Askable := by
          intro f' hf'
          cases hf.symm.trans hf'
          exact ha
        rcases password_of_askable disk hf ha with ⟨e, hr, hp⟩ | ⟨bs, hr, hp⟩
        · exact ⟨fun _ => escape?_of_unread hp, fun _ => ⟨by simp [hf], path, fun _ => ⟨f, e, hf, hr⟩⟩⟩
        · rw [escape?_of_secret hp]
          constructor
          · intro h hq
            obtain ⟨f', e, hf', hr'⟩ := h.levels hq
            cases hf.symm.trans hf'
            cases hr.symm.trans hr'
          · intro hq
            exact ⟨by simp [hf], path, fun hq' => absurd hq' hq⟩
      · obtain ⟨fault, -, hp⟩ := password_of_not_askable disk hf ha
        rw [escape?_of_fault hp]
        exact ⟨fun h => absurd (h.path f hf) ha, fun h => by cases h⟩

/-- The faults of a password file: that of the terminator as a value, and those of a path. -/
theorem password_fault_cases {fault : Fault} (h : password disk.read values = .error fault) :
    fault = noMethod "read_bytes" ∨ fault = .nullInPath ∨ ∃ run, fault = .unencodable run := by
  cases hf : given? values .passwordFile with
  | none => cases (password_of_none hf).symm.trans h
  | some g =>
    cases g with
    | nothing => exact .inl (Except.error.inj ((password_of_nothing hf).symm.trans h)).symm
    | text f =>
      have refused : ¬ f.Askable := by
        intro ha
        rcases password_of_askable disk hf ha with ⟨e, -, hp⟩ | ⟨bs, -, hp⟩ <;> cases hp.symm.trans h
      obtain ⟨fault', hpath, hp⟩ := password_of_not_askable disk hf refused
      obtain rfl := Except.error.inj (hp.symm.trans h)
      exact .inr (FileSystem.pathFault?_cases hpath)

/-- The faults that can leave the tool: those of a password file, and that of the terminator as the levels. -/
theorem escape?_cases {fault : Fault} (h : escape? disk.read values = some fault) :
    fault = noMethod "read_bytes" ∨ fault = noMethod "split" ∨ fault = .nullInPath ∨ ∃ run, fault = .unencodable run := by
  unfold escape? at h
  split at h
  next failed hp =>
    obtain rfl := Option.some.inj h
    exact (password_fault_cases hp).imp_right .inr
  · cases h
  · split at h
    · exact .inr (.inl (Option.some.inj h).symm)
    · cases h

end

/-! ### Whole runs -/

theorem answers_runWith {files : FileReader} {values : List (Key × Given)} (he : escape? files values = none) :
    (runWith Request.properties files values).Answers := by
  have outcome := runWith_outcome files values
  rwa [he] at outcome

theorem faults_runWith {files : FileReader} {values : List (Key × Given)} {fault : Fault}
    (he : escape? files values = some fault) : (runWith Request.properties files values).Faults fault := by
  have outcome := runWith_outcome files values
  rwa [he] at outcome

theorem orderly_main (files : FileReader) (args : List Text) : (main files args).Orderly := by
  obtain ⟨help, h⟩ := exists_helpText
  refine Spec.orderly_run h fun values _ => ?_
  cases he : escape? files values with
  | none => exact .inl (answers_runWith he)
  | some fault => exact .inr ⟨fault, faults_runWith he⟩

/-- The tool answers and can use its options, if it has any, or a fault leaves it. -/
theorem main_outcome (disk : FileSystem) (args : List Text) :
    ((main disk.read args).Answers ∧ ∀ values, spec.parse args = .ok values → Usable disk values) ∨
      ∃ values fault, spec.parse args = .ok values ∧ escape? disk.read values = some fault ∧
        (main disk.read args).Faults fault := by
  cases hp : spec.parse args with
  | error why =>
    obtain ⟨help, h⟩ := exists_helpText
    have answered : (main disk.read args).Answers := Spec.answers_stop h hp
    refine .inl ⟨answered, ?_⟩
    intro values hv
    cases hv
  | ok values =>
    rw [main_eq_runWith hp]
    cases he : escape? disk.read values with
    | none =>
      refine .inl ⟨answers_runWith he, ?_⟩
      intro values' hv
      obtain rfl := Except.ok.inj hv
      exact (usable_iff disk values).2 he
    | some fault => exact .inr ⟨values, fault, rfl, he, faults_runWith he⟩

/-- **Where the tool returns.**  With any files, arguments and sinks, the tool returns one of its three codes exactly if
the arguments give no values at all, or values that it can use.  Else a fault leaves it, and it is one of four: two of
methods that the terminator lacks as a value, and two of a path that the operating system is not even asked for. -/
theorem main_returns_iff (disk : FileSystem) (args : List Text) (sinks : Sinks) :
    ((∃ code ∈ [ResultCode.success, .paramError, .localError], (main disk.read args sinks).1 = .ok code) ↔
      ∀ values, spec.parse args = .ok values → Usable disk values) ∧
    ∀ fault, (main disk.read args sinks).1 = .error fault →
      fault = noMethod "read_bytes" ∨ fault = noMethod "split" ∨ fault = .nullInPath ∨
        ∃ run, fault = .unencodable run := by
  rw [(unheeding_main disk.read args).result_eq sinks]
  rcases main_outcome disk args with ⟨answered, usable⟩ | ⟨values, fault, hp, he, events, faulted, -⟩
  · obtain ⟨code, known, returned⟩ := answered.exists_code
    rw [returned]
    refine ⟨⟨fun _ => usable, fun _ => ⟨code, known, rfl⟩⟩, ?_⟩
    intro fault hf
    cases hf
  · rw [faulted]
    refine ⟨⟨?_, ?_⟩, ?_⟩
    · rintro ⟨code, -, hc⟩
      cases hc
    · intro usable
      cases he.symm.trans ((usable_iff disk values).1 (usable values hp))
    · intro other ho
      obtain rfl := Except.error.inj ho
      exact escape?_cases he

/-- An identity, and the terminator as the value of the levels. -/
def terminatorArguments : List Text := ["--authid=u:a".toText, "--qop=--".toText]

/-- A fault leaves the tool for levels which are no text, so it does not always return one of its codes. -/
theorem main_raises_terminator :
    ¬ ∀ (disk : FileSystem) (args : List Text) (sinks : Sinks),
      ∃ code ∈ [ResultCode.success, .paramError, .localError], (main disk.read args sinks).1 = .ok code := by
  intro returns
  obtain ⟨code, -, returned⟩ := returns emptyFolder terminatorArguments .both
  have raised : (main emptyFolder.read terminatorArguments .both).1 = .error (noMethod "split") := by
    decide +kernel
  cases raised.symm.trans returned

end BindProperties

namespace Mechanisms

open CommandLine

theorem exists_helpText : ∃ help, spec.helpText = .ok help := spec.isOk_helpText (by decide)

theorem unheeding_main (args : List Text) : (main args).Unheeding := by
  obtain ⟨help, h⟩ := exists_helpText
  refine Spec.unheeding_run h (fun _ => ?_) args
  exact (Session.Unheeding.writeLines .out _).bind fun _ => .pure _

/-- The list of mechanisms is never empty, so there is output. -/
theorem orderly_main (args : List Text) : (main args).Orderly := by
  obtain ⟨help, h⟩ := exists_helpText
  refine Spec.orderly_run h fun _ _ => .inl (.succeeds ?_ ((Session.says_writeLines .out _).bind
    (Session.says_pure ResultCode.success .out)))
  have lines : Mechanism.all.map Mechanism.value ≠ [] := by decide
  simpa using Session.shownLines_ne_nil lines

end Mechanisms

end Tool

end SaslBind
