import SaslBind.Proofs.CommandLine.Alike
import SaslBind.Proofs.Tool.Outcome
import SaslBind.Proofs.Tool.PasswordOptions

/-!
# What is told of a password

A password that is attached to the name of its option in full does not show, wherever it stands before the terminator
and whatever else is wrong.  A beginning of that name is a beginning of the name for the password file as well, so it
is ambiguous; what is attached to it is told with it, if nothing before it is ambiguous.

* `runWith_alike` : the tool does the same for values that differ in passwords;
* `BeginsPassword` : the beginnings of the name; `begins_names`, they begin the name for the password file as well;
* `echo` : what is told of an ambiguous beginning;
* `main_whole`, `main_after_ambiguous`, `shows_echo` : the three cases.

Main statement: `main_tells_ambiguous`.  `main_shows_password` shows that not all beginnings keep the password.
-/

namespace SaslBind

namespace Tool

namespace BindProperties

open CommandLine

variable {files : FileReader} {values values' : List (Key × Given)} {args args' before : List Text} {start : Text}

/-! ### Values that differ in passwords -/

theorem lookup_alike (h : List.Forall₂ (AlikeAt Key.password) values values') (key : Key) :
    values.lookup key = values'.lookup key ∨
      key = .password ∧ ∃ v w, values.lookup key = some (.text v) ∧ values'.lookup key = some (.text w) := by
  induction h with
  | nil => exact .inl rfl
  | @cons x y values values' hxy _ ih =>
    by_cases hk : key = x.1
    · subst hk
      cases hxy with
      | same => exact .inl (by rw [List.lookup_cons_self, List.lookup_cons_self])
      | given v w => exact .inr ⟨rfl, v, w, by simp, by simp⟩
    · have skip (z : Key × Given) (hz : x.1 = z.1) (values : List (Key × Given)) :
          (z :: values).lookup key = values.lookup key := by
        have other : (key == z.1) = false := by simpa [← hz] using hk
        rw [List.lookup_cons, other]
      rwa [skip x rfl, skip y hxy.fst]

theorem given?_alike (h : List.Forall₂ (AlikeAt Key.password) values values') (key : Key) :
    given? values key = given? values' key ∨
      key = .password ∧ ∃ v w, given? values key = some (.text v) ∧ given? values' key = some (.text w) :=
  lookup_alike (List.forall₂_reverse_iff.2 h) key

theorem given?_of_ne (h : List.Forall₂ (AlikeAt Key.password) values values') {key : Key} (hk : key ≠ .password) :
    given? values key = given? values' key := (given?_alike h key).resolve_right fun h => hk h.1

theorem runWith_alike (h : List.Forall₂ (AlikeAt Key.password) values values') (files : FileReader) :
    runWith Request.properties files values = runWith Request.properties files values' := by
  have request : request values = request values' := by
    funext secret
    simp only [request, levels, given?_of_ne h (show Key.authid ≠ .password by decide),
      given?_of_ne h (show Key.authzid ≠ .password by decide), given?_of_ne h (show Key.realm ≠ .password by decide),
      given?_of_ne h (show Key.qop ≠ .password by decide)]
  have file := given?_of_ne h (show Key.passwordFile ≠ .password by decide)
  have same (hp : password files values = password files values') :
      runWith Request.properties files values = runWith Request.properties files values' := by
    unfold runWith
    rw [hp, request]
  cases hf : given? values' .passwordFile with
  | some g =>
    refine same ?_
    cases g <;> simp only [password, file, hf]
  | none =>
    rcases given?_alike h .password with equal | ⟨-, v, w, hv, hw⟩
    · exact same (by simp only [password, file, equal])
    · have secret : password files values = _ := password_of_none (file.trans hf)
      have secret' : password files values' = _ := password_of_none hf
      rw [hv] at secret
      rw [hw] at secret'
      rw [runWith_of_password secret, runWith_of_password secret', proceed, request]
      exact proceed_eq values' (.text v) (.text w)

/-- The tool does the same for arguments that differ in passwords. -/
theorem main_alike (h : spec.Alike passwordOption args args') (files : FileReader) :
    main files args = main files args' := by
  have parsed := Spec.parse_alike spec_named h
  unfold main mainWith Spec.run
  generalize spec.parse args = x, spec.parse args' = y at parsed
  cases parsed with
  | error why => rfl
  | ok values => exact runWith_alike values files

/-! ### Beginnings of the name -/

/-- A beginning of the name of the option for the password, with at least one letter. -/
def BeginsPassword (start : Text) : Prop := terminator.length < start.length ∧ start <+: passwordOption.name

instance (start : Text) : Decidable (BeginsPassword start) :=
  inferInstanceAs (Decidable (_ ∧ _))

theorem spells_password : spec.Spells passwordOption.name passwordOption := ⟨List.getElem_mem _, .inl rfl⟩

/-- Beginnings that are not the whole name are no names, and begin the name for the password file as well. -/
theorem begins_names : ∀ n < passwordOption.name.length, terminator.length < n →
    terminator <+: passwordOption.name.take n ∧ equalsSign ∉ passwordOption.name.take n ∧
      passwordOption.name.take n ∉ spec.optionStrings ∧
      spec.longStrings.filter (·.startsWith (passwordOption.name.take n)) =
        [passwordOption.name, passwordFileOption.name] := by
  decide +kernel

/-- What is told of an ambiguous beginning with a text attached to it. -/
def echo (start v : Text) : Text :=
  "bind-properties: error: ambiguous option: ".toText ++ start ++ "=".toText ++ v ++
    " could match --password, --password-file\n".toText

theorem errorText_ambiguous (start v : Text) :
    spec.errorText (UsageError.ambiguous (start ++ equalsSign :: v)
      [passwordOption.name, passwordFileOption.name]).message = echo start v := by
  have first : "bind-properties: error: ambiguous option: ".toText =
      spec.program ++ ": error: ".toText ++ "ambiguous option: ".toText := by decide
  have last : " could match --password, --password-file\n".toText = " could match ".toText ++
      Text.join ", ".toText [passwordOption.name, passwordFileOption.name] ++ "\n".toText := by decide
  rw [echo, first, last]
  simp only [Spec.errorText, UsageError.message, List.append_assoc]
  rfl

theorem parse_begins (h : BeginsPassword start) (short : start ≠ passwordOption.name) (hb : terminator ∉ before)
    (v : Text) (after : List Text) :
    spec.parse (before ++ (start ++ equalsSign :: v) :: after) =
      .error (.wrong ((spec.firstAmbiguous? before).getD
        (.ambiguous (start ++ equalsSign :: v) [passwordOption.name, passwordFileOption.name]))) := by
  obtain ⟨letter, begins⟩ := h
  have cut : start = passwordOption.name.take start.length := List.prefix_iff_eq_take.1 begins
  have shorter : start.length < passwordOption.name.length := by
    refine lt_of_le_of_ne begins.length_le fun same => short ?_
    rw [cut, same, List.take_length]
  obtain ⟨hyphens, plain, none, names⟩ := begins_names start.length shorter letter
  rw [← cut] at hyphens plain none names
  have read := Spec.parse_ambiguous spec_named.plain hb hyphens plain none (by rw [names]; decide) v after
  rwa [names] at read

/-- Attached to the whole name, a password does not show. -/
theorem main_whole (hb : terminator ∉ before) (after : List Text) {v w : Text} (hv : v ≠ terminator)
    (hw : w ≠ terminator) (files : FileReader) :
    main files (before ++ (passwordOption.name ++ equalsSign :: v) :: after) =
      main files (before ++ (passwordOption.name ++ equalsSign :: w) :: after) :=
  main_alike (.append hb (.given spells_password hv hw (.refl _ _ _))) files

/-- After something ambiguous, what is attached to a beginning of the name does not show. -/
theorem main_after_ambiguous (h : BeginsPassword start) (short : start ≠ passwordOption.name) (hb : terminator ∉ before)
    (ambiguous : ∃ token ∈ before, ∃ names, spec.read token = .ambiguous names) (after : List Text) (v w : Text)
    (files : FileReader) :
    main files (before ++ (start ++ equalsSign :: v) :: after) =
      main files (before ++ (start ++ equalsSign :: w) :: after) := by
  obtain ⟨token, mem, names, read⟩ := ambiguous
  cases first : spec.firstAmbiguous? before with
  | none => exact absurd read ((Spec.firstAmbiguous?_eq_none_iff hb).1 first token mem names)
  | some e =>
    unfold main mainWith Spec.run
    rw [parse_begins h short hb, parse_begins h short hb, first]
    rfl

/-- After nothing ambiguous, it is told. -/
theorem shows_echo (h : BeginsPassword start) (short : start ≠ passwordOption.name) (hb : terminator ∉ before)
    (clear : ∀ token ∈ before, ∀ names, spec.read token ≠ .ambiguous names) (after : List Text) (v : Text)
    (files : FileReader) :
    (main files (before ++ (start ++ equalsSign :: v) :: after)).Shows .paramError .err
      (spec.usage ++ echo start v) := by
  have parsed := parse_begins h short hb v after
  rw [(Spec.firstAmbiguous?_eq_none_iff hb).2 clear, Option.getD_none] at parsed
  have said : (main files (before ++ (start ++ equalsSign :: v) :: after)).Says .paramError .err _ :=
    Spec.says_run_wrong parsed
  rw [errorText_ambiguous] at said
  exact said.shows (unheeding_main files _)

/-- **What is told of a password.**  With a text attached to a beginning of its name, the tool ends in the same way and
has the same output whatever the text is.  It does all the same if the name is whole or if something before it is
ambiguous; otherwise the text is told. -/
theorem main_tells_ambiguous (h : BeginsPassword start) (hb : terminator ∉ before) (after : List Text)
    (files : FileReader) :
    let tool (v : Text) : Session ResultCode := main files (before ++ (start ++ equalsSign :: v) :: after)
    (∀ v w, v ≠ terminator → w ≠ terminator → ∀ sinks, (tool v sinks).1 = (tool w sinks).1 ∧
      Event.text .out (tool v sinks).2 = Event.text .out (tool w sinks).2) ∧
    (start = passwordOption.name ∨ (∃ token ∈ before, ∃ names, spec.read token = .ambiguous names) →
      ∀ v w, v ≠ terminator → w ≠ terminator → tool v = tool w) ∧
    (start ≠ passwordOption.name → (∀ token ∈ before, ∀ names, spec.read token ≠ .ambiguous names) →
      ∀ v, (tool v).Shows .paramError .err (spec.usage ++ echo start v)) := by
  intro tool
  have same : start = passwordOption.name ∨ (∃ token ∈ before, ∃ names, spec.read token = .ambiguous names) →
      ∀ v w, v ≠ terminator → w ≠ terminator → tool v = tool w := by
    intro hidden v w hv hw
    by_cases whole : start = passwordOption.name
    · subst whole
      exact main_whole hb after hv hw files
    · exact main_after_ambiguous h whole hb (hidden.resolve_left whole) after v w files
  refine ⟨fun v w hv hw sinks => ?_, same, fun short clear v => shows_echo h short hb clear after v files⟩
  by_cases hidden : start = passwordOption.name ∨ ∃ token ∈ before, ∃ names, spec.read token = .ambiguous names
  · rw [same hidden v w hv hw]
    exact ⟨rfl, rfl⟩
  · push Not at hidden
    obtain ⟨code, shown⟩ := shows_echo h hidden.1 hb hidden.2 after v files sinks
    obtain ⟨code', shown'⟩ := shows_echo h hidden.1 hb hidden.2 after w files sinks
    refine ⟨code.trans code'.symm, (shown .out).trans (Eq.trans ?_ (shown' .out).symm)⟩
    simp

/-- Not every beginning keeps what is attached to it. -/
theorem main_shows_password :
    ¬ ∀ (start v w : Text) (before after : List Text), BeginsPassword start → terminator ∉ before → v ≠ terminator →
      w ≠ terminator → ∀ files, Event.text .err (main files (before ++ (start ++ equalsSign :: v) :: after) .both).2 =
        Event.text .err (main files (before ++ (start ++ equalsSign :: w) :: after) .both).2 := by
  intro same
  have shown := same "--pass".toText "hunter2".toText [] [] [] (by decide) (by decide) (by decide) (by decide) noFiles
  revert shown
  decide +kernel

/-- The password of an identity that is given by a beginning of the name is told, and by the whole name it is not. -/
theorem main_tells_ambiguous_identity :
    let identity : List Text := ["--authid=u:a".toText]
    (main noFiles (identity ++ ["--pass".toText ++ equalsSign :: "hunter2".toText])).Shows .paramError .err
      (spec.usage ++ echo "--pass".toText "hunter2".toText) ∧
    main noFiles (identity ++ ["--password".toText ++ equalsSign :: "hunter2".toText]) =
      main noFiles (identity ++ ["--password".toText ++ equalsSign :: []]) := by
  intro identity
  have read : spec.read "--authid=u:a".toText = .option options[0] (some "u:a".toText) := rfl
  have clear : ∀ token ∈ identity, ∀ names, spec.read token ≠ .ambiguous names := by
    intro token mem names
    rw [List.mem_singleton.1 mem, read]
    exact nofun
  have none : terminator ∉ identity := by decide
  have short : BeginsPassword "--pass".toText := by decide
  have whole : BeginsPassword "--password".toText := by decide
  obtain ⟨-, -, told⟩ := main_tells_ambiguous short none [] noFiles
  obtain ⟨-, same, -⟩ := main_tells_ambiguous whole none [] noFiles
  exact ⟨told (by decide) clear _, same (.inl rfl) _ _ (by decide) (by decide)⟩

end BindProperties

end Tool

end SaslBind
