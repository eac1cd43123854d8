import SaslBind.CommandLine.Screen
import SaslBind.Proofs.Session.Sinks

/-!
# What a command line shows

A command whose description can be shown shows its help on the output, and a usage error with the usage in front of it
on the error sink.  So it is orderly if what it does with its values is, and it heeds no sinks if that does not.  Help
is not even made for a sink that is missing; only a description that can not be shown would tell.

* `writeHelp_eq` : help is written like any other text, if it can be made;
* `says_help`, `says_fail` : what is said when a command line has no values;
* `says_run_help`, `says_run_wrong` : what a command says then; `answers_stop`, such a command line is answered.

Main statements: `unheeding_run` and `orderly_run`.
-/

namespace SaslBind

namespace CommandLine

namespace Spec

variable {κ : Type} {s : Spec κ} {help : Text}

theorem finishLayout_ne_nil (t : Text) : finishLayout t ≠ [] := by simp [finishLayout, lineFeed, String.toText]

theorem helpText_ne_nil (h : s.helpText = .ok help) : help ≠ [] := by
  unfold helpText at h
  cases hd : s.descriptionText with
  | error f =>
    rw [hd] at h
    cases h
  | ok description =>
    rw [hd] at h
    obtain rfl := Except.ok.inj h
    exact finishLayout_ne_nil _

theorem errorText_ne_nil (s : Spec κ) (message : Text) : s.errorText message ≠ [] := by
  simp [errorText, String.toText]

theorem writeHelp_eq (h : s.helpText = .ok help) (sink : Sink) : s.writeHelp sink = Session.write sink help := by
  funext sinks
  have asked : Session.has sink sinks = (.ok (sinks.has sink), []) := rfl
  have made : Session.lift s.helpText sinks = (.ok help, []) := by rw [h]; rfl
  rw [writeHelp, Session.bind_apply_ok asked]
  cases hs : sinks.has sink with
  | true => simp [Session.bind_apply_ok made]
  | false => simp [Session.write, hs, pure, Session.pure]

/-! ### Sinks that are missing -/

theorem unheeding_exit (status : ExitStatus) (message : Text) : (exit status message).Unheeding :=
  (Session.Unheeding.write .err message).bind fun _ => .pure status

theorem unheeding_stop (h : s.helpText = .ok help) (why : Stop) : (s.stop why).Unheeding := by
  cases why with
  | help =>
    have shown : (s.writeHelp .out).Unheeding := by
      rw [writeHelp_eq h]
      exact .write .out help
    exact shown.bind fun _ => unheeding_exit _ _
  | wrong e => exact (Session.Unheeding.write .err s.usage).bind fun _ => unheeding_exit _ _

theorem unheeding_run (h : s.helpText = .ok help) {go : List (κ × Given) → Session ResultCode}
    (hgo : ∀ values, (go values).Unheeding) (tokens : List Text) : (s.run tokens go).Unheeding := by
  unfold run
  cases s.parse tokens with
  | ok values => exact hgo values
  | error why => exact (unheeding_stop h why).bind fun _ => .pure _

/-! ### What is said -/

theorem says_help (h : s.helpText = .ok help) : (s.stop .help).Says helpStatus .out help := by
  have shown : (s.writeHelp .out).Says () .out help := by
    rw [writeHelp_eq h]
    exact Session.says_write .out help
  have silent : (exit helpStatus []).Says helpStatus .out [] := Session.says_pure helpStatus .out
  have all := shown.bind (f := fun _ => exit helpStatus []) silent
  rwa [List.append_nil] at all

theorem says_fail (s : Spec κ) (message : Text) :
    (s.fail message).Says usageStatus .err (s.usage ++ s.errorText message) := by
  have all : (s.fail message).Says usageStatus .err (s.usage ++ (s.errorText message ++ [])) :=
    (Session.says_write .err s.usage).bind ((Session.says_write .err _).bind (Session.says_pure usageStatus .err))
  rwa [List.append_nil] at all

variable {tokens : List Text} {go : List (κ × Given) → Session ResultCode}

/-- A command that is asked for help succeeds and shows it. -/
theorem says_run_help (h : s.helpText = .ok help) (hp : s.parse tokens = .error .help) :
    (s.run tokens go).Says .success .out help := by
  have all : (s.run tokens go).Says .success .out (help ++ []) := by
    unfold run
    rw [hp]
    exact (says_help h).bind (Session.says_pure ResultCode.success .out)
  rwa [List.append_nil] at all

/-- A command with a wrong command line fails, and shows the usage and what is wrong. -/
theorem says_run_wrong {e : UsageError} (hp : s.parse tokens = .error (.wrong e)) :
    (s.run tokens go).Says .paramError .err (s.usage ++ s.errorText e.message) := by
  have all : (s.run tokens go).Says .paramError .err (s.usage ++ s.errorText e.message ++ []) := by
    unfold run
    rw [hp]
    exact (says_fail s e.message).bind (Session.says_pure ResultCode.paramError .err)
  rwa [List.append_nil] at all

/-- A command answers a command line without values, by help or by an error. -/
theorem answers_stop (h : s.helpText = .ok help) {why : Stop} (hp : s.parse tokens = .error why) :
    (s.run tokens go).Answers := by
  cases why with
  | help => exact .succeeds (helpText_ne_nil h) (says_run_help h hp)
  | wrong e => exact .refuses (.inl rfl) (by simp [errorText_ne_nil]) (says_run_wrong hp)

theorem run_of_parse {values : List (κ × Given)} (hp : s.parse tokens = .ok values) : s.run tokens go = go values := by
  rw [run, hp]

theorem orderly_run (h : s.helpText = .ok help) (hgo : ∀ values, s.parse tokens = .ok values → (go values).Orderly) :
    (s.run tokens go).Orderly := by
  cases hp : s.parse tokens with
  | ok values =>
    rw [run_of_parse hp]
    exact hgo values hp
  | error why => exact .inl (answers_stop h hp)

end Spec

end CommandLine

end SaslBind
