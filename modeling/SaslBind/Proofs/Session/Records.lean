import SaslBind.CommandLine.Screen

/-!
# The records of a session

What holds of all records that a session leaves, from the sessions that it is put together from.  Sessions that only
write leave none.

* `Session.Logs` : all records of a session are of a kind.

Main statements: `Session.Logs.bind`, and for commands `Spec.logs_run`: the records of a command are those that it leaves
with its values.
-/

namespace SaslBind

namespace Session

variable {α β : Type} {P : Log.Record → Prop} {x : Session α} {f : α → Session β}

/-- All records of a session are of this kind. -/
def Logs (P : Log.Record → Prop) (x : Session α) : Prop := ∀ sinks r, Event.record r ∈ (x sinks).2 → P r

namespace Logs

theorem lift (result : Except Fault α) : Logs P (Session.lift result) := by
  intro sinks r hr
  cases hr

theorem pure (a : α) : Logs P (Pure.pure a : Session α) := lift (.ok a)

theorem fail (f : Fault) : Logs P (Session.fail (α := α) f) := lift (.error f)

theorem has (sink : Sink) : Logs P (Session.has sink) := by
  intro sinks r hr
  cases hr

theorem write (sink : Sink) (t : Text) : Logs P (Session.write sink t) := by
  intro sinks r hr
  simp only [Session.write] at hr
  split at hr
  · cases List.mem_singleton.1 hr
  · cases hr

theorem record {level : Log.Level} {message : Text} (h : P ⟨level, message⟩) : Logs P (Session.record level message) := by
  intro sinks r hr
  cases List.mem_singleton.1 hr
  exact h

theorem bind (hx : Logs P x) (hf : ∀ a, Logs P (f a)) : Logs P (x >>= f) := by
  intro sinks r hr
  change Event.record r ∈ (Session.bind x f sinks).2 at hr
  rcases hb : x sinks with ⟨e | a, events⟩
  · simp only [Session.bind, hb] at hr
    exact hx sinks r (by rwa [hb])
  · simp only [Session.bind, hb, List.mem_append] at hr
    rcases hr with hr | hr
    · exact hx sinks r (by rwa [hb])
    · exact hf a sinks r hr

theorem writeLine (sink : Sink) (line : Text) : Logs P (Session.writeLine sink line) := write sink _

theorem writeLines (sink : Sink) (lines : List Text) : Logs P (Session.writeLines sink lines) := by
  induction lines with
  | nil => exact pure ()
  | cons line lines ih => exact (writeLine sink line).bind fun _ => ih

end Logs

end Session

namespace CommandLine

namespace Spec

variable {κ : Type} {s : Spec κ} {P : Log.Record → Prop}

theorem logs_writeHelp (sink : Sink) : (s.writeHelp sink).Logs P := by
  refine (Session.Logs.has sink).bind fun there => ?_
  cases there with
  | false => exact .pure ()
  | true => exact (Session.Logs.lift s.helpText).bind fun help => .write sink help

theorem logs_stop (why : Stop) : (s.stop why).Logs P := by
  have exits (status : ExitStatus) (message : Text) : (exit status message).Logs P :=
    (Session.Logs.write .err message).bind fun _ => .pure status
  cases why with
  | help => exact (logs_writeHelp .out).bind fun _ => exits helpStatus []
  | wrong e => exact (Session.Logs.write .err s.usage).bind fun _ => exits usageStatus (s.errorText e.message)

/-- Help and usage errors leave no records. -/
theorem logs_run {go : List (κ × Given) → Session ResultCode} (hgo : ∀ values, (go values).Logs P)
    (tokens : List Text) : (s.run tokens go).Logs P := by
  unfold run
  cases s.parse tokens with
  | ok values => exact hgo values
  | error why => exact (logs_stop why).bind fun _ => .pure _

end Spec

end CommandLine

end SaslBind
