import SaslBind.Proofs.Launcher.Sinks
import SaslBind.Proofs.Session.Records
import SaslBind.Proofs.Text.Surrogate

/-!
# What the launcher logs

The launcher and its tools leave records that can always be shown: each is at least as important as those for
debugging, and if the arguments have no surrogates then no record has one.

* `Log.Record.Ordinary` : such records.

Main statement: `Launcher.logs_tools`.
-/

namespace SaslBind

/-- A record that is not below the level for debugging and that UTF-8 can write. -/
structure Log.Record.Ordinary (r : Log.Record) : Prop where
  shown : r.level.shownFrom .debug = true
  plain : r.message.hasSurrogate = false

open Log.Record (Ordinary)

namespace Tool

namespace BindProperties

open CommandLine

theorem logs_report (f : Fault) : (report f).Logs Ordinary := by
  cases f with
  | unknownQop item => exact (Session.Logs.writeLine .err _).bind fun _ => .pure _
  | invalid model es => exact (Session.Logs.writeLines .err _).bind fun _ => .pure _
  | _ => exact .fail _

theorem logs_reportFile (e : FileError) (p : Path) : (reportFile e p).Logs Ordinary := by
  have ordinary : Ordinary ⟨.error, "Can not read password file: ".toText ++ e.message p⟩ :=
    ⟨rfl, by simp [FileError.hasSurrogate_message]⟩
  exact (Session.Logs.record ordinary).bind fun _ => (Session.Logs.writeLine .err _).bind fun _ => .pure _

theorem logs_main (files : FileReader) (args : List Text) : (main files args).Logs Ordinary := by
  refine Spec.logs_run (fun values => ?_) args
  unfold runWith
  split
  · exact .fail _
  · exact logs_reportFile _ _
  · split
    · exact logs_report _
    · exact (Session.Logs.lift _).bind fun line => (Session.Logs.writeLine .out line).bind fun _ => .pure _

end BindProperties

theorem Mechanisms.logs_main (args : List Text) : (main args).Logs Ordinary :=
  CommandLine.Spec.logs_run (fun _ => (Session.Logs.writeLines .out _).bind fun _ => .pure _) args

end Tool

namespace Launcher

theorem logs_printVersion (settings : Except Fault Settings) : (printVersion settings).Logs Ordinary :=
  (Session.Logs.lift settings).bind fun s => (Session.Logs.lift s.versionLines).bind fun lines =>
    (Session.Logs.writeLines .out lines).bind fun _ => .pure _

theorem logs_reportUnknown (tools : Table) {name : Text} (plain : name.hasSurrogate = false) :
    (reportUnknown tools name).Logs Ordinary := by
  have ordinary : Ordinary ⟨.warning, "Unrecognized tool name '".toText ++ name ++ "'".toText⟩ :=
    ⟨rfl, by simp [plain]⟩
  exact (Session.Logs.record ordinary).bind fun _ => (Session.Logs.writeLine .err _).bind fun _ =>
    (Session.Logs.writeLine .err _).bind fun _ => (Session.Logs.writeLines .err _).bind fun _ => .pure _

theorem logs_runTool {name : Text} {tool : Tool} {args : List Text} (plain : name.hasSurrogate = false)
    (h : (tool args).Logs Ordinary) : (runTool name tool args).Logs Ordinary := by
  have before : Ordinary ⟨.debug, runningMessage name args⟩ := ⟨rfl, by simp [runningMessage, plain]⟩
  have after (code : ResultCode) : Ordinary ⟨.debug, name ++ " finished with ".toText ++ code.name.toText⟩ :=
    ⟨rfl, by simp [plain]⟩
  exact (Session.Logs.record before).bind fun _ => h.bind fun code => (Session.Logs.record (after code)).bind fun _ =>
    .pure code

theorem logs_main {tools : Table} (named : ∀ entry ∈ tools, entry.1.hasSurrogate = false)
    (h : ∀ entry ∈ tools, ∀ args, (entry.2 args).Logs Ordinary) (settings : Except Fault Settings) {args : List Text}
    (plain : ∀ arg ∈ args, arg.hasSurrogate = false) : (main tools settings args).Logs Ordinary := by
  rcases main_cases tools settings args with ⟨-, hm⟩ | ⟨first, rest, tool, -, -, ht, hm⟩ | ⟨first, rest, rfl, -, -, hm⟩ <;>
    rw [hm]
  · exact logs_printVersion settings
  · exact logs_runTool (named _ (mem_of_lookup ht)) (h _ (mem_of_lookup ht) rest)
  · exact logs_reportUnknown tools (plain first List.mem_cons_self)

/-- **What is logged can be shown.**  With the tools that come with it, the launcher logs ordinary records. -/
theorem logs_tools (files : FileReader) (settings : Except Fault Settings) {args : List Text}
    (plain : ∀ arg ∈ args, arg.hasSurrogate = false) : (main (tools files) settings args).Logs Ordinary := by
  have named : ∀ entry ∈ tools files, entry.1.hasSurrogate = false := by
    simp [tools, Tool.BindProperties.name, Tool.Mechanisms.name]
  have each : ∀ entry ∈ tools files, ∀ args, (entry.2 args).Logs Ordinary :=
    forall_tools (P := fun tool => ∀ args, (tool args).Logs Ordinary) (Tool.BindProperties.logs_main files)
      Tool.Mechanisms.logs_main
  exact logs_main named each settings plain

end Launcher

end SaslBind
