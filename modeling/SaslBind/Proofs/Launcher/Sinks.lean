import SaslBind.Launcher
import SaslBind.Proofs.Tool.Outcome

/-!
# The launcher and its sinks

The launcher prints its version, reports a name that no tool has, or runs a tool between two records.  Each of these
heeds no sinks and is orderly, the last if the tool is.  So is the launcher with the tools that come with it, and so
are these tools without it.

* `AsksVersion` : arguments that ask for the version;
* `main_cases` : what the launcher does, one case for each way through it, with the condition for it;
* `unheeding_main`, `orderly_main` : the launcher with tools that heed no sinks, and with orderly ones.

Main statements: `sinks_only_suppress`, a missing sink does not change how a run ends nor what is on the other sink, and
`code_tells_sink`, the code of a run tells on which one of the two sinks there is text.
-/

namespace SaslBind

namespace Launcher

/-- The arguments ask for the version: there are none, or the first one does in its lower case. -/
def AsksVersion (args : List Text) : Prop := args = [] ∨ ∃ first rest, args = first :: rest ∧ first.lower = versionName

section

variable {tools : Table} {first : Text} {rest : List Text} {tool : Tool}

theorem mem_of_lookup {name : Text} (h : tools.lookup name = some tool) : (name, tool) ∈ tools := by
  obtain ⟨before, after, rfl, -⟩ := List.lookup_eq_some_iff.1 h
  simp

theorem unlisted_of_lookup {name : Text} (h : tools.lookup name = none) : name ∉ tools.map (·.1) := by
  intro listed
  obtain ⟨entry, he, rfl⟩ := List.mem_map.1 listed
  have other := List.lookup_eq_none_iff.1 h entry he
  simp at other

theorem main_of_version {args : List Text} (asked : AsksVersion args) (settings : Except Fault Settings) :
    main tools settings args = printVersion settings := by
  rcases asked with rfl | ⟨first, rest, rfl, hv⟩
  · rfl
  · unfold main
    rw [resolve, if_pos hv]

theorem main_of_tool (hv : first.lower ≠ versionName) (ht : tools.lookup first.lower = some tool)
    (settings : Except Fault Settings) :
    main tools settings (first :: rest) = runTool first.lower tool rest := by
  have listed : first.lower ∈ tools.map (·.1) := List.mem_map_of_mem (mem_of_lookup ht)
  unfold main
  rw [resolve, if_neg hv, if_pos listed]
  simp only [ht]

theorem main_of_unknown (hv : first.lower ≠ versionName) (ht : tools.lookup first.lower = none)
    (settings : Except Fault Settings) : main tools settings (first :: rest) = reportUnknown tools first := by
  unfold main
  rw [resolve, if_neg hv, if_neg (unlisted_of_lookup ht)]

/-- The launcher prints its version, runs the tool that its first argument names, or reports that argument. -/
theorem main_cases (tools : Table) (settings : Except Fault Settings) (args : List Text) :
    (AsksVersion args ∧ main tools settings args = printVersion settings) ∨
      (∃ first rest tool, args = first :: rest ∧ first.lower ≠ versionName ∧ tools.lookup first.lower = some tool ∧
        main tools settings args = runTool first.lower tool rest) ∨
      ∃ first rest, args = first :: rest ∧ first.lower ≠ versionName ∧ tools.lookup first.lower = none ∧
        main tools settings args = reportUnknown tools first := by
  cases args with
  | nil => exact .inl ⟨.inl rfl, rfl⟩
  | cons first rest =>
    by_cases hv : first.lower = versionName
    · have asked : AsksVersion (first :: rest) := .inr ⟨first, rest, rfl, hv⟩
      exact .inl ⟨asked, main_of_version asked settings⟩
    · cases ht : tools.lookup first.lower with
      | some tool => exact .inr (.inl ⟨first, rest, tool, rfl, hv, ht, main_of_tool hv ht settings⟩)
      | none => exact .inr (.inr ⟨first, rest, rfl, hv, ht, main_of_unknown hv ht settings⟩)

end

/-- The lines about a version. -/
def linesOf (version : Value) : List Text :=
  ["Full Name:  LDAP Bind SDK".toText, "Short Name:  ldap-bind-sdk".toText, "Version Number:  ".toText ++ version.str]

theorem versionLines_of_short {s : Settings} (short : s.version.isTooLong = false) :
    s.versionLines = .ok (linesOf s.version) := by
  have third : Settings.versionLine "Version Number:  " s.version = .ok ("Version Number:  ".toText ++ s.version.str) := by
    rw [Settings.versionLine, short, if_neg Bool.false_ne_true]
  unfold Settings.versionLines Settings.linesAbout
  rw [third]
  rfl

theorem versionLines_of_long {s : Settings} (long : s.version.isTooLong = true) :
    s.versionLines = .error (.tooManyDigits none) := by
  have third : Settings.versionLine "Version Number:  " s.version = .error (.tooManyDigits none) := by
    rw [Settings.versionLine, if_pos long]
  unfold Settings.versionLines Settings.linesAbout
  rw [third]
  rfl

theorem exists_versionLines (s : Settings) :
    (∃ f, s.versionLines = .error f) ∨ ∃ lines, lines ≠ [] ∧ s.versionLines = .ok lines := by
  cases hs : s.version.isTooLong with
  | true => exact .inl ⟨_, versionLines_of_long hs⟩
  | false => exact .inr ⟨linesOf s.version, List.cons_ne_nil _ _, versionLines_of_short hs⟩

/-! ### Sinks that are missing -/

theorem unheeding_printVersion (settings : Except Fault Settings) : (printVersion settings).Unheeding :=
  (Session.Unheeding.lift settings).bind fun s => (Session.Unheeding.lift s.versionLines).bind fun lines =>
    (Session.Unheeding.writeLines .out lines).bind fun _ => .pure _

theorem unheeding_reportUnknown (tools : Table) (name : Text) : (reportUnknown tools name).Unheeding :=
  (Session.Unheeding.record .warning _).bind fun _ => (Session.Unheeding.writeLine .err _).bind fun _ =>
    (Session.Unheeding.writeLine .err _).bind fun _ => (Session.Unheeding.writeLines .err _).bind fun _ => .pure _

theorem unheeding_runTool (name : Text) {tool : Tool} (h : ∀ args, (tool args).Unheeding) (args : List Text) :
    (runTool name tool args).Unheeding :=
  (Session.Unheeding.record .debug _).bind fun _ => (h args).bind fun code =>
    (Session.Unheeding.record .debug _).bind fun _ => .pure code

theorem unheeding_main {tools : Table} (h : ∀ entry ∈ tools, ∀ args, (entry.2 args).Unheeding)
    (settings : Except Fault Settings) (args : List Text) : (main tools settings args).Unheeding := by
  rcases main_cases tools settings args with ⟨-, hm⟩ | ⟨first, rest, tool, -, -, ht, hm⟩ | ⟨first, rest, -, -, -, hm⟩ <;>
    rw [hm]
  · exact unheeding_printVersion settings
  · exact unheeding_runTool first.lower (h _ (mem_of_lookup ht)) rest
  · exact unheeding_reportUnknown tools first

/-! ### What is said -/

theorem says_printVersion {s : Settings} {lines : List Text} (hl : s.versionLines = .ok lines) :
    (printVersion (.ok s)).Says .success .out (Session.shownLines lines) := by
  have made : (Session.lift s.versionLines).Says lines .out [] := by
    rw [hl]
    exact Session.says_lift lines .out
  have all : (printVersion (.ok s)).Says .success .out ([] ++ ([] ++ (Session.shownLines lines ++ []))) :=
    (Session.says_lift s .out).bind (made.bind
      ((Session.says_writeLines .out lines).bind (Session.says_pure ResultCode.success .out)))
  rw [List.append_nil] at all
  exact all

theorem faults_printVersion {s : Settings} {f : Fault} (hl : s.versionLines = .error f) :
    (printVersion (.ok s)).Faults f := by
  have none : (Session.lift s.versionLines).Faults f := by
    rw [hl]
    exact Session.faults_fail f
  exact (Session.says_lift s .out).bind_faults none.bind

theorem orderly_printVersion (settings : Except Fault Settings) : (printVersion settings).Orderly := by
  cases settings with
  | error f => exact .inr ⟨f, (Session.faults_fail f).bind⟩
  | ok s =>
    rcases exists_versionLines s with ⟨f, hf⟩ | ⟨lines, hne, hl⟩
    · exact .inr ⟨f, faults_printVersion hf⟩
    · exact .inl (.succeeds (Session.shownLines_ne_nil hne) (says_printVersion hl))

/-- What is reported of a name that no tool has: the names that there are, each on a line. -/
def reportLines (tools : Table) (name : Text) : List Text :=
  ["Unrecognized tool name '".toText ++ name ++ "'".toText, "Supported tool names include:".toText] ++
    (names tools).map ("     ".toText ++ ·)

theorem says_reportUnknown (tools : Table) (name : Text) :
    (reportUnknown tools name).Says .paramError .err (Session.shownLines (reportLines tools name)) := by
  have all : (reportUnknown tools name).Says .paramError .err ([] ++ (_ ++ (_ ++ (_ ++ [])))) :=
    (Session.says_record .warning _ .err).bind ((Session.says_write .err _).bind ((Session.says_write .err _).bind
      ((Session.says_writeLines .err _).bind (Session.says_pure ResultCode.paramError .err))))
  rw [List.append_nil] at all
  exact all

theorem orderly_reportUnknown (tools : Table) (name : Text) : (reportUnknown tools name).Orderly :=
  .inl (.refuses (.inl rfl) (Session.shownLines_ne_nil (by simp [reportLines])) (says_reportUnknown tools name))

theorem orderly_runTool (name : Text) {tool : Tool} {args : List Text} (h : (tool args).Orderly) :
    (runTool name tool args).Orderly :=
  h.between (Session.says_record .debug _) fun _ => Session.says_record .debug _

theorem orderly_main {tools : Table} (h : ∀ entry ∈ tools, ∀ args, (entry.2 args).Orderly)
    (settings : Except Fault Settings) (args : List Text) : (main tools settings args).Orderly := by
  rcases main_cases tools settings args with ⟨-, hm⟩ | ⟨first, rest, tool, -, -, ht, hm⟩ | ⟨first, rest, -, -, -, hm⟩ <;>
    rw [hm]
  · exact orderly_printVersion settings
  · exact orderly_runTool first.lower (h _ (mem_of_lookup ht) rest)
  · exact orderly_reportUnknown tools first

/-! ### The tools that come with the launcher -/

theorem forall_tools {P : Tool → Prop} {files : FileReader} (properties : P (Tool.BindProperties.main files))
    (mechanisms : P Tool.Mechanisms.main) : ∀ entry ∈ tools files, P entry.2 := by
  simp [tools, properties, mechanisms]

/-- **A missing sink only suppresses.**  For the launcher and for each of its tools, with any settings, files and
arguments: however the sinks are given, a run ends in the same way, with a code or with a fault, leaves the same
records, and puts the same text on a sink that is there. -/
theorem sinks_only_suppress (settings : Except Fault Settings) (files : FileReader) (args : List Text) :
    (main (tools files) settings args).OnlySuppresses ∧ (Tool.BindProperties.main files args).OnlySuppresses ∧
      (Tool.Mechanisms.main args).OnlySuppresses := by
  have properties := Tool.BindProperties.unheeding_main files
  have mechanisms := Tool.Mechanisms.unheeding_main
  have each : ∀ entry ∈ tools files, ∀ args, (entry.2 args).Unheeding :=
    forall_tools (P := fun tool => ∀ args, (tool args).Unheeding) properties mechanisms
  have launcher := unheeding_main each settings args
  exact ⟨launcher.onlySuppresses, (properties args).onlySuppresses, (mechanisms args).onlySuppresses⟩

/-- **The code tells the sink.**  For the launcher and for each of its tools, with any settings, files and arguments
and with both sinks: after success there is output and nothing on the error sink; any other code is one of two, and
there is something on the error sink and no output; and a fault that ends the run leaves nothing on either. -/
theorem code_tells_sink (settings : Except Fault Settings) (files : FileReader) (args : List Text) :
    (main (tools files) settings args).TellsSink ∧ (Tool.BindProperties.main files args).TellsSink ∧
      (Tool.Mechanisms.main args).TellsSink := by
  have properties := Tool.BindProperties.orderly_main files
  have mechanisms := Tool.Mechanisms.orderly_main
  have each : ∀ entry ∈ tools files, ∀ args, (entry.2 args).Orderly :=
    forall_tools (P := fun tool => ∀ args, (tool args).Orderly) properties mechanisms
  have launcher := orderly_main each settings args
  exact ⟨launcher.tellsSink, (properties args).tellsSink, (mechanisms args).tellsSink⟩

end Launcher

end SaslBind
