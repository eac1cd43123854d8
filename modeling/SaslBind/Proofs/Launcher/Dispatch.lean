import SaslBind.Files.System
import SaslBind.Proofs.Launcher.Sinks
import SaslBind.Proofs.Text.Lower

/-!
# Which tool runs

The launcher does one of three things.  If its arguments ask for the version it prints that; if the first one names a
tool in its lower case it runs that tool, once, with the arguments after it and with the sinks that it has itself, and
writes nothing; and else it reports the first argument with all names that there are.

* `Session.Surrounds x y` : a session that does what another one does, between records of its own;
* `Call`, `overheard`, `Calls` : calls of tools.  The launcher makes some calls if tools that tell of their calls tell of
  these, and nothing else changes;
* `Dispatches` : the three ways, each with its condition, its calls, and what comes of it.

Main statement: `main_dispatches`.  The names of the tools that come with the launcher are recognised in all their case
variants, and nothing else is.
-/

namespace SaslBind

namespace Event

theorem text_map_record (sink : Sink) (records : List Log.Record) : text sink (records.map .record) = [] := by
  induction records with
  | nil => rfl
  | cons r records ih => exact ih

end Event

namespace Session

variable {α : Type} {x y : Session α}

/-- A session that does what another one does between records of its own: it ends in the same way and writes nothing
itself. -/
def Surrounds (x y : Session α) : Prop :=
  ∀ sinks, ∃ before after : List Log.Record,
    x sinks = ((y sinks).1, before.map .record ++ (y sinks).2 ++ after.map .record)

/-- With any sinks two sessions end in the same way and show the same. -/
def SameShown (x y : Session α) : Prop :=
  ∀ sinks, (x sinks).1 = (y sinks).1 ∧ ∀ sink, Event.text sink (x sinks).2 = Event.text sink (y sinks).2

theorem Surrounds.sameShown (h : x.Surrounds y) : x.SameShown y := by
  intro sinks
  obtain ⟨before, after, he⟩ := h sinks
  refine ⟨by rw [he], fun sink => ?_⟩
  rw [he, Event.text_append, Event.text_append, Event.text_map_record, Event.text_map_record, List.append_nil,
    List.nil_append]

end Session

namespace Launcher

/-! ### Calls -/

/-- A call of a tool: its name, the arguments, and the sinks that are passed on. -/
structure Call where
  name : Text
  args : List Text
  sinks : Sinks
deriving DecidableEq, Repr

/-- A tool that tells of each of its calls, by an event before all others. -/
def telling (tell : Call → Event) (name : Text) (tool : Tool) : Tool := fun args sinks =>
  ((tool args sinks).1, tell ⟨name, args, sinks⟩ :: (tool args sinks).2)

/-- Tools that tell of their calls. -/
def overheard (tell : Call → Event) (tools : Table) : Table :=
  tools.map fun entry => (entry.1, telling tell entry.1 entry.2)

/-- The calls that the launcher makes: however its tools tell of their calls, they tell of these and in this order, and
nothing else changes. -/
def Calls (tools : Table) (settings : Except Fault Settings) (args : List Text) (calls : Sinks → List Call) : Prop :=
  ∀ (tell : Call → Event) (sinks : Sinks), ∃ result before after,
    main tools settings args sinks = (result, before ++ after) ∧
      main (overheard tell tools) settings args sinks = (result, before ++ (calls sinks).map tell ++ after)

section

variable {tools : Table} {settings : Except Fault Settings} {args : List Text} (tell : Call → Event)

theorem names_overheard (tools : Table) : names (overheard tell tools) = names tools := by
  simp [names, overheard]

theorem lookup_overheard (tools : Table) (name : Text) :
    (overheard tell tools).lookup name = (tools.lookup name).map (telling tell name) :=
  Entries.lookup_map (telling tell) tools name

theorem calls_nil (h : ∀ tell, main (overheard tell tools) settings args = main tools settings args) :
    Calls tools settings args fun _ => [] := by
  intro tell sinks
  refine ⟨(main tools settings args sinks).1, (main tools settings args sinks).2, [], ?_, ?_⟩
  · rw [List.append_nil]
  · rw [h tell, List.map_nil, List.append_nil, List.append_nil]

end

/-! ### The three ways -/

/-- The record before a tool runs. -/
def started (name : Text) (args : List Text) : Log.Record := ⟨.debug, runningMessage name args⟩

/-- The record after a tool ran; there is none if a fault left it. -/
def finished (name : Text) : Except Fault ResultCode → List Log.Record
  | .ok code => [⟨.debug, name ++ " finished with ".toText ++ code.name.toText⟩]
  | .error _ => []

theorem runTool_apply (name : Text) (tool : Tool) (args : List Text) (sinks : Sinks) :
    runTool name tool args sinks =
      ((tool args sinks).1,
        .record (started name args) :: ((tool args sinks).2 ++ (finished name (tool args sinks).1).map .record)) := by
  rcases h : tool args sinks with ⟨result, events⟩
  refine (Session.bind_apply_ok rfl).trans ?_
  cases result with
  | error f =>
    rw [Session.bind_apply_error h]
    simp [finished, started]
  | ok code =>
    rw [Session.bind_apply_ok h]
    rfl

theorem surrounds_runTool (name : Text) (tool : Tool) (args : List Text) :
    (runTool name tool args).Surrounds (tool args) := by
  intro sinks
  refine ⟨[started name args], finished name (tool args sinks).1, ?_⟩
  rw [runTool_apply]
  rfl

/-- What the launcher does with its arguments. -/
inductive Dispatches (tools : Table) (settings : Settings) (args : List Text) : Prop
  /-- It prints the lines about the version, if there are any. -/
  | version (asked : AsksVersion args) (calls : Calls tools (.ok settings) args fun _ => [])
      (shown : match settings.versionLines with
        | .ok lines => (main tools (.ok settings) args).Shows .success .out (Session.shownLines lines)
        | .error f => (main tools (.ok settings) args).Fails f)
  /-- It runs a tool. -/
  | tool {first : Text} {rest : List Text} {tool : Tool} (given : args = first :: rest)
      (other : first.lower ≠ versionName) (named : tools.lookup first.lower = some tool)
      (calls : Calls tools (.ok settings) args fun sinks => [⟨first.lower, rest, sinks⟩])
      (shown : (main tools (.ok settings) args).Surrounds (tool rest))
  /-- It reports a name, with those that there are. -/
  | unknown {first : Text} {rest : List Text} (given : args = first :: rest) (unnamed : first.lower ∉ names tools)
      (calls : Calls tools (.ok settings) args fun _ => [])
      (shown : (main tools (.ok settings) args).Shows .paramError .err
        (Session.shownLines (reportLines tools first)))

section

variable {tools : Table} {first : Text} {rest : List Text} {tool : Tool}

theorem mem_names_iff {name : Text} : name ∈ names tools ↔ name = versionName ∨ (tools.lookup name).isSome := by
  have listed : (tools.lookup name).isSome ↔ name ∈ tools.map (·.1) := by
    cases h : tools.lookup name with
    | some tool => simpa using ⟨tool, mem_of_lookup h⟩
    | none => simpa using unlisted_of_lookup h
  rw [listed, names, List.mem_append, List.mem_singleton, or_comm]

theorem calls_version {args : List Text} (asked : AsksVersion args) (settings : Except Fault Settings) :
    Calls tools settings args fun _ => [] :=
  calls_nil fun tell => by rw [main_of_version asked, main_of_version asked]

theorem calls_unknown (hv : first.lower ≠ versionName) (ht : tools.lookup first.lower = none)
    (settings : Except Fault Settings) : Calls tools settings (first :: rest) fun _ => [] :=
  calls_nil fun tell => by
    have none : (overheard tell tools).lookup first.lower = none := by rw [lookup_overheard, ht]; rfl
    rw [main_of_unknown hv ht, main_of_unknown hv none, reportUnknown, names_overheard]
    rfl

theorem calls_tool (hv : first.lower ≠ versionName) (ht : tools.lookup first.lower = some tool)
    (settings : Except Fault Settings) :
    Calls tools settings (first :: rest) fun sinks => [⟨first.lower, rest, sinks⟩] := by
  intro tell sinks
  have heard : (overheard tell tools).lookup first.lower = some (telling tell first.lower tool) := by
    rw [lookup_overheard, ht]
    rfl
  refine ⟨(tool rest sinks).1, [.record (started first.lower rest)],
    (tool rest sinks).2 ++ (finished first.lower (tool rest sinks).1).map .record, ?_, ?_⟩
  · rw [main_of_tool hv ht, runTool_apply]
    rfl
  · rw [main_of_tool hv heard, runTool_apply]
    rfl

end

theorem dispatches (tools : Table) (settings : Settings) (args : List Text) : Dispatches tools settings args := by
  rcases main_cases tools (.ok settings) args with ⟨asked, hm⟩ | ⟨first, rest, tool, rfl, hv, ht, hm⟩ |
    ⟨first, rest, rfl, hv, ht, hm⟩
  · refine .version asked (calls_version asked _) ?_
    rw [hm]
    cases hl : settings.versionLines with
    | ok lines => exact (says_printVersion hl).shows (unheeding_printVersion _)
    | error f => exact (faults_printVersion hl).fails (unheeding_printVersion _)
  · refine .tool rfl hv ht (calls_tool hv ht _) ?_
    rw [hm]
    exact surrounds_runTool _ _ _
  · refine .unknown rfl (fun listed => ?_) (calls_unknown hv ht _) ?_
    · rcases mem_names_iff.1 listed with h | h
      · exact hv h
      · rw [ht] at h
        cases h
    · rw [hm]
      exact (says_reportUnknown tools first).shows (unheeding_reportUnknown tools first)

/-! ### What is read -/

/-- The launcher does the same with files in which the path that it reads is answered alike, whatever stands there. -/
theorem main_of_readAlike {files files' : FileReader} {args : List Text}
    (h : ∀ p, readPath? args = some p → FileReader.ReadAlike files files' p) (settings : Except Fault Settings) :
    main (tools files) settings args = main (tools files') settings args := by
  have same : resolve ((tools files).map (·.1)) args = resolve toolNames args := rfl
  have same' : resolve ((tools files').map (·.1)) args = resolve toolNames args := rfl
  unfold main
  rw [same, same']
  unfold readPath? at h
  cases resolved : resolve toolNames args with
  | version => rfl
  | unknown name => rfl
  | tool name rest =>
    rw [resolved] at h
    by_cases properties : name = Tool.BindProperties.name
    · subst properties
      have read : Tool.BindProperties.main files rest = Tool.BindProperties.main files' rest :=
        Tool.BindProperties.main_of_readAlike fun p hp => h p ((if_pos rfl).trans hp)
      change runTool _ (Tool.BindProperties.main files) rest = runTool _ (Tool.BindProperties.main files') rest
      simp only [runTool, read]
    · simp only [tools, Text.lookup_cons, if_neg properties]
      rfl

theorem opening_of_version {args : List Text} (asked : AsksVersion args) : opening args = [] := by
  rcases asked with rfl | ⟨first, rest, rfl, hv⟩
  · rfl
  · rw [opening, resolve, if_pos hv]

theorem opening_cons {first : Text} (hv : first.lower ≠ versionName) (rest : List Text) :
    opening (first :: rest) = if first.lower ∈ toolNames then [.record (started first.lower rest)] else [] := by
  rw [opening, resolve, if_neg hv]
  by_cases listed : first.lower ∈ toolNames
  · simp only [listed, if_true]
    rfl
  · simp only [listed, if_false]

/-- What happens before anything is read happens first. -/
theorem opening_prefix (files : FileReader) (settings : Except Fault Settings) (args : List Text) (sinks : Sinks) :
    opening args <+: (main (tools files) settings args sinks).2 := by
  rcases main_cases (tools files) settings args with ⟨asked, -⟩ | ⟨first, rest, tool, rfl, hv, -, hm⟩ |
    ⟨first, rest, rfl, hv, ht, -⟩
  · rw [opening_of_version asked]
    exact List.nil_prefix
  · rw [opening_cons hv, hm, runTool_apply]
    split
    · exact ⟨_, rfl⟩
    · exact List.nil_prefix
  · have unlisted : first.lower ∉ toolNames := unlisted_of_lookup ht
    rw [opening_cons hv, if_neg unlisted]
    exact List.nil_prefix

/-! ### The tools that come with the launcher -/

theorem names_plain (files : FileReader) :
    ∀ name ∈ names (tools files), ∀ c ∈ name, c.isAscii ∧ c ≠ CodePoint.ofChar 'k' := by
  have plain : ∀ name ∈ [Tool.BindProperties.name, Tool.Mechanisms.name, versionName],
      ∀ c ∈ name, c.isAscii ∧ c ≠ CodePoint.ofChar 'k' := by decide
  exact plain

theorem recognized_iff (files : FileReader) (first : Text) :
    first.lower ∈ names (tools files) ↔ ∃ name ∈ names (tools files), first.CaseVariant name := by
  constructor
  · intro listed
    exact ⟨first.lower, listed, (Text.lower_eq_iff (names_plain files _ listed)).1 rfl⟩
  · rintro ⟨name, listed, variant⟩
    rwa [(Text.lower_eq_iff (names_plain files _ listed)).2 variant]

theorem sameShown_of_caseVariant {files : FileReader} {first name : Text} {tool : Tool} (hv : name ≠ versionName)
    (ht : (tools files).lookup name = some tool) (variant : first.CaseVariant name) (settings : Except Fault Settings)
    (rest : List Text) : (main (tools files) settings (first :: rest)).SameShown (tool rest) := by
  have listed : name ∈ names (tools files) := mem_names_iff.2 (.inr (by rw [ht]; rfl))
  have lower : first.lower = name := (Text.lower_eq_iff (names_plain files _ listed)).2 variant
  rw [main_of_tool (by rwa [lower]) (by rwa [lower])]
  exact (surrounds_runTool _ _ _).sameShown

/-- The settings of an empty environment, with a version of more digits than are written. -/
def longVersion : Settings where
  debug := .bool false
  logLevel := .word "INFO"
  logFile := .null
  logRetention := .word "10 days"
  logRotation := .word "1d"
  version := .int (Nat.pow 10 Numeral.digitLimit)

theorem versionLines_longVersion : longVersion.versionLines = .error (.tooManyDigits none) :=
  versionLines_of_long (Value.isTooLong_int (Nat.le_refl _))

end Launcher

end SaslBind
