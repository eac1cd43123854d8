import SaslBind.Proofs.CommandLine.Strays
import SaslBind.Proofs.Tool.Outcome

/-!
# Stray arguments

What is no option and no value of one is reported by the tool that prints bind properties: all of it, once and in
order.  The tool that lists mechanisms takes nothing, so it prints its list for no arguments only.

* `BindProperties.Gives` : the options that arguments give;
* `BindProperties.shows_left` : what is left over of them is reported;
* `Mechanisms.parse_ne_ok`, `Mechanisms.not_listed` : any argument keeps the list from being printed.

Main statement: `strays_reported`.
-/

namespace SaslBind

namespace Tool

open CommandLine

namespace BindProperties

variable {args left : List Text} {phrases : List (Phrase Key)}

/-- Up to the terminator an argument is read as the option with this key. -/
def Gives (args : List Text) (key : Key) : Prop := ∃ o, o.key = key ∧ spec.Reads args o

theorem gives_iff (h : spec.LaidOut args phrases left) {key : Key} :
    Gives args key ↔ ∃ x ∈ phrases, x.option.key = key := by
  unfold Gives
  constructor
  · rintro ⟨o, rfl, reads⟩
    obtain ⟨x, hx, rfl⟩ := (h.reads_iff spec_named).1 reads
    exact ⟨x, hx, rfl⟩
  · rintro ⟨x, hx, rfl⟩
    exact ⟨x.option, rfl, (h.reads_iff spec_named).2 ⟨x, hx, rfl⟩⟩

theorem sentence_of_gives (h : spec.LaidOut args phrases left) (authid : Gives args .authid)
    (one : ¬ (Gives args .password ∧ Gives args .passwordFile)) : spec.Sentence phrases := by
  rw [gives_iff h] at authid
  rw [gives_iff h, gives_iff h] at one
  exact (sentence_iff phrases).2 ⟨h.phrased, authid, one⟩

/-- What is wrong with arguments of which something is left over. -/
def leftOver (left : List Text) : Text :=
  "bind-properties: error: unrecognized arguments: ".toText ++ Text.join " ".toText left ++ "\n".toText

theorem errorText_unrecognized (left : List Text) :
    spec.errorText (UsageError.unrecognized left).message = leftOver left := by
  have start : "bind-properties: error: unrecognized arguments: ".toText =
      spec.program ++ ": error: ".toText ++ "unrecognized arguments: ".toText := by decide
  rw [leftOver, start]
  simp only [Spec.errorText, UsageError.message, List.append_assoc]
  rfl

/-- Arguments of which something is left over are refused, and all of that is reported. -/
theorem shows_left (h : spec.LaidOut args phrases left) (sentence : spec.Sentence phrases) (some : left ≠ [])
    (files : FileReader) : (main files args).Shows .paramError .err (spec.usage ++ leftOver left) := by
  have wrong : spec.parse args = .error (.wrong (.unrecognized left)) :=
    (Spec.parse_laidOut spec_named h sentence).trans (if_neg some)
  have said : (main files args).Says .paramError .err _ := Spec.says_run_wrong wrong
  rw [errorText_unrecognized] at said
  exact said.shows (unheeding_main files args)

end BindProperties

namespace Mechanisms

/-- What the tool prints without arguments. -/
def listing : Text := Session.shownLines (Mechanism.all.map Mechanism.value)

theorem spec_named : spec.Named where
  plain := nofun
  hyphens := nofun
  longer := nofun
  distinct := by decide

/-- There are no phrases for a tool without options, so any argument is too much. -/
theorem parse_ne_ok {args : List Text} (h : args ≠ []) (values : List (Empty × Given)) :
    spec.parse args ≠ .ok values := by
  intro parsed
  obtain ⟨phrases, -, rfl, -⟩ := (Spec.parse_eq_ok_iff spec_named).1 parsed
  cases phrases with
  | nil => exact h rfl
  | cons x phrases => exact x.option.key.elim

theorem exists_help : ∃ help, spec.helpText = .ok help ∧ ¬ listing <:+: help := ⟨_, rfl, by decide +kernel⟩

theorem says_listing : (main []).Says .success .out listing := by
  have all : (main []).Says .success .out (listing ++ []) :=
    (Session.says_writeLines .out _).bind (Session.says_pure ResultCode.success .out)
  rwa [List.append_nil] at all

theorem not_listed {args : List Text} (h : args ≠ []) :
    ∃ code sink shown, (main args).Says code sink shown ∧ (sink = .out → ¬ listing <:+: shown) := by
  obtain ⟨help, made, other⟩ := exists_help
  cases parsed : spec.parse args with
  | ok values => exact absurd parsed (parse_ne_ok h values)
  | error why =>
    cases why with
    | help => exact ⟨_, _, _, Spec.says_run_help made parsed, fun _ => other⟩
    | wrong e => exact ⟨_, _, _, Spec.says_run_wrong parsed, nofun⟩

/-- The list is printed exactly if there are no arguments. -/
theorem listed_iff (args : List Text) {sinks : Sinks} (out : sinks.out = true) :
    listing <:+: Event.text .out (main args sinks).2 ↔ args = [] := by
  have there : sinks.has .out = true := out
  constructor
  · intro listed
    by_contra h
    obtain ⟨code, sink, shown, said, other⟩ := not_listed h
    have text := (said.shows (unheeding_main args) sinks).2 .out
    by_cases hs : .out = sink
    · rw [text, if_pos ⟨there, hs⟩] at listed
      exact other hs.symm listed
    · rw [text, if_neg fun h => hs h.2] at listed
      exact absurd (List.eq_nil_of_infix_nil listed) (by decide)
  · rintro rfl
    have shown := (says_listing.shows (unheeding_main []) sinks).2 .out
    rw [if_pos ⟨there, rfl⟩] at shown
    exact shown ▸ List.infix_rfl

end Mechanisms

open BindProperties in
/-- **Stray arguments are all reported.**  Arguments of which none is ambiguous or asks for help up to the terminator,
and which give each option its value, have one way to be laid out.  With the authentication ID and at most one of the
options for the password among them, they have values if nothing is left over; otherwise the tool that prints bind
properties reports all that is left over, in order.  The tool that lists mechanisms prints the list exactly if it has
no arguments. -/
theorem strays_reported :
    (∀ args, spec.Clear args → Gives args .authid → ¬ (Gives args .password ∧ Gives args .passwordFile) →
      ∃ left, (∀ left', (∃ phrases, spec.LaidOut args phrases left') ↔ left' = left) ∧ left.Sublist args ∧
        (left = [] → ∃ values, spec.parse args = .ok values) ∧
        (left ≠ [] → ∀ files, (main files args).Shows .paramError .err (spec.usage ++ leftOver left))) ∧
    ∀ args (sinks : Sinks), sinks.out = true →
      (Mechanisms.listing <:+: Event.text .out (Mechanisms.main args sinks).2 ↔ args = []) := by
  refine ⟨fun args clear authid one => ?_, fun args sinks out => Mechanisms.listed_iff args out⟩
  obtain ⟨phrases, left, laidOut⟩ := Spec.exists_laidOut spec_named clear
  have sentence := sentence_of_gives laidOut authid one
  refine ⟨left, fun left' => ⟨?_, ?_⟩, laidOut.sublist, ?_, fun some => shows_left laidOut sentence some⟩
  · rintro ⟨phrases', laidOut'⟩
    exact laidOut'.left_unique spec_named laidOut (sentence_of_gives laidOut' authid one) sentence
  · rintro rfl
    exact ⟨phrases, laidOut⟩
  · rintro rfl
    exact ⟨_, Spec.parse_laidOut spec_named laidOut sentence⟩

namespace BindProperties

/-- Two options among stray arguments, and one after the terminator. -/
def strayArguments : List Text :=
  ["x", "--authid=u:a", "-5", "--qo", "auth", "-y", "--", "--realm"].map String.toText

theorem options_ne_nil : options ≠ [] := List.cons_ne_nil _ _

/-- The options among the stray arguments. -/
def strayPhrases : List (Phrase Key) :=
  [.attached "--authid".toText (options.head options_ne_nil) "u:a".toText,
    .apart "--qo".toText (options.getLast options_ne_nil) "auth".toText]

/-- The stray arguments, with the terminator and what follows it. -/
def strayLeft : List Text := ["x", "-5", "-y", "--", "--realm"].map String.toText

theorem laidOut_strayArguments : spec.LaidOut strayArguments strayPhrases strayLeft := by
  have number : spec.AsksNothing "-5".toText := ⟨by decide, by decide, by decide, by decide⟩
  have letter : spec.AsksNothing "-y".toText := ⟨by decide, by decide, by decide, by decide⟩
  have authid : spec.Phrased (.attached "--authid".toText (options.head options_ne_nil) "u:a".toText) :=
    ⟨List.head_mem _, .inl rfl⟩
  have qop : spec.Phrased (.apart "--qo".toText (options.getLast options_ne_nil) "auth".toText) :=
    ⟨⟨List.getLast_mem _, .inr ⟨by decide, by decide, by decide, by decide⟩⟩, .inl (by decide)⟩
  exact .stray (.inl (by decide)) <| .phrase authid <| .stray (.inr (.inr number)) <| .phrase qop <|
    .stray (.inr (.inr letter)) <| .terminated _

end BindProperties

open BindProperties in
/-- Stray arguments between options are reported with all that follows the terminator. -/
theorem strays_reported_strayArguments :
    spec.Clear strayArguments ∧
    (∀ files, (main files strayArguments).Shows .paramError .err (spec.usage ++ leftOver strayLeft)) ∧
    ¬ Mechanisms.listing <:+: Event.text .out (Mechanisms.main ["--".toText] .both).2 := by
  obtain ⟨reported, listed⟩ := strays_reported
  have laidOut := laidOut_strayArguments
  have clear := (Spec.clear_iff spec_named).2 ⟨_, _, laidOut⟩
  have authid : Gives strayArguments .authid := (gives_iff laidOut).2 ⟨_, List.mem_cons_self, rfl⟩
  have one : ¬ (Gives strayArguments .password ∧ Gives strayArguments .passwordFile) := by
    rw [gives_iff laidOut]
    rintro ⟨⟨x, hx, password⟩, -⟩
    have keys : ∀ key ∈ strayPhrases.map (·.option.key), key ≠ .password := by decide
    exact keys _ (List.mem_map_of_mem hx) password
  obtain ⟨left, unique, -, -, shows⟩ := reported strayArguments clear authid one
  obtain rfl := (unique strayLeft).1 ⟨_, laidOut⟩
  exact ⟨clear, shows (by decide), fun h => nomatch (listed ["--".toText] .both rfl).1 h⟩

end Tool

end SaslBind
