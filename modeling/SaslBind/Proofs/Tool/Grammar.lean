import Mathlib.Data.List.Induction
import SaslBind.Proofs.CommandLine.Grammar
import SaslBind.Tool

/-!
# The command lines of the tool

The tool takes rows of phrases for its six options with one for the authentication ID among them, and with none for
the password or none for the password file.  The last phrase for an option gives its value.

* `spec_named`, `mem_of_phrased` : the names of the options, and the options of phrases;
* `sentence_iff` : what makes up a command line of the tool;
* `given?_of_phrases` : an option has the value of the last phrase for it.

Main statement: `parse_iff_phrases`.
-/

namespace SaslBind

namespace Tool

namespace BindProperties

open CommandLine

/-- The names of the options are such that they can be shortened. -/
theorem spec_named : spec.Named where
  plain := by
    unfold Spec.NamesArePlain
    decide
  hyphens := by decide
  longer := by decide
  distinct := by decide

def passwordOption : Opt Key := options[3]

def passwordFileOption : Opt Key := options[4]

theorem name_eq_iff : ∀ o ∈ spec.options, ∀ o' ∈ spec.options, o.name = o'.name ↔ o.key = o'.key := by decide

theorem required_iff : ∀ o ∈ spec.options, o.required = true ↔ o.key = .authid := by decide

theorem excludes_iff : ∀ o ∈ spec.options, ∀ o' ∈ spec.options,
    o.Excludes o' ↔ o.key = .password ∧ o'.key = .passwordFile ∨ o.key = .passwordFile ∧ o'.key = .password := by
  decide

theorem exists_authid : ∃ o ∈ spec.options, o.key = .authid := by decide

theorem mem_of_phrased {x : Phrase Key} (h : spec.Phrased x) : x.option ∈ spec.options := by
  cases x with
  | attached spelling o value => exact h.1
  | apart spelling o value => exact h.1.1

/-- A command line of the tool: phrases for its options, with one for the authentication ID among them, and not both
for the password and for the file that holds it. -/
theorem sentence_iff (phrases : List (Phrase Key)) :
    spec.Sentence phrases ↔ (∀ x ∈ phrases, spec.Phrased x) ∧ (∃ x ∈ phrases, x.option.key = .authid) ∧
      ¬ ((∃ x ∈ phrases, x.option.key = .password) ∧ ∃ x ∈ phrases, x.option.key = .passwordFile) := by
  constructor
  · rintro ⟨hphrased, hcomplete, htogether⟩
    refine ⟨hphrased, ?_, ?_⟩
    · obtain ⟨o, ho, hk⟩ := exists_authid
      obtain ⟨x, hx, hn⟩ := hcomplete o ho ((required_iff o ho).2 hk)
      exact ⟨x, hx, ((name_eq_iff _ (mem_of_phrased (hphrased x hx)) o ho).1 hn).trans hk⟩
    · rintro ⟨⟨x, hx, hxk⟩, ⟨y, hy, hyk⟩⟩
      have both := excludes_iff _ (mem_of_phrased (hphrased x hx)) _ (mem_of_phrased (hphrased y hy))
      exact htogether x hx y hy (both.2 (.inl ⟨hxk, hyk⟩))
  · rintro ⟨hphrased, ⟨a, ha, hak⟩, hnot⟩
    refine ⟨hphrased, fun o ho hr => ?_, fun x hx y hy hxy => hnot ?_⟩
    · have hk : a.option.key = o.key := hak.trans ((required_iff o ho).1 hr).symm
      exact ⟨a, ha, (name_eq_iff _ (mem_of_phrased (hphrased a ha)) o ho).2 hk⟩
    · have both := excludes_iff _ (mem_of_phrased (hphrased x hx)) _ (mem_of_phrased (hphrased y hy))
      rcases both.1 hxy with ⟨hxk, hyk⟩ | ⟨hxk, hyk⟩
      · exact ⟨⟨x, hx, hxk⟩, ⟨y, hy, hyk⟩⟩
      · exact ⟨⟨y, hy, hyk⟩, ⟨x, hx, hxk⟩⟩

def lastFor? (phrases : List (Phrase Key)) (key : Key) : Option (Phrase Key) :=
  (phrases.filter fun x => x.option.key = key).getLast?

/-- An option has the value of the last phrase for it. -/
theorem given?_of_phrases (phrases : List (Phrase Key)) (key : Key) :
    given? (phrases.map Phrase.value) key = (lastFor? phrases key).map Phrase.given := by
  unfold given? lastFor?
  induction phrases using List.reverseRecOn with
  | nil => rfl
  | append_singleton phrases x ih =>
    rw [List.map_append, List.map_singleton, List.reverse_concat, List.filter_append]
    by_cases hk : x.option.key = key
    · simp [Phrase.value, hk]
    · have other : (key == x.value.1) = false := by simpa [Phrase.value] using Ne.symm hk
      rw [List.lookup_cons, other, List.filter_cons_of_neg (by simpa using hk), List.filter_nil, List.append_nil]
      exact ih

/-- **The command lines of the tool.**  It has values for tokens exactly if these are phrases for its options, with one
for the authentication ID among them and not both for the password and for the file that holds it.  The values are
those of the phrases; an option has that of the last phrase for it, which is a text unless it is the terminator and
attached. -/
theorem parse_iff_phrases (tokens : List Text) :
    (∀ values, spec.parse tokens = .ok values ↔ ∃ phrases : List (Phrase Key),
      tokens = phrases.flatMap Phrase.tokens ∧ (∀ x ∈ phrases, spec.Phrased x) ∧
      (∃ x ∈ phrases, x.option.key = .authid) ∧
      ¬ ((∃ x ∈ phrases, x.option.key = .password) ∧ ∃ x ∈ phrases, x.option.key = .passwordFile) ∧
      values = phrases.map Phrase.value) ∧
    ∀ phrases : List (Phrase Key), tokens = phrases.flatMap Phrase.tokens →
      (∀ key, given? (phrases.map Phrase.value) key = (lastFor? phrases key).map Phrase.given) ∧
      ((∀ token ∈ tokens, ¬ equalsSign :: terminator <:+ token) → ∀ x ∈ phrases, x.given = .text x.text) := by
  refine ⟨fun values => ?_, fun phrases htokens => ⟨given?_of_phrases phrases, fun h x hx => ?_⟩⟩
  · rw [Spec.parse_eq_ok_iff spec_named]
    constructor
    · rintro ⟨phrases, hs, ht, hv⟩
      obtain ⟨hphrased, hauthid, hboth⟩ := (sentence_iff phrases).1 hs
      exact ⟨phrases, ht, hphrased, hauthid, hboth, hv⟩
    · rintro ⟨phrases, ht, hphrased, hauthid, hboth, hv⟩
      exact ⟨phrases, (sentence_iff phrases).2 ⟨hphrased, hauthid, hboth⟩, ht, hv⟩
  · refine Phrase.given_of_tokens fun token ht => h token ?_
    rw [htokens]
    exact List.mem_flatMap.2 ⟨x, hx, ht⟩

/-- Shortened names, a value with a hyphen in front, and an option that is given twice. -/
def shortArguments : List Text :=
  ["--authi".toText, "u:a".toText, "--q=auth".toText, "--password-".toText, "- 1".toText, "--qo".toText, "-.5".toText]

/-- The phrases of the shortened names. -/
def shortPhrases : List (Phrase Key) :=
  [.apart "--authi".toText options[0] "u:a".toText, .attached "--q".toText options[5] "auth".toText,
    .apart "--password-".toText passwordFileOption "- 1".toText, .apart "--qo".toText options[5] "-.5".toText]

/-- The shortened names have values, and the option that is given twice has the last of the two. -/
theorem parse_iff_phrases_shortArguments :
    spec.parse shortArguments = .ok (shortPhrases.map Phrase.value) ∧ (∀ x ∈ shortPhrases, x.given = .text x.text) ∧
      given? (shortPhrases.map Phrase.value) .qop = some (.text "-.5".toText) ∧
      ∃ phrases : List (Phrase Key), shortArguments = phrases.flatMap Phrase.tokens ∧
        ∀ x ∈ phrases, spec.Phrased x := by
  have parsed : spec.parse shortArguments = .ok (shortPhrases.map Phrase.value) := by decide +kernel
  have tokens : shortArguments = shortPhrases.flatMap Phrase.tokens := by rfl
  have free : ∀ token ∈ shortArguments, ¬ equalsSign :: terminator <:+ token := by decide
  obtain ⟨accepted, values⟩ := parse_iff_phrases shortArguments
  obtain ⟨phrases, ht, hphrased, -⟩ := (accepted _).1 parsed
  obtain ⟨last, text⟩ := values shortPhrases tokens
  exact ⟨parsed, text free, (last .qop).trans rfl, phrases, ht, hphrased⟩

end BindProperties

end Tool

end SaslBind
