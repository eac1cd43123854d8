import SaslBind.Proofs.CommandLine.Spelling

/-!
# The grammar of command lines

A command line has values exactly if it is a row of phrases, each of them an option with its value, in which no
required option is missing and no two options exclude each other.  The values are those of the phrases, in order.

* `Phrase`, `Spec.Phrased` : an option with its value attached to it or apart from it, and when it is well formed;
* `Opt.Excludes` : two options of one group;
* `Spec.Sentence` : phrases that make up a command line;
* `consume_phrases` : phrases are read as they are, and `exists_phrases` : nothing else is read to the end.

Main statement: `parse_eq_ok_iff`.
-/

namespace SaslBind

namespace CommandLine

variable {κ : Type}

/-- An option with its value: attached to the spelling of the option, or in a token of its own. -/
inductive Phrase (κ : Type) where
  | attached (spelling : Text) (o : Opt κ) (value : Text)
  | apart (spelling : Text) (o : Opt κ) (value : Text)

namespace Phrase

def tokens : Phrase κ → List Text
  | .attached spelling _ value => [spelling ++ equalsSign :: value]
  | .apart spelling _ value => [spelling, value]

def option : Phrase κ → Opt κ
  | .attached _ o _ | .apart _ o _ => o

def text : Phrase κ → Text
  | .attached _ _ value | .apart _ _ value => value

def given : Phrase κ → Given
  | .attached _ _ value => .ofAttached value
  | .apart _ _ value => .text value

/-- The option of a phrase with the value that it gets. -/
def entry (x : Phrase κ) : Opt κ × Given := (x.option, x.given)

/-- The key of the option of a phrase with the value that it gets. -/
def value (x : Phrase κ) : κ × Given := (x.option.key, x.given)

/-- The value of a phrase is its text, unless it is the terminator and attached. -/
theorem given_of_tokens {x : Phrase κ} (h : ∀ token ∈ x.tokens, ¬ equalsSign :: terminator <:+ token) :
    x.given = .text x.text := by
  cases x with
  | apart spelling o value => rfl
  | attached spelling o value =>
    have hne : value ≠ terminator := by
      rintro rfl
      exact h _ (List.mem_singleton_self _) (List.suffix_append _ _)
    exact if_neg hne

end Phrase

/-! ### Options that exclude each other -/

/-- Two options of one group. -/
def Opt.Excludes (o o' : Opt κ) : Prop := o.group.isSome ∧ o'.group = o.group ∧ o'.name ≠ o.name

instance (o o' : Opt κ) : Decidable (o.Excludes o') :=
  inferInstanceAs (Decidable (o.group.isSome ∧ o'.group = o.group ∧ o'.name ≠ o.name))

theorem Opt.Excludes.symm {o o' : Opt κ} (h : o.Excludes o') : o'.Excludes o := by
  obtain ⟨hg, he, hn⟩ := h
  exact ⟨he ▸ hg, he.symm, hn.symm⟩

theorem Opt.not_excludes_self (o : Opt κ) : ¬ o.Excludes o := fun h => h.2.2 rfl

/-- Values of which no two options exclude each other. -/
def Together (values : List (Opt κ × Given)) : Prop := ∀ e ∈ values, ∀ e' ∈ values, ¬ e.1.Excludes e'.1

theorem Together.of_append {values more : List (Opt κ × Given)} (h : Together (values ++ more)) : Together values :=
  fun e he e' he' => h e (List.mem_append_left _ he) e' (List.mem_append_left _ he')

namespace Spec

theorem conflict?_eq_none_iff {o : Opt κ} {values : List (Opt κ × Given)} :
    conflict? o values = none ↔ ∀ e ∈ values, ¬ o.Excludes e.1 := by
  simp [conflict?, Opt.Excludes, List.find?_eq_none]

/-- One more option goes together with others exactly if none of them is in conflict with it. -/
theorem together_concat {values : List (Opt κ × Given)} {o : Opt κ} {v : Given} :
    Together (values ++ [(o, v)]) ↔ Together values ∧ conflict? o values = none := by
  rw [conflict?_eq_none_iff]
  constructor
  · intro h
    refine ⟨fun e he e' he' => h e (List.mem_append_left _ he) e' (List.mem_append_left _ he'), fun e he => ?_⟩
    exact h (o, v) (List.mem_append_right _ (List.mem_singleton_self _)) e (List.mem_append_left _ he)
  · rintro ⟨hv, ho⟩ e he e' he'
    rcases List.mem_append.1 he with he | he <;> rcases List.mem_append.1 he' with he' | he'
    · exact hv e he e' he'
    · obtain rfl := List.mem_singleton.1 he'
      exact fun hx => ho e he hx.symm
    · obtain rfl := List.mem_singleton.1 he
      exact ho e' he'
    · obtain rfl := List.mem_singleton.1 he
      obtain rfl := List.mem_singleton.1 he'
      exact Opt.not_excludes_self o

theorem take_eq_ok_iff {p q : Progress κ} {o : Opt κ} {v : Given} :
    take p o v = .ok q ↔ conflict? o p.values = none ∧ q = { p with values := p.values ++ [(o, v)] } := by
  unfold take
  cases conflict? o p.values with
  | none => simp [eq_comm]
  | some earlier => simp

variable {s : Spec κ}

/-! ### Phrases -/

/-- A phrase spells its option, and its value is plain if it stands apart. -/
def Phrased (s : Spec κ) : Phrase κ → Prop
  | .attached spelling o _ => s.Spells spelling o
  | .apart spelling o value => s.Spells spelling o ∧ s.Plain value

/-- Phrases in which no required option is missing, and no two options exclude each other. -/
structure Sentence (s : Spec κ) (phrases : List (Phrase κ)) : Prop where
  phrased : ∀ x ∈ phrases, s.Phrased x
  complete : ∀ o ∈ s.options, o.required → ∃ x ∈ phrases, x.option.name = o.name
  together : ∀ x ∈ phrases, ∀ y ∈ phrases, ¬ x.option.Excludes y.option

theorem together_map_entry {phrases : List (Phrase κ)} :
    Together (phrases.map Phrase.entry) ↔ ∀ x ∈ phrases, ∀ y ∈ phrases, ¬ x.option.Excludes y.option := by
  simp [Together, Phrase.entry]

/-- A phrase is read as it is, after anything that goes together with it. -/
theorem consume_phrase (hs : s.Named) {x : Phrase κ} (h : s.Phrased x) {p : Progress κ}
    (hc : conflict? x.option p.values = none) (tokens : List Text) :
    s.consume p (x.tokens ++ tokens) = s.consume { p with values := p.values ++ [x.entry] } tokens := by
  have taken : take p x.option x.given = .ok { p with values := p.values ++ [x.entry] } := take_eq_ok_iff.2 ⟨hc, rfl⟩
  cases x with
  | attached spelling o value =>
    have read := read_attached hs h value
    have more := attached_ne_terminator spelling value
    change s.consume p ((spelling ++ equalsSign :: value) :: tokens) = _
    simp only [consume, more, read, if_false]
    rw [show take p o (.ofAttached value) = _ from taken]
  | apart spelling o value =>
    have read := read_bare hs h.1
    have isValue := (isValue_iff hs.plain value).2 h.2
    change s.consume p (spelling :: value :: tokens) = _
    simp only [consume, h.1.ne_terminator hs, read, isValue, if_true, if_false]
    rw [show take p o (.text value) = _ from taken]

/-- Phrases are read as they are, after anything that goes together with them. -/
theorem consume_phrases (hs : s.Named) {phrases : List (Phrase κ)} (h : ∀ x ∈ phrases, s.Phrased x) (p : Progress κ)
    (ht : Together (p.values ++ phrases.map Phrase.entry)) :
    s.consume p (phrases.flatMap Phrase.tokens) =
      .ok { p with values := p.values ++ phrases.map Phrase.entry } := by
  induction phrases generalizing p with
  | nil =>
    simp only [List.flatMap_nil, consume, List.map_nil, List.append_nil]
  | cons x phrases ih =>
    have rest : ∀ y ∈ phrases, s.Phrased y := fun y hy => h y (List.mem_cons_of_mem _ hy)
    rw [List.map_cons, List.append_cons] at ht ⊢
    rw [List.flatMap_cons, consume_phrase hs (h x List.mem_cons_self) (together_concat.1 ht.of_append).2, ih rest _ ht]

/-- Tokens that are read to the end, with none left over, are those of phrases. -/
theorem exists_phrases (hs : s.Named) {p q : Progress κ} {tokens : List Text} (h : s.consume p tokens = .ok q)
    (he : q.extras = []) (ht : Together p.values) :
    p.extras = [] ∧ ∃ phrases : List (Phrase κ), tokens = phrases.flatMap Phrase.tokens ∧
      (∀ x ∈ phrases, s.Phrased x) ∧ q.values = p.values ++ phrases.map Phrase.entry ∧ Together q.values := by
  -- a token that is left over stays so, which no later one can undo
  induction p, tokens using consume.induct s with
  | case1 p =>
    obtain rfl := Except.ok.inj h
    exact ⟨he, [], rfl, fun x hx => absurd hx List.not_mem_nil, (List.append_nil _).symm, ht⟩
  | case2 p rest =>
    simp only [consume, if_true] at h
    obtain rfl := Except.ok.inj h
    simp at he
  | case3 p token rest hn hr ih | case4 p token rest hn hr ih | case5 p token rest hn names hr ih =>
    simp only [consume, hn, hr, if_false] at h
    have none := (ih h ht).1
    simp at none
  | case6 p token rest hn short attached hr =>
    simp only [consume, hn, hr, if_false] at h
    cases h
  | case7 p token rest hn o v hr stop hstop =>
    simp only [consume, hn, hr, if_false, hstop] at h
    cases h
  | case8 p token rest hn o v hr p' hp ih =>
    simp only [consume, hn, hr, if_false, hp] at h
    obtain ⟨hc, rfl⟩ := take_eq_ok_iff.1 hp
    obtain ⟨hextras, phrases, rfl, hphrased, hvalues, htogether⟩ := ih h (together_concat.2 ⟨ht, hc⟩)
    obtain ⟨spelling, hsp, rfl⟩ := (read_eq_option_iff hs).1 hr
    refine ⟨hextras, .attached spelling o v :: phrases, rfl, List.forall_mem_cons.2 ⟨hsp, hphrased⟩, ?_, htogether⟩
    rw [hvalues, List.append_assoc]
    rfl
  | case9 p token hn o hr =>
    simp only [consume, hn, hr, if_false] at h
    cases h
  | case10 p token hn o hr v rest hv stop hstop =>
    simp only [consume, hn, hr, hv, if_true, if_false, hstop] at h
    cases h
  | case11 p token hn o hr v rest hv p' hp ih =>
    simp only [consume, hn, hr, hv, if_true, if_false, hp] at h
    obtain ⟨hc, rfl⟩ := take_eq_ok_iff.1 hp
    obtain ⟨hextras, phrases, rfl, hphrased, hvalues, htogether⟩ := ih h (together_concat.2 ⟨ht, hc⟩)
    obtain ⟨spelling, hsp, rfl⟩ := (read_eq_option_iff hs).1 hr
    have plain := (isValue_iff hs.plain v).1 hv
    refine ⟨hextras, .apart token o v :: phrases, rfl, List.forall_mem_cons.2 ⟨⟨hsp, plain⟩, hphrased⟩, ?_,
      htogether⟩
    rw [hvalues, List.append_assoc]
    rfl
  | case12 p token hn o hr v rest hv =>
    simp only [consume, hn, hr, hv, if_false] at h
    cases h

theorem firstAmbiguous?_phrase (hs : s.Named) {x : Phrase κ} (h : s.Phrased x) (tokens : List Text) :
    s.firstAmbiguous? (x.tokens ++ tokens) = s.firstAmbiguous? tokens := by
  cases x with
  | attached spelling o value =>
    have read := read_attached hs h value
    have more := attached_ne_terminator spelling value
    change s.firstAmbiguous? ((spelling ++ equalsSign :: value) :: tokens) = _
    simp only [firstAmbiguous?, more, read, if_false]
  | apart spelling o value =>
    have read := read_bare hs h.1
    obtain ⟨more, plain⟩ := isValue_eq_true_iff.1 ((isValue_iff hs.plain value).2 h.2)
    change s.firstAmbiguous? (spelling :: value :: tokens) = _
    simp only [firstAmbiguous?, h.1.ne_terminator hs, more, read, plain, if_false]

theorem firstAmbiguous?_phrases (hs : s.Named) {phrases : List (Phrase κ)} (h : ∀ x ∈ phrases, s.Phrased x) :
    s.firstAmbiguous? (phrases.flatMap Phrase.tokens) = none := by
  induction phrases with
  | nil => rfl
  | cons x phrases ih =>
    rw [List.flatMap_cons, firstAmbiguous?_phrase hs (h x List.mem_cons_self)]
    exact ih fun y hy => h y (List.mem_cons_of_mem _ hy)

/-! ### Whole command lines -/

theorem missing_eq_nil_iff {p : Progress κ} :
    s.missing p = [] ↔ ∀ o ∈ s.options, o.required → ∃ e ∈ p.values, e.1.name = o.name := by
  rw [missing, List.map_eq_nil_iff, List.filter_eq_nil_iff]
  simp only [Bool.and_eq_true, Bool.not_eq_true', List.any_eq_false, decide_eq_true_eq, not_and, not_forall, not_not,
    exists_prop]

theorem parse_eq_ok_of_consume {tokens : List Text} {values : List (κ × Given)} :
    s.parse tokens = .ok values ↔ s.firstAmbiguous? tokens = none ∧ ∃ p, s.consume ⟨[], []⟩ tokens = .ok p ∧
      s.missing p = [] ∧ p.extras = [] ∧ values = p.values.map fun (o, v) => (o.key, v) := by
  constructor
  · intro h
    unfold parse at h
    split at h
    · cases h
    · next hf =>
      split at h
      · cases h
      · next p hp =>
        split at h
        · next hm hx => exact ⟨hf, p, hp, hm, hx, (Except.ok.inj h).symm⟩
        · cases h
        · cases h
  · rintro ⟨hf, p, hp, hm, hx, rfl⟩
    simp only [parse, hf, hp, hm, hx]

/-- **A command line has values exactly if it is a sentence.**  The values are those of its phrases. -/
theorem parse_eq_ok_iff (hs : s.Named) {tokens : List Text} {values : List (κ × Given)} :
    s.parse tokens = .ok values ↔ ∃ phrases : List (Phrase κ), s.Sentence phrases ∧
      tokens = phrases.flatMap Phrase.tokens ∧ values = phrases.map Phrase.value := by
  rw [parse_eq_ok_of_consume]
  constructor
  · rintro ⟨-, p, hp, hm, he, rfl⟩
    have none : Together ([] : List (Opt κ × Given)) := fun e he => absurd he List.not_mem_nil
    obtain ⟨-, phrases, rfl, hphrased, hvalues, htogether⟩ := exists_phrases hs hp he none
    rw [List.nil_append] at hvalues
    rw [hvalues] at htogether
    refine ⟨phrases, ⟨hphrased, fun o ho hr => ?_, together_map_entry.1 htogether⟩, rfl, ?_⟩
    · obtain ⟨e, hmem, hname⟩ := missing_eq_nil_iff.1 hm o ho hr
      rw [hvalues] at hmem
      obtain ⟨x, hx, rfl⟩ := List.mem_map.1 hmem
      exact ⟨x, hx, hname⟩
    · rw [hvalues, List.map_map]
      rfl
  · rintro ⟨phrases, ⟨hphrased, hcomplete, htogether⟩, rfl, rfl⟩
    have read := consume_phrases hs hphrased ⟨[], []⟩ (together_map_entry.2 htogether)
    refine ⟨firstAmbiguous?_phrases hs hphrased, _, read, missing_eq_nil_iff.2 fun o ho hr => ?_, rfl, ?_⟩
    · obtain ⟨x, hx, hname⟩ := hcomplete o ho hr
      exact ⟨x.entry, List.mem_map_of_mem hx, hname⟩
    · rw [List.nil_append, List.map_map]
      rfl

end Spec

end CommandLine

end SaslBind
