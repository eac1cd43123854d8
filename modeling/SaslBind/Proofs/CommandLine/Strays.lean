import SaslBind.Proofs.CommandLine.Attached
import SaslBind.Proofs.CommandLine.Grammar

/-!
# Tokens that are left over

A command line in which every option has its value, and in which nothing is ambiguous or asks for help, is laid out as
phrases with stray tokens between them, up to the terminator.  The stray tokens, and the terminator with all that
follows it, are left over; each of them is, once and in order, and nothing else.

* `Spec.Clear` : a command line of that kind;
* `Spec.LaidOut tokens phrases left` : tokens as phrases and what is left over;
* `clear_iff` : the clear command lines are those that are laid out;
* `LaidOut.reads_iff` : the phrases are for all options that tokens are read as;
* `consume_laidOut` : what is laid out is read as it is.

Main statement: `parse_laidOut`.
-/

namespace SaslBind

namespace CommandLine

variable {κ : Type}

namespace Spec

variable {s : Spec κ}

/-- Up to the terminator no token is ambiguous or asks for help, and each option has its value, attached to it or as
the next token. -/
structure Clear (s : Spec κ) (tokens : List Text) : Prop where
  unambiguous : ∀ token ∈ tokens.takeWhile (· ≠ terminator), ∀ names, s.read token ≠ .ambiguous names
  helpless : ∀ token ∈ tokens.takeWhile (· ≠ terminator), ∀ short attached, s.read token ≠ .help short attached
  valued : ∀ before token after o, tokens = before ++ token :: after → terminator ∉ before → token ≠ terminator →
    s.read token = .option o none → ∃ value rest, after = value :: rest ∧ s.Plain value

/-- Tokens as phrases, and the tokens that are left over. -/
inductive LaidOut (s : Spec κ) : List Text → List (Phrase κ) → List Text → Prop
  | nil : LaidOut s [] [] []
  | terminated (tokens : List Text) : LaidOut s (terminator :: tokens) [] (terminator :: tokens)
  | phrase {x : Phrase κ} {tokens : List Text} {phrases : List (Phrase κ)} {left : List Text} (hx : s.Phrased x)
      (h : LaidOut s tokens phrases left) : LaidOut s (x.tokens ++ tokens) (x :: phrases) left
  | stray {token : Text} {tokens : List Text} {phrases : List (Phrase κ)} {left : List Text} (ht : s.Stray token)
      (h : LaidOut s tokens phrases left) : LaidOut s (token :: tokens) phrases (token :: left)

variable {tokens left : List Text} {phrases : List (Phrase κ)} {token : Text}

theorem Stray.ne_terminator (h : s.Stray token) : token ≠ terminator := by
  rintro rfl
  obtain h | h | h := h
  · exact h rfl
  · exact absurd h (by decide)
  · have part : terminator.takeWhile (· ≠ equalsSign) = terminator := by decide
    have begins : terminator <+: longHelp := by decide
    exact h.long List.prefix_rfl longHelp List.mem_cons_self (part ▸ begins)

theorem Plain.stray (h : s.Plain token) : s.Stray token := h.imp_right (Or.imp_right fun h => h.2.1)

theorem not_asks_of_stray (hs : s.NamesArePlain) (h : s.Stray token) {o : Opt κ} {attached : Option Text} :
    s.read token ≠ .option o attached := by
  rcases (stray_iff hs).1 h with read | read <;> rw [read] <;> exact nofun

/-! ### Layouts -/

theorem LaidOut.sublist (h : s.LaidOut tokens phrases left) : left.Sublist tokens := by
  induction h with
  | nil | terminated => exact .refl _
  | phrase _ _ ih => exact ih.trans (List.sublist_append_right _ _)
  | stray _ _ ih => exact ih.cons_cons _

theorem LaidOut.phrased (h : s.LaidOut tokens phrases left) : ∀ x ∈ phrases, s.Phrased x := by
  induction h with
  | nil | terminated => exact fun x hx => absurd hx List.not_mem_nil
  | phrase hx _ ih => exact List.forall_mem_cons.2 ⟨hx, ih⟩
  | stray _ _ ih => exact ih

theorem not_reads_terminated (tokens : List Text) (o : Opt κ) : ¬ s.Reads (terminator :: tokens) o := by
  rintro ⟨token, mem, -⟩
  rw [List.takeWhile_cons_of_neg (by simp)] at mem
  cases mem

theorem reads_phrase_iff (hs : s.Named) {x : Phrase κ} (hx : s.Phrased x) {o : Opt κ} :
    s.Reads (x.tokens ++ tokens) o ↔ x.option = o ∨ s.Reads tokens o := by
  cases x with
  | attached spelling o' value =>
    rw [Phrase.tokens, List.singleton_append, reads_cons_iff (attached_ne_terminator spelling value),
      read_attached hs hx]
    simp [Phrase.option]
  | apart spelling o' value =>
    have plain := hx.2.stray
    rw [Phrase.tokens, List.cons_append, List.singleton_append, reads_cons_iff (hx.1.ne_terminator hs),
      reads_cons_iff plain.ne_terminator, read_bare hs hx.1]
    simp [Phrase.option, not_asks_of_stray hs.plain plain]

/-- The phrases are for the options that the tokens are read as. -/
theorem LaidOut.reads_iff (hs : s.Named) (h : s.LaidOut tokens phrases left) {o : Opt κ} :
    s.Reads tokens o ↔ ∃ x ∈ phrases, x.option = o := by
  induction h with
  | nil => simp [Reads]
  | terminated tokens => simpa using not_reads_terminated tokens o
  | phrase hx _ ih => rw [reads_phrase_iff hs hx, ih, List.exists_mem_cons_iff]
  | stray ht _ ih => simpa [reads_cons_iff ht.ne_terminator, not_asks_of_stray hs.plain ht] using ih

/-- What is laid out is read as it is, after anything that goes together with it. -/
theorem consume_laidOut (hs : s.Named) (h : s.LaidOut tokens phrases left) (p : Progress κ)
    (ht : Together (p.values ++ phrases.map Phrase.entry)) :
    s.consume p tokens = .ok ⟨p.values ++ phrases.map Phrase.entry, p.extras ++ left⟩ := by
  induction h generalizing p with
  | nil => simp [consume]
  | terminated tokens => simp [consume]
  | phrase hx _ ih =>
    rw [List.map_cons, List.append_cons] at ht ⊢
    rw [consume_phrase hs hx (together_concat.1 ht.of_append).2, ih _ ht]
  | @stray token tokens phrases left stray _ ih =>
    have next := ih { p with extras := p.extras ++ [token] } ht
    rw [List.append_assoc, List.singleton_append] at next
    rcases (stray_iff hs.plain).1 stray with read | read <;> simpa [consume, stray.ne_terminator, read] using next

theorem firstAmbiguous?_laidOut (hs : s.Named) (h : s.LaidOut tokens phrases left) :
    s.firstAmbiguous? tokens = none := by
  induction h with
  | nil => rfl
  | terminated tokens => simp [firstAmbiguous?]
  | phrase hx _ ih => rwa [firstAmbiguous?_phrase hs hx]
  | stray stray _ ih =>
    rcases (stray_iff hs.plain).1 stray with read | read <;> simpa [firstAmbiguous?, stray.ne_terminator, read] using ih

theorem LaidOut.left_unique (hs : s.Named) {phrases' : List (Phrase κ)} {left' : List Text}
    (h : s.LaidOut tokens phrases left) (h' : s.LaidOut tokens phrases' left') (sentence : s.Sentence phrases)
    (sentence' : s.Sentence phrases') : left = left' := by
  have read := consume_laidOut hs h ⟨[], []⟩ (together_map_entry.2 sentence.together)
  have read' := consume_laidOut hs h' ⟨[], []⟩ (together_map_entry.2 sentence'.together)
  exact congrArg Progress.extras (Except.ok.inj (read.symm.trans read'))

/-- **What is left over is reported.**  A command line that is laid out as a sentence has the values of its phrases if
nothing is left over; otherwise all that is left over is unrecognized. -/
theorem parse_laidOut (hs : s.Named) (h : s.LaidOut tokens phrases left) (sentence : s.Sentence phrases) :
    s.parse tokens =
      if left = [] then .ok (phrases.map Phrase.value) else .error (.wrong (.unrecognized left)) := by
  have read := consume_laidOut hs h ⟨[], []⟩ (together_map_entry.2 sentence.together)
  have nothing : s.missing ⟨[] ++ phrases.map Phrase.entry, [] ++ left⟩ = [] := by
    refine missing_eq_nil_iff.2 fun o ho required => ?_
    obtain ⟨x, hx, hname⟩ := sentence.complete o ho required
    exact ⟨x.entry, List.mem_map_of_mem hx, hname⟩
  simp only [parse, firstAmbiguous?_laidOut hs h, read, nothing]
  cases left with
  | nil => simp [Phrase.entry, Phrase.value, Function.comp_def]
  | cons token left => rfl

/-! ### Clear command lines -/

theorem Clear.of_cons (h : s.Clear (token :: tokens)) (ht : token ≠ terminator) : s.Clear tokens := by
  have before : tokens.takeWhile (· ≠ terminator) ⊆ (token :: tokens).takeWhile (· ≠ terminator) := by
    rw [List.takeWhile_cons_of_pos (by simpa using ht)]
    exact List.subset_cons_self _ _
  refine ⟨fun t mem => h.unambiguous t (before mem), fun t mem => h.helpless t (before mem), ?_⟩
  rintro early t after o rfl none
  exact h.valued (token :: early) t after o rfl (by simp [none, ht.symm])

/-- Clear command lines are laid out. -/
theorem exists_laidOut (hs : s.Named) (h : s.Clear tokens) : ∃ phrases left, s.LaidOut tokens phrases left := by
  -- an option may take two tokens at once
  induction hn : tokens.length using Nat.strong_induction_on generalizing tokens with
  | _ n ih =>
    subst hn
    cases tokens with
    | nil => exact ⟨[], [], .nil⟩
    | cons token tokens =>
      by_cases ht : token = terminator
      · subst ht
        exact ⟨[], _, .terminated tokens⟩
      have first : token ∈ (token :: tokens).takeWhile (· ≠ terminator) := by
        rw [List.takeWhile_cons_of_pos (by simpa using ht)]
        exact List.mem_cons_self
      have rest := h.of_cons ht
      obtain ⟨phrases, left, laidOut⟩ := ih tokens.length (Nat.lt_succ_self _) rest rfl
      cases read : s.read token with
      | plain => exact ⟨phrases, token :: left, .stray ((stray_iff hs.plain).2 (.inl read)) laidOut⟩
      | unknown => exact ⟨phrases, token :: left, .stray ((stray_iff hs.plain).2 (.inr read)) laidOut⟩
      | help short attached => exact absurd read (h.helpless token first short attached)
      | ambiguous names => exact absurd read (h.unambiguous token first names)
      | option o attached =>
        obtain ⟨spelling, spells, rfl⟩ := (read_eq_option_iff hs).1 read
        cases attached with
        | some value =>
          have phrased : s.Phrased (.attached spelling o value) := spells
          exact ⟨.attached spelling o value :: phrases, left, .phrase phrased laidOut⟩
        | none =>
          obtain ⟨value, after, rfl, plain⟩ := h.valued [] _ tokens o rfl List.not_mem_nil ht read
          have shorter : after.length < (spelling :: value :: after).length := by
            simp only [List.length_cons]
            omega
          obtain ⟨phrases, left, laidOut⟩ := ih after.length shorter (rest.of_cons plain.stray.ne_terminator) rfl
          have phrased : s.Phrased (.apart spelling o value) := ⟨spells, plain⟩
          exact ⟨.apart spelling o value :: phrases, left, .phrase phrased laidOut⟩

theorem Clear.nil : s.Clear [] where
  unambiguous := nofun
  helpless := nofun
  valued before token after o he := by simp at he

theorem Clear.terminated (tokens : List Text) : s.Clear (terminator :: tokens) where
  unambiguous := by simp
  helpless := by simp
  valued before token after o he none ht := by
    cases before with
    | nil => exact absurd (List.cons.inj he).1.symm ht
    | cons first before => exact absurd ((List.cons.inj he).1 ▸ List.mem_cons_self) none

theorem Clear.cons (ht : token ≠ terminator) (unambiguous : ∀ names, s.read token ≠ .ambiguous names)
    (helpless : ∀ short attached, s.read token ≠ .help short attached)
    (valued : ∀ o, s.read token = .option o none → ∃ value rest, tokens = value :: rest ∧ s.Plain value)
    (h : s.Clear tokens) : s.Clear (token :: tokens) := by
  have first : (token :: tokens).takeWhile (· ≠ terminator) = token :: tokens.takeWhile (· ≠ terminator) :=
    List.takeWhile_cons_of_pos (by simpa using ht)
  refine ⟨?_, ?_, fun before t after o he none hne read => ?_⟩
  · rw [first]
    exact List.forall_mem_cons.2 ⟨unambiguous, h.unambiguous⟩
  · rw [first]
    exact List.forall_mem_cons.2 ⟨helpless, h.helpless⟩
  · cases before with
    | nil =>
      obtain ⟨rfl, rfl⟩ := List.cons.inj he
      exact valued o read
    | cons early before =>
      obtain ⟨rfl, rfl⟩ := List.cons.inj he
      exact h.valued before t after o rfl (fun mem => none (List.mem_cons_of_mem _ mem)) hne read

theorem Clear.stray (hs : s.NamesArePlain) (ht : s.Stray token) (h : s.Clear tokens) : s.Clear (token :: tokens) := by
  refine h.cons ht.ne_terminator ?_ ?_ fun o read => absurd read (not_asks_of_stray hs ht)
  all_goals rcases (stray_iff hs).1 ht with read | read <;> rw [read] <;> exact nofun

theorem Clear.phrase (hs : s.Named) {x : Phrase κ} (hx : s.Phrased x) (h : s.Clear tokens) :
    s.Clear (x.tokens ++ tokens) := by
  cases x with
  | attached spelling o value =>
    refine h.cons (attached_ne_terminator spelling value) ?_ ?_ ?_
    all_goals rw [read_attached hs hx]; exact nofun
  | apart spelling o value =>
    have plain : s.Clear (value :: tokens) := h.stray hs.plain hx.2.stray
    refine plain.cons (hx.1.ne_terminator hs) ?_ ?_ fun _ _ => ⟨value, tokens, rfl, hx.2⟩
    all_goals rw [read_bare hs hx.1]; exact nofun

/-- The clear command lines are those that are laid out. -/
theorem clear_iff (hs : s.Named) : s.Clear tokens ↔ ∃ phrases left, s.LaidOut tokens phrases left := by
  refine ⟨exists_laidOut hs, ?_⟩
  rintro ⟨phrases, left, laidOut⟩
  induction laidOut with
  | nil => exact .nil
  | terminated tokens => exact .terminated tokens
  | phrase hx _ ih => exact ih.phrase hs hx
  | stray ht _ ih => exact ih.stray hs.plain ht

end Spec

end CommandLine

end SaslBind
