import SaslBind.CommandLine.Parse

/-!
# An option with its value in front of a command line

In front of tokens that it goes together with, an option with its value attached adds its value to those of the
tokens and changes nothing else: neither help nor any usage error.

* `Spec.Reads` : the options that tokens are read as, up to the terminator;
* `consume_prepend` : reading on does not depend on an option that came before and goes with all others.

Main statements: `parse_attached`, the values of a command line with an option in front, and `reads_of_parse`, all
values are those of options that tokens are read as.
-/

namespace SaslBind

namespace CommandLine

/-- What was read so far, with one more option before all others. -/
def Progress.prepend {κ : Type} (e : Opt κ × Given) (p : Progress κ) : Progress κ := { p with values := e :: p.values }

namespace Spec

variable {κ : Type} {s : Spec κ}

/-! ### Reading on -/

/-- The options that tokens are read as, up to the terminator. -/
def Reads (s : Spec κ) (tokens : List Text) (o : Opt κ) : Prop :=
  ∃ token ∈ tokens.takeWhile (· ≠ terminator), ∃ attached, s.read token = .option o attached

theorem reads_cons_iff {token : Text} (ht : token ≠ terminator) {tokens : List Text} {o : Opt κ} :
    s.Reads (token :: tokens) o ↔ (∃ attached, s.read token = .option o attached) ∨ s.Reads tokens o := by
  unfold Reads
  rw [List.takeWhile_cons_of_pos (by simpa using ht)]
  simp only [List.mem_cons, exists_eq_or_imp]

theorem Reads.cons {token : Text} (ht : token ≠ terminator) {tokens : List Text} {o : Opt κ} (h : s.Reads tokens o) :
    s.Reads (token :: tokens) o := (reads_cons_iff ht).2 (.inr h)

theorem Reads.head {token : Text} (ht : token ≠ terminator) {tokens : List Text} {o : Opt κ} {attached : Option Text}
    (h : s.read token = .option o attached) : s.Reads (token :: tokens) o := (reads_cons_iff ht).2 (.inl ⟨attached, h⟩)

theorem ne_terminator_of_isValue {token : Text} (h : s.isValue token) : token ≠ terminator := by
  unfold isValue at h
  simpa using (Bool.and_eq_true_iff.1 h).1

theorem take_prepend {e : Opt κ × Given} {o : Opt κ} (h : conflict? o [e] = none) (p : Progress κ) (v : Given) :
    take (p.prepend e) o v = (take p o v).map (Progress.prepend e) := by
  have none : (o.group.isSome && e.1.group = o.group && e.1.name ≠ o.name) = false := by
    simpa [conflict?] using h
  have same : conflict? o (p.prepend e).values = conflict? o p.values := by
    simp only [conflict?, Progress.prepend, List.map_cons]
    rw [List.find?_cons_of_neg (by simpa using none)]
  unfold take
  rw [same]
  split <;> rfl

/-- Reading on does not depend on an option that came before all others and goes together with them. -/
theorem consume_prepend {e : Opt κ × Given} (p : Progress κ) (tokens : List Text)
    (h : ∀ o, s.Reads tokens o → conflict? o [e] = none) :
    s.consume (p.prepend e) tokens = (s.consume p tokens).map (Progress.prepend e) := by
  -- only an option that takes its value looks at those before it; all other cases go on as they are
  induction p, tokens using consume.induct s with
  | case1 p => rfl
  | case2 p rest =>
    simp only [consume, if_true]
    rfl
  | case3 p token rest ht hr ih | case4 p token rest ht hr ih | case5 p token rest ht names hr ih =>
    simp only [consume, ht, hr, if_false]
    exact ih fun o ho => h o (ho.cons ht)
  | case6 p token rest ht short attached hr =>
    simp only [consume, ht, hr, if_false]
    rfl
  | case7 p token rest ht o v hr stop hs =>
    simp only [consume, ht, hr, if_false, take_prepend (h o (.head ht hr)), hs]
    rfl
  | case8 p token rest ht o v hr q hq ih =>
    simp only [consume, ht, hr, if_false, take_prepend (h o (.head ht hr)), hq]
    exact ih fun o ho => h o (ho.cons ht)
  | case9 p token ht o hr =>
    simp only [consume, ht, hr, if_false]
    rfl
  | case10 p token ht o hr v rest hv stop hs =>
    simp only [consume, ht, hr, hv, if_true, if_false, take_prepend (h o (.head ht hr)), hs]
    rfl
  | case11 p token ht o hr v rest hv q hq ih =>
    simp only [consume, ht, hr, hv, if_true, if_false, take_prepend (h o (.head ht hr)), hq]
    exact ih fun o ho => h o ((ho.cons (ne_terminator_of_isValue hv)).cons ht)
  | case12 p token ht o hr v rest hv =>
    simp only [consume, ht, hr, hv, if_false]
    rfl

theorem mem_of_take {p q : Progress κ} {o : Opt κ} {v : Given} (h : take p o v = .ok q) {e : Opt κ × Given}
    (he : e ∈ q.values) : e ∈ p.values ∨ e.1 = o := by
  unfold take at h
  split at h
  · cases h
  · obtain rfl := Except.ok.inj h
    exact (List.mem_append.1 he).imp_right fun he => congrArg Prod.fst (List.mem_singleton.1 he)

theorem reads_of_consume {p q : Progress κ} {tokens : List Text} (h : s.consume p tokens = .ok q) {e : Opt κ × Given}
    (he : e ∈ q.values) : e ∈ p.values ∨ s.Reads tokens e.1 := by
  induction p, tokens using consume.induct s with
  | case1 p =>
    obtain rfl := Except.ok.inj h
    exact .inl he
  | case2 p rest =>
    simp only [consume, if_true] at h
    obtain rfl := Except.ok.inj h
    exact .inl he
  | case3 p token rest ht hr ih | case4 p token rest ht hr ih | case5 p token rest ht names hr ih =>
    simp only [consume, ht, hr, if_false] at h
    exact (ih h).imp_right (.cons ht)
  | case6 p token rest ht short attached hr =>
    simp only [consume, ht, hr, if_false] at h
    cases h
  | case7 p token rest ht o v hr stop hs =>
    simp only [consume, ht, hr, if_false, hs] at h
    cases h
  | case8 p token rest ht o v hr q' hq ih =>
    simp only [consume, ht, hr, if_false, hq] at h
    rcases ih h with hm | hm
    · rcases mem_of_take hq hm with hm | heq
      · exact .inl hm
      · exact .inr (heq ▸ .head ht hr)
    · exact .inr (hm.cons ht)
  | case9 p token ht o hr =>
    simp only [consume, ht, hr, if_false] at h
    cases h
  | case10 p token ht o hr v rest hv stop hs =>
    simp only [consume, ht, hr, hv, if_true, if_false, hs] at h
    cases h
  | case11 p token ht o hr v rest hv q' hq ih =>
    simp only [consume, ht, hr, hv, if_true, if_false, hq] at h
    rcases ih h with hm | hm
    · rcases mem_of_take hq hm with hm | heq
      · exact .inl hm
      · exact .inr (heq ▸ .head ht hr)
    · exact .inr ((hm.cons (ne_terminator_of_isValue hv)).cons ht)
  | case12 p token ht o hr v rest hv =>
    simp only [consume, ht, hr, hv, if_false] at h
    cases h

/-! ### Whole command lines -/

theorem missing_prepend {e : Opt κ × Given} (h : ∀ o ∈ s.options, o.required → e.1.name ≠ o.name) (p : Progress κ) :
    s.missing (p.prepend e) = s.missing p := by
  have same : ∀ o ∈ s.options, (o.required && !(p.prepend e).values.any (·.1.name = o.name)) =
      (o.required && !p.values.any (·.1.name = o.name)) := by
    intro o ho
    cases hr : o.required with
    | false => rfl
    | true =>
      have hn : decide (e.1.name = o.name) = false := decide_eq_false (h o ho hr)
      simp only [Progress.prepend, List.any_cons, hn, Bool.false_or]
  rw [missing, missing, List.filter_congr same]

/-- An option with its value in front, which is not required and goes together with all options of the other
tokens, adds its value to theirs; what is wrong with them is wrong as before. -/
theorem parse_attached {token : Text} (ht : token ≠ terminator) {o : Opt κ} {v : Text}
    (hr : s.read token = .option o (some v)) {tokens : List Text}
    (hc : ∀ o', s.Reads tokens o' → conflict? o' [(o, .ofAttached v)] = none)
    (hn : ∀ o' ∈ s.options, o'.required → o.name ≠ o'.name) :
    s.parse (token :: tokens) = (s.parse tokens).map fun values => (o.key, .ofAttached v) :: values := by
  have first : s.firstAmbiguous? (token :: tokens) = s.firstAmbiguous? tokens := by
    simp only [firstAmbiguous?, ht, hr, if_false]
  -- nothing came before the option, so nothing can exclude it
  have taken : take ⟨[], []⟩ o (.ofAttached v) = .ok (Progress.prepend (o, .ofAttached v) ⟨[], []⟩) := rfl
  have all : s.consume ⟨[], []⟩ (token :: tokens) =
      (s.consume ⟨[], []⟩ tokens).map (Progress.prepend (o, .ofAttached v)) := by
    simp only [consume, ht, hr, if_false, taken]
    exact consume_prepend _ tokens hc
  unfold parse
  rw [first, all]
  cases s.firstAmbiguous? tokens with
  | some e => rfl
  | none =>
    cases s.consume ⟨[], []⟩ tokens with
    | error stop => rfl
    | ok p =>
      simp only [Except.map]
      rw [missing_prepend (e := (o, .ofAttached v)) hn p]
      cases s.missing p with
      | cons name names => rfl
      | nil =>
        obtain ⟨values, extras⟩ := p
        cases extras <;> rfl

/-- The values of a command line are those of options that its tokens are read as. -/
theorem reads_of_parse {tokens : List Text} {values : List (κ × Given)} (h : s.parse tokens = .ok values)
    {x : κ × Given} (hx : x ∈ values) : ∃ o, s.Reads tokens o ∧ o.key = x.1 := by
  unfold parse at h
  split at h
  · cases h
  · split at h
    · cases h
    · next p hp =>
      split at h
      · obtain rfl := Except.ok.inj h
        obtain ⟨e, he, rfl⟩ := List.mem_map.1 hx
        have read := (reads_of_consume hp he).resolve_left List.not_mem_nil
        exact ⟨e.1, read, rfl⟩
      · cases h
      · cases h

end Spec

end CommandLine

end SaslBind
