import SaslBind.Proofs.Text.Blank
import SaslBind.Proofs.Text.Lower
import SaslBind.Qop

/-!
# Texts that name a level

A level is named by its value, in any case of its ASCII letters and with any blanks around it.  Lower case is that of all
characters, but no character beyond ASCII becomes a letter of a value.

* `Qop.Names t q` : the text is a case variant of the value of the level, with blanks around it or none;
* `Qop.decode?_eq_some_iff` : a level is decoded from the texts that name it.

Main statement: `level_iff_named`.
-/

namespace SaslBind

/-- No blank is a letter of ASCII. -/
theorem CodePoint.lowerAscii_of_isBlank {c : CodePoint} (h : c.isBlank) : c.lowerAscii = c := by
  obtain ⟨span, hs, low, high⟩ := inSpans_iff.1 h
  have noLetter : ∀ span ∈ blankSpans, span.last < 0x41 ∨ 0x5A < span.first := by decide
  have := noLetter span hs
  exact if_neg (by omega)

namespace Qop

/-- A case variant of the value of a level, with blanks around it or none. -/
def Names (t : Text) (q : Qop) : Prop :=
  ∃ before name after : Text, t = before ++ name ++ after ∧ before.isBlank ∧ after.isBlank ∧ name.CaseVariant q.value

/-! ### Values -/

theorem value_plain (q : Qop) : ∀ c ∈ q.value, c.isAscii ∧ c ≠ CodePoint.ofChar 'k' := by cases q <;> decide

theorem value_not_blank (q : Qop) : ∀ c ∈ q.value, c.isBlank = false := by cases q <;> decide

theorem ofValue?_eq_some_iff {t : Text} {q : Qop} : ofValue? t = some q ↔ t = q.value := by
  constructor
  · intro h
    have found := List.find?_some h
    exact (of_decide_eq_true found).symm
  · rintro rfl
    exact ofValue?_value q

theorem not_blank_of_caseVariant {name : Text} {q : Qop} (h : name.CaseVariant q.value) :
    ∀ c ∈ name, c.isBlank = false := by
  intro c hc
  refine Bool.eq_false_iff.2 fun blank => ?_
  have inValue : c.lowerAscii ∈ q.value := h.2 ▸ List.mem_map_of_mem hc
  rw [CodePoint.lowerAscii_of_isBlank blank] at inValue
  rw [value_not_blank q c inValue] at blank
  cases blank

theorem trimmed_of_caseVariant {name : Text} {q : Qop} (h : name.CaseVariant q.value) : name.Trimmed :=
  ⟨fun c hc => not_blank_of_caseVariant h c (List.mem_of_head? hc),
    fun c hc => not_blank_of_caseVariant h c (List.mem_of_getLast? hc)⟩

/-! ### Texts -/

theorem decode?_eq_some_iff {t : Text} {q : Qop} : decode? t = some q ↔ Names t q := by
  rw [decode?, ofValue?_eq_some_iff, Text.lower_eq_iff (value_plain q)]
  constructor
  · intro variant
    obtain ⟨-, before, after, hb, ha, he⟩ := Text.strip_eq_iff.1 (rfl : t.strip = t.strip)
    exact ⟨before, t.strip, after, he, hb, ha, variant⟩
  · rintro ⟨before, name, after, he, hb, ha, variant⟩
    have stripped : t.strip = name := Text.strip_eq_iff.2 ⟨trimmed_of_caseVariant variant, before, after, hb, ha, he⟩
    rwa [stripped]

/-- The characters of a text that names a level are blanks or in ASCII. -/
theorem Names.blank_or_ascii {t : Text} {q : Qop} (h : Names t q) : ∀ c ∈ t, c.isBlank ∨ c.isAscii := by
  obtain ⟨before, name, after, rfl, hb, ha, ascii, -⟩ := h
  intro c hc
  rcases List.mem_append.1 hc with hc | hc
  · rcases List.mem_append.1 hc with hc | hc
    · exact .inl (List.all_eq_true.1 hb c hc)
    · exact .inr (ascii c hc)
  · exact .inl (List.all_eq_true.1 ha c hc)

/-- **Texts that name a level.**  A level is decoded from exactly those texts that are a case variant of its value, with
blanks around it or none.  So nothing is decoded from a text with a character that is neither a blank nor in ASCII, and
no text names two levels. -/
theorem level_iff_named :
    (∀ t q, decode? t = some q ↔ Names t q) ∧
    (∀ t : Text, (∃ c ∈ t, c.isAscii = false ∧ c.isBlank = false) → decode? t = none) ∧
    ∀ t p q, Names t p → Names t q → p = q := by
  refine ⟨fun t q => decode?_eq_some_iff, fun t beyond => ?_, fun t p q hp hq => ?_⟩
  · obtain ⟨c, hc, ascii, blank⟩ := beyond
    cases hd : decode? t with
    | none => rfl
    | some q =>
      rcases (decode?_eq_some_iff.1 hd).blank_or_ascii c hc with hb | ha
      · cases blank.symm.trans hb
      · cases ascii.symm.trans ha
  · rw [← decode?_eq_some_iff] at hp hq
    exact Option.some.inj (hp.symm.trans hq)

/-- A value in capitals between a no-break space and a tab. -/
def looseName : Text := "\u00A0AUTH-Int\t".toText

/-- A value in capitals, the i among them with a dot. -/
def dottedName : Text := "AUTH-\u0130NT".toText

/-- The loose name is that of one level, and the one with a dotted i of none. -/
theorem level_iff_named_looseName : decode? looseName = some .authInt ∧ decode? dottedName = none ∧
    ∀ q, Names looseName q → q = .authInt := by
  obtain ⟨named, beyond, unique⟩ := level_iff_named
  have names : Names looseName .authInt :=
    ⟨"\u00A0".toText, "AUTH-Int".toText, "\t".toText, by decide, by decide, by decide, by decide⟩
  have dotted : ∃ c ∈ dottedName, c.isAscii = false ∧ c.isBlank = false := by decide
  exact ⟨(named _ _).2 names, beyond _ dotted, fun q hq => unique _ q _ hq names⟩

end Qop

end SaslBind
