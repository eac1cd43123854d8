import SaslBind.Proofs.Qop.Listing

/-!
# Lists one after the other

Two lists with a comma between them are decoded to the levels of the first and then those of the second.  If an item is
unknown the whole is not decoded, and the fault is that of the first list that has one.

* `Qop.decodeItems_append` : items before and after others;
* `Qop.FirstUnknown items item` : the first item that names no level; `decodeItems_eq_error_iff`, it is the error;
* `Qop.decodeItems_eq_ok_iff` : the levels are those of the items that are not blank, in their order.

Main statement: `decodeText_joined`.
-/

namespace SaslBind

namespace Qop

/-! ### Items -/

theorem decodeItems_append (items others : List Text) :
    decodeItems (items ++ others) =
      (decodeItems items).bind fun first => (decodeItems others).map (first ++ ·) := by
  induction items with
  | nil =>
    cases h : decodeItems others <;> simp [decodeItems, h, Except.bind, Except.map]
  | cons item items ih =>
    rw [List.cons_append, decodeItems, decodeItems]
    split
    · exact ih
    · cases decode? item with
      | none => rfl
      | some q =>
        rw [ih]
        cases decodeItems items with
        | error e => rfl
        | ok first => cases decodeItems others <;> rfl

/-- An item that is not blank and names no level, after items that are blank or name one. -/
def FirstUnknown (items : List Text) (item : Text) : Prop :=
  ∃ before after, items = before ++ item :: after ∧ (∀ other ∈ before, other.isBlank ∨ (decode? other).isSome) ∧
    item.isBlank = false ∧ decode? item = none

theorem not_firstUnknown_nil (item : Text) : ¬ FirstUnknown [] item := by
  rintro ⟨before, after, h, -⟩
  simp at h

theorem firstUnknown_cons_of_unknown {item : Text} {items : List Text} (hb : item.isBlank = false)
    (hd : decode? item = none) {unknown : Text} : FirstUnknown (item :: items) unknown ↔ unknown = item := by
  constructor
  · rintro ⟨before, after, h, known, -⟩
    cases before with
    | nil => exact (List.cons.inj h).1.symm
    | cons first before =>
      obtain rfl := (List.cons.inj h).1
      have := known item List.mem_cons_self
      simp [hb, hd] at this
  · rintro rfl
    exact ⟨[], items, rfl, fun other ho => absurd ho List.not_mem_nil, hb, hd⟩

theorem firstUnknown_cons_of_known {item : Text} {items : List Text} (known : item.isBlank ∨ (decode? item).isSome)
    {unknown : Text} : FirstUnknown (item :: items) unknown ↔ FirstUnknown items unknown := by
  constructor
  · rintro ⟨before, after, h, others, hb, hd⟩
    cases before with
    | nil =>
      obtain rfl := (List.cons.inj h).1
      simp [hb, hd] at known
    | cons first before =>
      exact ⟨before, after, (List.cons.inj h).2, fun other ho => others other (List.mem_cons_of_mem _ ho), hb, hd⟩
  · rintro ⟨before, after, rfl, others, hb, hd⟩
    refine ⟨item :: before, after, rfl, fun other ho => ?_, hb, hd⟩
    rcases List.mem_cons.1 ho with rfl | ho
    · exact known
    · exact others other ho

theorem decodeItems_eq_error_iff {items : List Text} {shown : Text} :
    decodeItems items = .error shown ↔ ∃ item, FirstUnknown items item ∧ shown = item.strip := by
  induction items with
  | nil => simp [decodeItems, not_firstUnknown_nil]
  | cons item items ih =>
    rw [decodeItems]
    cases hb : item.isBlank with
    | true => simp only [if_true, ih, firstUnknown_cons_of_known (.inl hb)]
    | false =>
      cases hd : decode? item with
      | none => simp [firstUnknown_cons_of_unknown hb hd, eq_comm]
      | some q =>
        have known : item.isBlank ∨ (decode? item).isSome := .inr (by rw [hd]; rfl)
        simp only [firstUnknown_cons_of_known known, ← ih]
        cases decodeItems items <;> simp [Except.map]

theorem decodeItems_eq_ok_iff {items : List Text} {levels : List Qop} :
    decodeItems items = .ok levels ↔ (items.filter (!·.isBlank)).map decode? = levels.map some := by
  induction items generalizing levels with
  | nil => cases levels <;> simp [decodeItems]
  | cons item items ih =>
    rw [decodeItems]
    cases hb : item.isBlank with
    | true => simp [hb, ih]
    | false =>
      cases hd : decode? item with
      | none => cases levels <;> simp [hb, hd]
      | some q =>
        cases levels with
        | nil => cases decodeItems items <;> simp [hb, hd, Except.map]
        | cons p levels =>
          have rest := @ih levels
          cases hi : decodeItems items with
          | error e => simp_all [Except.map]
          | ok found => simp_all [Except.map]

/-! ### Lists -/

theorem decodeText_append (s t : Text) :
    decodeText (s ++ ",".toText ++ t) = (do
      let first ← decodeText s
      let rest ← decodeText t
      pure (first ++ rest)) := by
  have items : (s ++ ",".toText ++ t).split comma = s.split comma ++ t.split comma := by
    rw [List.append_assoc]
    exact Text.split_append_cons comma s t
  have whole : decodeList (s ++ ",".toText ++ t) =
      (decodeList s).bind fun first => (decodeList t).map (first ++ ·) := by
    rw [decodeList]
    exact (congrArg decodeItems items).trans (decodeItems_append _ _)
  rw [decodeText, whole, decodeText, decodeText]
  cases decodeList s with
  | error e => rfl
  | ok first => cases decodeList t <;> rfl

theorem decodeText_of_isBlank {t : Text} (h : t.isBlank) : decodeText t = .ok [] := by
  have noComma : comma ∉ t := by
    intro hc
    have blank := List.all_eq_true.1 h comma hc
    revert blank
    decide
  have items : t.split (CodePoint.ofChar ',') = [t] := Text.split_of_not_mem noComma
  rw [decodeText, decodeList, items, decodeItems, if_pos h]
  rfl

theorem decodeText_of_blank_item {b : Text} (h : b.isBlank) (s t : Text) :
    decodeText (b ++ ",".toText ++ t) = decodeText t ∧ decodeText (s ++ ",".toText ++ b) = decodeText s ∧
      decodeText (s ++ ",".toText ++ b ++ ",".toText ++ t) = decodeText (s ++ ",".toText ++ t) := by
  have nothing := decodeText_of_isBlank h
  have after : decodeText (s ++ ",".toText ++ b) = decodeText s := by
    rw [decodeText_append, nothing]
    cases decodeText s with
    | error f => rfl
    | ok first => exact congrArg Except.ok (List.append_nil first)
  refine ⟨?_, after, ?_⟩
  · rw [decodeText_append, nothing]
    cases decodeText t <;> rfl
  · rw [decodeText_append, after, decodeText_append]

theorem decodeText_eq (t : Text) :
    decodeText t =
      match decodeItems (t.split comma) with
      | .ok levels => .ok levels
      | .error shown => .error (.unknownQop shown) := by
  change (decodeItems (t.split comma)).mapError Fault.unknownQop = _
  cases decodeItems (t.split comma) <;> rfl

theorem decodeText_eq_ok_iff {t : Text} {levels : List Qop} :
    decodeText t = .ok levels ↔ ((t.split comma).filter (!·.isBlank)).map decode? = levels.map some := by
  rw [← decodeItems_eq_ok_iff, decodeText_eq]
  cases decodeItems (t.split comma) <;> simp

theorem decodeText_eq_error_iff {t : Text} {fault : Fault} :
    decodeText t = .error fault ↔ ∃ item, FirstUnknown (t.split comma) item ∧ fault = .unknownQop item.strip := by
  have items : decodeText t = .error fault ↔
      ∃ shown, decodeItems (t.split comma) = .error shown ∧ fault = .unknownQop shown := by
    rw [decodeText_eq]
    cases decodeItems (t.split comma) <;> simp [eq_comm]
  rw [items]
  constructor
  · rintro ⟨shown, hd, rfl⟩
    obtain ⟨item, first, rfl⟩ := decodeItems_eq_error_iff.1 hd
    exact ⟨item, first, rfl⟩
  · rintro ⟨item, first, rfl⟩
    exact ⟨_, decodeItems_eq_error_iff.2 ⟨item, first, rfl⟩, rfl⟩

theorem message_unknownQop (item : Text) :
    (Fault.unknownQop item).message = "Unsupported SASL quality of protection '".toText ++ item ++ "'".toText := rfl

/-- **Lists one after the other.**  A comma between two lists is decoded to the levels of both, in their order and with
repetitions; the fault of the first list comes before that of the second.  So blank items vanish at the beginning, at the
end and in between.  Of any list the levels are those of its items that are not blank, one by one; and its fault names
the first item that has no level, without the blanks around it and otherwise as it is written. -/
theorem decodeText_joined :
    (∀ s t, decodeText (s ++ ",".toText ++ t) = do
      let first ← decodeText s
      let rest ← decodeText t
      pure (first ++ rest)) ∧
    (∀ s b t : Text, b.isBlank →
      decodeText (b ++ ",".toText ++ t) = decodeText t ∧ decodeText (s ++ ",".toText ++ b) = decodeText s ∧
        decodeText (s ++ ",".toText ++ b ++ ",".toText ++ t) = decodeText (s ++ ",".toText ++ t)) ∧
    (∀ t levels, decodeText t = .ok levels ↔
      ((t.split comma).filter (!·.isBlank)).map decode? = levels.map some) ∧
    ∀ t fault, decodeText t = .error fault ↔ ∃ item, FirstUnknown (t.split comma) item ∧
      fault = .unknownQop item.strip ∧
        fault.message = "Unsupported SASL quality of protection '".toText ++ item.strip ++ "'".toText := by
  refine ⟨decodeText_append, fun s b t blank => decodeText_of_blank_item blank s t,
    fun t levels => decodeText_eq_ok_iff, fun t fault => ?_⟩
  rw [decodeText_eq_error_iff]
  constructor
  · rintro ⟨item, first, rfl⟩
    exact ⟨item, first, rfl, message_unknownQop item.strip⟩
  · rintro ⟨item, first, he, -⟩
    exact ⟨item, first, he⟩

/-- A list with a blank item and, between two levels, an item that is none. -/
def mixedList : Text := "auth, \t, Ssl ,auth-int".toText

/-- The blank item vanishes, and the fault names the item that is no level. -/
theorem decodeText_joined_mixedList :
    Text.isBlank " \t".toText ∧ decodeText mixedList = .error (.unknownQop "Ssl".toText) ∧
      decodeText mixedList = decodeText "auth, Ssl ,auth-int".toText := by
  have blank : Text.isBlank " \t".toText := by decide
  obtain ⟨joined, skips, -, -⟩ := decodeText_joined
  have same : decodeText mixedList = decodeText "auth, Ssl ,auth-int".toText :=
    (skips "auth".toText " \t".toText " Ssl ,auth-int".toText blank).2.2
  have first := joined "auth, Ssl ".toText "auth-int".toText
  refine ⟨blank, ?_, same⟩
  exact same.trans first

end Qop

end SaslBind
