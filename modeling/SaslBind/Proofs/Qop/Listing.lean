import SaslBind.Qop.OfValue

/-!
# Lists of levels, written and decoded

What levels are written as is decoded to the same levels.  A list that someone else wrote may have blanks, empty items
and capitals, and those are gone once its levels are written again; it comes back as it was exactly if it has none.

* `Text.split_join` : splitting takes joining back, if the separator is in no item;
* `Qop.decodeList_toText` : levels are decoded from what they are written as;
* `Qop.unknownQop_of_decodeText` : a list that is not decoded has an unknown item;
* `Qop.IsListing` : the lists that levels are written as; `isListing_iff`, these and no others.

Main statement: `listing_roundTrip`.
-/

namespace SaslBind

namespace Text

variable {separator : CodePoint}

theorem split_of_not_mem {t : Text} (h : separator ∉ t) : t.split separator = [t] := by
  induction t with
  | nil => rfl
  | cons c t ih =>
    obtain ⟨hc, ht⟩ := not_or.1 (mt List.mem_cons.2 h)
    rw [split, if_neg (Ne.symm hc), ih ht]

theorem split_join {items : List Text} (hne : items ≠ []) (h : ∀ item ∈ items, separator ∉ item) :
    (join [separator] items).split separator = items := by
  induction items with
  | nil => exact absurd rfl hne
  | cons item items ih =>
    have first : item.split separator = [item] := split_of_not_mem (h item List.mem_cons_self)
    cases items with
    | nil => exact first
    | cons next items =>
      have rest := ih (List.cons_ne_nil _ _) fun i hi => h i (List.mem_cons_of_mem _ hi)
      have cut : join [separator] (item :: next :: items) =
          item ++ separator :: join [separator] (next :: items) := by simp [join]
      rw [cut, split_append_cons, first, rest, List.singleton_append]

end Text

namespace Qop

def comma : CodePoint := CodePoint.ofChar ','

/-! ### Values as items of a list -/

theorem comma_not_mem_value (q : Qop) : comma ∉ q.value := by cases q <;> decide

theorem isBlank_value (q : Qop) : q.value.isBlank = false := by cases q <;> decide

theorem decode?_value (q : Qop) : decode? q.value = some q := by cases q <;> decide

theorem decodeItems_values (levels : List Qop) : decodeItems (levels.map value) = .ok levels := by
  induction levels with
  | nil => rfl
  | cons q levels ih =>
    rw [List.map_cons, decodeItems, isBlank_value, decode?_value, ih]
    rfl

/-! ### What levels are written as -/

theorem split_toText {levels : List Qop} (h : levels ≠ []) : (toText levels).split comma = levels.map value := by
  refine Text.split_join (mt List.map_eq_nil_iff.1 h) fun item hi => ?_
  obtain ⟨q, -, rfl⟩ := List.mem_map.1 hi
  exact comma_not_mem_value q

/-- Levels are decoded from what they are written as. -/
theorem decodeList_toText (levels : List Qop) : decodeList (toText levels) = .ok levels := by
  cases levels with
  | nil => rfl
  | cons q levels =>
    -- only here are the items those of the levels: no levels are written as one empty item
    have items : (toText (q :: levels)).split (CodePoint.ofChar ',') = (q :: levels).map value :=
      split_toText (List.cons_ne_nil _ _)
    rw [decodeList, items, decodeItems_values]

theorem decodeText_toText (levels : List Qop) : decodeText (toText levels) = .ok levels := by
  rw [decodeText, decodeList_toText]
  rfl

/-- The only fault of a list is that of its first unknown item. -/
theorem unknownQop_of_decodeText {t : Text} {fault : Fault} (h : decodeText t = .error fault) :
    ∃ item, fault = .unknownQop item := by
  unfold decodeText at h
  cases hd : decodeList t with
  | ok levels =>
    rw [hd] at h
    cases h
  | error item =>
    rw [hd] at h
    cases h
    exact ⟨item, rfl⟩

/-- A list as levels are written: nothing at all, or values with a comma between each two of them. -/
def IsListing (t : Text) : Prop :=
  t = [] ∨ ∃ items : List Text, items ≠ [] ∧ (∀ item ∈ items, item ∈ all.map value) ∧ t = Text.join ",".toText items

theorem exists_levels {items : List Text} (h : ∀ item ∈ items, item ∈ all.map value) :
    ∃ levels : List Qop, levels.map value = items := by
  induction items with
  | nil => exact ⟨[], rfl⟩
  | cons item items ih =>
    obtain ⟨q, -, rfl⟩ := List.mem_map.1 (h item List.mem_cons_self)
    obtain ⟨levels, rfl⟩ := ih fun i hi => h i (List.mem_cons_of_mem _ hi)
    exact ⟨q :: levels, rfl⟩

theorem isListing_iff {t : Text} : IsListing t ↔ ∃ levels, toText levels = t := by
  constructor
  · rintro (rfl | ⟨items, -, hitems, rfl⟩)
    · exact ⟨[], rfl⟩
    · obtain ⟨levels, rfl⟩ := exists_levels hitems
      exact ⟨levels, rfl⟩
  · rintro ⟨levels, rfl⟩
    cases levels with
    | nil => exact .inl rfl
    | cons q levels =>
      have values : ∀ item ∈ (q :: levels).map value, item ∈ all.map value :=
        fun item hi => List.map_subset value (fun q _ => mem_all q) hi
      exact .inr ⟨_, List.cons_ne_nil _ _, values, rfl⟩

/-- **Lists of levels and back.**  Levels are decoded from what they are written as, repetitions and order included.
The levels of any list that is decoded are written as a list with the same levels, and that is the list itself exactly
if it is empty or made of values with commas between them and nothing else.  So different levels are written as
different lists. -/
theorem listing_roundTrip :
    (∀ levels, decodeText (toText levels) = .ok levels) ∧
    (∀ t levels, decodeText t = .ok levels →
      decodeText (toText levels) = .ok levels ∧ (toText levels = t ↔ IsListing t)) ∧
    Function.Injective toText := by
  refine ⟨decodeText_toText, fun t levels h => ⟨decodeText_toText levels, fun he => ?_, fun hl => ?_⟩, fun l m he => ?_⟩
  · exact isListing_iff.2 ⟨levels, he⟩
  · obtain ⟨others, rfl⟩ := isListing_iff.1 hl
    rw [decodeText_toText] at h
    rw [Except.ok.inj h]
  · have same := decodeText_toText l
    rw [he, decodeText_toText] at same
    exact (Except.ok.inj same).symm

/-- A list with blanks, an empty item and capitals. -/
def looseList : Text := " AUTH-INT ,,auth".toText

/-- The loose list is written again without them, and decoded to the same two levels. -/
theorem listing_roundTrip_looseList :
    decodeText looseList = .ok [.authInt, .auth] ∧ decodeText "auth-int,auth".toText = .ok [.authInt, .auth] ∧
      ¬ IsListing looseList := by
  have decoded : decodeText looseList = .ok [.authInt, .auth] := rfl
  have other : toText [.authInt, .auth] ≠ looseList := by decide
  obtain ⟨-, loose, -⟩ := listing_roundTrip
  obtain ⟨again, same⟩ := loose looseList _ decoded
  exact ⟨decoded, again, fun h => other (same.2 h)⟩

end Qop

end SaslBind
