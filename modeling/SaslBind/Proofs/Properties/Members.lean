import SaslBind.Proofs.Json.RoundTrip
import SaslBind.Proofs.Properties.Order
import SaslBind.Proofs.Text.Surrogate
import SaslBind.Properties.Json

/-!
# What is written of fields

The JSON of an object has a member for each of its fields.  Read again, as a program has what it read, each of them but
the secret is a value that the field takes as the one that it held: texts are as they were, whatever characters are in
them, and levels are named by their values.

* `Json.toValue` : the value that is made of JSON;
* `Field.exists_fieldJson` : what is written of a field, and taken by it again;
* `exists_members`, `names_of_members`, `lookup_of_members` : the members of a table.
-/

namespace SaslBind

namespace Json

mutual

/-- The value that is made of JSON: arrays are lists, and of several members with one name the last counts. -/
def toValue : Json → Value
  | .null => .null
  | .bool b => .bool b
  | .int n => .int n
  | .real x => .real x
  | .text t => .text t
  | .array items => .list (toValues items)
  | .object members => .dict (Entries.overlay [] (toEntries members))

def toValues : List Json → List Value
  | [] => []
  | j :: js => toValue j :: toValues js

def toEntries : List (Text × Json) → Entries Value
  | [] => []
  | (name, j) :: ms => (name, toValue j) :: toEntries ms

end

theorem toValues_eq (js : List Json) : toValues js = js.map toValue := by
  induction js with
  | nil => rfl
  | cons j js ih => rw [toValues, ih, List.map_cons]

theorem toEntries_eq (ms : List (Text × Json)) : toEntries ms = ms.map fun m => (m.1, m.2.toValue) := by
  induction ms with
  | nil => rfl
  | cons m ms ih => rw [toEntries, ih, List.map_cons]

theorem itemsPlain_texts {ts : List Text} (h : ∀ t ∈ ts, t.hasSurrogate = false) : ItemsPlain (ts.map .text) := by
  induction ts with
  | nil => trivial
  | cons t ts ih => exact ⟨h t List.mem_cons_self, ih fun u hu => h u (List.mem_cons_of_mem _ hu)⟩

end Json

namespace Value

theorem textJson_of_plain {t : Text} (h : t.hasSurrogate = false) : textJson t = .ok (.text t) := by
  rw [textJson, Text.surrogateRun?_eq_none_iff.2 h]

theorem toJsons_levels (levels : List Qop) :
    toJsons (levels.map .qop) = .ok ((levels.map Qop.value).map .text) := by
  induction levels with
  | nil => rfl
  | cons q levels ih =>
    have first : (qop q).toJson = .ok (.text q.value) := rfl
    simp only [List.map_cons, toJsons, first, ih]

end Value

namespace Field

theorem hasSurrogate_mask (isEmpty : Bool) : (Value.mask isEmpty).hasSurrogate = false := by
  cases isEmpty <;> decide

theorem hasSurrogate_level (q : Qop) : q.value.hasSurrogate = false := by cases q <;> decide

theorem check_values (q : Qop) (qs : List Qop) :
    allowedQop.check (.list (((q :: qs).map Qop.value).map .text)) = .ok (.allowedQop (q :: qs)) := by
  have taken : (((q :: qs).map Qop.value).map Value.text).map checkLevel = (q :: qs).map .ok := by
    rw [List.map_map, List.map_map]
    refine List.map_congr_left fun r _ => ?_
    simp only [Function.comp_apply, checkLevel, hasSurrogate_level, Qop.ofValue?_value, Bool.false_eq_true, if_false]
  change (checkItems .allowedQop (((q :: qs).map Qop.value).map .text)).map Attribute.allowedQop = _
  rw [checkItems_of_levels taken]
  rfl

/-- What a field holds is written as JSON without surrogates, and the field takes that as what it holds, if it is not
the secret. -/
theorem exists_fieldJson {f : Field} {v : Value} (h : f.Holds v) (plain : ∀ t, v = .text t → t.hasSurrogate = false) :
    ∃ j, Properties.fieldJson f v = .ok j ∧ j.IsPlain ∧
      (f ≠ .password → ∃ a, f.check j.toValue = .ok a ∧ a.value = v) := by
  obtain ⟨a, ha, stored⟩ := check_of_holds h
  have nothing (hv : v = .null) (hf : f ≠ .password) : ∃ j, Properties.fieldJson f v = .ok j ∧ j.IsPlain ∧
      (f ≠ .password → ∃ a, f.check j.toValue = .ok a ∧ a.value = v) := by
    subst hv
    exact ⟨.null, if_neg hf, trivial, fun _ => ⟨a, ha, stored⟩⟩
  have text (hv : ∃ t, v = .text t) (hf : f ≠ .password) : ∃ j, Properties.fieldJson f v = .ok j ∧ j.IsPlain ∧
      (f ≠ .password → ∃ a, f.check j.toValue = .ok a ∧ a.value = v) := by
    obtain ⟨t, rfl⟩ := hv
    exact ⟨.text t, (if_neg hf).trans (Value.textJson_of_plain (plain t rfl)), plain t rfl, fun _ => ⟨a, ha, stored⟩⟩
  cases f with
  | authenticationId => exact text h Field.noConfusion
  | password =>
    obtain ⟨bs, rfl⟩ := h
    exact ⟨.text (Value.mask bs.isEmpty), rfl, hasSurrogate_mask _, fun hf => absurd rfl hf⟩
  | authorizationId => exact h.elim (nothing · Field.noConfusion) (text · Field.noConfusion)
  | realm => exact h.elim (nothing · Field.noConfusion) (text · Field.noConfusion)
  | allowedQop =>
    obtain ⟨q, qs, rfl⟩ := h
    refine ⟨.array (((q :: qs).map Qop.value).map .text), ?_, Json.itemsPlain_texts ?_,
      fun _ => ⟨.allowedQop (q :: qs), ?_, rfl⟩⟩
    · change (Value.toJsons ((q :: qs).map .qop)).map Json.array = _
      rw [Value.toJsons_levels]
      rfl
    · intro t ht
      obtain ⟨r, -, rfl⟩ := List.mem_map.1 ht
      exact hasSurrogate_level r
    · have values : (Json.array (((q :: qs).map Qop.value).map .text)).toValue =
          .list (((q :: qs).map Qop.value).map .text) := by
        rw [Json.toValue, Json.toValues_eq, List.map_map]
        rfl
      rw [values, check_values]

end Field

namespace Properties

variable {es : Entries Value} {ms : List (Text × Json)}

/-! ### Members -/

/-- The members of a table are written, if what stands under the names of fields is. -/
theorem exists_members
    (h : ∀ (f : Field) (v : Value), (f.name.toText, v) ∈ es → ∃ j, fieldJson f v = .ok j ∧ j.IsPlain) :
    ∃ ms, members es = .ok ms ∧ Json.MembersPlain ms := by
  induction es with
  | nil => exact ⟨[], rfl, trivial⟩
  | cons e es ih =>
    obtain ⟨name, v⟩ := e
    obtain ⟨ms, rest, plain⟩ := ih fun f v hv => h f v (List.mem_cons_of_mem _ hv)
    cases hf : Field.ofName? name with
    | none => exact ⟨ms, by simp only [members, hf, rest], plain⟩
    | some f =>
      obtain rfl := eq_name_of_ofName? hf
      obtain ⟨j, hj, here⟩ := h f v List.mem_cons_self
      refine ⟨(f.name.toText, j) :: ms, ?_, Text.hasSurrogate_toText _, here, plain⟩
      simp only [members, hf, hj, rest]
      rfl

/-- Members are those of the first entry, if it is that of a field, and those of the others. -/
theorem members_cons {name : Text} {v : Value} (h : members ((name, v) :: es) = .ok ms) :
    (Field.ofName? name = none ∧ members es = .ok ms) ∨
    ∃ (f : Field) (j : Json) (rest : List (Text × Json)), name = f.name.toText ∧ fieldJson f v = .ok j ∧
      members es = .ok rest ∧ ms = (name, j) :: rest := by
  cases hf : Field.ofName? name with
  | none =>
    simp only [members, hf] at h
    exact .inl ⟨rfl, h⟩
  | some f =>
    simp only [members, hf] at h
    obtain ⟨j, hj, h⟩ := ok_of_bind h
    obtain ⟨rest, hr, h⟩ := ok_of_bind h
    exact .inr ⟨f, j, rest, eq_name_of_ofName? hf, hj, hr, (Except.ok.inj h).symm⟩

/-- The members are those of the fields, in their order. -/
theorem names_of_members (h : members es = .ok ms) : ms.map Prod.fst = (fieldsOf es).map (·.name.toText) := by
  induction es generalizing ms with
  | nil =>
    obtain rfl := Except.ok.inj h
    rfl
  | cons e es ih =>
    obtain ⟨name, v⟩ := e
    rcases members_cons h with ⟨hf, others⟩ | ⟨f, j, rest, rfl, -, others, rfl⟩
    · rw [ih others, fieldsOf, fieldsOf, List.map_cons, List.filterMap_cons_none hf]
    · rw [List.map_cons, ih others, fieldsOf, fieldsOf, List.map_cons, List.filterMap_cons_some (Field.ofName?_name f),
        List.map_cons]

/-- Under the name of a field stands what is written of it. -/
theorem lookup_of_members (h : members es = .ok ms) {f : Field} {v : Value} (hv : es.lookup f.name.toText = some v) :
    ∃ j, fieldJson f v = .ok j ∧ ms.lookup f.name.toText = some j := by
  induction es generalizing ms with
  | nil => cases hv
  | cons e es ih =>
    obtain ⟨name, w⟩ := e
    rw [Text.lookup_cons] at hv
    rcases members_cons h with ⟨hf, others⟩ | ⟨g, j, rest, rfl, hj, others, rfl⟩
    · have hn : f.name.toText ≠ name := by
        rintro rfl
        rw [Field.ofName?_name] at hf
        cases hf
      rw [if_neg hn] at hv
      exact ih others hv
    · rw [Text.lookup_cons]
      by_cases hg : f.name.toText = g.name.toText
      · obtain rfl := Field.name_injective hg
        rw [if_pos rfl] at hv
        obtain rfl := Option.some.inj hv
        exact ⟨j, hj, if_pos rfl⟩
      · rw [if_neg hg] at hv ⊢
        exact ih others hv

theorem nodup_fieldsOf (h : (es.map Prod.fst).Nodup) : (fieldsOf es).Nodup :=
  List.Nodup.filterMap (fun _ _ _ hf hg => (eq_name_of_ofName? hf).trans (eq_name_of_ofName? hg).symm) h

end Properties

end SaslBind
