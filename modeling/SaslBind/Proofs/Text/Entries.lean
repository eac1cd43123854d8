import Mathlib.Data.List.Nodup
import SaslBind.Text.Entries

/-!
# Names and what stands under them

What is in entries is found under its name, where each name is there once; putting entries in keeps it so.

* `Entries.mem_of_lookup`, `lookup_of_mem`, `exists_lookup` : what is found and what is there;
* `Entries.names_put`, `nodup_put`, `nodup_overlay` : the names after something was put in;
* `Entries.overlay_of_nodup` : entries with other names are put in as they stand.
-/

namespace SaslBind

namespace Entries

variable {α : Type} {es more : Entries α} {name : Text} {a : α}

theorem mem_of_lookup (h : es.lookup name = some a) : (name, a) ∈ es := by
  obtain ⟨before, after, rfl, -⟩ := List.lookup_eq_some_iff.1 h
  simp

theorem lookup_of_mem (hn : (es.map Prod.fst).Nodup) (h : (name, a) ∈ es) : es.lookup name = some a := by
  induction es with
  | nil => cases h
  | cons e es ih =>
    obtain ⟨hne, hn⟩ := List.nodup_cons.1 hn
    rw [Text.lookup_cons]
    rcases List.mem_cons.1 h with rfl | h
    · exact if_pos rfl
    · rw [if_neg fun (he : name = e.1) => hne (he ▸ List.mem_map_of_mem (f := Prod.fst) h), ih hn h]

theorem mem_put {e : Text × α} (h : e ∈ put name a es) : e = (name, a) ∨ e ∈ es := by
  induction es with
  | nil => exact .inl (List.mem_singleton.1 h)
  | cons d es ih =>
    unfold put at h
    split at h
    · exact (List.mem_cons.1 h).imp_right (List.mem_cons_of_mem _)
    · rcases List.mem_cons.1 h with rfl | h
      · exact .inr List.mem_cons_self
      · exact (ih h).imp_right (List.mem_cons_of_mem _)

theorem mem_overlay {e : Text × α} (h : e ∈ overlay es more) : e ∈ es ∨ e ∈ more := by
  induction more generalizing es with
  | nil => exact .inl h
  | cons d more ih =>
    rcases ih h with h | h
    · exact (mem_put h).elim (fun he => .inr (he ▸ List.mem_cons_self)) .inl
    · exact .inr (List.mem_cons_of_mem _ h)

/-- The names after something was put in: those that there were, with the new one at the end if it is new. -/
theorem names_put (name : Text) (a : α) (es : Entries α) :
    (put name a es).map Prod.fst =
      if name ∈ es.map Prod.fst then es.map Prod.fst else es.map Prod.fst ++ [name] := by
  induction es with
  | nil => rfl
  | cons e es ih =>
    unfold put
    by_cases he : e.1 = name
    · simp [he]
    · rw [if_neg he, List.map_cons, ih, List.map_cons]
      by_cases hn : name ∈ es.map Prod.fst
      · rw [if_pos hn, if_pos (List.mem_cons_of_mem _ hn)]
      · rw [if_neg hn, if_neg (by simpa [Ne.symm he] using hn), List.cons_append]

theorem nodup_put (h : (es.map Prod.fst).Nodup) (name : Text) (a : α) : ((put name a es).map Prod.fst).Nodup := by
  rw [names_put]
  split
  · exact h
  · next hn =>
    refine List.nodup_append.2 ⟨h, List.nodup_singleton _, fun m hm n hs he => hn ?_⟩
    rwa [← List.mem_singleton.1 hs, ← he]

theorem nodup_overlay (h : (es.map Prod.fst).Nodup) (more : Entries α) :
    ((overlay es more).map Prod.fst).Nodup := by
  induction more generalizing es with
  | nil => exact h
  | cons e more ih => exact ih (nodup_put h e.1 e.2)

theorem exists_lookup (h : name ∈ es.map Prod.fst) : ∃ a, es.lookup name = some a := by
  obtain ⟨e, he, rfl⟩ := List.mem_map.1 h
  refine Option.isSome_iff_exists.1 (Option.isSome_iff_ne_none.2 fun hn => ?_)
  simpa using List.lookup_eq_none_iff.1 hn e he

theorem put_of_notMem (h : name ∉ es.map Prod.fst) (a : α) : put name a es = es ++ [(name, a)] := by
  induction es with
  | nil => rfl
  | cons e es ih =>
    obtain ⟨hne, h⟩ := not_or.1 (mt List.mem_cons.2 h)
    rw [put, if_neg (Ne.symm hne), ih h, List.cons_append]

/-- Where each name is there once, entries are put in as they stand. -/
theorem overlay_of_nodup (h : ((es ++ more).map Prod.fst).Nodup) : overlay es more = es ++ more := by
  induction more generalizing es with
  | nil => exact (List.append_nil es).symm
  | cons e more ih =>
    have next : es ++ e :: more = es ++ [e] ++ more := by simp
    have new : e.1 ∉ es.map Prod.fst := by
      rw [List.map_append, List.map_cons] at h
      exact fun he => (List.nodup_append.1 h).2.2 _ he _ List.mem_cons_self rfl
    have step : overlay es (e :: more) = overlay (put e.1 e.2 es) more := rfl
    rw [step, put_of_notMem new, next]
    exact ih (next ▸ h)

theorem lookup_filter (keeps : Text → Bool) (es : Entries α) (name : Text) :
    List.lookup name (es.filter (keeps ·.1)) = if keeps name then es.lookup name else none := by
  induction es with
  | nil => simp
  | cons e es ih =>
    obtain ⟨key, a⟩ := e
    cases hk : keeps key with
    | true =>
      simp only [List.filter_cons, hk, if_true, Text.lookup_cons, ih]
      by_cases hn : name = key
      · simp [hn, hk]
      · simp [hn]
    | false =>
      simp only [List.filter_cons, hk, Bool.false_eq_true, if_false, Text.lookup_cons, ih]
      by_cases hn : name = key
      · simp [hn, hk]
      · simp [hn]

end Entries

end SaslBind
