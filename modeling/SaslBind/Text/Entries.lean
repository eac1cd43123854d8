import SaslBind.Text.Basic

/-!
# Things by name

Names with something for each of them, in the order in which they came.

* `Entries.put` : one more, in the place of the one with the same name or at the end;
* `Entries.remove` : all but those with a name;
* `Entries.overlay` : the first ones, with others put in one after the other.

Main statements: `Entries.lookup_put` and `Entries.lookup_remove`, what is found changes for one name only.
-/

namespace SaslBind

/-- Things by name. -/
abbrev Entries (α : Type) := List (Text × α)

namespace Entries

variable {α : Type}

/-- One more thing, in the place of the one with the same name or at the end. -/
def put (name : Text) (a : α) : Entries α → Entries α
  | [] => [(name, a)]
  | e :: es => if e.1 = name then (name, a) :: es else e :: put name a es

/-- All things but those with a name. -/
def remove (name : Text) (es : Entries α) : Entries α := es.filter (·.1 ≠ name)

/-- Things with others put in one after the other. -/
def overlay (es more : Entries α) : Entries α := more.foldl (fun es e => put e.1 e.2 es) es

theorem lookup_put (name : Text) (a : α) (es : Entries α) (other : Text) :
    (put name a es).lookup other = if other = name then some a else es.lookup other := by
  induction es with
  | nil => simp [put, Text.lookup_cons]
  | cons e es ih =>
    obtain ⟨n, b⟩ := e
    by_cases hn : n = name
    · subst hn
      by_cases h : other = n <;> simp [put, Text.lookup_cons, h]
    · by_cases h : other = n
      · subst h
        simp [put, hn]
      · simp [put, Text.lookup_cons, hn, h, ih]

theorem lookup_map {β : Type} (f : Text → α → β) (es : Entries α) (name : Text) :
    (es.map fun e => (e.1, f e.1 e.2)).lookup name = (es.lookup name).map (f name) := by
  induction es with
  | nil => rfl
  | cons e es ih =>
    obtain ⟨key, a⟩ := e
    rw [List.map_cons, Text.lookup_cons, Text.lookup_cons, ih]
    by_cases h : name = key <;> simp [h]

theorem put_put (name : Text) (a b : α) (es : Entries α) : put name b (put name a es) = put name b es := by
  induction es with
  | nil => simp [put]
  | cons e es ih =>
    by_cases hn : e.1 = name
    · simp [put, hn]
    · simp [put, hn, ih]

theorem lookup_remove (name : Text) (es : Entries α) (other : Text) :
    (remove name es).lookup other = if other = name then none else es.lookup other := by
  induction es with
  | nil => simp [remove]
  | cons e es ih =>
    obtain ⟨n, b⟩ := e
    by_cases hn : n = name
    · have here : remove name ((n, b) :: es) = remove name es := by simp [remove, hn]
      rw [here, ih, Text.lookup_cons, hn]
      split <;> rfl
    · have here : remove name ((n, b) :: es) = (n, b) :: remove name es := by simp [remove, hn]
      rw [here, Text.lookup_cons, Text.lookup_cons, ih]
      by_cases h : other = n
      · rw [if_pos h, if_pos h, if_neg (h ▸ hn)]
      · rw [if_neg h, if_neg h]

end Entries

end SaslBind
