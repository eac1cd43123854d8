import Mathlib.Data.List.Forall2
import SaslBind.Text.Entries

/-!
# Related results and related tables

Two computations that differ in one input are compared step by step.  What they compare in is carried by two
notions:

* `Agree R` : two results are the same fault, or values that `R` relates;
* `Entries.Related R` : two tables have the same names in the same order, and `R` relates what stands under each.

A single result that is made of others is taken apart by `ok_of_map` and `ok_of_bind`.

Main statements: `Agree.map`, `Agree.mapError` and `Agree.bind`, related steps give related results, and
`Related.lookup`, `Related.put`, `Related.remove`, `Related.overlay`, related tables stay related.
-/

namespace SaslBind

/-- What a result was before something was made of it. -/
theorem ok_of_map {ε α β : Type} {f : α → β} {x : Except ε α} {b : β} (h : x.map f = .ok b) :
    ∃ a, x = .ok a ∧ f a = b := by
  cases x with
  | error e => cases h
  | ok a => exact ⟨a, rfl, Except.ok.inj h⟩

/-- What a result was before a computation went on with it. -/
theorem ok_of_bind {ε α β : Type} {f : α → Except ε β} {x : Except ε α} {b : β} (h : x >>= f = .ok b) :
    ∃ a, x = .ok a ∧ f a = .ok b := by
  cases x with
  | error e => cases h
  | ok a => exact ⟨a, rfl, h⟩

/-- The same fault, or values that are related. -/
inductive Agree {ε α β : Type} (R : α → β → Prop) : Except ε α → Except ε β → Prop
  | ok {a : α} {b : β} (h : R a b) : Agree R (.ok a) (.ok b)
  | error (e : ε) : Agree R (.error e) (.error e)

namespace Agree

variable {ε α β γ δ : Type} {R : α → β → Prop} {S : γ → δ → Prop}

theorem refl {R : α → α → Prop} (hR : ∀ a, R a a) (x : Except ε α) : Agree R x x := by
  cases x with
  | error e => exact .error e
  | ok a => exact .ok (hR a)

theorem imp {S : α → β → Prop} (h : ∀ a b, R a b → S a b) {x : Except ε α} {y : Except ε β} (hxy : Agree R x y) :
    Agree S x y := by
  cases hxy with
  | ok hab => exact .ok (h _ _ hab)
  | error e => exact .error e

theorem map {f : α → γ} {g : β → δ} (hfg : ∀ a b, R a b → S (f a) (g b)) {x : Except ε α} {y : Except ε β}
    (h : Agree R x y) : Agree S (x.map f) (y.map g) := by
  cases h with
  | ok h => exact .ok (hfg _ _ h)
  | error e => exact .error e

theorem mapError {ε' : Type} (f : ε → ε') {x : Except ε α} {y : Except ε β} (h : Agree R x y) :
    Agree R (x.mapError f) (y.mapError f) := by
  cases h with
  | ok h => exact .ok h
  | error e => exact .error (f e)

theorem bind {f : α → Except ε γ} {g : β → Except ε δ} (hfg : ∀ a b, R a b → Agree S (f a) (g b)) {x : Except ε α}
    {y : Except ε β} (h : Agree R x y) : Agree S (x >>= f) (y >>= g) := by
  cases h with
  | ok h => exact hfg _ _ h
  | error e => exact .error e

theorem bind_same {R : γ → δ → Prop} {f : α → Except ε γ} {g : α → Except ε δ} (hfg : ∀ a, Agree R (f a) (g a))
    (x : Except ε α) : Agree R (x >>= f) (x >>= g) := by
  cases x with
  | error e => exact .error e
  | ok a => exact hfg a

/-- The same result with related things made of it. -/
theorem map_same {R : γ → δ → Prop} {f : α → γ} {g : α → δ} (hfg : ∀ a, R (f a) (g a)) (x : Except ε α) :
    Agree R (x.map f) (x.map g) := by
  cases x with
  | error e => exact .error e
  | ok a => exact .ok (hfg a)

/-- Two results that agree with a third one. -/
theorem join {S : α → γ → Prop} {T : β → γ → Prop} {x : Except ε α} {y : Except ε β} {z : Except ε γ}
    (hxy : Agree R x y) (h : ∀ a b c, R a b → S a c → T b c) (hxz : Agree S x z) : Agree T y z := by
  cases hxy with
  | ok hab =>
    cases hxz with
    | ok hac => exact .ok (h _ _ _ hab hac)
  | error e =>
    cases hxz with
    | error => exact .error e

theorem of_ok {a : α} {y : Except ε β} (h : Agree R (.ok a) y) : ∃ b, y = .ok b ∧ R a b := by
  cases h with
  | ok h => exact ⟨_, rfl, h⟩

theorem of_error {e : ε} {y : Except ε β} (h : Agree R (.error e) y) : y = .error e := by
  cases h with
  | error => rfl

end Agree

namespace Entries

variable {α : Type} {R : Text → α → α → Prop}

/-- Two tables with the same names in the same order, and related things under each name. -/
def Related (R : Text → α → α → Prop) : Entries α → Entries α → Prop :=
  List.Forall₂ fun e e' => e.1 = e'.1 ∧ R e.1 e.2 e'.2

namespace Related

theorem refl (hR : ∀ name a, R name a a) (es : Entries α) : Related R es es :=
  List.forall₂_same.2 fun e _ => ⟨rfl, hR e.1 e.2⟩

theorem cons {name : Text} {a a' : α} {es es' : Entries α} (ha : R name a a') (h : Related R es es') :
    Related R ((name, a) :: es) ((name, a') :: es') := List.Forall₂.cons ⟨rfl, ha⟩ h

theorem append {es es' fs fs' : Entries α} (h : Related R es es') (h' : Related R fs fs') :
    Related R (es ++ fs) (es' ++ fs') := List.rel_append h h'

/-- What is found under a name is related, or nothing is found in either table. -/
theorem lookup {es es' : Entries α} (h : Related R es es') (name : Text) :
    Option.Rel (R name) (es.lookup name) (es'.lookup name) := by
  induction h with
  | nil => exact .none
  | @cons e e' es es' he _ ih =>
    obtain ⟨n, a⟩ := e
    obtain ⟨n', a'⟩ := e'
    obtain ⟨rfl, ha⟩ := he
    rw [Text.lookup_cons, Text.lookup_cons]
    by_cases hn : name = n
    · subst hn
      simpa using Option.Rel.some ha
    · simpa [hn] using ih

theorem isSome_lookup {es es' : Entries α} (h : Related R es es') (name : Text) :
    (es.lookup name).isSome = (es'.lookup name).isSome := by
  have hl := h.lookup name
  revert hl
  generalize es.lookup name = a, es'.lookup name = b
  rintro (_ | _) <;> rfl

theorem isNone_lookup {es es' : Entries α} (h : Related R es es') (name : Text) :
    (es.lookup name).isNone = (es'.lookup name).isNone := by
  rw [← Option.not_isSome, ← Option.not_isSome, h.isSome_lookup]

/-- The first entry with a name of some kind has the same name in both tables. -/
theorem find? {es es' : Entries α} (h : Related R es es') (keeps : Text → Bool) :
    (es.find? fun e => keeps e.1).map (·.1) = (es'.find? fun e => keeps e.1).map (·.1) := by
  induction h with
  | nil => rfl
  | @cons e e' es es' he _ ih =>
    rw [List.find?_cons, List.find?_cons, ← he.1]
    cases keeps e.1 with
    | true => simp [he.1]
    | false => exact ih

/-- What stands under a name that relates equal things only is found alike. -/
theorem lookup_eq {es es' : Entries α} (h : Related R es es') {name : Text} (hR : ∀ a b, R name a b → a = b) :
    es.lookup name = es'.lookup name := by
  have hl := h.lookup name
  revert hl
  generalize es.lookup name = a, es'.lookup name = b
  rintro (hab | _)
  · rw [hR _ _ hab]
  · rfl

theorem put {es es' : Entries α} (h : Related R es es') {name : Text} {a a' : α} (ha : R name a a') :
    Related R (put name a es) (put name a' es') := by
  induction h with
  | nil => exact cons ha .nil
  | @cons e e' es es' he hes ih =>
    obtain ⟨n, b⟩ := e
    obtain ⟨n', b'⟩ := e'
    obtain ⟨rfl, hb⟩ := he
    by_cases hn : n = name
    · simpa [Entries.put, hn] using cons ha hes
    · simpa [Entries.put, hn] using cons hb ih

theorem filter {es es' : Entries α} (h : Related R es es') (keeps : Text → Bool) :
    Related R (es.filter fun e => keeps e.1) (es'.filter fun e => keeps e.1) :=
  List.rel_filter (p := fun e : Text × α => keeps e.1) (q := fun e : Text × α => keeps e.1)
    (fun _ _ he => by simp only [he.1]) h

theorem remove {es es' : Entries α} (h : Related R es es') (name : Text) :
    Related R (remove name es) (Entries.remove name es') := h.filter fun n => n ≠ name

/-- Putting the same things in keeps tables related. -/
theorem overlay {es es' : Entries α} (h : Related R es es') (hR : ∀ name a, R name a a) (more : Entries α) :
    Related R (overlay es more) (Entries.overlay es' more) := by
  unfold Entries.overlay
  induction more generalizing es es' with
  | nil => exact h
  | cons e more ih => exact ih (h.put (hR e.1 e.2))

end Related

end Entries

end SaslBind
