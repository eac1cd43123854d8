import SaslBind.Proofs.CommandLine.Grammar
import SaslBind.Proofs.Related

/-!
# Command lines that differ in values

Two command lines that differ only in texts attached to one option are read alike: with the same error, or with values
that differ only in texts for this option.  What is attached to a name that is ambiguous is no value, and the whole
token is reported.

* `AlikeAt`, `Spec.Alike` : values and command lines that differ only in texts for one option;
* `consume_alike` : reading on keeps what was read alike;
* `read_ambiguous` : the beginning of several names; `firstAmbiguous?_append`, the first such token counts.

Main statements: `parse_alike` and `parse_ambiguous`.
-/

namespace SaslBind

namespace CommandLine

variable {κ : Type}

/-- The same, or texts that are given for one and the same thing. -/
inductive AlikeAt {α : Type} (a : α) : α × Given → α × Given → Prop
  | same (x : α × Given) : AlikeAt a x x
  | given (v w : Text) : AlikeAt a (a, .text v) (a, .text w)

theorem AlikeAt.fst {α : Type} {a : α} {x y : α × Given} (h : AlikeAt a x y) : x.1 = y.1 := by
  cases h <;> rfl

theorem AlikeAt.map {α β : Type} {a : α} {x y : α × Given} (h : AlikeAt a x y) (f : α → β) :
    AlikeAt (f a) (f x.1, x.2) (f y.1, y.2) := by
  cases h with
  | same => exact .same _
  | given v w => exact .given v w

/-- What was read so far, alike. -/
structure Progress.Alike (o : Opt κ) (p q : Progress κ) : Prop where
  values : List.Forall₂ (AlikeAt o) p.values q.values
  extras : p.extras = q.extras

namespace Spec

variable {s : Spec κ} {o : Opt κ} {tokens tokens' : List Text} {p q : Progress κ}

/-- Command lines that differ only in texts attached to one option up to the terminator. -/
inductive Alike (s : Spec κ) (o : Opt κ) : List Text → List Text → Prop
  | nil : Alike s o [] []
  | terminated (tokens : List Text) : Alike s o (terminator :: tokens) (terminator :: tokens)
  | same {token : Text} {tokens tokens' : List Text} (ht : token ≠ terminator) (h : Alike s o tokens tokens') :
      Alike s o (token :: tokens) (token :: tokens')
  | given {spelling v w : Text} {tokens tokens' : List Text} (hs : s.Spells spelling o) (hv : v ≠ terminator)
      (hw : w ≠ terminator) (h : Alike s o tokens tokens') :
      Alike s o ((spelling ++ equalsSign :: v) :: tokens) ((spelling ++ equalsSign :: w) :: tokens')

theorem Alike.refl (s : Spec κ) (o : Opt κ) (tokens : List Text) : s.Alike o tokens tokens := by
  induction tokens with
  | nil => exact .nil
  | cons token tokens ih =>
    by_cases ht : token = terminator
    · subst ht
      exact .terminated tokens
    · exact .same ht ih

theorem Alike.append {before : List Text} (hb : terminator ∉ before) (h : s.Alike o tokens tokens') :
    s.Alike o (before ++ tokens) (before ++ tokens') := by
  induction before with
  | nil => exact h
  | cons token before ih =>
    rw [List.mem_cons, not_or] at hb
    exact .same (Ne.symm hb.1) (ih hb.2)

/-! ### Reading on -/

theorem map_fst_alike {α : Type} {a : α} {xs ys : List (α × Given)} (h : List.Forall₂ (AlikeAt a) xs ys) :
    xs.map (·.1) = ys.map (·.1) := by
  induction h with
  | nil => rfl
  | cons hxy _ ih => rw [List.map_cons, List.map_cons, hxy.fst, ih]

theorem take_alike (hp : p.Alike o q) {o' : Opt κ} {a b : Given} (h : AlikeAt o (o', a) (o', b)) :
    Agree (Progress.Alike o) (take p o' a) (take q o' b) := by
  have conflict : conflict? o' p.values = conflict? o' q.values := by
    rw [conflict?, conflict?, map_fst_alike hp.values]
  unfold take
  rw [conflict]
  cases conflict? o' q.values with
  | some earlier => exact .error _
  | none => exact .ok ⟨List.rel_append hp.values (.cons h .nil), hp.extras⟩

theorem consume_attached {token : Text} (ht : token ≠ terminator) {v : Text}
    (read : s.read token = .option o (some v)) :
    s.consume p (token :: tokens) = take p o (.ofAttached v) >>= fun p => s.consume p tokens := by
  simp only [consume, ht, read, if_false]
  cases take p o (.ofAttached v) <;> rfl

theorem consume_apart {token : Text} (ht : token ≠ terminator) (read : s.read token = .option o none) {v : Text}
    (hv : s.isValue v) : s.consume p (token :: v :: tokens) = take p o (.text v) >>= fun p => s.consume p tokens := by
  simp only [consume, ht, read, hv, if_true, if_false]
  cases take p o (.text v) <;> rfl

theorem consume_valueless {token : Text} (ht : token ≠ terminator) (read : s.read token = .option o none)
    (h : ∀ v rest, tokens = v :: rest → s.isValue v = false) :
    s.consume p (token :: tokens) = .error (.wrong (.valueExpected o.name)) := by
  cases tokens with
  | nil => simp only [consume, ht, read, if_false]
  | cons v rest => simp only [consume, ht, read, h v rest rfl, Bool.false_eq_true, if_false]

theorem isValue_terminator : s.isValue terminator = false := by simp [isValue]

theorem isValue_attached (hs : s.Named) {spelling : Text} (spells : s.Spells spelling o) (v : Text) :
    s.isValue (spelling ++ equalsSign :: v) = false := by
  rw [← Bool.not_eq_true, isValue_eq_true_iff, read_attached hs spells]
  exact fun h => nomatch h.2

theorem Alike.isValue_or (hs : s.Named) (h : s.Alike o tokens tokens') :
    (∃ v rest rest', tokens = v :: rest ∧ tokens' = v :: rest' ∧ s.isValue v ∧ s.Alike o rest rest') ∨
      (∀ v rest, tokens = v :: rest → s.isValue v = false) ∧ ∀ v rest, tokens' = v :: rest → s.isValue v = false := by
  cases h with
  | nil => exact .inr ⟨nofun, nofun⟩
  | terminated tokens =>
    have none : ∀ v rest, terminator :: tokens = v :: rest → s.isValue v = false := by
      rintro v rest he
      exact (List.cons.inj he).1 ▸ isValue_terminator
    exact .inr ⟨none, none⟩
  | given spells =>
    refine .inr ⟨?_, ?_⟩ <;> rintro v rest he <;> exact (List.cons.inj he).1 ▸ isValue_attached hs spells _
  | @same token rest rest' ht h =>
    cases hv : s.isValue token with
    | true => exact .inl ⟨token, rest, rest', rfl, rfl, hv, h⟩
    | false => refine .inr ⟨?_, ?_⟩ <;> rintro v rest he <;> exact (List.cons.inj he).1 ▸ hv

/-- Reading on keeps what was read alike. -/
theorem consume_alike (hs : s.Named) (h : s.Alike o tokens tokens') (hp : p.Alike o q) :
    Agree (Progress.Alike o) (s.consume p tokens) (s.consume q tokens') := by
  -- an option may take two tokens at once
  induction hn : tokens.length using Nat.strong_induction_on generalizing tokens tokens' p q with
  | _ n ih =>
    subst hn
    cases h with
    | nil => exact .ok hp
    | terminated tokens =>
      simp only [consume, if_true, hp.extras]
      exact .ok ⟨hp.values, rfl⟩
    | @given spelling v w tokens tokens' spells hv hw h =>
      rw [consume_attached (attached_ne_terminator spelling v) (read_attached hs spells v),
        consume_attached (attached_ne_terminator spelling w) (read_attached hs spells w), Given.ofAttached, if_neg hv,
        Given.ofAttached, if_neg hw]
      exact (take_alike hp (.given v w)).bind fun p q hp => ih _ (Nat.lt_succ_self _) h hp rfl
    | @same token tokens tokens' ht h =>
      have next {p q : Progress κ} (hp : p.Alike o q) :
          Agree (Progress.Alike o) (s.consume p tokens) (s.consume q tokens') := ih _ (Nat.lt_succ_self _) h hp rfl
      cases read : s.read token with
      | plain | unknown | ambiguous names =>
        simp only [consume, ht, read, if_false]
        exact next ⟨hp.values, by rw [hp.extras]⟩
      | help short attached =>
        simp only [consume, ht, read, if_false]
        exact .error _
      | option o' attached =>
        cases attached with
        | some v =>
          rw [consume_attached ht read, consume_attached ht read]
          exact (take_alike hp (.same _)).bind fun p q hp => next hp
        | none =>
          obtain ⟨v, rest, rest', rfl, rfl, hv, h⟩ | ⟨none, none'⟩ := h.isValue_or hs
          · have shorter : rest.length < (token :: v :: rest).length := by
              simp only [List.length_cons]
              omega
            rw [consume_apart ht read hv, consume_apart ht read hv]
            exact (take_alike hp (.same _)).bind fun p q hp => ih rest.length shorter h hp rfl
          · rw [consume_valueless ht read none, consume_valueless ht read none']
            exact .error _

theorem firstAmbiguous?_alike (hs : s.Named) (h : s.Alike o tokens tokens') :
    s.firstAmbiguous? tokens = s.firstAmbiguous? tokens' := by
  induction h with
  | nil | terminated => rfl
  | same ht _ ih => simp only [firstAmbiguous?, ht, ih]
  | @given spelling v w _ _ spells _ _ _ ih =>
    simp only [firstAmbiguous?, attached_ne_terminator, read_attached hs spells, if_false, ih]

theorem missing_alike (hp : p.Alike o q) : s.missing p = s.missing q := by
  have any (values : List (Opt κ × Given)) (name : Text) :
      values.any (·.1.name = name) = (values.map (·.1)).any (·.name = name) := by rw [List.any_map]; rfl
  simp only [missing, any, map_fst_alike hp.values]

/-- **Command lines that differ in texts for one option** are refused with the same error, or have values that differ
in texts for this option. -/
theorem parse_alike (hs : s.Named) (h : s.Alike o tokens tokens') :
    Agree (List.Forall₂ (AlikeAt o.key)) (s.parse tokens) (s.parse tokens') := by
  unfold parse
  rw [firstAmbiguous?_alike hs h]
  cases s.firstAmbiguous? tokens' with
  | some e => exact .error _
  | none =>
    have read := consume_alike hs h (p := ⟨[], []⟩) ⟨.nil, rfl⟩
    generalize s.consume ⟨[], []⟩ tokens = x, s.consume ⟨[], []⟩ tokens' = y at read
    cases read with
    | error stop => exact .error stop
    | @ok p q hp =>
      have values : List.Forall₂ (AlikeAt o.key) (p.values.map fun e => (e.1.key, e.2))
          (q.values.map fun e => (e.1.key, e.2)) := by
        rw [List.forall₂_map_left_iff, List.forall₂_map_right_iff]
        exact hp.values.imp fun x y hxy => hxy.map (·.key)
      simp only [missing_alike hp, hp.extras]
      split
      · exact .ok values
      · exact .error _
      · exact .error _

/-! ### Names that are ambiguous -/

theorem firstAmbiguous?_eq_none_iff (hb : terminator ∉ tokens) :
    s.firstAmbiguous? tokens = none ↔ ∀ token ∈ tokens, ∀ names, s.read token ≠ .ambiguous names := by
  induction tokens with
  | nil => simp [firstAmbiguous?]
  | cons token tokens ih =>
    rw [List.mem_cons, not_or] at hb
    rw [List.forall_mem_cons, ← ih hb.2]
    simp only [firstAmbiguous?, Ne.symm hb.1, if_false]
    cases s.read token <;> simp

theorem firstAmbiguous?_append {before : List Text} (hb : terminator ∉ before) (tokens : List Text) :
    s.firstAmbiguous? (before ++ tokens) = (s.firstAmbiguous? before).or (s.firstAmbiguous? tokens) := by
  induction before with
  | nil => rfl
  | cons token before ih =>
    rw [List.mem_cons, not_or] at hb
    simp only [List.cons_append, firstAmbiguous?, Ne.symm hb.1, ih hb.2, if_false]
    cases s.read token <;> rfl

/-- **The beginning of several names is reported** with what is attached to it, unless there is such a token before. -/
theorem parse_ambiguous (hs : s.NamesArePlain) {before : List Text} (hb : terminator ∉ before) {start : Text}
    (hy : terminator <+: start) (plain : equalsSign ∉ start) (none : start ∉ s.optionStrings)
    (several : 1 < (s.longStrings.filter (·.startsWith start)).length) (v : Text) (after : List Text) :
    s.parse (before ++ (start ++ equalsSign :: v) :: after) =
      .error (.wrong ((s.firstAmbiguous? before).getD
        (.ambiguous (start ++ equalsSign :: v) (s.longStrings.filter (·.startsWith start))))) := by
  have read : s.read (start ++ equalsSign :: v) = .ambiguous (s.longStrings.filter (·.startsWith start)) :=
    read_ambiguous hs hy plain none several (some v)
  have here : s.firstAmbiguous? ((start ++ equalsSign :: v) :: after) =
      some (.ambiguous (start ++ equalsSign :: v) (s.longStrings.filter (·.startsWith start))) := by
    simp only [firstAmbiguous?, attached_ne_terminator, read, if_false]
  rw [parse, firstAmbiguous?_append hb, here]
  cases s.firstAmbiguous? before <;> rfl

end Spec

end CommandLine

end SaslBind
