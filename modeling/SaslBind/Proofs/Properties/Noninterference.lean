import SaslBind.Proofs.Properties.Alike

/-!
# Nothing is told of the secret

Two runs over bind properties do the same, but for the values that they hand in for the secret: wherever one run
hands one in, both values are refused, both are empty, or both are not.

* `SameClass` : two values of one class as secrets;
* `Action.Alike` : actions that differ in values for the secret, each time within one class;
* `Action.Answers` : how the answers of the two runs to one action compare;
* `perform_alike` : one action on alike slots.

Main statement: `run_alike`, the two runs answer the same and leave alike objects.  Only what reads the secret
itself, alone or in the table of all attributes, and what compares objects may tell them apart;
`table_shows_secret` is a run in which the table does.
-/

namespace SaslBind

/-- Both are empty, or both are not. -/
def SameEmptiness (bs cs : List UInt8) : Prop := bs.isEmpty = cs.isEmpty

/-- Values of one class as secrets: both refused, both empty, or both neither. -/
def SameClass (v w : Value) : Prop :=
  match Field.checkSecret v, Field.checkSecret w with
  | .ok bs, .ok cs => SameEmptiness bs cs
  | .error _, .error _ => True
  | _, _ => False

/-- Actions that differ in values for the secret, each time within one class. -/
inductive Action.Alike : Action → Action → Prop
  | same (a : Action) : Alike a a
  | make {args args' : List Value} {named named' : Properties.Arguments}
      (hargs : Properties.Placed SameClass args args') (hnamed : Entries.Related (ButSecret SameClass) named named') : Alike (.make args named) (.make args' named')
  | validate {data data' : Entries Value} (h : Entries.Related (ButSecret SameClass) data data') :
      Alike (.validate (.dict data)) (.validate (.dict data'))
  | set {v w : Value} (h : SameClass v w) : Alike (.set secretName v) (.set secretName w)

/-- How the answers of two runs to an action compare: they are equal, unless the action reads the secret or
compares objects.  Tables of all attributes agree in all but the octets of the secret. -/
def Action.Answers (a : Action) (x y : Answer) : Prop :=
  x = y ∨ a = .read secretName ∨ (∃ other, a = .agrees other) ∨
    a = .read Model.tableName ∧ ∃ es fs, x = .value (.dict es) ∧ y = .value (.dict fs) ∧
      Entries.Related (ButSecret (Stored SameEmptiness)) es fs

/-- Objects that show the same in every way but the secret. -/
structure Properties.ShowSame (p q : Properties) : Prop where
  read : ∀ name, name ≠ secretName → name ≠ Model.tableName → p.read name = q.read name
  describe : p.describe = q.describe
  dump : p.dump = q.dump
  givenNames : p.givenNames = q.givenNames

/-! ### Values of one class -/

theorem checkSecret_error {v : Value} {c : Complaint} (h : Field.checkSecret v = .error c) : c = .octetsExpected := by
  unfold Field.checkSecret at h
  split at h
  all_goals first | cases h; done | exact (Except.error.inj h).symm

theorem SameClass.supplied {v w : Value} (h : SameClass v w) : Supplied SameEmptiness v w := by
  unfold SameClass at h
  unfold Supplied
  cases hv : Field.checkSecret v with
  | ok bs =>
    cases hw : Field.checkSecret w with
    | ok cs =>
      rw [hv, hw] at h
      exact .ok h
    | error c =>
      rw [hv, hw] at h
      exact h.elim
  | error c =>
    cases hw : Field.checkSecret w with
    | ok cs =>
      rw [hv, hw] at h
      exact h.elim
    | error c' =>
      rw [checkSecret_error hv, checkSecret_error hw]
      exact .error _

theorem ButSecret.supplied {name : Text} {v w : Value} (h : ButSecret SameClass name v w) :
    ButSecret (Supplied SameEmptiness) name v w := h.imp_right fun h => ⟨h.1, h.2.supplied⟩

theorem supplied_of_related {es fs : Entries Value} (h : Entries.Related (ButSecret SameClass) es fs) :
    Entries.Related (ButSecret (Supplied SameEmptiness)) es fs :=
  List.Forall₂.imp (fun _ _ he => ⟨he.1, he.2.supplied⟩) h

theorem Object.Alike.showSame {p q : Properties} (h : p.Alike SameEmptiness q) : p.ShowSame q where
  read _ hn ht := h.read_eq hn ht
  describe := Properties.describe_eq h
  dump := Properties.dump_eq (fun _ _ hbc => hbc) h
  givenNames := h.givenNames_eq

namespace Slots

/-- The same slots, with alike objects in them. -/
abbrev Alike : Slots → Slots → Prop := Entries.Related fun _ p q => p.Alike SameEmptiness q

/-- An action answered alike, with alike slots after it. -/
def SameOutcome (a : Action) (x y : Answer × Slots) : Prop := a.Answers x.1 y.1 ∧ x.2.Alike y.2

variable {s s' : Slots}

/-! ### One action -/

theorem store_alike (h : s.Alike s') (a : Action) (slot : Text) {r r' : Except Fault Properties}
    (hr : Agree (Object.Alike SameEmptiness) r r') : SameOutcome a (s.store slot r) (s'.store slot r') := by
  cases hr with
  | ok hpq => exact ⟨.inl rfl, h.put hpq⟩
  | error f => exact ⟨.inl rfl, h⟩

theorem report_same {α : Type} (h : s.Alike s') (a : Action) (answer : α → Answer) {r r' : Except Fault α}
    (hr : r = r') : SameOutcome a (s.report answer r) (s'.report answer r') := by
  subst hr
  cases r with
  | ok x => exact ⟨.inl rfl, h⟩
  | error f => exact ⟨.inl rfl, h⟩

/-- What only reports leaves the slots alone, whatever it tells. -/
theorem report_alike {α : Type} (h : s.Alike s') (answer : α → Answer) (r r' : Except Fault α) :
    (s.report answer r).2.Alike (s'.report answer r').2 := by
  cases r <;> cases r' <;> exact h

theorem withObject_alike (h : s.Alike s') {a : Action} {slot : Text} {f g : Properties → Answer × Slots}
    (hfg : ∀ p q, p.Alike SameEmptiness q → SameOutcome a (f p) (g q)) :
    SameOutcome a (s.withObject slot f) (s'.withObject slot g) := by
  have hl := h.lookup slot
  unfold withObject
  revert hl
  generalize s.lookup slot = x, s'.lookup slot = y
  rintro (hpq | _)
  · exact hfg _ _ hpq
  · exact ⟨.inl rfl, h⟩

/-- Reading tells the two runs apart only at the secret, or at the octets of the secret in the whole table. -/
theorem read_alike (h : s.Alike s') {p q : Properties} (hpq : p.Alike SameEmptiness q) (name : Text) :
    SameOutcome (.read name) (s.report .value (p.read name)) (s'.report .value (q.read name)) := by
  by_cases hn : name = secretName
  · exact ⟨.inr (.inl (by rw [hn])), report_alike h _ _ _⟩
  · by_cases ht : name = Model.tableName
    · subst ht
      exact ⟨.inr (.inr (.inr ⟨rfl, p.table, q.table, rfl, rfl, hpq.table⟩)), h⟩
    · exact report_same h _ _ (hpq.read_eq hn ht)

theorem perform_same (h : s.Alike s') (slot : Text) (a : Action) :
    SameOutcome a (s.perform slot a) (s'.perform slot a) := by
  cases a with
  | make args named =>
    exact store_alike h _ slot (Properties.call_alike (.same args) (.refl ButSecret.refl named))
  | validate data => exact store_alike h _ slot (.refl (Object.Alike.refl _) _)
  | makeBlank => exact store_alike h _ slot (.refl (Object.Alike.refl _) _)
  | copy source => exact withObject_alike h fun _ _ hpq => store_alike h _ slot hpq.copy
  | set name v =>
    exact withObject_alike h fun _ _ hpq => store_alike h _ slot (Properties.assign_alike hpq (.refl name v))
  | setAllowedQop levels =>
    exact withObject_alike h fun _ _ hpq => store_alike h _ slot (Properties.setAllowedQop_alike hpq levels)
  | delete name => exact withObject_alike h fun _ _ hpq => store_alike h _ slot (hpq.delete _ name)
  | read name => exact withObject_alike h fun _ _ hpq => read_alike h hpq name
  | agrees other =>
    refine withObject_alike h fun _ _ _ => withObject_alike h fun _ _ _ => ?_
    exact ⟨.inr (.inr (.inl ⟨other, rfl⟩)), report_alike h _ _ _⟩
  | describe => exact withObject_alike h fun _ _ hpq => report_same h _ _ hpq.showSame.describe
  | dump => exact withObject_alike h fun _ _ hpq => report_same h _ _ hpq.showSame.dump
  | given => exact withObject_alike h fun _ _ hpq => report_same h _ _ hpq.showSame.givenNames

/-- Alike actions on alike slots. -/
theorem perform_alike (h : s.Alike s') (slot : Text) {a a' : Action} (ha : a.Alike a') :
    SameOutcome a (s.perform slot a) (s'.perform slot a') := by
  cases ha with
  | same a => exact perform_same h slot a
  | make hargs hnamed =>
    have hargs := hargs.imp fun _ _ => SameClass.supplied
    exact store_alike h _ slot (Properties.call_alike hargs (supplied_of_related hnamed))
  | validate hdata => exact store_alike h _ slot (Properties.validate_alike (supplied_of_related hdata))
  | set hv =>
    refine withObject_alike h fun _ _ hpq => store_alike h _ slot ?_
    exact Properties.assign_alike hpq (.inr ⟨rfl, hv.supplied⟩)

/-! ### Whole runs -/

/-- Steps on the same slot with alike actions. -/
def StepsAlike (x y : Text × Action) : Prop := x.1 = y.1 ∧ x.2.Alike y.2

/-- Each answer of a run from alike slots compares to that of the other run as its action allows. -/
theorem run_answers {steps steps' : List (Text × Action)} (h : s.Alike s') (hs : List.Forall₂ StepsAlike steps steps') :
    (∀ (i : Nat) (step : Text × Action), steps[i]? = some step →
      ∃ x y, (s.run steps).1[i]? = some x ∧ (s'.run steps').1[i]? = some y ∧ step.2.Answers x y) ∧
    (s.run steps).2.Alike (s'.run steps').2 := by
  -- the answers alone do not carry the induction: it is the slots that have to stay alike
  induction hs generalizing s s' with
  | nil => exact ⟨fun i step hi => by simp at hi, h⟩
  | @cons step step' steps steps' hstep _ ih =>
    obtain ⟨slot, a⟩ := step
    obtain ⟨slot', a'⟩ := step'
    obtain ⟨hslot, ha⟩ := hstep
    subst hslot
    obtain ⟨hanswer, hslots⟩ := perform_alike h slot ha
    obtain ⟨hanswers, hend⟩ := ih hslots
    refine ⟨fun i step hi => ?_, hend⟩
    cases i with
    | zero =>
      obtain rfl := Option.some.inj hi
      exact ⟨_, _, rfl, rfl, hanswer⟩
    | succ i => exact hanswers i step hi

/-- **Nothing is told of the secret.**  Two runs that differ in values for the secret, each time within one
class, answer the same at every step, unless the step reads the secret, reads the table of all attributes or
compares objects; and the objects after them show the same. -/
theorem run_alike {steps steps' : List (Text × Action)} (h : List.Forall₂ StepsAlike steps steps') :
    (∀ (i : Nat) (step : Text × Action), steps[i]? = some step →
      ∃ x y, (run [] steps).1[i]? = some x ∧ (run [] steps').1[i]? = some y ∧ step.2.Answers x y) ∧
    ∀ slot, Option.Rel Properties.ShowSame ((run [] steps).2.lookup slot) ((run [] steps').2.lookup slot) := by
  have start : Slots.Alike [] [] := .nil
  obtain ⟨hanswers, hend⟩ := run_answers start h
  refine ⟨hanswers, fun slot => ?_⟩
  have hl := hend.lookup slot
  revert hl
  generalize (run [] steps).2.lookup slot = x, (run [] steps').2.lookup slot = y
  rintro (hpq | _)
  · exact .some hpq.showSame
  · exact .none

/-- A run that makes an object, is refused another secret, copies the object, and tells all that it may. -/
def secretRun (secret refused later : Value) : List (Text × Action) :=
  [("a".toText, .make [.word "u:a", secret] []), ("a".toText, .set secretName refused),
    ("b".toText, .copy "a".toText), ("b".toText, .set secretName later), ("b".toText, .describe), ("b".toText, .dump),
    ("b".toText, .read Model.tableName)]

theorem stepsAlike_secretRun {v v' r r' l l' : Value} (hv : SameClass v v') (hr : SameClass r r')
    (hl : SameClass l l') :
    List.Forall₂ StepsAlike (secretRun v r l) (secretRun v' r' l') := by
  refine .cons ⟨rfl, .make (.secret _ hv []) .nil⟩ (.cons ⟨rfl, .set hr⟩ (.cons ⟨rfl, .same _⟩ ?_))
  refine .cons ⟨rfl, .set hl⟩ ?_
  exact List.forall₂_same.2 fun step _ => ⟨rfl, .same step.2⟩

/-- A short and a long secret, refused values of two types, and octets for a text give the same line. -/
theorem run_alike_secretRun :
    List.Forall₂ StepsAlike (secretRun (.word "p") (.int 7) (.word "x"))
      (secretRun (.word "secret") (.list []) (.octets .view [0xFF])) ∧
    ∃ x y, (run [] (secretRun (.word "p") (.int 7) (.word "x"))).1[4]? = some x ∧
      (run [] (secretRun (.word "secret") (.list []) (.octets .view [0xFF]))).1[4]? = some y ∧
      Action.describe.Answers x y := by
  have hv : SameClass (.word "p") (.word "secret") := rfl
  have hr : SameClass (.int 7) (.list []) := trivial
  have hl : SameClass (.word "x") (.octets .view [0xFF]) := rfl
  exact ⟨stepsAlike_secretRun hv hr hl, (run_alike (stepsAlike_secretRun hv hr hl)).1 4 _ rfl⟩

/-- A run that makes an object and reads the table of all its attributes. -/
def tableRun (secret : Value) : List (Text × Action) :=
  [("a".toText, .make [.word "u:a", secret] []), ("a".toText, .read Model.tableName)]

/-- The octets of the secret in a table that was read. -/
def secretRead? : Option Answer → Option (List UInt8)
  | some (.value (.dict es)) =>
    match es.lookup secretName with
    | some (.secret bs) => some bs
    | _ => none
  | _ => none

/-- Not only the secret itself tells two runs apart: so does the table of all attributes. -/
theorem table_shows_secret :
    ¬ ∀ steps steps' : List (Text × Action), List.Forall₂ StepsAlike steps steps' →
      ∀ (i : Nat) (slot : Text) (a : Action), steps[i]? = some (slot, a) → a ≠ .read secretName →
        (∀ other, a ≠ .agrees other) → (run [] steps).1[i]? = (run [] steps').1[i]? := by
  intro same
  have hv : SameClass (.word "p") (.word "q") := rfl
  have hs : List.Forall₂ StepsAlike (tableRun (.word "p")) (tableRun (.word "q")) :=
    .cons ⟨rfl, .make (.secret _ hv []) .nil⟩ (.cons ⟨rfl, .same _⟩ .nil)
  have hn : Action.read Model.tableName ≠ .read secretName := by
    intro h
    injection h with h
    exact absurd h (by decide)
  have answers := same _ _ hs 1 "a".toText (.read Model.tableName) rfl hn (fun other h => by cases h)
  have secrets : secretRead? (run [] (tableRun (.word "p"))).1[1]? ≠
      secretRead? (run [] (tableRun (.word "q"))).1[1]? := by decide
  exact secrets (congrArg secretRead? answers)

end Slots

end SaslBind
