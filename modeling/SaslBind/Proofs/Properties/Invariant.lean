import Mathlib.Data.List.Induction
import SaslBind.Proofs.Properties.Operations

/-!
# What the fields of an object hold

Objects come from constructors, from dictionaries and as copies, and are changed by assignments and deletions,
any of which may fail.  After every such run each field holds a value of its own kind, or is absent, and it is
absent exactly if it was deleted and not assigned since.

* `Action.IsOrdinary` : an action that makes no object without its fields and assigns no private name;
* `history` : what was done in a run, the latest first, with the answers;
* `isGone f slot past` : whether the field of the object in the slot was deleted and not assigned since;
* `Sound p gone` : the invariant of one object, `AllSound.made` : what one action makes has it;
* `forall_history` : what a past tells of objects, from single actions to runs.

Main statement: `fields_of_run`.
-/

namespace SaslBind

/-- An action that makes no object without its fields, and assigns no name that begins with an underscore. -/
def Action.IsOrdinary : Action → Prop
  | .makeBlank => False
  | .set name _ => Properties.isNote name = false
  | _ => True

/-- Something that was done, or tried. -/
structure Deed where
  slot : Text
  action : Action
  answer : Answer

/-- Whether the field of the object in a slot was deleted, by its name or with the table of all attributes, and
not assigned since; the latest deed comes first.  In a copy that is gone which was gone in the object. -/
def isGone (f : Field) : Text → List Deed → Bool
  | _, [] => false
  | slot, d :: past =>
    if d.slot = slot ∧ d.answer.isDone then
      match d.action with
      | .make .. | .validate _ | .makeBlank => false
      | .copy source => isGone f source past
      | .set name _ => name ≠ f.name.toText && isGone f slot past
      | .setAllowedQop _ => f ≠ .allowedQop && isGone f slot past
      | .delete name => name = f.name.toText || name = Model.tableName || isGone f slot past
      | .read _ | .agrees _ | .describe | .dump | .given => isGone f slot past
    else isGone f slot past

/-- What is known of one object: what its fields hold, and which of them are absent. -/
structure Sound (p : Properties) (gone : Field → Prop) : Prop where
  model : p.model = .properties
  extra : p.NothingBeyond
  present : ∀ f, ¬ gone f → ∃ v, p.table.lookup f.name.toText = some v ∧ f.Holds v
  absent : ∀ f, gone f → p.table.lookup f.name.toText = none

namespace Sound

variable {p q : Properties} {gone : Field → Prop}

theorem congr {gone' : Field → Prop} (h : Sound p gone) (hg : ∀ f, gone' f ↔ gone f) : Sound p gone' where
  model := h.model
  extra := h.extra
  present f hf := h.present f (mt (hg f).2 hf)
  absent f hf := h.absent f ((hg f).1 hf)

theorem read_absent (h : Sound p gone) {f : Field} (hf : gone f) :
    p.read f.name.toText = .error (p.noAttribute f.name.toText) := by
  rw [Properties.read_field h.model h.extra, h.absent f hf]

theorem read_present (h : Sound p gone) {f : Field} (hf : ¬ gone f) :
    ∃ v, p.read f.name.toText = .ok v ∧ f.Holds v := by
  obtain ⟨v, hv, hh⟩ := h.present f hf
  exact ⟨v, by rw [Properties.read_field h.model h.extra, hv], hh⟩

/-! ### One operation -/

theorem construct {values : Properties.Arguments} (h : Properties.construct values = .ok p) :
    Sound p fun _ => False := by
  obtain ⟨hm, hx, -, hf⟩ := Properties.construct_ok h
  refine ⟨hm, .inr hx, fun f _ => ?_, fun f hf => hf.elim⟩
  obtain ⟨a, ha, hl⟩ := hf f
  exact ⟨a.value, hl, (Properties.construct1_ok ha).2⟩

theorem set (h : Sound p gone) {f : Field} {v : Value} (hs : p.set f v = .ok q) :
    Sound q fun g => f.name.toText ≠ g.name.toText ∧ gone g := by
  obtain ⟨a, ha, -, hs⟩ := Properties.set_ok hs
  obtain ⟨-, hq⟩ := Object.store_ok hs
  have lookup : ∀ g : Field, q.table.lookup g.name.toText =
      if g.name.toText = f.name.toText then some a.value else p.table.lookup g.name.toText := by
    intro g
    rw [Object.lookup_store hs, Object.fullTable_of_nothing h.extra]
  refine ⟨?_, ?_, fun g hg => ?_, fun g hg => ?_⟩
  · rw [hq]
    exact h.model
  · rw [hq]
    exact .inr rfl
  · rw [lookup g]
    by_cases hn : g.name.toText = f.name.toText
    · obtain rfl := Field.name_injective hn
      exact ⟨a.value, if_pos rfl, Field.holds_of_check ha⟩
    · rw [if_neg hn]
      exact h.present g fun hgone => hg ⟨fun he => hn he.symm, hgone⟩
  · rw [lookup g, if_neg fun he => hg.1 he.symm]
    exact h.absent g hg.2

/-- What the object keeps for itself can be deleted. -/
theorem keep (h : Sound p gone) (name : Text) : Sound (p.keep name none) gone := by
  unfold Object.keep
  split
  · exact { h with extra := .inl rfl }
  · split
    · exact { h with }
    · split
      · exact { h with }
      · exact h

theorem remove (h : Sound p gone) (name : Text) :
    Sound { p with table := Entries.remove name p.table } fun g => name = g.name.toText ∨ gone g := by
  refine { h with present := fun g hg => ?_, absent := fun g hg => ?_ }
  · have hn : g.name.toText ≠ name := fun he => hg (.inl he.symm)
    simp only [Entries.lookup_remove, if_neg hn]
    exact h.present g fun hgone => hg (.inr hgone)
  · simp only [Entries.lookup_remove]
    split
    · rfl
    · next hn => exact h.absent g (hg.resolve_left fun he => hn he.symm)

theorem delete (h : Sound p gone) {name : Text} (hd : p.delete name = .ok q) :
    Sound q fun g => name = g.name.toText ∨ name = Model.tableName ∨ gone g := by
  have table : ∀ g : Field, g.name.toText ≠ Model.tableName := fun g => (Properties.isPlain_name g).1
  rcases Properties.delete_ok h.extra hd with ⟨f, rfl, rfl⟩ | ⟨hn, hd⟩
  · exact (h.remove _).congr fun g => by simp [table f]
  · have other : ∀ g : Field, name ≠ g.name.toText := fun g he => hn (he ▸ Field.name_mem_names g)
    rcases Object.deleteOwn_ok hd with ⟨ht, rfl⟩ | ⟨ht, rfl⟩ | ⟨ht, rfl⟩
    · exact { h with present := fun g hg => (hg (.inr (.inl ht))).elim, absent := fun g _ => rfl }
    · exact (h.keep name).congr fun g => by simp [other g, ht]
    · exact (h.remove name).congr fun g => by simp [ht]

theorem copy (h : Sound p gone) (hc : p.copy = .ok q) : Sound q gone := by
  obtain ⟨-, hx⟩ := Object.extra_of_copy h.extra hc
  obtain ⟨v, extra, given, inner, -, -, rfl⟩ := Object.copy_ok hc
  exact { h with extra := .inr hx }

end Sound

namespace Slots

/-! ### One action -/

/-- All objects in slots are sound, after a past that tells which of their fields are gone. -/
def AllSound (s : Slots) (past : List Deed) : Prop :=
  ∀ slot p, s.lookup slot = some p → Sound p fun f => isGone f slot past

variable {s : Slots} {past : List Deed}

theorem AllSound.made (h : s.AllSound past) {slot : Text} {a : Action} (ha : a.IsOrdinary) {q : Properties}
    (hq : s.Makes slot a q) : Sound q fun f => isGone f slot (⟨slot, a, .done⟩ :: past) := by
  cases hq with
  | make hq =>
    obtain ⟨values, hv⟩ := Properties.call_ok hq
    exact (Sound.construct hv).congr fun f => by simp [isGone, Answer.isDone]
  | validate hq =>
    obtain ⟨values, hv⟩ := Properties.validate_ok hq
    exact (Sound.construct hv).congr fun f => by simp [isGone, Answer.isDone]
  | makeBlank => exact ha.elim
  | @copy source p _ hp hq =>
    exact ((h source p hp).copy hq).congr fun f => by simp [isGone, Answer.isDone]
  | @set name v p _ hp hq =>
    rcases Properties.assign_ok hq with ⟨hn, -⟩ | ⟨f, rfl, hs⟩
    · exact absurd hn (by rw [show Properties.isNote name = false from ha]; exact Bool.false_ne_true)
    · exact ((h slot p hp).set hs).congr fun g => by simp [isGone, Answer.isDone]
  | @setAllowedQop levels p _ hp hq =>
    refine ((h slot p hp).set hq).congr fun g => ?_
    have hg : g = .allowedQop ↔ Field.allowedQop.name.toText = g.name.toText :=
      ⟨fun he => he ▸ rfl, fun he => (Field.name_injective he).symm⟩
    simp [isGone, Answer.isDone, hg]
  | @delete name p _ hp hq =>
    exact ((h slot p hp).delete hq).congr fun f => by simp [isGone, Answer.isDone, or_assoc]

/-! ### Whole runs -/

/-- What was done in a run that begins without objects, the latest first. -/
def history (steps : List (Text × Action)) : List Deed :=
  ((steps.zip (run [] steps).1).map fun (step, answer) => ⟨step.1, step.2, answer⟩).reverse

theorem history_append (steps : List (Text × Action)) (slot : Text) (a : Action) :
    history (steps ++ [(slot, a)]) = ⟨slot, a, ((run [] steps).2.perform slot a).1⟩ :: history steps := by
  unfold history
  rw [run_append, List.zip_append (length_run [] steps).symm]
  simp [run]

/-- What a past tells of the objects in slots is so after a run of actions of some kind, if it is so of the objects that
these make, and deeds that are about other slots or were not done change nothing of it. -/
theorem forall_history {P : List Deed → Text → Properties → Prop} {A : Action → Prop}
    (hother : ∀ past slot p d, d.slot ≠ slot ∨ d.answer.isDone = false → P past slot p → P (d :: past) slot p)
    (hmade : ∀ past (s : Slots) slot a q, (∀ other p, s.lookup other = some p → P past other p) → A a →
      s.Makes slot a q → P (⟨slot, a, .done⟩ :: past) slot q)
    (steps : List (Text × Action)) (h : ∀ step ∈ steps, A step.2) :
    ∀ slot p, (run [] steps).2.lookup slot = some p → P (history steps) slot p := by
  -- from the end, as the history has the latest deed first
  induction steps using List.reverseRecOn with
  | nil => exact fun slot p hp => by cases hp
  | append_singleton steps step ih =>
    obtain ⟨slot, a⟩ := step
    have before := ih fun step hs => h step (List.mem_append_left _ hs)
    rw [run_append, history_append]
    intro other p hp
    rcases perform_cases (run [] steps).2 slot a with ⟨hd, hs⟩ | ⟨q, hq, hs⟩
    · exact hother _ _ _ _ (.inr hd) (before other p (hs ▸ hp))
    · simp only [run, hs] at hp ⊢
      -- the object that was made is the only one that the deed is about
      rcases Entries.lookup_put_cases hp with ⟨rfl, rfl⟩ | ⟨ho, hp⟩
      · exact hmade _ _ _ _ _ before (h _ (List.mem_append_right _ (List.mem_singleton_self _))) hq
      · exact hother _ _ _ _ (.inl (Ne.symm ho)) (before other p hp)

/-- All objects are sound after a run of ordinary actions. -/
theorem sound_run (steps : List (Text × Action)) (h : ∀ step ∈ steps, step.2.IsOrdinary) :
    (run [] steps).2.AllSound (history steps) := by
  refine forall_history (P := fun past slot p => Sound p fun f => isGone f slot past) (fun past slot p d hd hp => ?_)
    (fun past s slot a q hs ha hq => AllSound.made hs ha hq) steps h
  refine hp.congr fun f => ?_
  rcases hd with hd | hd <;> simp [isGone, hd]

/-- Where nothing is deleted, nothing is gone. -/
theorem not_gone {past : List Deed} (h : ∀ d ∈ past, ∀ name, d.action ≠ .delete name) (f : Field) (slot : Text) :
    isGone f slot past = false := by
  induction past generalizing slot with
  | nil => rfl
  | cons d past ih =>
    have before := ih fun d hd => h d (List.mem_cons_of_mem _ hd)
    have here := h d List.mem_cons_self
    unfold isGone
    split
    · split
      · rfl
      · rfl
      · rfl
      · exact before _
      · rw [before, Bool.and_false]
      · rw [before, Bool.and_false]
      · next name hd => exact absurd hd (here name)
      all_goals exact before _
    · exact before _

/-- **Fields after a run.**  In every object that is there after ordinary actions, whichever of them failed, a
field is absent if it was deleted and not assigned since, and holds a value of its kind if not; so all fields
are present if nothing was deleted. -/
theorem fields_of_run {steps : List (Text × Action)} (h : ∀ step ∈ steps, step.2.IsOrdinary) {slot : Text}
    {p : Properties} (hp : (run [] steps).2.lookup slot = some p) :
    (∀ f, isGone f slot (history steps) → p.read f.name.toText = .error (p.noAttribute f.name.toText)) ∧
    (∀ f, isGone f slot (history steps) = false → ∃ v, p.read f.name.toText = .ok v ∧ f.Holds v) ∧
    ((∀ step ∈ steps, ∀ name, step.2 ≠ .delete name) → ∀ f : Field, ∃ v, p.read f.name.toText = .ok v ∧ f.Holds v) := by
  have sound := sound_run steps h slot p hp
  have present : ∀ f, isGone f slot (history steps) = false → ∃ v, p.read f.name.toText = .ok v ∧ f.Holds v :=
    fun f hg => sound.read_present (Bool.not_eq_true _ ▸ hg)
  refine ⟨fun f hg => sound.read_absent hg, present, fun hd f => present f (not_gone (fun d hmem name => ?_) f slot)⟩
  obtain ⟨⟨step, answer⟩, hs, rfl⟩ := List.mem_map.1 (List.mem_reverse.1 hmem)
  exact hd step (List.of_mem_zip hs).1 name

/-- A run in which the secret is deleted, another one is refused, and a copy is made. -/
def fieldRun : List (Text × Action) :=
  [("a".toText, .make [.word "u:a"] []), ("a".toText, .delete "password".toText),
    ("a".toText, .set "password".toText (.int 3)), ("b".toText, .copy "a".toText)]

/-- In the copy the secret is gone and the realm is not. -/
theorem fields_of_fieldRun :
    (∀ step ∈ fieldRun, step.2.IsOrdinary) ∧ ∃ p, (run [] fieldRun).2.lookup "b".toText = some p ∧
      p.read Field.password.name.toText = .error (p.noAttribute Field.password.name.toText) ∧
      ∃ v, p.read Field.realm.name.toText = .ok v ∧ Field.realm.Holds v := by
  have refused : Properties.isNote "password".toText = false := by decide
  have ordinary : ∀ step ∈ fieldRun, step.2.IsOrdinary := by
    simp [fieldRun, Action.IsOrdinary, refused]
  have password : isGone .password "b".toText (history fieldRun) := by decide
  have realm : isGone .realm "b".toText (history fieldRun) = false := by decide
  have there : ((run [] fieldRun).2.lookup "b".toText).isSome := by decide
  obtain ⟨p, hp⟩ := Option.isSome_iff_exists.1 there
  have fields := fields_of_run ordinary hp
  exact ⟨ordinary, p, hp, fields.1 _ password, fields.2.1 _ realm⟩

end Slots

end SaslBind
