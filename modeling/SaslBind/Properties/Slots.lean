import SaslBind.Properties.Json

/-!
# Runs over bind properties

A run goes through actions on objects that are kept in named slots.  `Slots.perform` takes one action:
it answers, and gives the slots after it.  An action that fails leaves all slots as they were.

Main statement: `lookup_perform`, an action on one slot leaves the others alone.
-/

namespace SaslBind

/-- Objects by the names of their slots, one for each name. -/
abbrev Slots := Entries Properties

/-- What is done with the object in a slot. -/
inductive Action where
  | make (args : List Value) (named : Properties.Arguments)
  | validate (data : Value)
  | makeBlank
  | copy (source : Text)
  | set (name : Text) (v : Value)
  | setAllowedQop (levels : List Value)
  | delete (name : Text)
  | read (name : Text)
  | agrees (other : Text)
  | describe
  | dump
  | given
deriving Repr

/-- What an action answers. -/
inductive Answer where
  | done
  | value (v : Value)
  | truth (b : Bool)
  | text (t : Text)
  | values (vs : List Value)
  | fault (f : Fault)
  /-- The slot that should have held an object. -/
  | empty (slot : Text)
deriving Repr

namespace Slots

/-- The object of a successful operation goes into the slot. -/
def store (s : Slots) (slot : Text) : Except Fault Properties → Answer × Slots
  | .ok p => (.done, Entries.put slot p s)
  | .error f => (.fault f, s)

/-- An answer that leaves the slots alone. -/
def report (s : Slots) (answer : α → Answer) : Except Fault α → Answer × Slots
  | .ok a => (answer a, s)
  | .error f => (.fault f, s)

/-- An action on the object of a slot. -/
def withObject (s : Slots) (slot : Text) (act : Properties → Answer × Slots) : Answer × Slots :=
  match s.lookup slot with
  | some p => act p
  | none => (.empty slot, s)

/-- One action on a slot. -/
def perform (s : Slots) (slot : Text) : Action → Answer × Slots
  | .make args named => s.store slot (Properties.call args named)
  | .validate data => s.store slot (Properties.validate data)
  | .makeBlank => s.store slot (.ok .blank)
  | .copy source => s.withObject source fun p => s.store slot p.copy
  | .set name v => s.withObject slot fun p => s.store slot (p.assign name v)
  | .setAllowedQop levels => s.withObject slot fun p => s.store slot (p.setAllowedQop levels)
  | .delete name => s.withObject slot fun p => s.store slot (p.delete name)
  | .read name => s.withObject slot fun p => s.report .value (p.read name)
  | .agrees other =>
    s.withObject slot fun p => s.withObject other fun q => s.report .truth (p.agrees q)
  | .describe => s.withObject slot fun p => s.report .text p.describe
  | .dump => s.withObject slot fun p => s.report .text p.dump
  | .given => s.withObject slot fun p => s.report .values p.givenNames

/-- An action on one slot leaves the others alone. -/
theorem lookup_perform (s : Slots) {slot other : Text} (h : other ≠ slot) (a : Action) :
    (s.perform slot a).2.lookup other = s.lookup other := by
  have stored (r : Except Fault Properties) : (s.store slot r).2.lookup other = s.lookup other := by
    cases r with
    | error f => rfl
    | ok p => simp [store, Entries.lookup_put, h]
  have reported {α : Type} (answer : α → Answer) (r : Except Fault α) : (s.report answer r).2 = s := by
    cases r <;> rfl
  have found (slot : Text) {act : Properties → Answer × Slots}
      (ha : ∀ p, (act p).2.lookup other = s.lookup other) : (s.withObject slot act).2.lookup other = s.lookup other := by
    unfold withObject
    split
    · exact ha _
    · rfl
  cases a with
  | make | validate | makeBlank => exact stored _
  | copy | set | setAllowedQop | delete => exact found _ fun _ => stored _
  | read | describe | dump | given => exact found _ fun _ => by rw [reported]
  | agrees => exact found _ fun _ => found _ fun _ => by rw [reported]

/-- The answers of a run, and the slots after it. -/
def run (s : Slots) : List (Text × Action) → List Answer × Slots
  | [] => ([], s)
  | (slot, action) :: rest =>
    let (answer, s) := s.perform slot action
    let (answers, s) := run s rest
    (answer :: answers, s)

end Slots

end SaslBind
