import SaslBind.Fault
import SaslBind.Number.Arithmetic
import SaslBind.Value.Equality

/-!
# The order of values

Of two numbers, two texts or two rows of octets one may come before the other; lists compare by their first
items that differ.  Values of other types have no order.

* `Value.precedes` : whether a value comes before another one, or the fault that they have no order;
* `sortBy` : things in order.  It looks for a run at the beginning and puts each thing after it in its place, by
  halves, so it is fixed which things are compared first.
-/

namespace SaslBind

namespace Text

/-- Whether a text comes before another one, by the numbers of their characters. -/
def precedes : Text → Text → Bool
  | _, [] => false
  | [], _ :: _ => true
  | c :: t, d :: u => c.value < d.value || (c.value = d.value && precedes t u)

end Text

namespace Value

/-- The number that a value is. -/
def number? : Value → Option Binary64
  | .bool b => some (.exactly (if b then 1 else 0))
  | .int n => some (.exactly n)
  | .real x => some x
  | _ => none

/-- Octets as a text. -/
def octetText (bs : List UInt8) : Text := bs.map fun b => (CodePoint.ofNat? b.toNat).getD default

/-- The octets of two values, if they have an order: both are fixed, or one of them can change. -/
def orderedOctets? : Value → Value → Option (List UInt8 × List UInt8)
  | .octets .fixed bs, .octets .fixed cs | .octets .changeable bs, .octets _ cs
  | .octets _ bs, .octets .changeable cs => some (bs, cs)
  | _, _ => none

/-- Whether a value without items comes before another one. -/
def precedesPlain (v w : Value) : Except Fault Bool :=
  match v.number?, w.number?, v.text?, w.text?, orderedOctets? v w with
  | some x, some y, _, _, _ => .ok (x.precedes y)
  | _, _, some t, some u, _ => .ok (t.precedes u)
  | _, _, _, _, some (bs, cs) => .ok ((octetText bs).precedes (octetText cs))
  | _, _, _, _, _ => .error (.notOrdered v.typeName w.typeName)

mutual

/-- Whether a value comes before another one. -/
def precedes : Value → Value → Except Fault Bool
  | .list vs, .list ws | .tuple vs, .tuple ws => precedesItems vs ws
  | v, w => precedesPlain v w

/-- Whether the first of two items that differ comes before the other one. -/
def precedesItems : List Value → List Value → Except Fault Bool
  | _, [] => .ok false
  | [], _ :: _ => .ok true
  | v :: vs, w :: ws => if v.equals w then precedesItems vs ws else precedes v w

end

end Value

/-! ### Things in order -/

section Sorting

variable {α : Type} (before : α → α → Except Fault Bool)

/-- How many things go on in the direction of those before them, `down` or not. -/
def runLength (down : Bool) (last : α) : List α → Except Fault Nat
  | [] => .ok 0
  | a :: as => do
    if (← before a last) = down then
      let n ← runLength down a as
      pure (n + 1)
    else pure 0

/-- How many of some things in order stay before another one, from `low` up to `high` of them. -/
def placeOf (a : α) (sorted : List α) (low high : Nat) : Except Fault Nat :=
  if low < high then
    let middle := low + (high - low) / 2
    match sorted[middle]? with
    | none => .ok low
    | some b =>
      match before a b with
      | .error f => .error f
      | .ok true => placeOf a sorted low middle
      | .ok false => placeOf a sorted (middle + 1) high
  else .ok low
termination_by high - low
decreasing_by all_goals omega

/-- Things in order with another one in its place. -/
def insertInOrder (sorted : List α) (a : α) : Except Fault (List α) :=
  match placeOf before a sorted 0 sorted.length with
  | .error f => .error f
  | .ok k => .ok (sorted.take k ++ a :: sorted.drop k)

/-- Things in order with others put in one after the other. -/
def insertAll (sorted : List α) : List α → Except Fault (List α)
  | [] => .ok sorted
  | a :: as =>
    match insertInOrder before sorted a with
    | .error f => .error f
    | .ok sorted => insertAll sorted as

/-- Things in order. -/
def sortBy (as : List α) : Except Fault (List α) :=
  match as with
  | a :: b :: rest => do
    let down ← before b a
    let n ← runLength before down b rest
    let run := as.take (n + 2)
    insertAll before (if down then run.reverse else run) (as.drop (n + 2))
  | as => .ok as

end Sorting

end SaslBind
