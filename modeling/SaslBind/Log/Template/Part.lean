import SaslBind.Fault
import SaslBind.Log.Template.Thing

/-!
# Parts of things

A part of a thing is looked for in its type and in the types that this one is made from.  A method or an operator
that is found there comes with the thing that it is done with.  A type is a thing too, but what it holds by itself
comes before what is held by the type of types, save for the fields and members that this one has.

* `Thing.part` : a part by name;
* `Thing.item` : a part by number, or by a key.
-/

namespace SaslBind

namespace Log

namespace Template

/-- What is found under a name: something that a type holds, or a thing that is the same for all of its things. -/
inductive Found where
  | held (owner : Kind) (h : Holding)
  | constant (o : Thing)

namespace Kind

/-- What is said about a type. -/
def described (k : Kind) : Thing :=
  match k.description with
  | some t => .text t.toText
  | none => if k.fields.contains "__doc__" then .field k "__doc__" else .nothing

/-- What is the same for all things of a type. -/
def constant? (k : Kind) (name : String) : Option Thing :=
  match k, name with
  | .moment, "min" => some (.moment .least)
  | .moment, "max" => some (.moment .greatest)
  | .date, "min" => some (.date Moment.least.date)
  | .date, "max" => some (.date Moment.greatest.date)
  | .date, "resolution" => some (.span ⟨1, 0, 0⟩)
  | .moment, "resolution" | .span, "resolution" => some (.span .step)
  | .span, "min" => some (.span .least)
  | .span, "max" => some (.span .greatest)
  | .zone, "min" => some (.zone .least)
  | .zone, "max" => some (.zone .greatest)
  | .zone, "utc" => some (.zone .universal)
  | .table, "__hash__" | .typeTable, "__hash__" => some .nothing
  | k, "__doc__" => some k.described
  | k, "__module__" => if k.isOfLog then some (.text k.homeName.toText) else none
  | _, _ => none

/-- What a type itself has under a name. -/
def own? (k : Kind) (name : String) : Option Found :=
  match k.holding? name with
  | some h => some (.held k h)
  | none => (k.constant? name).map .constant

/-- What a type or the nearest of its ancestors has under a name. -/
def reach? (k : Kind) (name : String) : Option Found := (k :: k.ancestors).findSome? fun a => a.own? name

end Kind

namespace Thing

/-! ### What is found, by itself and with a thing -/

/-- What is found under a name, by itself. -/
def alone (name : String) : Found → Thing
  | .constant o => o
  | .held owner .operator => .operator owner name
  | .held owner (.method .onThing) => .instanceMethod owner name
  | .held owner (.method .onType) => .typeMethod owner name
  | .held owner (.method .alone) | .held owner .maker => .operation (.type owner) owner name
  | .held owner (.method .written) => .function owner name
  | .held owner .field => .field owner name
  | .held owner .member => .member owner name

/-- What is found under a name, with the type that was asked for it. -/
def ofType (k : Kind) (name : String) : Found → Thing
  | .held owner (.method .onType) => .operation (.type k) owner name
  | found => alone name found

/-- What is found under a name, with the thing that was asked for it. -/
def ofThing (o : Thing) (name : String) : Found → Thing
  | .held owner .operator => .boundOperator o owner name
  | .held owner (.method .onThing) => .operation o owner name
  | .held owner (.method .written) => .boundFunction o owner name
  | found => ofType o.kind name found

/-! ### The values of fields and members -/

/-- A part of a moment. -/
def momentField? (m : Moment) (name : String) : Option Thing :=
  match name with
  | "year" => some (.whole m.date.year)
  | "month" => some (.whole m.date.month)
  | "day" => some (.whole m.date.day)
  | "hour" => some (.whole m.clock.hour)
  | "minute" => some (.whole m.clock.minute)
  | "second" => some (.whole m.clock.second)
  | "microsecond" => some (.whole m.clock.microsecond)
  | "fold" => some (.whole 0)
  | "tzinfo" => some ((m.zone.map .zone).getD .nothing)
  | _ => none

/-- A part of a span. -/
def spanField? (s : TimeSpan) (name : String) : Option Thing :=
  match name with
  | "days" => some (.whole s.days)
  | "seconds" => some (.whole s.seconds)
  | "microseconds" => some (.whole s.microseconds)
  | _ => none

/-- A part of a whole number. -/
def wholeField? (n : Int) (name : String) : Option Thing :=
  match name with
  | "real" | "numerator" => some (.whole n)
  | "imag" => some (.whole 0)
  | "denominator" => some (.whole 1)
  | _ => none

/-- A text that may not be there. -/
def ofText? (t : Option String) : Thing := (t.map fun t => .text t.toText).getD .nothing

/-- A part of a type. -/
def typeField? (k : Kind) (name : String) : Option Thing :=
  match name with
  | "__name__" | "__qualname__" => some (.text k.name.toText)
  | "__module__" => some (.text k.homeName.toText)
  | "__doc__" => some k.described
  | "__text_signature__" => some (ofText? k.signature)
  | "__base__" => some ((k.ancestors.head?.map .type).getD .nothing)
  | "__bases__" => some (.tuple (k.ancestors.take 1 |>.map .type))
  | "__mro__" => some (.tuple ((k :: k.ancestors).map .type))
  | "__dict__" => some (.typeTable k)
  | "__annotations__" => if k.isOfLog then some (.table none) else none
  | "__basicsize__" => some (.whole k.room.1)
  | "__itemsize__" => some (.whole k.room.2)
  | "__weakrefoffset__" => some (.whole k.offsets.1)
  | "__dictoffset__" => some (.whole k.offsets.2)
  | _ => none

/-- A part of what a type holds under a name of its own. -/
def heldField? (owner : Kind) (own name : String) : Option Thing :=
  match name with
  | "__name__" => some (.text own.toText)
  | "__qualname__" => some (.text (qualified owner own))
  | "__objclass__" => some (.type owner)
  | "__doc__" => some (ofText? (descriptionOf owner own))
  | "__text_signature__" => some (ofText? (signatureOf owner own))
  | _ => none

/-- The type that a method with a thing is named for. -/
def namedFor : Thing → Kind
  | .type k => k
  | o => o.kind

/-- A part of a method with the thing that it is done with. -/
def operationField? (self : Thing) (owner : Kind) (own name : String) : Option Thing :=
  match name with
  | "__self__" => some self
  | "__module__" => some .nothing
  | "__qualname__" => some (.text (qualified self.namedFor own))
  | name => heldField? owner own name

/-- The names of the parameters of a method that belongs to what writes the log. -/
def parameters (owner : Kind) (own : String) : List Thing :=
  let second := if owner = .logTime then "fmt" else if own = "__init__" then "datetime" else "spec"
  ["self", second].map fun name => .text name.toText

/-- A part of such a method. -/
def functionField? (owner : Kind) (own name : String) : Option Thing :=
  match name with
  | "__name__" => some (.text own.toText)
  | "__qualname__" => some (.text (qualified owner own))
  | "__module__" => some (.text owner.homeName.toText)
  | "__defaults__" => some (if own = "__init__" then .tuple [.nothing] else .nothing)
  | "__kwdefaults__" | "__closure__" | "__doc__" => some .nothing
  | "__annotations__" | "__dict__" => some (.table none)
  | "__code__" => some (.code owner own)
  | _ => none

/-- A part of what such a method is made from. -/
def codeField? (owner : Kind) (own name : String) : Option Thing :=
  match name with
  | "co_name" => some (.text own.toText)
  | "co_qualname" => some (.text (qualified owner own))
  | "co_varnames" => some (.tuple (parameters owner own))
  | "co_argcount" | "co_nlocals" => some (.whole (parameters owner own).length)
  | "co_posonlyargcount" | "co_kwonlyargcount" => some (.whole 0)
  | "co_cellvars" | "co_freevars" => some (.tuple [])
  | _ => none

/-- The value of a field or a member. -/
def fieldOf? (o : Thing) (name : String) : Option Thing :=
  match o, name with
  | o, "__class__" => some (.type o.kind)
  | .fileTime m, "__dict__" => some (.table (some m))
  | .logTime _, "__dict__" => some (.table none)
  | .fileTime _, "__weakref__" | .logTime _, "__weakref__" => some .nothing
  | .logTime m, name | .moment m, name => momentField? m name
  | .date d, name => momentField? ⟨d, ⟨0, 0, 0, 0⟩, none⟩ name
  | .span s, name => spanField? s name
  | .whole n, name => wholeField? n name
  | .type k, name => typeField? k name
  | .function owner own, name => functionField? owner own name
  | .boundFunction _ owner own, "__func__" => some (.function owner own)
  | .boundFunction self _ _, "__self__" | .boundOperator self _ _, "__self__" => some self
  | .boundFunction .., _ => some .nothing
  | .operation self owner own, name => operationField? self owner own name
  | .operator owner own, name | .boundOperator _ owner own, name | .instanceMethod owner own, name
  | .typeMethod owner own, name | .field owner own, name | .member owner own, name => heldField? owner own name
  | .code owner own, name => codeField? owner own name
  | _, _ => none

/-! ### Parts by name -/

/-- Whether the value is that of a field or a member. -/
def isValued : Found → Bool
  | .held _ .field | .held _ .member => true
  | _ => false

/-- A part of a type by name. -/
def partOfType? (k : Kind) (name : String) : Option Thing :=
  match Kind.type.reach? name with
  | some found =>
    if isValued found then fieldOf? (.type k) name
    else (((k.reach? name).map (ofType k name)).or (some (ofThing (.type k) name found)))
  | none => (k.reach? name).map (ofType k name)

/-- A part by name of what is no type. -/
def partOfThing? (o : Thing) (name : String) : Option Thing :=
  match o, o.kind.reach? name with
  | .fileTime m, none => if name = "datetime" then some (.logTime m) else none
  | o, some found => if isValued found then fieldOf? o name else some (ofThing o name found)
  | _, none => none

/-- A part by name; a method with its thing has the parts of the method too. -/
def part? (o : Thing) (name : String) : Option Thing :=
  match o with
  | .type k => partOfType? k name
  | .boundFunction self owner own =>
    (partOfThing? (.boundFunction self owner own) name).or (partOfThing? (.function owner own) name)
  | o => partOfThing? o name

/-- The fault of a part that there is not. -/
def noPart (o : Thing) (name : Text) : Fault :=
  match o with
  | .type k => if name = "__abstractmethods__".toText then .noValue name else .noPartOfType k.title name
  | .boundFunction .. => .noPart Kind.function.title name
  | o => .noPart o.kind.title name

/-- A part by name, or the fault that there is none. -/
def part (o : Thing) (name : Text) : Except Fault Thing :=
  match name.toString?.bind o.part? with
  | some p => .ok p
  | none => .error (o.noPart name)

/-! ### Parts by number -/

/-- One of some things by its number. -/
def numbered (k : Kind) (parts : List Thing) (number : Option Nat) : Except Fault Thing :=
  match number with
  | none => .error (.namedItem k.title)
  | some n =>
    match parts[n]? with
    | some p => .ok p
    | none => .error (.outOfRange k.title)

/-- What a table holds under a number or a key. -/
def ofKey (held? : String → Option Thing) (number : Option Nat) (key : Text) : Except Fault Thing :=
  match number, key.toString?.bind held? with
  | some n, _ => .error (.unknownKey (Text.ofNat n))
  | none, some o => .ok o
  | none, none => .error (.unknownKey key.quoted)

/-- A part by number, or by a key that is none. -/
def item (o : Thing) (number : Option Nat) (key : Text) : Except Fault Thing :=
  match o with
  | .text t => numbered .text (t.map fun c => .text [c]) number
  | .tuple items => numbered .tuple items number
  | .table now => ofKey (fun key => if key = "datetime" then now.map .logTime else none) number key
  | .typeTable k => ofKey (fun key => (k.own? key).map (alone key)) number key
  | .type k => .error (.typeNotSubscriptable k.title)
  | o => .error (.notSubscriptable o.kind.title)

end Thing

end Template

end Log

end SaslBind
