import SaslBind.Log.Template.Roster.Held
import SaslBind.Stamp.Calendar

/-!
# What goes into places

The time of a log file goes into a place.  It has parts, by name or by number, which have parts in turn: times and
numbers, types, and the methods and operators that types hold.

* `Thing.kind` : the type of a thing;
* `Thing.str`, `Thing.repr` : a thing as it is usually written, and with its type.
-/

namespace SaslBind

namespace Log

namespace Template

/-- What can go into a place. -/
inductive Thing where
  /-- The time of a log file. -/
  | fileTime (now : Moment)
  | logTime (now : Moment)
  | moment (m : Moment)
  | date (d : Date)
  | zone (z : Zone)
  | span (s : TimeSpan)
  | whole (n : Int)
  | text (t : Text)
  | nothing
  /-- Things in a row. -/
  | tuple (items : List Thing)
  /-- The table of the attributes of the time of a log file, or an empty one. -/
  | table (now : Option Moment)
  | type (k : Kind)
  /-- The table of what a type holds. -/
  | typeTable (k : Kind)
  /-- A method that belongs to what writes the log, by itself and with the thing that it is done with. -/
  | function (owner : Kind) (name : String)
  | boundFunction (self : Thing) (owner : Kind) (name : String)
  /-- An operator, by itself and with the thing before it. -/
  | operator (owner : Kind) (name : String)
  | boundOperator (self : Thing) (owner : Kind) (name : String)
  /-- A method that is done with things, and one that is done with a type. -/
  | instanceMethod (owner : Kind) (name : String)
  | typeMethod (owner : Kind) (name : String)
  /-- A method, with the thing or the type that it is done with. -/
  | operation (self : Thing) (owner : Kind) (name : String)
  | field (owner : Kind) (name : String)
  | member (owner : Kind) (name : String)
  /-- What a method is made from. -/
  | code (owner : Kind) (name : String)
deriving Repr, Inhabited

namespace Thing

def kind : Thing → Kind
  | .fileTime _ => .fileTime
  | .logTime _ => .logTime
  | .moment _ => .moment
  | .date _ => .date
  | .zone _ => .zone
  | .span _ => .span
  | .whole _ => .whole
  | .text _ => .text
  | .nothing => .nothing
  | .tuple _ => .tuple
  | .table _ => .table
  | .type _ => .type
  | .typeTable _ => .typeTable
  | .function .. => .function
  | .boundFunction .. => .boundFunction
  | .operator .. => .operator
  | .boundOperator .. => .boundOperator
  | .instanceMethod .. => .instanceMethod
  | .typeMethod .. => .typeMethod
  | .operation .. => .operation
  | .field .. => .field
  | .member .. => .member
  | .code .. => .code

/-- Where a thing is held, as far as that is written. -/
def place : Text := " at 0x7f0000000000".toText

/-- A thing without a written form of its own. -/
def anonymous (k : Kind) : Text := k.fullName.toText ++ " object".toText ++ place

/-- What a type holds under a name. -/
def heldShown (what : String) (owner : Kind) (name : String) : Text :=
  what.toText ++ " '".toText ++ name.toText ++ "' of '".toText ++ owner.title.toText ++ "' objects".toText

/-- A name in a type. -/
def qualified (owner : Kind) (name : String) : Text := (owner.name ++ "." ++ name).toText

/-- Between angle brackets. -/
def angled (t : Text) : Text := "<".toText ++ t ++ ">".toText

mutual

/-- A thing with its type. -/
def repr : Thing → Text
  | .fileTime _ => angled (anonymous .fileTime)
  | .logTime m => m.typed Kind.logTime.title
  | .moment m => m.typed Kind.moment.title
  | .date d => Stamp.repr (.date d)
  | .zone z => z.repr
  | .span s => s.repr
  | .whole n => Text.ofInt n
  | .text t => t.quoted
  | .nothing => "None".toText
  | .tuple [item] => "(".toText ++ repr item ++ ",)".toText
  | .tuple items => "(".toText ++ reprItems items ++ ")".toText
  | .table none => "\x7b\x7d".toText
  | .table (some m) => "\x7b'datetime': ".toText ++ m.typed Kind.logTime.title ++ "\x7d".toText
  | .type k => k.shown
  | .typeTable k => "mappingproxy(".toText ++ k.shown ++ ")".toText
  | .function owner name => angled ("function ".toText ++ qualified owner name ++ place)
  | .boundFunction self owner name =>
    angled ("bound method ".toText ++ qualified owner name ++ " of ".toText ++ repr self)
  | .operator owner name => angled (heldShown "slot wrapper" owner name)
  | .boundOperator self _ name =>
    angled ("method-wrapper '".toText ++ name.toText ++ "' of ".toText ++ self.kind.title.toText ++ " object".toText ++
      place)
  | .instanceMethod owner name | .typeMethod owner name => angled (heldShown "method" owner name)
  | .operation self _ name =>
    angled ("built-in method ".toText ++ name.toText ++ " of ".toText ++ self.kind.title.toText ++ " object".toText ++
      place)
  | .field owner name => angled (heldShown "attribute" owner name)
  | .member owner name => angled (heldShown "member" owner name)
  | .code _ name => angled ("code object ".toText ++ name.toText ++ place)

/-- Things with commas between them. -/
def reprItems : List Thing → Text
  | [] => []
  | [o] => repr o
  | o :: p :: os => repr o ++ ", ".toText ++ reprItems (p :: os)

end

/-- A thing as it is usually written. -/
def str : Thing → Text
  | .logTime m | .moment m => m.str
  | .date d => d.str
  | .zone z => z.str
  | .span s => s.str
  | .text t => t
  | o => o.repr

end Thing

end Template

end Log

end SaslBind
