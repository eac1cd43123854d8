import SaslBind.Fault
import SaslBind.Log.Level

/-!
# Sessions

A command runs in a session: it writes to two sinks, one for its output and one for errors, and leaves
log records.  Either sink may be missing, and then what is written to it is dropped.

* `Session α` : a computation that ends with a value or a fault and has events on the way;
* `Session.write`, `Session.record` : the events;
* `Event.text` : what is on a sink after events; by `text_append` it grows at its end.

Sessions are a lawful monad, so a computation can be read step by step.
-/

namespace SaslBind

/-- The two sinks. -/
inductive Sink where
  | out
  | err
deriving DecidableEq, Repr

/-- Which sinks are there. -/
structure Sinks where
  out : Bool
  err : Bool
deriving DecidableEq, Repr

def Sinks.has (s : Sinks) : Sink → Bool
  | .out => s.out
  | .err => s.err

/-- What happens in a session. -/
inductive Event where
  | write (sink : Sink) (t : Text)
  | record (r : Log.Record)
deriving DecidableEq, Repr

namespace Event

/-- What an event puts on a sink. -/
def textOn (sink : Sink) : Event → Text
  | .write s t => if s = sink then t else []
  | .record _ => []

/-- What is on a sink after events. -/
def text (sink : Sink) (events : List Event) : Text := events.flatMap (textOn sink)

@[simp] theorem text_nil (sink : Sink) : text sink [] = [] := rfl

@[simp] theorem text_append (sink : Sink) (es fs : List Event) :
    text sink (es ++ fs) = text sink es ++ text sink fs := by simp [text]

/-- The record of an event. -/
def record? : Event → Option Log.Record
  | .record r => some r
  | .write .. => none

end Event

/-- A computation in a session: given the sinks that are there, a value or a fault, and the events up
to it. -/
def Session (α : Type) : Type := Sinks → Except Fault α × List Event

namespace Session

/-- Ends with a value. -/
protected def pure (a : α) : Session α := fun _ => (.ok a, [])

/-- Goes on with the value of a computation; a fault ends both. -/
protected def bind (x : Session α) (f : α → Session β) : Session β := fun sinks =>
  match x sinks with
  | (.ok a, events) =>
    let (result, more) := f a sinks
    (result, events ++ more)
  | (.error e, events) => (.error e, events)

instance : Monad Session where
  pure := Session.pure
  bind := Session.bind

instance : LawfulMonad Session :=
  LawfulMonad.mk' Session
    (fun x => by
      funext sinks
      change Session.bind x (fun a => Session.pure a) sinks = x sinks
      rcases h : x sinks with ⟨_ | _, _⟩ <;> simp [Session.bind, Session.pure, h])
    (fun _ _ => rfl)
    (fun x f g => by
      funext sinks
      change Session.bind (Session.bind x f) g sinks = Session.bind x (fun a => Session.bind (f a) g) sinks
      rcases h : x sinks with ⟨_ | a, _⟩
      · simp [Session.bind, h]
      · rcases h' : f a sinks with ⟨_ | _, _⟩ <;> simp [Session.bind, h, h'])

/-- Ends with a fault. -/
def fail (f : Fault) : Session α := fun _ => (.error f, [])

/-- A value or a fault without events. -/
def lift (result : Except Fault α) : Session α := fun _ => (result, [])

def has (sink : Sink) : Session Bool := fun sinks => (.ok (sinks.has sink), [])

/-- Writes to a sink, if it is there and the text is not empty. -/
def write (sink : Sink) (t : Text) : Session Unit := fun sinks =>
  (.ok (), if sinks.has sink && !t.isEmpty then [.write sink t] else [])

def writeLine (sink : Sink) (line : Text) : Session Unit := write sink (line ++ "\n".toText)

/-- Writes an argument of any type as a line, to a sink that may be none at all. -/
def writeArgument (sink : Option Sink) : List Value → Session Unit
  | [] => sink.forM fun s => writeLine s []
  | [line] => sink.forM fun s => writeLine s line.str
  | args => fail (.tooManyArguments .line (args.length + 1))

def writeLines (sink : Sink) : List Text → Session Unit
  | [] => pure ()
  | line :: lines => do
    writeLine sink line
    writeLines sink lines

/-- Leaves a log record. -/
def record (level : Log.Level) (message : Text) : Session Unit := fun _ =>
  (.ok (), [.record ⟨level, message⟩])

end Session

end SaslBind
