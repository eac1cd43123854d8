import SaslBind.Fault
import SaslBind.Text.Word

/-!
# Headings of records

A line of a log may begin with a heading: a moment, a level between bars, and the place in the program that left
the record.  What is shown of a heading is the level alone.

* `Log.heading?` : the level of the heading of a line, and what is after the heading;
* `Log.shorten` : a text with its headings shortened, line by line;
* `Log.shownFile` : what is shown of a log file.
-/

namespace SaslBind

namespace Log

/-- The text after some characters, a zero among them standing for any digit. -/
def after? : Text → Text → Option Text
  | [], t => some t
  | _ :: _, [] => none
  | p :: ps, c :: t =>
    if c = p || (p = CodePoint.ofChar '0' && c.isDecimal) then after? ps t else none

/-- The characters of a kind at the beginning of a text, at least one, and the text after them. -/
def run? (kind : CodePoint → Bool) (t : Text) : Option (Text × Text) :=
  match t.takeWhile kind with
  | [] => none
  | run => some (run, t.dropWhile kind)

/-- A moment in a heading, a zero standing for any digit. -/
def momentShape : Text := "0000-00-00 00:00:00.000 | ".toText

/-- A place in the program: a module, a name and a line; the text after it. -/
def afterPlace? (t : Text) : Option Text := do
  let (_, t) ← run? (fun c => c.isWord || c = CodePoint.ofChar '.') t
  let t ← after? ":".toText t
  let (_, t) ← run? CodePoint.isWord t
  let t ← after? ":".toText t
  let (_, t) ← run? CodePoint.isDecimal t
  after? " - ".toText t

/-- The level of the heading that a line begins with, and what is after the heading. -/
def heading? (line : Text) : Option (Text × Text) := do
  let t ← after? momentShape line
  let (level, t) ← run? CodePoint.isWord t
  let (_, t) ← run? (· = CodePoint.ofChar ' ') t
  let t ← after? "| ".toText t
  let t ← afterPlace? t
  pure (level, t)

/-- A line with its heading shortened, if it has one. -/
def shortenLine (line : Text) : Text :=
  match heading? line with
  | some (level, message) => "[".toText ++ level ++ "] ".toText ++ message
  | none => line

def lineFeed : CodePoint := CodePoint.ofChar '\n'

/-- A text with its headings shortened. -/
def shorten (t : Text) : Text := Text.join [lineFeed] ((t.split lineFeed).map shortenLine)

/-- A text whose lines end with a line feed alone. -/
def plainLines : Text → Text
  | [] => []
  | c :: t =>
    if c = CodePoint.ofChar '\r' then
      match t with
      | d :: t => if d = lineFeed then lineFeed :: plainLines t else lineFeed :: plainLines (d :: t)
      | [] => [lineFeed]
    else c :: plainLines t

/-- What is shown of a log file; its octets must be those of a text. -/
def shownFile (content : List UInt8) : Except Fault Text :=
  ((Text.decodeStrict content).mapError .undecodable).map fun t => shorten (plainLines t)

end Log

end SaslBind
