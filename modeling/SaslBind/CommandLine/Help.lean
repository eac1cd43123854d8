import SaslBind.CommandLine.Marks.Replace
import SaslBind.CommandLine.Spec
import SaslBind.Text.Wrap

/-!
# Usage and help

`Spec.usage` is the short text that goes before an error, `Spec.helpText` the long one.  Both are laid
out for lines of 78 characters.  There is no help if marks in the description can not be replaced.
-/

namespace SaslBind

namespace CommandLine

def lineWidth : Nat := 78

/-- The column in which the text about an option begins at the latest. -/
def latestHelpColumn : Nat := 24

/-- How far the options are indented. -/
def optionIndent : Nat := 2

/-- What the usage begins with. -/
def usageLabel : Text := "usage: ".toText

def lineFeed : Text := "\n".toText

/-- Parts on lines, the first line having `used` characters before it; a line that has a part ends
where the next one would go beyond the width. -/
def fillParts (indent used : Nat) (line : List Text) : List Text → List (List Text)
  | [] => if line.isEmpty then [] else [line]
  | part :: rest =>
    if lineWidth < used + 1 + part.length && !line.isEmpty then
      line :: fillParts indent (indent + part.length) [part] rest
    else fillParts indent (used + part.length + 1) (line ++ [part]) rest

/-- The lines that `fillParts` makes when indented by `indent`, the first one after `used` characters. -/
def partLines (indent used : Nat) (parts : List Text) : List Text :=
  (fillParts indent (used - 1) [] parts).map (Text.join " ".toText)

namespace Spec

variable {κ : Type}

/-- An option with the name of its value. -/
def withMetavar (o : Opt κ) : Text := o.name ++ " ".toText ++ o.metavar

/-- A text between brackets. -/
def bracketed (t : Text) : Text := "[".toText ++ t ++ "]".toText

/-- The usage of an option by itself: two parts if it is required, and one in brackets if not. -/
def ownParts (o : Opt κ) : List Text :=
  if o.required then [o.name, o.metavar] else [bracketed (withMetavar o)]

/-- The usage of options; two neighbours of one group share their brackets. -/
def optionParts : List (Opt κ) → List Text
  | [] => []
  | [o] => ownParts o
  | o :: p :: rest =>
    if o.group.isSome && o.group = p.group then
      bracketed (withMetavar o ++ " | ".toText ++ withMetavar p) :: optionParts rest
    else ownParts o ++ optionParts (p :: rest)

/-- All parts of the usage after the name of the command. -/
def usageParts (s : Spec κ) : List Text := bracketed shortHelp :: optionParts s.options

/-- The usage without its label, on one line if it fits. -/
def usageBody (s : Spec κ) : Text :=
  let label := usageLabel.length
  let oneLine := Text.join " ".toText ((s.program :: s.usageParts).filter (!·.isEmpty))
  if label + oneLine.length ≤ lineWidth then oneLine
  else if 4 * (label + s.program.length) ≤ 3 * lineWidth then
    let indent := label + s.program.length + 1
    Text.join (lineFeed ++ Text.spaces indent) (partLines indent label (s.program :: s.usageParts))
  else
    Text.join (lineFeed ++ Text.spaces label) (s.program :: partLines label label s.usageParts)

/-- Takes line feeds off both ends of a text. -/
def stripLineFeeds (t : Text) : Text :=
  let isFeed (c : CodePoint) : Bool := c.value = 0xA
  ((t.dropWhile isFeed).reverse.dropWhile isFeed).reverse

/-- Leaves no more than two line feeds in a row, when `run` of them come before the text. -/
def limitLineFeeds (run : Nat) : Text → Text
  | [] => []
  | c :: rest =>
    if c.value = 0xA then
      if run < 2 then c :: limitLineFeeds (run + 1) rest else limitLineFeeds run rest
    else c :: limitLineFeeds 0 rest

/-- The layout of a whole text: no line feeds at its ends but one, and no more than one empty line in
a row. -/
def finishLayout (t : Text) : Text := stripLineFeeds (limitLineFeeds 0 t) ++ lineFeed

def usage (s : Spec κ) : Text := finishLayout (usageLabel ++ s.usageBody)

/-- The names of an option and the text about it. -/
def helpRow (o : Opt κ) : Text × Text := (withMetavar o, o.help)

/-- All rows of the help. -/
def helpRows (s : Spec κ) : List (Text × Text) :=
  (shortHelp ++ ", ".toText ++ longHelp, "show this help message and exit".toText) ::
    s.options.map helpRow

/-- The column in which the texts about the options begin. -/
def helpColumn (s : Spec κ) : Nat :=
  let widest := (s.helpRows.map fun r => r.1.length + optionIndent).foldl max 0
  min (widest + 2) latestHelpColumn

/-- The lines of a row. -/
def rowText (column : Nat) (row : Text × Text) : Text :=
  let (names, about) := row
  let room := column - optionIndent - 2
  let lines := Text.wrap (max (lineWidth - column) 11) about.squeeze
  let head :=
    if names.length ≤ room then
      Text.spaces optionIndent ++ names ++ Text.spaces (room - names.length + 2)
    else Text.spaces optionIndent ++ names ++ lineFeed ++ Text.spaces column
  head ++ Text.join (lineFeed ++ Text.spaces column) lines ++ lineFeed

/-- The mark for the name of the command; marks are replaced only in descriptions that hold it. -/
def programMark : Text := "%(prog)".toText

/-- Whether the mark for the name of the command stands in the text. -/
def holdsMark : Text → Bool
  | [] => false
  | c :: rest => Text.startsWith (c :: rest) programMark || holdsMark rest

/-- The paragraph that describes the command. -/
def descriptionText (s : Spec κ) : Except Fault Text :=
  match s.description with
  | none => .ok []
  | some t =>
    let replaced := if holdsMark t then Marks.replace s.program t else .ok t
    replaced.map fun t => Text.join lineFeed (Text.wrap lineWidth t.squeeze) ++ lineFeed ++ lineFeed

/-- The help, if the description can be shown. -/
def helpText (s : Spec κ) : Except Fault Text :=
  s.descriptionText.map fun description =>
    finishLayout
      (usageLabel ++ s.usageBody ++ lineFeed ++ lineFeed ++ description ++ lineFeed ++
        "options:".toText ++ lineFeed ++ (s.helpRows.map (rowText s.helpColumn)).flatten ++ lineFeed)

/-- A description without marks can be shown. -/
theorem isOk_helpText (s : Spec κ) (h : s.description.all (!holdsMark ·)) : ∃ t, s.helpText = .ok t := by
  cases hd : s.description with
  | none => exact ⟨_, by simp [helpText, descriptionText, hd, Except.map]; rfl⟩
  | some t =>
    have : holdsMark t = false := by simpa [hd] using h
    exact ⟨_, by simp [helpText, descriptionText, hd, this, Except.map]; rfl⟩

/-- What is written about a usage error. -/
def errorText (s : Spec κ) (message : Text) : Text :=
  s.program ++ ": error: ".toText ++ message ++ lineFeed

end Spec

end CommandLine

end SaslBind
