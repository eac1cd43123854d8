import SaslBind.Number.Numeral
import SaslBind.Toml.Malformed

/-!
# Texts in configuration documents

A text stands between double quotes, where a backslash escapes, or between single quotes, where all
characters stand for themselves; three quotes let it go over several lines.

* `Toml.Result` : what a reader gives: a value and the text after it, or a reason with the text at
  which it arose;
* `Toml.basicText`, `Toml.literalText` : the two kinds on one line;
* `Toml.text` : a text of any kind.
-/

namespace SaslBind

namespace Toml

/-- What is wrong, and the text from there on. -/
abbrev Failure := Reason × Text

/-- A value and the text after it, or what is wrong. -/
abbrev Result (α : Type) := Except Failure (α × Text)

/-- Spaces and tabs. -/
def isSpace (c : CodePoint) : Bool := c.value = 0x20 || c.value = 0x9

def isFeed (c : CodePoint) : Bool := c.value = 0xA

/-- Control characters other than the tab. -/
def isControl (c : CodePoint) : Bool := (c.value < 0x20 && c.value ≠ 0x9) || c.value = 0x7F

/-- Characters that may not stand in a text. -/
def isIllegal (multiline : Bool) (c : CodePoint) : Bool := isControl c && !(multiline && isFeed c)

/-- The text after spaces and tabs. -/
def skipSpace (t : Text) : Text := t.dropWhile isSpace

/-- The text after spaces, tabs and line feeds. -/
def skipBlank (t : Text) : Text := t.dropWhile fun c => isSpace c || isFeed c

/-- The character that a letter after a backslash stands for. -/
def escaped? (c : CodePoint) : Option CodePoint :=
  match c.value with
  | 0x62 => CodePoint.ofNat? 0x8
  | 0x74 => CodePoint.ofNat? 0x9
  | 0x6E => CodePoint.ofNat? 0xA
  | 0x66 => CodePoint.ofNat? 0xC
  | 0x72 => CodePoint.ofNat? 0xD
  | 0x22 => some c
  | 0x5C => some c
  | _ => none

/-- The value of a hexadecimal digit. -/
def hexDigit? (c : CodePoint) : Option Nat :=
  if c.isDigit then c.digit?
  else if 0x41 ≤ c.value ∧ c.value ≤ 0x46 then some (c.value - 0x37)
  else if 0x61 ≤ c.value ∧ c.value ≤ 0x66 then some (c.value - 0x57)
  else none

/-- The character with a number of so many hexadecimal digits. -/
def hexCode (count : Nat) (t : Text) : Result Text :=
  let digits := (t.take count).filterMap hexDigit?
  if digits.length ≠ count then .error (.invalidHex, t)
  else
    let rest := t.drop count
    match CodePoint.ofNat? (Text.positionalValue 16 digits) with
    | some c => if c.isSurrogate then .error (.notScalar, rest) else .ok ([c], rest)
    | none => .error (.notScalar, rest)

/-- What an escape stands for, given the text after the backslash. -/
def escape (multiline : Bool) (t : Text) : Result Text :=
  match t with
  | [] => .error (.strayBackslash, [])
  | c :: rest =>
    if multiline && isFeed c then .ok ([], skipBlank rest)
    else if multiline && isSpace c then
      match skipSpace rest with
      | [] => .ok ([], [])
      | d :: rest => if isFeed d then .ok ([], skipBlank rest) else .error (.strayBackslash, d :: rest)
    else if c = CodePoint.ofChar 'u' then hexCode 4 rest
    else if c = CodePoint.ofChar 'U' then hexCode 8 rest
    else
      match escaped? c with
      | some d => .ok ([d], rest)
      | none => .error (.strayBackslash, rest)

/-- Three double quotes. -/
def threeQuotes : Text := "\"\"\"".toText

/-- Three single quotes. -/
def threeApostrophes : Text := "'''".toText

/-- The rest of a text between double quotes, after the characters read so far (last first); `fuel`
bounds the number of characters. -/
def basicFrom (multiline : Bool) : Nat → Text → Text → Result Text
  | 0, _, t => .error (.unterminated, t)
  | _ + 1, _, [] => .error (.unterminated, [])
  | fuel + 1, read, c :: rest =>
    if c = CodePoint.ofChar '"' then
      if !multiline then .ok (read.reverse, rest)
      else if Text.startsWith (c :: rest) threeQuotes then .ok (read.reverse, rest.drop 2)
      else basicFrom multiline fuel (c :: read) rest
    else if c = CodePoint.ofChar '\\' then
      match escape multiline rest with
      | .error e => .error e
      | .ok (t, rest) => basicFrom multiline fuel (t.reverse ++ read) rest
    else if isIllegal multiline c then .error (.illegalCharacter c, c :: rest)
    else basicFrom multiline fuel (c :: read) rest

/-- A text between double quotes, from after the first. -/
def basicText (multiline : Bool) (t : Text) : Result Text := basicFrom multiline (t.length + 1) [] t

/-- The text up to a mark; `none` if the mark does not come. -/
def upTo? (mark : Text) : Text → Option Text
  | [] => none
  | c :: rest =>
    if Text.startsWith (c :: rest) mark then some [] else (upTo? mark rest).map (c :: ·)

/-- The first character of a kind, with the text from there on. -/
def firstOf? (bad : CodePoint → Bool) (t : Text) : Option (CodePoint × Text) :=
  match t.dropWhile (!bad ·) with
  | [] => none
  | c :: rest => some (c, c :: rest)

/-- A text between single quotes, from after the first. -/
def literalText (multiline : Bool) (t : Text) : Result Text :=
  let mark := if multiline then threeApostrophes else "'".toText
  match upTo? mark t with
  | none => .error (.missing mark, [])
  | some content =>
    match firstOf? (isIllegal multiline) content with
    | some (c, _) => .error (.invalidCharacter c, t.drop (content.takeWhile (!isIllegal multiline ·)).length)
    | none => .ok (content, t.drop (content.length + mark.length))

/-- One or two quotes more at the end of a text over several lines belong to it. -/
def closingQuotes (quote : CodePoint) (content rest : Text) : Text × Text :=
  match rest with
  | c :: d :: rest' =>
    if c = quote then
      if d = quote then (content ++ [c, d], rest') else (content ++ [c], d :: rest')
    else (content, rest)
  | [c] => if c = quote then (content ++ [c], []) else (content, rest)
  | [] => (content, [])

/-- A text over several lines, from after the first three quotes. -/
def multilineText (literal : Bool) (t : Text) : Result Text :=
  let t := if t.head?.any isFeed then t.drop 1 else t
  let quote := CodePoint.ofChar (if literal then '\'' else '"')
  match (if literal then literalText true t else basicText true t) with
  | .error e => .error e
  | .ok (content, rest) => .ok (closingQuotes quote content rest)

/-- A text of any kind; `none` if no quote comes first. -/
def text? (t : Text) : Option (Result Text) :=
  match t with
  | [] => none
  | c :: rest =>
    if c = CodePoint.ofChar '"' then
      some (if t.startsWith threeQuotes then multilineText false (t.drop 3) else basicText false rest)
    else if c = CodePoint.ofChar '\'' then
      some (if t.startsWith threeApostrophes then multilineText true (t.drop 3) else literalText false rest)
    else none

end Toml

end SaslBind
