import SaslBind.Text.Printable
import SaslBind.Text.Utf8

/-!
# Quoted texts

`Text.quoted` writes a text between quotes on one line, and `quotedOctets` does so for octets.  The
single quote is used unless the text holds one and no double quote; the quote and the backslash get a
backslash in front, and what is not printable is written by number.
-/

namespace SaslBind

/-- The mark to quote with, given which marks the content holds. -/
def quoteMark (holdsSingle holdsDouble : Bool) : CodePoint :=
  CodePoint.ofChar (if holdsSingle && !holdsDouble then '"' else '\'')

/-- How an unprintable character is written: the shortest of three widths. -/
def CodePoint.byNumber (c : CodePoint) : Text :=
  if c.value < 0x100 then "\\x".toText ++ Text.hex 2 c.value
  else if c.value < 0x10000 then "\\u".toText ++ Text.hex 4 c.value
  else "\\U".toText ++ Text.hex 8 c.value

/-- A character between two marks. -/
def CodePoint.quotedIn (mark c : CodePoint) : Text :=
  if c = mark ∨ c = CodePoint.ofChar '\\' then [CodePoint.ofChar '\\', c]
  else if c.value = 0x9 then "\\t".toText
  else if c.value = 0xA then "\\n".toText
  else if c.value = 0xD then "\\r".toText
  else if c.isPrintable then [c]
  else c.byNumber

/-- The text between quotes. -/
def Text.quoted (t : Text) : Text :=
  let mark := quoteMark (t.contains (CodePoint.ofChar '\'')) (t.contains (CodePoint.ofChar '"'))
  mark :: t.flatMap (CodePoint.quotedIn mark) ++ [mark]

/-- The text with what is beyond ASCII by number. -/
def Text.inAscii (t : Text) : Text := t.flatMap fun c => if c.value < 0x80 then [c] else c.byNumber

/-- Octets between quotes after a letter b, those beyond ASCII by number; if `singles` is set, single
quotes get a backslash whatever the mark is. -/
def quotedOctets (singles : Bool) (bs : List UInt8) : Text :=
  let t : Text := bs.map fun b => (CodePoint.ofNat? b.toNat).getD default
  let mark := quoteMark (t.contains (CodePoint.ofChar '\'')) (t.contains (CodePoint.ofChar '"'))
  let written (c : CodePoint) : Text :=
    if singles && c = CodePoint.ofChar '\'' then [CodePoint.ofChar '\\', c]
    else if c.value < 0x7F then CodePoint.quotedIn mark c
    else c.byNumber
  CodePoint.ofChar 'b' :: mark :: t.flatMap written ++ [mark]

end SaslBind
