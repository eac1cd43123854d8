import SaslBind.Number.Numeral
import SaslBind.Text.Quoted

/-!
# Malformed configuration documents

Why a document could not be read, and where.  The place is a line and a column, both from 1, or the
end of the document.
-/

namespace SaslBind

namespace Toml

/-- A key with dots in it: its parts, outermost first. -/
abbrev Key := List Text

def showKey : Key → Text
  | [part] => "(".toText ++ part.quoted ++ ",)".toText
  | key => "(".toText ++ Text.join ", ".toText (key.map Text.quoted) ++ ")".toText

/-- What is wrong with a document. -/
inductive Reason where
  | invalidStatement
  | newlineExpected
  | invalidKeyStart
  | equalsExpected
  | invalidValue
  | unclosedArray
  | unclosedInlineTable
  | duplicateInlineKey (part : Text)
  | declaredTwice (key : Key)
  | immutable (key : Key)
  | redefined (key : Key)
  | overwritten
  | tableNotClosed
  | arrayTableNotClosed
  | unterminated
  | missing (mark : Text)
  | illegalCharacter (c : CodePoint)
  | invalidCharacter (c : CodePoint)
  | strayBackslash
  | invalidHex
  | notScalar
  | invalidDate
  /-- An integer that is too long to be converted; for this no place is given. -/
  | tooManyDigits (count : Nat)
  /-- Lists and tables that are nested too deep; for this no place is given. -/
  | tooDeep
deriving DecidableEq, Repr

/-- The wording of a reason. -/
def Reason.message : Reason → Text
  | .invalidStatement => "Invalid statement".toText
  | .newlineExpected => "Expected newline or end of document after a statement".toText
  | .invalidKeyStart => "Invalid initial character for a key part".toText
  | .equalsExpected => "Expected '=' after a key in a key/value pair".toText
  | .invalidValue => "Invalid value".toText
  | .unclosedArray => "Unclosed array".toText
  | .unclosedInlineTable => "Unclosed inline table".toText
  | .duplicateInlineKey part => "Duplicate inline table key ".toText ++ part.quoted
  | .declaredTwice key => "Cannot declare ".toText ++ showKey key ++ " twice".toText
  | .immutable key => "Cannot mutate immutable namespace ".toText ++ showKey key
  | .redefined key => "Cannot redefine namespace ".toText ++ showKey key
  | .overwritten => "Cannot overwrite a value".toText
  | .tableNotClosed => "Expected ']' at the end of a table declaration".toText
  | .arrayTableNotClosed => "Expected ']]' at the end of an array declaration".toText
  | .unterminated => "Unterminated string".toText
  | .missing mark => "Expected ".toText ++ mark.quoted
  | .illegalCharacter c => "Illegal character ".toText ++ Text.quoted [c]
  | .invalidCharacter c => "Found invalid character ".toText ++ Text.quoted [c]
  | .strayBackslash => "Unescaped '\\' in a string".toText
  | .invalidHex => "Invalid hex value".toText
  | .notScalar => "Escaped character is not a Unicode scalar value".toText
  | .invalidDate => "Invalid date or datetime".toText
  | .tooManyDigits count => Numeral.limitMessage count
  | .tooDeep => "maximum recursion depth exceeded".toText

/-- Where a document goes wrong. -/
inductive Place where
  | at (line column : Nat)
  | atEnd
deriving DecidableEq, Repr

namespace Place

/-- The place after the first `n` characters of a document. -/
def after (document : Text) (n : Nat) : Place :=
  if document.length ≤ n then .atEnd
  else
    let before := document.take n
    let isBreak (c : CodePoint) : Bool := c.value = 0xA
    .at ((before.filter isBreak).length + 1) ((before.reverse.takeWhile (!isBreak ·)).length + 1)

/-- The wording of a place. -/
def message : Place → Text
  | .at line column => "line ".toText ++ Text.ofNat line ++ ", column ".toText ++ Text.ofNat column
  | .atEnd => "end of document".toText

end Place

/-- A document that can not be read. -/
structure Malformed where
  reason : Reason
  place : Place
deriving DecidableEq, Repr

/-- Whether a reason is told with its place. -/
def Reason.hasPlace : Reason → Bool
  | .tooManyDigits _ | .tooDeep => false
  | _ => true

/-- The wording of why and where. -/
def Malformed.message (m : Malformed) : Text :=
  m.reason.message ++ if m.reason.hasPlace then " (at ".toText ++ m.place.message ++ ")".toText else []

end Toml

end SaslBind
