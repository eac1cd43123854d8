import SaslBind.Text.Basic

/-!
# Templates that can not be filled

Why a text with places to fill can not be taken apart, or a place in it not be filled.
-/

namespace SaslBind

namespace Log

namespace Template

/-- What is wrong with a template. -/
inductive Malformed where
  | loneOpening
  | loneClosing
  | openingInName
  | unclosedName
  | missingConversion
  | afterConversion
  | unclosedLayout
  | tooDeep
  | unnamed
  | tooManyDigits
  | emptyStep
  | unclosedBracket
  | unknownConversion (c : CodePoint)
  | tooManyFractions
  /-- The layout of a text says what it can not. -/
  | missingPrecision
  | twoSeparators
  | separator (mark type : CodePoint)
  | invalidLayout (t : Text) (type : String)
  | unknownType (c : CodePoint) (type : String)
  | space
  | sign
  | negativeZero
  | alternate
  | innerPadding
  /-- The layout of a whole number says what it can not. -/
  | precision
  | negativeZeroOfWhole
  | signOfCharacter
  | alternateOfCharacter
  | noCharacter
  | precisionTooBig
  /-- A step does not follow a closing bracket. -/
  | afterBracket
deriving DecidableEq, Repr

namespace Malformed

/-- A character as it is or, beyond visible ASCII, by number; `last` is the first number that is not
visible. -/
def shown (last : Nat) (c : CodePoint) : Text :=
  if 0x20 < c.value ∧ c.value < last then [c] else "\\x".toText ++ Text.hex 1 c.value

/-- The end of the wording of what the layout of a text may not ask for. -/
def notForTexts (what : String) : Text := what.toText ++ " not allowed in string format specifier".toText

/-- The end of the wording of what the layout of a whole number may not ask for. -/
def notForWhole (what : String) : Text := what.toText ++ " not allowed in integer format specifier".toText

/-- The end of the wording of what the layout of a character by number may not ask for. -/
def notForCharacters (what : String) : Text :=
  what.toText ++ " not allowed with integer format specifier 'c'".toText

/-- The end of the wording of what does not go with a type. -/
def forType (type : String) : Text := " for object of type '".toText ++ type.toText ++ "'".toText

def message : Malformed → Text
  | .loneOpening => "Single '\x7b' encountered in format string".toText
  | .loneClosing => "Single '\x7d' encountered in format string".toText
  | .openingInName => "unexpected '\x7b' in field name".toText
  | .unclosedName => "expected '\x7d' before end of string".toText
  | .missingConversion => "end of string while looking for conversion specifier".toText
  | .afterConversion => "expected ':' after conversion specifier".toText
  | .unclosedLayout => "unmatched '\x7b' in format spec".toText
  | .tooDeep => "Max string recursion exceeded".toText
  | .unnamed => "Format string contains positional fields".toText
  | .tooManyDigits => "Too many decimal digits in format string".toText
  | .emptyStep => "Empty attribute in format string".toText
  | .unclosedBracket => "Missing ']' in format string".toText
  | .unknownConversion c => "Unknown conversion specifier ".toText ++ shown 0x7F c
  | .tooManyFractions =>
    "Invalid time format: the provided format string contains more than six successive 'S' characters. ".toText ++
      "This may be due to an attempt to use nanosecond precision, which is not supported.".toText
  | .missingPrecision => "Format specifier missing precision".toText
  | .twoSeparators => "Cannot specify both ',' and '_'.".toText
  | .separator mark type =>
    "Cannot specify '".toText ++ [mark] ++ "' with '".toText ++ shown 0x80 type ++ "'.".toText
  | .invalidLayout t type => "Invalid format specifier '".toText ++ t ++ "'".toText ++ forType type
  | .unknownType c type => "Unknown format code '".toText ++ shown 0x80 c ++ "'".toText ++ forType type
  | .space => notForTexts "Space"
  | .sign => notForTexts "Sign"
  | .negativeZero => notForTexts "Negative zero coercion (z)"
  | .alternate => notForTexts "Alternate form (#)"
  | .innerPadding => notForTexts "'=' alignment"
  | .precision => notForWhole "Precision"
  | .negativeZeroOfWhole => notForWhole "Negative zero coercion (z)"
  | .signOfCharacter => notForCharacters "Sign"
  | .alternateOfCharacter => notForCharacters "Alternate form (#)"
  | .noCharacter => "%c arg not in range(0x110000)".toText
  | .precisionTooBig => "precision too big".toText
  | .afterBracket => "Only '.' or '[' may follow ']' in format field specifier".toText

end Malformed

end Template

end Log

end SaslBind
