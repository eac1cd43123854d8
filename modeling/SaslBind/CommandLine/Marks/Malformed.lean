import SaslBind.Text.Basic

/-!
# Marks that can not be replaced

Why a mark in a description has no text: it is not written as one, or nothing is there that it could show.
-/

namespace SaslBind

namespace CommandLine

namespace Marks

/-- What is wrong with how a mark is written. -/
inductive Malformed where
  | unclosedName
  | incomplete
  | widthTooBig
  | precisionTooBig
  /-- The last letter of a mark, and its place in the description. -/
  | unsupported (c : CodePoint) (index : Nat)
deriving DecidableEq, Repr

/-- The wording of what is wrong with how a mark is written. -/
def Malformed.message : Malformed → Text
  | .unclosedName => "incomplete format key".toText
  | .incomplete => "incomplete format".toText
  | .widthTooBig => "width too big".toText
  | .precisionTooBig => "precision too big".toText
  | .unsupported c index =>
    let shown := if 31 ≤ c.value ∧ c.value ≤ 126 then c else CodePoint.ofChar '?'
    "unsupported format character '".toText ++ [shown] ++ "' (0x".toText ++ Text.hex 1 c.value ++
      ") at index ".toText ++ Text.ofNat index

/-- What a mark asks for that is not there. -/
inductive Mismatch where
  | nothingLeft
  | widthIsNumber
  | number (letter : CodePoint) (type : String)
  | integer (letter : CodePoint) (type : String)
  | real (type : String)
  | character
deriving DecidableEq, Repr

/-- The wording of what a mark asks for that is not there. -/
def Mismatch.message : Mismatch → Text
  | .nothingLeft => "not enough arguments for format string".toText
  | .widthIsNumber => "* wants int".toText
  | .number letter type =>
    "%".toText ++ [letter] ++ " format: a real number is required, not ".toText ++ type.toText
  | .integer letter type =>
    "%".toText ++ [letter] ++ " format: an integer is required, not ".toText ++ type.toText
  | .real type => "must be real number, not ".toText ++ type.toText
  | .character => "%c requires int or char".toText

end Marks

end CommandLine

end SaslBind
