import SaslBind.Number.Binary64

/-!
# JSON

Objects keep the order of their members, integers have any size and stay apart from numbers with a
fraction or an exponent.

`Json.print` writes a value without blanks.  In a text the double quote, the backslash and the control
characters are escaped, those with a letter of their own by it and the others by number; all else
stands for itself.
-/

namespace SaslBind

/-- A JSON value. -/
inductive Json where
  | null
  | bool (b : Bool)
  | int (n : Int)
  | real (x : Binary64)
  | text (t : Text)
  | array (items : List Json)
  | object (members : List (Text × Json))
deriving Repr, Inhabited

namespace Json

/-- A constant text. -/
def word (s : String) : Json := .text s.toText

/-- An object with constant names. -/
def named (members : List (String × Json)) : Json := .object (members.map fun (k, v) => (k.toText, v))

/-- The member with this name; of several the last. -/
def get? (j : Json) (key : String) : Option Json :=
  match j with
  | .object members => members.reverse.lookup key.toText
  | _ => none

/-- The letter that escapes a character. -/
def escapeLetter? (c : CodePoint) : Option Char :=
  match c.value with
  | 0x8 => some 'b'
  | 0x9 => some 't'
  | 0xA => some 'n'
  | 0xC => some 'f'
  | 0xD => some 'r'
  | 0x22 => some '"'
  | 0x5C => some '\\'
  | _ => none

/-- A character inside a text. -/
def printCode (c : CodePoint) : Text :=
  match escapeLetter? c with
  | some letter => [CodePoint.ofChar '\\', CodePoint.ofChar letter]
  | none => if c.value < 0x20 then "\\u".toText ++ Text.hex 4 c.value else [c]

/-- A text between double quotes. -/
def printText (t : Text) : Text :=
  CodePoint.ofChar '"' :: t.flatMap printCode ++ [CodePoint.ofChar '"']

/-- A number; what is not finite has only its usual name. -/
def printReal (x : Binary64) : Text :=
  match x with
  | .nan => "NaN".toText
  | .infinite negative => if negative then "-Infinity".toText else "Infinity".toText
  | .finite .. => x.briefText

mutual

/-- A value without blanks. -/
def print : Json → Text
  | .null => "null".toText
  | .bool b => if b then "true".toText else "false".toText
  | .int n => Text.ofInt n
  | .real x => printReal x
  | .text t => printText t
  | .array items => "[".toText ++ printItems items ++ "]".toText
  | .object members => "\x7b".toText ++ printMembers members ++ "\x7d".toText

/-- The items of an array with commas between them. -/
def printItems : List Json → Text
  | [] => []
  | [v] => print v
  | v :: w :: vs => print v ++ CodePoint.ofChar ',' :: printItems (w :: vs)

/-- The members of an object with commas between them. -/
def printMembers : List (Text × Json) → Text
  | [] => []
  | [(k, v)] => printText k ++ CodePoint.ofChar ':' :: print v
  | (k, v) :: m :: ms =>
    printText k ++ CodePoint.ofChar ':' :: print v ++ CodePoint.ofChar ',' :: printMembers (m :: ms)

end

end Json

end SaslBind
