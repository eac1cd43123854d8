import SaslBind.Log.Template.Malformed

/-!
# Templates

A template is a text with places to fill.  A place stands between braces: the name of what goes there,
then perhaps an exclamation mark and the letter of a conversion, then perhaps a colon and a layout,
which may hold braces in pairs.  A brace that is doubled stands for itself.

* `Template.pieces` : the pieces of a template, and what is wrong with it after them.
-/

namespace SaslBind

namespace Log

namespace Template

/-- A place to fill. -/
structure Blank where
  name : Text
  conversion : Option CodePoint
  layout : Text
deriving DecidableEq, Repr

/-- A piece of a template: a character, or a place to fill. -/
inductive Piece where
  | char (c : CodePoint)
  | blank (b : Blank)
deriving DecidableEq, Repr

def opening : CodePoint := CodePoint.ofChar '\x7b'

def closing : CodePoint := CodePoint.ofChar '\x7d'

/-- Where a reading stands.  Names and layouts are held last character first. -/
inductive Place where
  | outside
  /-- After an opening brace. -/
  | opened
  /-- After a closing brace. -/
  | closed
  /-- In a name, perhaps between brackets, where no character ends it. -/
  | name (codes : Text) (inBrackets : Bool)
  /-- Before the letter of a conversion. -/
  | conversion (name : Text)
  /-- After the letter of a conversion. -/
  | converted (name : Text) (c : CodePoint)
  /-- In a layout, with some braces open. -/
  | layout (name : Text) (conversion : Option CodePoint) (codes : Text) (inner : Nat)
deriving DecidableEq, Repr

namespace Place

/-- What is wrong if the template ends here. -/
def fault? : Place → Option Malformed
  | .outside => none
  | .opened => some .loneOpening
  | .closed => some .loneClosing
  | .name .. => some .unclosedName
  | .conversion _ => some .missingConversion
  | .converted .. | .layout .. => some .unclosedLayout

/-- One character of a name. -/
def stepName (codes : Text) (inBrackets : Bool) (c : CodePoint) : Except Malformed (Option Piece × Place) :=
  if inBrackets then .ok (none, .name (c :: codes) (c ≠ CodePoint.ofChar ']'))
  else if c = opening then .error .openingInName
  else if c = closing then .ok (some (.blank ⟨codes.reverse, none, []⟩), .outside)
  else if c = CodePoint.ofChar ':' then .ok (none, .layout codes.reverse none [] 0)
  else if c = CodePoint.ofChar '!' then .ok (none, .conversion codes.reverse)
  else .ok (none, .name (c :: codes) (c = CodePoint.ofChar '['))

/-- One character more: the piece that is complete, and the place after it. -/
def step (place : Place) (c : CodePoint) : Except Malformed (Option Piece × Place) :=
  match place with
  | .outside =>
    if c = opening then .ok (none, .opened)
    else if c = closing then .ok (none, .closed)
    else .ok (some (.char c), .outside)
  | .opened => if c = opening then .ok (some (.char c), .outside) else stepName [] false c
  | .closed => if c = closing then .ok (some (.char c), .outside) else .error .loneClosing
  | .name codes inBrackets => stepName codes inBrackets c
  | .conversion asked => .ok (none, .converted asked c)
  | .converted asked letter =>
    if c = closing then .ok (some (.blank ⟨asked, some letter, []⟩), .outside)
    else if c = CodePoint.ofChar ':' then .ok (none, .layout asked (some letter) [] 0)
    else .error .afterConversion
  | .layout asked letter codes inner =>
    if c = opening then .ok (none, .layout asked letter (c :: codes) (inner + 1))
    else if c = closing then
      match inner with
      | 0 => .ok (some (.blank ⟨asked, letter, codes.reverse⟩), .outside)
      | inner + 1 => .ok (none, .layout asked letter (c :: codes) inner)
    else .ok (none, .layout asked letter (c :: codes) inner)

end Place

/-- The pieces of the rest of a template up to its end or to what is wrong with it. -/
def piecesFrom (place : Place) : Text → List Piece × Option Malformed
  | [] => ([], place.fault?)
  | c :: t =>
    match place.step c with
    | .error m => ([], some m)
    | .ok (piece, place) =>
      let (pieces, fault) := piecesFrom place t
      (piece.toList ++ pieces, fault)

/-- The pieces of a template up to its end or to what is wrong with it. -/
def pieces (t : Text) : List Piece × Option Malformed := piecesFrom .outside t

end Template

end Log

end SaslBind
