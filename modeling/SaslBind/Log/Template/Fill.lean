import SaslBind.Log.Template.Letters
import SaslBind.Log.Template.NumberLayout
import SaslBind.Log.Template.Part
import SaslBind.Log.Template.Percent
import SaslBind.Log.Template.Piece

/-!
# Filling templates

Only the time is there to go into a place, and what its parts are.  A layout may have places of its own, but
those in it no more.

* `Template.parse` : the pieces of a template that nothing is wrong with;
* `Template.follow` : what the steps after a name lead to;
* `Thing.present` : a thing in a layout;
* `Template.fill` : the text of a template, its places filled from left to right.
-/

namespace SaslBind

namespace Log

namespace Template

/-- The pieces of a template that nothing is wrong with. -/
def parse (t : Text) : Except Fault (List Piece) :=
  match pieces t with
  | (ps, none) => .ok ps
  | (_, some m) => .error (.template m)

/-- The fault of a template. -/
def refuse (m : Malformed) : Except Fault α := .error (.template m)

/-- The end of the name of a part. -/
def endsPart (c : CodePoint) : Bool := ".[".toText.contains c

/-- What the steps after a name lead to. -/
def follow (o : Thing) : Text → Except Fault Thing
  | [] => .ok o
  | c :: t =>
    if c = CodePoint.ofChar '[' then
      match Text.cut? (CodePoint.ofChar ']') t with
      | none => refuse .unclosedBracket
      | some (key, _) =>
        match numberFrom 0 key with
        | .error m => refuse m
        | .ok (n, rest) =>
          if key.isEmpty then refuse .emptyStep
          else
            match o.item (if rest.isEmpty then some n else none) key with
            | .error f => .error f
            | .ok o => follow o (t.drop (key.length + 1))
    else if c ≠ CodePoint.ofChar '.' then refuse .afterBracket
    else
      match t.takeWhile (!endsPart ·) with
      | [] => refuse .emptyStep
      | d :: name =>
        match o.part (d :: name) with
        | .error f => .error f
        | .ok o => follow o (t.drop (name.length + 1))
termination_by t => t.length
decreasing_by all_goals simp only [List.length_drop, List.length_cons]; omega

/-- What the name of a place asks for. -/
def find (now : Moment) (name : Text) : Except Fault Thing :=
  let key := name.takeWhile (!endsPart ·)
  match numberFrom 0 key with
  | .error m => refuse m
  | .ok (_, []) => refuse .unnamed
  | .ok _ =>
    if key = "time".toText then follow (.fileTime now) (name.drop key.length)
    else .error (.unknownKey (Text.quoted key))

/-- What a conversion makes of what goes into a place. -/
def convert (o : Thing) (conversion : Option CodePoint) : Except Fault Thing :=
  match conversion with
  | none => .ok o
  | some c =>
    match c.toChar? with
    | some 'r' => .ok (.text o.repr)
    | some 's' => .ok (.text o.str)
    | some 'a' => .ok (.text o.repr.inAscii)
    | _ => refuse (.unknownConversion c)

/-! ### Layouts -/

/-- A time in a layout with percent signs. -/
def byPercent (m : Moment) (layout : Text) : Except Fault Text :=
  match layout.surrogateRun? with
  | some run => .error (.unencodable run)
  | none => .ok (Percent.layOut m layout)

/-- What is laid out, or the fault of its layout. -/
def ofLayout : Except Malformed Text → Except Fault Text
  | .ok t => .ok t
  | .error m => refuse m

/-- The layout of a moment of the log, if there is no other. -/
def logLayout : String := "%Y-%m-%dT%H:%M:%S.%f%z"

/-- The layout of the time of a log file, if there is no other. -/
def fileLayout : String := "%Y-%m-%d_%H-%M-%S_%f"

/-- A moment of the log in a layout, which may ask for the universal time at its end. -/
def layOutLogTime (m : Moment) (layout : Text) : Except Fault Text :=
  let isUniversal := Text.startsWith layout.reverse Letters.universalMark.reverse
  let m := if isUniversal then m.universal else m
  let layout := if isUniversal then layout.take (layout.length - Letters.universalMark.length) else layout
  let layout := if layout.isEmpty then logLayout.toText else layout
  if layout.contains Percent.sign then byPercent m layout else ofLayout (Letters.layOut m layout)

/-- A thing in a layout. -/
def Thing.present (o : Thing) (layout : Text) : Except Fault Text :=
  match o with
  | .text t => ofLayout (layOut layout t)
  | .whole n => ofLayout (layOutWhole layout n)
  | .fileTime m => layOutLogTime m (if layout.isEmpty then fileLayout.toText else layout)
  | .logTime m => layOutLogTime m layout
  | .moment m => if layout.isEmpty then .ok m.str else byPercent m layout
  | .date d => if layout.isEmpty then .ok d.str else byPercent ⟨d, ⟨0, 0, 0, 0⟩, none⟩ layout
  | o => if layout.isEmpty then .ok o.str else .error (.noLayout o.kind.title)

/-! ### Places -/

/-- A place is filled, with a way to fill the places of its layout. -/
def fillBlank (now : Moment) (expand : Text → Except Fault Text) (b : Blank) : Except Fault Text := do
  let o ← convert (← find now b.name) b.conversion
  let layout ← if b.layout.contains opening then expand b.layout else pure b.layout
  o.present layout

/-- Pieces are filled. -/
def fillPieces (now : Moment) (expand : Text → Except Fault Text) : List Piece → Except Fault Text
  | [] => .ok []
  | .char c :: ps => (fillPieces now expand ps).map (c :: ·)
  | .blank b :: ps => do
    let t ← fillBlank now expand b
    let rest ← fillPieces now expand ps
    pure (t ++ rest)

/-- The layout of a place that has places of its own, down to some depth. -/
def expand (now : Moment) : Nat → Text → Except Fault Text
  | 0, _ => refuse .tooDeep
  | depth + 1, t => do
    let (ps, fault) := pieces t
    let filled ← fillPieces now (expand now depth) ps
    match fault with
    | some m => refuse m
    | none => pure filled

/-- The text of a template. -/
def fill (now : Moment) (ps : List Piece) : Except Fault Text := fillPieces now (expand now 1) ps

end Template

end Log

end SaslBind
