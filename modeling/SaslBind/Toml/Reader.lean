import SaslBind.Toml.Scalars
import SaslBind.Toml.Table

/-!
# Reading configuration documents

A document is a sequence of statements, one a line: entries, declarations of tables and declarations of
tables in lists.  `Toml.read` gives the table of a document or says why and where it is malformed.
-/

namespace SaslBind

namespace Toml

/-- Something that must come. -/
def expect (mark : String) (reason : Reason) (t : Text) : Except Failure Text :=
  if t.startsWith mark.toText then .ok (t.drop mark.toText.length) else .error (reason, t)

/-- The text after a comment, if one comes. -/
def skipComment (t : Text) : Except Failure Text :=
  match t with
  | c :: rest =>
    if c = CodePoint.ofChar '#' then
      let comment := rest.takeWhile (!isFeed ·)
      match firstOf? isControl comment with
      | some (c, _) => .error (.invalidCharacter c, rest.drop (comment.takeWhile (!isControl ·)).length)
      | none => .ok (rest.drop comment.length)
    else .ok t
  | [] => .ok t

/-- The text after blanks and comments; `fuel` bounds their number. -/
def skipFiller : Nat → Text → Except Failure Text
  | 0, t => .ok t
  | fuel + 1, t => do
    let rest ← skipComment (skipBlank t)
    if rest.length = t.length then .ok rest else skipFiller fuel rest

/-- Characters of a part of a key without quotes. -/
def isBare (c : CodePoint) : Bool :=
  c.isDigit || (0x41 ≤ c.value && c.value ≤ 0x5A) || (0x61 ≤ c.value && c.value ≤ 0x7A) ||
    c = CodePoint.ofChar '-' || c = CodePoint.ofChar '_'

/-- A part of a key. -/
def keyPart (t : Text) : Except Failure (Text × Text) :=
  match t with
  | [] => .error (.invalidKeyStart, t)
  | c :: rest =>
    if isBare c then .ok (t.takeWhile isBare, t.dropWhile isBare)
    else if c = CodePoint.ofChar '\'' then literalText false rest
    else if c = CodePoint.ofChar '"' then basicText false rest
    else .error (.invalidKeyStart, t)

/-- A key; `fuel` bounds the number of its parts. -/
def keyFrom : Nat → Text → Except Failure (Key × Text)
  | 0, t => .error (.invalidKeyStart, t)
  | fuel + 1, t => do
    let (part, t) ← keyPart t
    let t := skipSpace t
    match after? '.' t with
    | none => .ok ([part], t)
    | some rest =>
      let (key, t) ← keyFrom fuel (skipSpace rest)
      .ok (part :: key, t)

def key (t : Text) : Except Failure (Key × Text) := keyFrom (t.length + 1) t

/-- Whether a value is a table or a list. -/
def isContainer : Value → Bool
  | .dict _ | .list _ => true
  | _ => false

/-- The room for lists and tables inside one another: a list takes two parts of it, a table three. -/
def nestingRoom : Nat := 980

/-- What is left of the room inside one more list or table. -/
def narrow (cost room : Nat) (t : Text) : Except Failure Nat :=
  if cost ≤ room then .ok (room - cost) else .error (.tooDeep, t)

mutual

/-- A value; `fuel` bounds how many values and separators it is made of, `room` how deep they nest. -/
def value : Nat → Nat → Text → Except Failure (Value × Text)
  | 0, _, t => .error (.invalidValue, t)
  | fuel + 1, room, t =>
    match text? t with
    | some result => result.map fun (content, rest) => (.text content, rest)
    | none =>
      if t.startsWith "true".toText then .ok (.bool true, t.drop 4)
      else if t.startsWith "false".toText then .ok (.bool false, t.drop 5)
      else
        match t with
        | [] => .error (.invalidValue, t)
        | c :: rest =>
          if c = CodePoint.ofChar '[' then do
            let room ← narrow 2 room t
            let rest ← skipFiller (rest.length + 1) rest
            let (items, rest) ← arrayItems fuel room [] rest
            .ok (.list items, rest)
          else if c.value = 0x7B then do
            let room ← narrow 3 room t
            let (table, rest) ← inlineEntries fuel room true [] ⟨[], []⟩ (skipSpace rest)
            .ok (.dict table, rest)
          else
            match stamp? t, number? t with
            | some result, _ => result
            | none, some result => result
            | none, none => .error (.invalidValue, t)

/-- The items of a list up to its bracket, after those read so far (last first). -/
def arrayItems : Nat → Nat → List Value → Text → Except Failure (List Value × Text)
  | 0, _, _, t => .error (.unclosedArray, t)
  | fuel + 1, room, items, t =>
    if t.startsWith "]".toText then .ok (items.reverse, t.drop 1)
    else do
      let (item, t) ← value fuel room t
      let t ← skipFiller (t.length + 1) t
      if t.startsWith "]".toText then .ok ((item :: items).reverse, t.drop 1)
      else
        let t ← expect "," .unclosedArray t
        let t ← skipFiller (t.length + 1) t
        arrayItems fuel room (item :: items) t

/-- The entries of a table on one line up to its brace, after those read so far. -/
def inlineEntries : Nat → Nat → Bool → Table → Marks → Text → Except Failure (Table × Text)
  | 0, _, _, _, _, t => .error (.unclosedInlineTable, t)
  | fuel + 1, room, isFirst, table, marks, t =>
    if isFirst && t.head?.any (·.value = 0x7D) then .ok (table, t.drop 1)
    else do
      let (key, t) ← key t
      let t ← expect "=" .equalsExpected t
      let (v, t) ← value fuel room (skipSpace t)
      if marks.isFrozen key then .error (.immutable key, t)
      else
        let stem := key.getLast?.getD []
        match Table.update false some key.dropLast table with
        | none => .error (.overwritten, t)
        | some _ =>
          match Table.update false (Table.add stem v) key.dropLast table with
          | none => .error (.duplicateInlineKey stem, t)
          | some table =>
            let t := skipSpace t
            if t.head?.any (·.value = 0x7D) then .ok (table, t.drop 1)
            else
              let t ← expect "," .unclosedInlineTable t
              let marks := if isContainer v then marks.freeze key else marks
              inlineEntries fuel room false table marks (skipSpace t)

end

/-- What is known while a document is read: its table, the marks, the keys that are marked when the
next table is declared, and the table that entries go to. -/
structure Document where
  table : Table
  marks : Marks
  pending : List Key
  header : Key

namespace Document

/-- A document of which nothing was read. -/
def empty : Document := ⟨[], ⟨[], []⟩, [], []⟩

/-- The pending keys are marked. -/
def settle (d : Document) : Document :=
  { d with marks := d.pending.foldl Marks.declare d.marks, pending := [] }

/-- The keys of the tables on the way of a dotted key, outermost first, below the header. -/
def onTheWay (header key : Key) : List Key :=
  (List.range (key.length - 1)).map fun i => header ++ key.take (i + 1)

/-- An entry. -/
def entry (d : Document) (t : Text) : Except Failure (Document × Text) := do
  let (k, t) ← key t
  let t ← expect "=" .equalsExpected t
  let rest := skipSpace t
  let (v, t) ← value (2 * rest.length + 2) nestingRoom rest
  let way := onTheWay d.header k
  match way.find? d.marks.isDeclared with
  | some redefined => .error (.redefined redefined, t)
  | none =>
    let parent := d.header ++ k.dropLast
    if d.marks.isFrozen parent then .error (.immutable parent, t)
    else
      match Table.update true (Table.add (k.getLast?.getD []) v) parent d.table with
      | none => .error (.overwritten, t)
      | some table =>
        let marks := if isContainer v then d.marks.freeze (d.header ++ k) else d.marks
        .ok ({ d with table, marks, pending := d.pending ++ way }, t)

/-- The declaration of a table, from after its bracket. -/
def declareTable (d : Document) (t : Text) : Except Failure (Document × Text) := do
  let (k, t) ← key (skipSpace t)
  if d.marks.isDeclared k || d.marks.isFrozen k then .error (.declaredTwice k, t)
  else
    match Table.update true some k d.table with
    | none => .error (.overwritten, t)
    | some table =>
      let t ← expect "]" .tableNotClosed t
      .ok ({ d with table, marks := d.marks.declare k, header := k }, t)

/-- The declaration of a table in a list, from after its two brackets. -/
def declareInList (d : Document) (t : Text) : Except Failure (Document × Text) := do
  let (k, t) ← key (skipSpace t)
  if d.marks.isFrozen k then .error (.immutable k, t)
  else
    match Table.update true (Table.extend (k.getLast?.getD [])) k.dropLast d.table with
    | none => .error (.overwritten, t)
    | some table =>
      let t ← expect "]]" .arrayTableNotClosed t
      .ok ({ d with table, marks := (d.marks.clear k).declare k, header := k }, t)

/-- One statement, from its first character; a comment alone is an empty one. -/
def statement (d : Document) (c : CodePoint) (rest : Text) :
    Except Failure (Document × Text) :=
  if isBare c || c = CodePoint.ofChar '"' || c = CodePoint.ofChar '\'' then d.entry (c :: rest)
  else if c = CodePoint.ofChar '[' then
    if rest.startsWith "[".toText then d.settle.declareInList (rest.drop 1)
    else d.settle.declareTable rest
  else if c = CodePoint.ofChar '#' then .ok (d, c :: rest)
  else .error (.invalidStatement, c :: rest)

/-- All statements; `fuel` bounds their number. -/
def statements (d : Document) : Nat → Text → Except Failure Document
  | 0, _ => .ok d
  | fuel + 1, t =>
    match skipSpace t with
    | [] => .ok d
    | c :: rest =>
      if isFeed c then d.statements fuel rest
      else do
        let (d, t) ← d.statement c rest
        let t ← skipComment (skipSpace t)
        match t with
        | [] => .ok d
        | c :: rest =>
          if isFeed c then d.statements fuel rest else .error (.newlineExpected, c :: rest)

end Document

/-- A carriage return before a line feed does not count. -/
def joinLineEnds : Text → Text
  | c :: d :: rest =>
    if c.value = 0xD ∧ d.value = 0xA then d :: joinLineEnds rest else c :: joinLineEnds (d :: rest)
  | t => t

def read (t : Text) : Except Malformed Table :=
  let source := joinLineEnds t
  match Document.empty.statements (source.length + 1) source with
  | .ok d => .ok d.table
  | .error (reason, rest) => .error ⟨reason, Place.after source (source.length - rest.length)⟩

end Toml

end SaslBind
