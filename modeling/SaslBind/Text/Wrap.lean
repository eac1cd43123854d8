import SaslBind.Text.Span
import SaslBind.Text.Word

/-!
# Lines of a limited width

A text is cut into chunks, runs of blanks and pieces of words, and the chunks are put on lines as long
as they fit.

* `Text.chunks` : words may be parted after a hyphen between letters and on both sides of a dash that
  is written with two hyphens or more;
* `Text.wrap` : the lines.  A chunk wider than a line is broken, after a hyphen if it has one;
* `Text.squeeze` : the text with each run of blanks made one space.
-/

namespace SaslBind

namespace CodePoint

/-- The blanks of ASCII, which part words. -/
def isGap (c : CodePoint) : Bool := (0x9 ≤ c.value && c.value ≤ 0xD) || c.value = 0x20

def isHyphen (c : CodePoint) : Bool := c.value = 0x2D

/-- The characters that a dash may follow. -/
def endsWord (c : CodePoint) : Bool := c.isWord || "!\"'&.,?".toText.contains c

end CodePoint

namespace Text

/-! ### Chunks -/

/-- What a chunk consists of. -/
inductive ChunkKind where
  | gap
  | dash
  | word
deriving DecidableEq, Repr

/-- Whether the text begins with two hyphens or more and a word character after them. -/
def startsDash (t : Text) : Bool :=
  2 ≤ (t.takeWhile CodePoint.isHyphen).length && (t.dropWhile CodePoint.isHyphen).head?.any CodePoint.isWord

/-- The kind of a chunk that begins with `c`, after the text `before` it (last character first). -/
def chunkKind (before : Text) (c : CodePoint) (after : Text) : ChunkKind :=
  if c.isGap then .gap
  else if before.head?.any CodePoint.endsWord && startsDash (c :: after) then .dash
  else .word

/-- Two letters before a hyphen, or a letter, a hyphen and a letter. -/
def hyphenatesBefore : Text → Bool
  | b :: c :: rest =>
    b.isLetter && (c.isLetter || (c.isHyphen && rest.head?.any CodePoint.isLetter))
  | _ => false

/-- Two letters after a hyphen, or a letter, a hyphen and a letter. -/
def hyphenatesAfter : Text → Bool
  | b :: c :: rest =>
    b.isLetter && (c.isLetter || (c.isHyphen && rest.head?.any CodePoint.isLetter))
  | _ => false

/-- Whether a chunk of `size` characters ends with its last character `c`. -/
def endsChunk (kind : ChunkKind) (size : Nat) (before : Text) (c : CodePoint) (after : Text) : Bool :=
  match after with
  | [] => true
  | d :: _ =>
    match kind with
    | .gap => !d.isGap
    | .dash => !d.isHyphen
    | .word =>
      d.isGap || (c.endsWord && startsDash after) ||
        (c.isHyphen && 2 ≤ size && hyphenatesBefore before && hyphenatesAfter after)

/-- The chunks of the rest of a text, after the characters of the chunk that is not complete. -/
def chunksFrom (before : Text) (kind : ChunkKind) (chunk : Text) : Text → List Text
  | [] => if chunk.isEmpty then [] else [chunk.reverse]
  | c :: after =>
    let kind := if chunk.isEmpty then chunkKind before c after else kind
    let chunk := c :: chunk
    if endsChunk kind chunk.length before c after then
      chunk.reverse :: chunksFrom (c :: before) .word [] after
    else chunksFrom (c :: before) kind chunk after

/-- The chunks of a text. -/
def chunks (t : Text) : List Text := chunksFrom [] .word [] t

/-! ### Lines -/

/-- The chunks that fit on a line after `used` characters, how far they reach, and the chunks left. -/
def fit (width used : Nat) : List Text → List Text × Nat × List Text
  | [] => ([], used, [])
  | chunk :: rest =>
    if used + chunk.length ≤ width then
      let (line, used, left) := fit width (used + chunk.length) rest
      (chunk :: line, used, left)
    else ([], used, chunk :: rest)

/-- How much of a chunk goes on a line with so much room: up to the last hyphen that has something else
before it, or as much as there is room for. -/
def breakAt (room : Nat) (chunk : Text) : Nat :=
  let head := chunk.take room
  let tail := (head.reverse.takeWhile (!·.isHyphen)).length
  if tail < head.length then
    let hyphen := head.length - tail - 1
    if (chunk.take hyphen).any (!·.isHyphen) then hyphen + 1 else room
  else room

/-- One line and the chunks after it. -/
def takeLine (width : Nat) (cs : List Text) : List Text × List Text :=
  let (line, used, left) := fit width 0 cs
  let (line, left) :=
    match left with
    | chunk :: rest =>
      if width < chunk.length then
        let n := breakAt (width - used) chunk
        (line ++ [chunk.take n], chunk.drop n :: rest)
      else (line, left)
    | [] => (line, left)
  let line := if line.getLast?.any isBlank then line.dropLast else line
  (line, left)

/-- The lines of chunks; `fuel` bounds their number. -/
def wrapChunks (width : Nat) : Nat → Bool → List Text → List Text
  | 0, _, _ => []
  | _ + 1, _, [] => []
  | fuel + 1, isFirst, chunk :: rest =>
    let cs := if !isFirst && isBlank chunk then rest else chunk :: rest
    let (line, left) := takeLine width cs
    if line.isEmpty then wrapChunks width fuel isFirst left
    else line.flatten :: wrapChunks width fuel false left

/-- The lines of a text. -/
def wrap (width : Nat) (t : Text) : List Text := wrapChunks width (2 * t.length + 2) true t.chunks

/-- The text with a single space for each run of blanks. -/
def collapse : Text → Text
  | [] => []
  | c :: rest =>
    if c.isGap then
      match rest with
      | d :: _ => if d.isGap then collapse rest else CodePoint.ofChar ' ' :: collapse rest
      | [] => [CodePoint.ofChar ' ']
    else c :: collapse rest

/-- The text without blanks at its ends and with a single space for each run of them. -/
def squeeze (t : Text) : Text := t.collapse.strip

end Text

end SaslBind
