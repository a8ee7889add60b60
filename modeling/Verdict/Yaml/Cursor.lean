/-!
Places in a YAML text, and the characters that count there.
-/

namespace Verdict.Yaml

def isBreak (char : Char) : Bool :=
  char == '\n' || char == '\r' || char == '\x85' || char == '\u2028' || char == '\u2029'

def isBlank (char : Char) : Bool :=
  char == ' ' || char == '\t'

def isSpace (char : Char) : Bool :=
  isBlank char || isBreak char

def byteOrderMark : Char := '\uFEFF'

def isAllowed (char : Char) : Bool :=
  char == '\t' || char == '\n' || char == '\r' || char == '\x85' ||
    (0x20 ≤ char.toNat && char.toNat ≤ 0x7E) ||
    (0xA0 ≤ char.toNat && char.toNat ≤ 0xFFFD) ||
    0x10000 ≤ char.toNat

def startsSpace (text : List Char) : Bool :=
  text.head?.all isSpace

def isNameChar (char : Char) : Bool :=
  char.isAlphanum || char == '_' || char == '-'

def byteSize (text : List Char) : Nat :=
  text.foldl (fun size char => size + char.utf8Size) 0

/-- What is left of a text, and the place at which it starts: its line, its column in characters,
and its offset from the start of the text in bytes. -/
structure Cursor where
  rest : List Char
  line : Nat
  column : Nat
  offset : Nat

namespace Cursor

def ofText (text : List Char) : Cursor :=
  { rest := text, line := 0, column := 0, offset := 0 }

def skip (cursor : Cursor) (count : Nat) : Cursor :=
  { cursor with
    rest := cursor.rest.drop count
    column := cursor.column + count
    offset := cursor.offset + byteSize (cursor.rest.take count) }

def skipWhile (cursor : Cursor) (test : Char → Bool) : Cursor :=
  cursor.skip (cursor.rest.takeWhile test).length

def skipTo (cursor : Cursor) (rest : List Char) : Cursor :=
  cursor.skip (cursor.rest.length - rest.length)

def breakWidth : List Char → Nat
  | '\r' :: '\n' :: _ => 2
  | char :: _ => if isBreak char then 1 else 0
  | [] => 0

def skipBreak (cursor : Cursor) : Cursor :=
  let width := breakWidth cursor.rest
  { rest := cursor.rest.drop width
    line := cursor.line + 1
    column := 0
    offset := cursor.offset + byteSize (cursor.rest.take width) }

/-- How the line break at the cursor is kept: as a line feed, unless it is a separator of lines or
paragraphs. -/
def breakText (cursor : Cursor) : List Char :=
  match cursor.rest with
  | '\u2028' :: _ => ['\u2028']
  | '\u2029' :: _ => ['\u2029']
  | char :: _ => if isBreak char then ['\n'] else []
  | [] => []

def startsWith (cursor : Cursor) (char : Char) : Bool :=
  cursor.rest.head? == some char

def atDocumentMark (cursor : Cursor) : Bool :=
  cursor.column == 0 &&
    match cursor.rest with
    | '-' :: '-' :: '-' :: rest => startsSpace rest
    | '.' :: '.' :: '.' :: rest => startsSpace rest
    | _ => false

end Cursor

end Verdict.Yaml
