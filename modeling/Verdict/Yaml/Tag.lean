import Verdict.Json.Text
import Verdict.Yaml.Cursor

/-!
Tags of YAML nodes. A tag is kept in bytes, because its percent signs can stand for bytes that are
no text.
-/

namespace Verdict.Yaml

abbrev Tag := List UInt8

namespace Tag

def ofText (text : String) : Tag :=
  text.toUTF8.toList

def core (kind : String) : Tag :=
  ofText ("tag:yaml.org,2002:" ++ kind)

def startsWithMark (tag : Tag) : Bool :=
  tag.head? == some '!'.toUInt8

def isText (tag : Tag) : Bool :=
  (String.fromUTF8? tag.toByteArray).isSome

end Tag

def uriMarks : List Char :=
  [';', '/', '?', ':', '@', '&', '=', '+', '$', '.', '%', '!', '~', '*', '\'', '(', ')']

def isUriChar (brackets : Bool) (char : Char) : Bool :=
  isNameChar char || uriMarks.contains char || (brackets && [',', '[', ']'].contains char)

def followers? (byte : UInt8) : Option Nat :=
  if byte < 0x80 then some 0
  else if byte < 0xC0 then none
  else if byte < 0xE0 then some 1
  else if byte < 0xF0 then some 2
  else if byte < 0xF8 then some 3
  else none

/-- The bytes of a URI, in which a percent sign writes a byte as two digits. So are all bytes of a
character whose first one is; `due` of them are still to come. -/
def uriBytes : (due : Nat) → List Char → Option (List UInt8)
  | due, '%' :: high :: low :: rest => do
    let byte := UInt8.ofNat (16 * (← Json.hexDigit? high) + (← Json.hexDigit? low))
    let due ← match due with
      | 0 => followers? byte
      | due + 1 => if 0x80 ≤ byte && byte < 0xC0 then some due else none
    return byte :: (← uriBytes due rest)
  | 0, [] => some []
  | 0, char :: rest =>
    if char == '%' then none else (uriBytes 0 rest).map (String.utf8EncodeChar char ++ ·)
  | _ + 1, _ => none

def takeUri (brackets : Bool) (cursor : Cursor) : Option (Tag × Cursor) := do
  let written := cursor.rest.takeWhile (isUriChar brackets)
  let bytes ← uriBytes 0 written
  return (bytes.takeWhile (· != 0), cursor.skip written.length)

def takeWrittenUri (brackets : Bool) (cursor : Cursor) : Option (Tag × Cursor) := do
  guard (cursor.rest.head?.any (isUriChar brackets))
  takeUri brackets cursor

end Verdict.Yaml
