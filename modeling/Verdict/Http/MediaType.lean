import Verdict.Text.Case

/-!
Media types of request bodies, `type/subtype; name=value`, and which of them are JSON.
-/

namespace Verdict.Http.MediaType

def tokenMarks : List Char :=
  ['!', '#', '$', '%', '&', '\'', '*', '+', '-', '.', '^', '_', '\x60', '|', '~']

def isTokenChar (char : Char) : Bool :=
  char.isAlphanum || tokenMarks.contains char

def isQuotedChar (char : Char) : Bool :=
  char.toNat > 31 && char.toNat < 127

/-- The value of a parameter is a token or stands in quotes, which do not close at once; none if it
is neither. The text starts with the semicolon of the next parameter, or is at its end. -/
def takeParameterValue : List Char → Option (List Char)
  | '"' :: first :: rest =>
    match rest.dropWhile fun char => isQuotedChar char && char != '"' with
    | '"' :: after =>
      let after := after.dropWhile (· == ' ')
      if isQuotedChar first && (after.isEmpty || after.head? == some ';') then some after else none
    | _ => none
  | text =>
    let after := text.dropWhile isTokenChar
    if after.isEmpty || (after.head? == some ';' && after.length < text.length) then
      some after
    else
      none

def isParameters : (steps : Nat) → List Char → Bool
  | 0, text => text.isEmpty
  | _ + 1, [] => true
  | steps + 1, mark :: text =>
    mark == ';' &&
      let name := text.dropWhile (· == ' ')
      name.isEmpty ||
        match name.dropWhile isTokenChar with
        | '=' :: value =>
          name.head? != some '=' &&
            match takeParameterValue value with
            | some rest => isParameters steps rest
            | none => false
        | _ => false

def splitSuffix (subtype : List Char) : List Char × Option (List Char) :=
  let suffix := (subtype.reverse.takeWhile (· != '+')).reverse
  let name := subtype.take (subtype.length - suffix.length - 1)
  if name.isEmpty || suffix.length = subtype.length then (subtype, none) else (name, some suffix)

def isJson (contentType : String) : Bool :=
  let text := contentType.toList.map Char.toLower
  match text.dropWhile isTokenChar with
  | '/' :: rest =>
    let kind := text.takeWhile isTokenChar
    let subtype := rest.takeWhile isTokenChar
    let parameters := rest.dropWhile isTokenChar
    let (name, suffix) := splitSuffix subtype
    kind == "application".toList &&
      (name == "json".toList || suffix == some "json".toList) &&
      isParameters parameters.length parameters
  | _ => false

end Verdict.Http.MediaType
