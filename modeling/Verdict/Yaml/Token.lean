import Verdict.Yaml.Scalar
import Verdict.Yaml.Tag

/-!
Tokens of a YAML text. Indentation becomes explicit: every block collection is opened and closed by
a token of its own.

A key without a question mark is recognised late, at the colon behind it. Until then its place is
remembered as a `Candidate`, and the tokens that open it are put there afterwards.
-/

namespace Verdict.Yaml

inductive Token where
  | versionDirective (major minor : Nat)
  | tagDirective (handle : String) (expansion : Tag)
  | documentStart
  | documentEnd
  | blockSequenceStart
  | blockMappingStart
  | blockEnd
  | flowSequenceStart
  | flowSequenceEnd
  | flowMappingStart
  | flowMappingEnd
  | blockEntry
  | flowEntry
  | key
  | value
  | alias (name : String)
  | anchor (name : String)
  | tag (handle : String) (suffix : Tag)
  | scalar (plain : Bool) (text : String)
deriving DecidableEq, Inhabited

/-- Where a key may have begun: before which token, and at which place. A required one is the only
thing that its indentation allows. -/
structure Candidate where
  position : Nat
  required : Bool
  line : Nat
  column : Nat
  offset : Nat

def maxKeyLength : Nat := 1024

structure Scanner where
  cursor : Cursor
  tokens : Array Token
  indents : List Nat
  flow : Nat
  keyAllowed : Bool
  /-- The candidate of every open flow collection and of the block around them. -/
  candidates : List (Option Candidate)

namespace Scanner

def ofText (text : List Char) : Scanner :=
  { cursor := Cursor.ofText text, tokens := #[], indents := [], flow := 0, keyAllowed := true,
    candidates := [none] }

def indent (scanner : Scanner) : Int :=
  match scanner.indents with
  | column :: _ => column
  | [] => -1

def push (scanner : Scanner) (token : Token) : Scanner :=
  { scanner with tokens := scanner.tokens.push token }

def skip (scanner : Scanner) (count : Nat) : Scanner :=
  { scanner with cursor := scanner.cursor.skip count }

def allowKey (scanner : Scanner) (allowed : Bool) : Scanner :=
  { scanner with keyAllowed := allowed }

def unroll (scanner : Scanner) (column : Int) : Scanner :=
  if scanner.flow ≠ 0 then
    scanner
  else
    let closed := scanner.indents.takeWhile fun (indent : Nat) => column < indent
    { scanner with
      indents := scanner.indents.drop closed.length
      tokens := scanner.tokens ++ Array.replicate closed.length Token.blockEnd }

def roll (scanner : Scanner) (column position : Nat) (token : Token) : Scanner :=
  if scanner.flow = 0 ∧ scanner.indent < column then
    { scanner with
      indents := column :: scanner.indents
      tokens := scanner.tokens.insertIdxIfInBounds position token }
  else
    scanner

def rollHere (scanner : Scanner) (token : Token) : Scanner :=
  scanner.roll scanner.cursor.column scanner.tokens.size token

def dropCandidate (scanner : Scanner) : Option Scanner :=
  match scanner.candidates with
  | some candidate :: outer =>
    if candidate.required then none else some { scanner with candidates := none :: outer }
  | _ => some scanner

def saveCandidate (scanner : Scanner) : Option Scanner :=
  if scanner.keyAllowed then do
    let scanner ← scanner.dropCandidate
    let candidate : Candidate :=
      { position := scanner.tokens.size
        required := scanner.flow = 0 ∧ scanner.indent = scanner.cursor.column
        line := scanner.cursor.line
        column := scanner.cursor.column
        offset := scanner.cursor.offset }
    return { scanner with candidates := some candidate :: scanner.candidates.drop 1 }
  else
    some scanner

/-- Skips white space, comments, line breaks, and byte order marks that start a line. A tab may not
indent what could be a key. -/
def skipSpace : (steps : Nat) → Scanner → Scanner
  | 0, scanner => scanner
  | steps + 1, scanner =>
    let cursor := scanner.cursor
    let cursor :=
      if cursor.column = 0 && cursor.startsWith byteOrderMark then cursor.skip 1 else cursor
    let tabs := scanner.flow ≠ 0 || !scanner.keyAllowed
    let cursor := cursor.skipWhile fun char => char == ' ' || (tabs && char == '\t')
    let cursor := if cursor.startsWith '#' then cursor.skipWhile (!isBreak ·) else cursor
    if cursor.rest.head?.any isBreak then
      skipSpace steps
        { scanner with
          cursor := cursor.skipBreak
          keyAllowed := scanner.keyAllowed || scanner.flow = 0 }
    else
      { scanner with cursor }

/-! Directives and properties of nodes. -/

def takeVersionPart (cursor : Cursor) : Option (Nat × Cursor) := do
  let digits := cursor.rest.takeWhile Char.isDigit
  guard (!digits.isEmpty && digits.length ≤ 9)
  return (Decimal.ofDigits digits, cursor.skip digits.length)

/-- An exclamation mark, or a name between two of them. Behind the first one the second may be
missing, where the handle turns out to be the start of a suffix. -/
def takeHandle (cursor : Cursor) : Option (List Char × Cursor) := do
  guard (cursor.startsWith '!')
  let name := (cursor.rest.drop 1).takeWhile isNameChar
  let cursor := cursor.skip (1 + name.length)
  if cursor.startsWith '!' then
    return ('!' :: name ++ ['!'], cursor.skip 1)
  else
    return ('!' :: name, cursor)

def takeDirective (cursor : Cursor) : Option (Token × Cursor) := do
  let name := (cursor.rest.drop 1).takeWhile isNameChar
  let cursor := cursor.skip (1 + name.length)
  guard (startsSpace cursor.rest)
  let cursor := cursor.skipWhile isBlank
  if name == "YAML".toList then
    let (major, cursor) ← takeVersionPart cursor
    guard (cursor.startsWith '.')
    let (minor, cursor) ← takeVersionPart (cursor.skip 1)
    return (.versionDirective major minor, cursor)
  else if name == "TAG".toList then
    let (handle, cursor) ← takeHandle cursor
    guard (handle.getLast? == some '!')
    guard (cursor.rest.head?.any isBlank)
    let (expansion, cursor) ← takeWrittenUri true (cursor.skipWhile isBlank)
    guard (startsSpace cursor.rest)
    return (.tagDirective (String.ofList handle) expansion, cursor)
  else
    none

def directive (scanner : Scanner) : Option Scanner := do
  let (token, cursor) ← takeDirective scanner.cursor
  let cursor := cursor.skipWhile isBlank
  guard (cursor.rest.head?.all fun char => char == '#' || isBreak char)
  let scanner ← (scanner.unroll (-1)).dropCandidate
  return { (scanner.push token).allowKey false with cursor }

def takeTag (flow : Bool) (cursor : Cursor) : Option (Token × Cursor) := do
  let (token, cursor) ←
    if (cursor.rest.drop 1).head? == some '<' then do
      let (uri, cursor) ← takeWrittenUri true (cursor.skip 2)
      guard (cursor.startsWith '>')
      pure (Token.tag "" uri, cursor.skip 1)
    else do
      let (handle, next) ← takeHandle cursor
      if handle.length > 1 && handle.getLast? == some '!' then
        let (suffix, next) ← takeWrittenUri false next
        pure (Token.tag (String.ofList handle) suffix, next)
      else
        let (more, next) ← takeUri false next
        let suffix := Tag.ofText (String.ofList (handle.drop 1)) ++ more
        pure (if suffix.isEmpty then Token.tag "" (Tag.ofText "!") else Token.tag "!" suffix, next)
  guard (startsSpace cursor.rest || (flow && cursor.startsWith ','))
  return (token, cursor)

def takeAnchor (cursor : Cursor) : Option (String × Cursor) := do
  let name := (cursor.rest.drop 1).takeWhile isNameChar
  let cursor := cursor.skip (1 + name.length)
  guard (!name.isEmpty)
  guard (cursor.rest.head?.all fun char =>
    isSpace char || ['?', ':', ',', ']', '}', '%', '@', '\x60'].contains char)
  return (String.ofList name, cursor)

/-! One token each. -/

def documentMark (scanner : Scanner) (token : Token) : Option Scanner := do
  let scanner ← (scanner.unroll (-1)).dropCandidate
  return ((scanner.push token).allowKey false).skip 3

def flowStart (scanner : Scanner) (token : Token) : Option Scanner := do
  let scanner ← scanner.saveCandidate
  return { ((scanner.push token).allowKey true).skip 1 with
    flow := scanner.flow + 1
    candidates := none :: scanner.candidates }

def flowEnd (scanner : Scanner) (token : Token) : Option Scanner := do
  let scanner ← scanner.dropCandidate
  return { ((scanner.push token).allowKey false).skip 1 with
    flow := scanner.flow - 1
    candidates := if scanner.flow = 0 then scanner.candidates else scanner.candidates.drop 1 }

def flowEntry (scanner : Scanner) : Option Scanner := do
  let scanner ← scanner.dropCandidate
  return ((scanner.push .flowEntry).allowKey true).skip 1

/-- Opens a block collection unless it is open already. In a block this needs a place where a key
may begin. -/
def openBlock (scanner : Scanner) (token : Token) : Option Scanner :=
  if scanner.flow ≠ 0 then some scanner
  else if scanner.keyAllowed then some (scanner.rollHere token)
  else none

def blockEntry (scanner : Scanner) : Option Scanner := do
  let scanner ← scanner.openBlock .blockSequenceStart
  let scanner ← scanner.dropCandidate
  return ((scanner.push .blockEntry).allowKey true).skip 1

def explicitKey (scanner : Scanner) : Option Scanner := do
  let scanner ← scanner.openBlock .blockMappingStart
  let scanner ← scanner.dropCandidate
  return ((scanner.push .key).allowKey (scanner.flow = 0)).skip 1

def currentCandidate? (scanner : Scanner) : Option Candidate :=
  match scanner.candidates with
  | some candidate :: _ =>
    if candidate.line = scanner.cursor.line ∧
        scanner.cursor.offset ≤ candidate.offset + maxKeyLength then
      some candidate
    else
      none
  | _ => none

def value (scanner : Scanner) : Option Scanner := do
  match scanner.currentCandidate? with
  | some candidate =>
    let scanner := { scanner with
      tokens := scanner.tokens.insertIdxIfInBounds candidate.position .key
      candidates := none :: scanner.candidates.drop 1 }
    let scanner := scanner.roll candidate.column candidate.position .blockMappingStart
    return ((scanner.push .value).allowKey false).skip 1
  | none =>
    let scanner ← scanner.dropCandidate
    let scanner ← scanner.openBlock .blockMappingStart
    return ((scanner.push .value).allowKey (scanner.flow = 0)).skip 1

def property (scanner : Scanner) (taken : Option (Token × Cursor)) : Option Scanner := do
  let scanner ← scanner.saveCandidate
  let (token, cursor) ← taken
  return { (scanner.push token).allowKey false with cursor }

def plainScalar (scanner : Scanner) : Option Scanner := do
  let scanner ← scanner.saveCandidate
  let (text, broken, cursor) ←
    Scalar.plain (scanner.flow ≠ 0) (scanner.indent + 1).toNat scanner.cursor
  return { (scanner.push (.scalar true (String.ofList text))).allowKey broken with cursor }

def quotedScalar (scanner : Scanner) (quote : Char) : Option Scanner := do
  let scanner ← scanner.saveCandidate
  let (text, cursor) ← Scalar.quoted quote scanner.cursor
  return { (scanner.push (.scalar false (String.ofList text))).allowKey false with cursor }

def blockScalar (scanner : Scanner) (folded : Bool) : Option Scanner := do
  let scanner ← scanner.dropCandidate
  let (text, cursor) ← Scalar.block folded scanner.indent scanner.cursor
  return { (scanner.push (.scalar false (String.ofList text))).allowKey true with cursor }

def indicators : List Char :=
  ['-', '?', ':', ',', '[', ']', '{', '}', '#', '&', '*', '!', '|', '>', '\'', '"', '%', '@', '\x60']

def startsPlain (scanner : Scanner) (first : Char) (rest : List Char) : Bool :=
  !(isSpace first || indicators.contains first) ||
    (first == '-' && !rest.head?.any isBlank) ||
    (scanner.flow = 0 && (first == '?' || first == ':') && !startsSpace rest)

def step (scanner : Scanner) (first : Char) (rest : List Char) : Option Scanner :=
  let inFlow := scanner.flow ≠ 0
  let separate := startsSpace rest
  if scanner.cursor.column = 0 && first == '%' then scanner.directive
  else if scanner.cursor.atDocumentMark then
    scanner.documentMark (if first == '-' then .documentStart else .documentEnd)
  else match first with
    | '[' => scanner.flowStart .flowSequenceStart
    | '{' => scanner.flowStart .flowMappingStart
    | ']' => scanner.flowEnd .flowSequenceEnd
    | '}' => scanner.flowEnd .flowMappingEnd
    | ',' => scanner.flowEntry
    | '*' =>
      scanner.property ((takeAnchor scanner.cursor).map fun (name, next) => (.alias name, next))
    | '&' =>
      scanner.property ((takeAnchor scanner.cursor).map fun (name, next) => (.anchor name, next))
    | '!' => scanner.property (takeTag inFlow scanner.cursor)
    | '\'' => scanner.quotedScalar '\''
    | '"' => scanner.quotedScalar '"'
    | _ =>
      if first == '-' && separate then scanner.blockEntry
      else if first == '?' && (inFlow || separate) then scanner.explicitKey
      else if first == ':' && (inFlow || separate) then scanner.value
      else if first == '|' && !inFlow then scanner.blockScalar false
      else if first == '>' && !inFlow then scanner.blockScalar true
      else if scanner.startsPlain first rest then scanner.plainScalar
      else none

def run : (steps : Nat) → Scanner → Option (List Token)
  | 0, _ => none
  | steps + 1, scanner =>
    let scanner := scanner.skipSpace (scanner.cursor.rest.length + 1)
    match scanner.cursor.rest with
    | [] => (scanner.unroll (-1)).dropCandidate.map fun scanner => scanner.tokens.toList
    | first :: rest => do
      let scanner ← (scanner.unroll scanner.cursor.column).step first rest
      run steps scanner

end Scanner

def Token.ofText? (text : String) : Option (List Token) := do
  let chars := text.toList
  guard (chars.all isAllowed)
  Scanner.run (chars.length + 1) (Scanner.ofText chars)

end Verdict.Yaml
