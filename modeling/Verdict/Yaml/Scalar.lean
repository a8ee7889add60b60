import Verdict.Json.Text
import Verdict.Yaml.Cursor

/-!
The text of YAML scalars: plain, in single or double quotes, and in blocks.
-/

namespace Verdict.Yaml

structure Gap where
  blanks : List Char
  breaks : List Char

namespace Gap

def empty : Gap :=
  { blanks := [], breaks := [] }

def isEmpty (gap : Gap) : Bool :=
  gap.blanks.isEmpty && gap.breaks.isEmpty

/-- What a gap stands for. One line break is a space, and of several the first is dropped. -/
def text (gap : Gap) : List Char :=
  match gap.breaks with
  | [] => gap.blanks
  | ['\n'] => [' ']
  | '\n' :: more => more
  | breaks => breaks

/-- Reads white space. Behind a break, or if `broken` says that one has just been read, blanks are
dropped; a tab among them left of `indent` is refused. -/
def take (broken : Bool) (indent : Nat) : (steps : Nat) → Gap → Cursor → Option (Gap × Cursor)
  | 0, gap, cursor => some (gap, cursor)
  | steps + 1, gap, cursor =>
    match cursor.rest with
    | [] => some (gap, cursor)
    | char :: _ =>
      if isBreak char then
        let longer := { gap with breaks := gap.breaks ++ cursor.breakText }
        take broken indent steps longer cursor.skipBreak
      else if !isBlank char then
        some (gap, cursor)
      else if !broken && gap.breaks.isEmpty then
        take broken indent steps { gap with blanks := gap.blanks ++ [char] } (cursor.skip 1)
      else if char == '\t' && cursor.column < indent then
        none
      else
        take broken indent steps gap (cursor.skip 1)

end Gap

namespace Scalar

def flowIndicators : List Char :=
  [',', '[', ']', '{', '}']

def plainRun (flow : Bool) : List Char → Option (List Char)
  | [] => some []
  | char :: rest =>
    if isSpace char then
      some []
    else if flow && char == ':' && rest.head?.any (('?' :: flowIndicators).contains ·) then
      none
    else if char == ':' && startsSpace rest then
      some []
    else if flow && flowIndicators.contains char then
      some []
    else
      (plainRun flow rest).map (char :: ·)

def plainFrom (flow : Bool) (indent : Nat) :
    (steps : Nat) → Gap → Cursor → Option (List Char × Bool × Cursor)
  | 0, gap, cursor => some ([], !gap.breaks.isEmpty, cursor)
  | steps + 1, gap, cursor =>
    if cursor.atDocumentMark || cursor.startsWith '#' then
      some ([], !gap.breaks.isEmpty, cursor)
    else do
      let run ← plainRun flow cursor.rest
      if run.isEmpty then
        return ([], !gap.breaks.isEmpty, cursor)
      let (after, next) ← Gap.take false indent steps .empty (cursor.skip run.length)
      if after.isEmpty || (!flow && next.column < indent) then
        return (gap.text ++ run, !after.breaks.isEmpty, next)
      let (more, broken, last) ← plainFrom flow indent steps after next
      return (gap.text ++ run ++ more, broken, last)

def plain (flow : Bool) (indent : Nat) (cursor : Cursor) : Option (List Char × Bool × Cursor) :=
  plainFrom flow indent (cursor.rest.length + 1) .empty cursor

structure QuotedRun where
  text : List Char
  escapedBreak : Bool
  rest : List Char

def singleRun : List Char → QuotedRun
  | '\'' :: '\'' :: rest =>
    let run := singleRun rest
    { run with text := '\'' :: run.text }
  | char :: rest =>
    if isSpace char || char == '\'' then
      { text := [], escapedBreak := false, rest := char :: rest }
    else
      let run := singleRun rest
      { run with text := char :: run.text }
  | [] => { text := [], escapedBreak := false, rest := [] }

def letterEscapes : List (Char × Char) :=
  [('0', '\x00'), ('a', '\x07'), ('b', '\x08'), ('t', '\t'), ('\t', '\t'), ('n', '\n'),
    ('v', '\x0B'), ('f', '\x0C'), ('r', '\r'), ('e', '\x1B'), (' ', ' '), ('"', '"'), ('/', '/'),
    ('\\', '\\'), ('N', '\x85'), ('_', '\xA0'), ('L', '\u2028'), ('P', '\u2029')]

def numericEscapes : List (Char × Nat) :=
  [('x', 2), ('u', 4), ('U', 8)]

def hexNumber? (digits : List Char) : Option Nat :=
  digits.foldlM (fun number char => (Json.hexDigit? char).map (16 * number + ·)) 0

def takeEscape : List Char → Option (Char × List Char)
  | [] => none
  | letter :: rest =>
    match letterEscapes.lookup letter, numericEscapes.lookup letter with
    | some char, _ => some (char, rest)
    | none, none => none
    | none, some width => do
      guard (width ≤ rest.length)
      let number ← hexNumber? (rest.take width)
      guard number.isValidChar
      return (Char.ofNat number, rest.drop width)

def doubleRun : (steps : Nat) → List Char → Option QuotedRun
  | 0, rest => some { text := [], escapedBreak := false, rest }
  | _ + 1, [] => some { text := [], escapedBreak := false, rest := [] }
  | steps + 1, char :: rest =>
    if isSpace char || char == '"' then
      some { text := [], escapedBreak := false, rest := char :: rest }
    else if char == '\\' && rest.head?.any isBreak then
      some { text := [], escapedBreak := true, rest }
    else do
      let (value, after) ← if char == '\\' then takeEscape rest else some (char, rest)
      let run ← doubleRun steps after
      return { run with text := value :: run.text }

def quotedRun (quote : Char) (text : List Char) : Option QuotedRun :=
  if quote == '\'' then some (singleRun text) else doubleRun text.length text

def quotedFrom (quote : Char) : (steps : Nat) → Cursor → Option (List Char × Cursor)
  | 0, _ => none
  | steps + 1, cursor => do
    guard (!cursor.atDocumentMark)
    let run ← quotedRun quote cursor.rest
    let cursor := cursor.skipTo run.rest
    if run.escapedBreak then
      let (gap, next) ← Gap.take true 0 steps .empty cursor.skipBreak
      let (more, last) ← quotedFrom quote steps next
      return (run.text ++ gap.breaks ++ more, last)
    else if cursor.startsWith quote then
      return (run.text, cursor.skip 1)
    else
      let (gap, next) ← Gap.take false 0 steps .empty cursor
      let (more, last) ← quotedFrom quote steps next
      return (run.text ++ gap.text ++ more, last)

def quoted (quote : Char) (cursor : Cursor) : Option (List Char × Cursor) :=
  quotedFrom quote (cursor.rest.length + 1) (cursor.skip 1)

inductive Chomping where
  | strip
  | clip
  | keep
deriving DecidableEq

structure BlockHeader where
  chomping : Chomping
  increment : Option Nat

def chomping? : Char → Option Chomping
  | '-' => some .strip
  | '+' => some .keep
  | _ => none

def increment? (char : Char) : Option Nat :=
  if char.isDigit && char != '0' then some (char.toNat - '0'.toNat) else none

def takeHeader : List Char → BlockHeader × List Char
  | first :: second :: rest =>
    match chomping? first, increment? first, chomping? second, increment? second with
    | some chomping, _, _, some increment => ({ chomping, increment := some increment }, rest)
    | some chomping, _, _, none => ({ chomping, increment := none }, second :: rest)
    | none, some increment, some chomping, _ => ({ chomping, increment := some increment }, rest)
    | none, some increment, none, _ =>
      ({ chomping := .clip, increment := some increment }, second :: rest)
    | none, none, _, _ => ({ chomping := .clip, increment := none }, first :: second :: rest)
  | [first] =>
    match chomping? first, increment? first with
    | some chomping, _ => ({ chomping, increment := none }, [])
    | none, some increment => ({ chomping := .clip, increment := some increment }, [])
    | none, none => ({ chomping := .clip, increment := none }, [first])
  | [] => ({ chomping := .clip, increment := none }, [])

/-- Empty lines of a block whose indentation is not known yet, or known: their breaks, the greatest
column reached, and the place after them. -/
def emptyLines (indent : Option Nat) :
    (steps : Nat) → (breaks : List Char) → (reached : Nat) → Cursor →
      Option (List Char × Nat × Cursor)
  | 0, breaks, reached, cursor => some (breaks, reached, cursor)
  | steps + 1, breaks, reached, cursor =>
    let spaces := (cursor.rest.takeWhile (· == ' ')).length
    let width := match indent with
      | none => spaces
      | some indent => min spaces (indent - cursor.column)
    let cursor := cursor.skip width
    let reached := max reached cursor.column
    if cursor.startsWith '\t' && indent.all (cursor.column < ·) then
      none
    else if cursor.rest.head?.any isBreak then
      emptyLines indent steps (breaks ++ cursor.breakText) reached cursor.skipBreak
    else
      some (breaks, reached, cursor)

structure BlockGap where
  lineBreak : List Char
  emptyBreaks : List Char
  indented : Bool

/-- Folding joins two lines by a space, unless there are empty lines between them or one of them
starts with a blank. -/
def BlockGap.text (gap : BlockGap) (folded blank : Bool) : List Char :=
  if folded && gap.lineBreak == ['\n'] && !gap.indented && !blank then
    if gap.emptyBreaks.isEmpty then [' '] else gap.emptyBreaks
  else
    gap.lineBreak ++ gap.emptyBreaks

def blockLines (folded : Bool) (indent : Nat) :
    (steps : Nat) → BlockGap → Cursor → Option (List Char × BlockGap × Cursor)
  | 0, gap, cursor => some ([], gap, cursor)
  | steps + 1, gap, cursor =>
    if cursor.column ≠ indent || cursor.rest.isEmpty then
      some ([], gap, cursor)
    else do
      let blank := cursor.rest.head?.any isBlank
      let line := cursor.rest.takeWhile (!isBreak ·)
      let lineEnd := cursor.skip line.length
      let after := if lineEnd.rest.isEmpty then lineEnd else lineEnd.skipBreak
      let (emptyBreaks, _, next) ← emptyLines (some indent) steps [] 0 after
      let (more, last, cursor) ← blockLines folded indent steps
        { lineBreak := lineEnd.breakText, emptyBreaks, indented := blank } next
      return (gap.text folded blank ++ line ++ more, last, cursor)

/-- A block scalar. Its own indentation is written in its header, or taken from its first line that
is not empty; `parent` is the indentation that it has to exceed. -/
def block (folded : Bool) (parent : Int) (cursor : Cursor) : Option (List Char × Cursor) := do
  let (header, rest) := takeHeader (cursor.rest.drop 1)
  let cursor := (cursor.skipTo rest).skipWhile isBlank
  let cursor := if cursor.startsWith '#' then cursor.skipWhile (!isBreak ·) else cursor
  guard (cursor.rest.head?.all isBreak)
  let cursor := if cursor.rest.isEmpty then cursor else cursor.skipBreak
  let steps := cursor.rest.length + 1
  let known := header.increment.map fun increment => ((max parent 0) + increment).toNat
  let (emptyBreaks, reached, cursor) ← emptyLines known steps [] 0 cursor
  let indent := known.getD (max reached (max (parent + 1) 1).toNat)
  let start : BlockGap := { lineBreak := [], emptyBreaks, indented := false }
  let (text, gap, cursor) ← blockLines folded indent steps start cursor
  let ending := match header.chomping with
    | .strip => []
    | .clip => gap.lineBreak
    | .keep => gap.lineBreak ++ gap.emptyBreaks
  return (text ++ ending, cursor)

end Scalar

end Verdict.Yaml
