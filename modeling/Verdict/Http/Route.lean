import Verdict.Json.Text

/-!
Routes: which resource a request target leads to.
-/

namespace Verdict.Http

def segments : List Char → List (List Char)
  | [] => [[]]
  | char :: rest =>
    match segments rest with
    | [] => [[char]]
    | first :: others => if char == '/' then [] :: first :: others else (char :: first) :: others

def percentBytes : List Char → List UInt8
  | [] => []
  | '%' :: high :: low :: rest =>
    match Json.hexDigit? high, Json.hexDigit? low with
    | some high, some low => UInt8.ofNat (16 * high + low) :: percentBytes rest
    | _, _ => String.utf8EncodeChar '%' ++ percentBytes (high :: low :: rest)
  | char :: rest => String.utf8EncodeChar char ++ percentBytes rest

def decodeSegment? (segment : List Char) : Option String :=
  String.fromUTF8? (percentBytes segment).toByteArray

inductive Route where
  | health
  | evaluate
  | ruleSets
  | ruleSet (segment : List Char)

def isSchemeChar (char : Char) : Bool :=
  char.isAlphanum || ['+', '-', '.', '~'].contains char

def delimiters : List Char :=
  ['/', '?', '#']

def relative (target : List Char) : List Char :=
  match target.dropWhile isSchemeChar with
  | ':' :: '/' :: '/' :: rest => rest.dropWhile (!delimiters.contains ·)
  | _ => target

def plainPath (target : String) : List Char :=
  (relative target.toList).takeWhile fun char => char != '?' && char != '#'

def Route.ofTarget? (target : String) : Option Route :=
  match (segments (plainPath target)).map String.ofList with
  | ["", "api", "health"] => some .health
  | ["", "api", "evaluate"] => some .evaluate
  | ["", "api", "rulesets"] => some .ruleSets
  | ["", "api", "rulesets", name, "evaluate"] => some (.ruleSet name.toList)
  | _ => none

end Verdict.Http
