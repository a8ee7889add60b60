import Verdict.Text.Combining
import Verdict.Text.Invisible
import Verdict.Text.Unassigned

/-!
Text in double quotes for messages: double quotes, backslashes, and characters that cannot be made
out by themselves are escaped.
-/

namespace Verdict.Text

def letterEscapes : List (Char × Char) :=
  [('\x00', '0'), ('\t', 't'), ('\n', 'n'), ('\r', 'r'), ('"', '"'), ('\\', '\\')]

def isObscure (char : Char) : Bool :=
  isCombining char || isInvisible char || isUnassigned char

def escapeChar (char : Char) : List Char :=
  match letterEscapes.lookup char with
  | some letter => ['\\', letter]
  | none =>
    if isObscure char then
      ['\\', 'u', '\x7B'] ++ Nat.toDigits 16 char.toNat ++ ['\x7D']
    else
      [char]

def quoted (text : String) : String :=
  String.ofList ('"' :: text.toList.flatMap escapeChar ++ ['"'])

end Verdict.Text
