import FormRules.Text.Unprintable

/-!
Contract: a text between double quotes, as it is shown in a log line.

Owns: the short escapes, and the code point escape of the other characters
that do not show.

Does not own: the literals of migrations and of generated classes.
-/

namespace FormRules.Text

/-- How one character is shown between double quotes. -/
def shown (character : Char) : List Char :=
  if character = '"' then ['\\', '"']
  else if character = '\\' then ['\\', '\\']
  else if character = '\n' then ['\\', 'n']
  else if character = '\r' then ['\\', 'r']
  else if character = '\t' then ['\\', 't']
  else if character = '\x00' then ['\\', '0']
  else if isPrintable character then [character]
  else '\\' :: 'u' :: '\x7b' :: Nat.toDigits 16 character.toNat ++ ['\x7d']

def quoted (text : String) : String :=
  String.ofList ('"' :: text.toList.flatMap shown ++ ['"'])

end FormRules.Text
