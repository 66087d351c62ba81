import FactoryGen.Unicode.Invisible

/-! Text quoted inside a message.

A message shows a text between double quotes in such a way that a reader sees
every character of it: quotes, backslashes and the usual control characters stand
behind a backslash, and a character that cannot be seen on its own is written by
its code point. -/
namespace FactoryGen.Text

/-- The braces around a code point, as characters. -/
def braced (digits : List Char) : List Char := '\x7b' :: digits ++ ['\x7d']

/-- How a character is shown between quotes. -/
def shown (c : Char) : List Char :=
  if c = '"' then ['\\', '"']
  else if c = '\\' then ['\\', '\\']
  else if c = '\n' then ['\\', 'n']
  else if c = '\r' then ['\\', 'r']
  else if c = '\t' then ['\\', 't']
  else if c.toNat = 0 then ['\\', '0']
  else if Unicode.isInvisible c then '\\' :: 'u' :: braced (Nat.toDigits 16 c.toNat)
  else [c]

def quoted (text : String) : String :=
  String.ofList ('"' :: text.toList.flatMap shown ++ ['"'])

example : quoted "a\"b\n" = "\"a\\\"b\\n\"" := by decide +kernel

end FactoryGen.Text
