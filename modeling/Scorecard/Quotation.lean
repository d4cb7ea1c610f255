import Scorecard.Shapeless

/-!
# Quoting a text inside a message

A message shows a text between double quotes so that every character can be told: quotes and
backslashes take a backslash, four control characters their letter, and the other characters
without a shape of their own their number.
-/

namespace Scorecard

/-- How a character is shown inside a quotation. -/
def quotedChar (c : Char) : List Char :=
  if c = '"' then ['\\', '"']
  else if c = '\\' then ['\\', '\\']
  else if c.toNat = 0 then ['\\', '0']
  else if c = '\t' then ['\\', 't']
  else if c = '\n' then ['\\', 'n']
  else if c = '\r' then ['\\', 'r']
  else if isShapeless c then ['\\', 'u', '\x7b'] ++ Nat.toDigits 16 c.toNat ++ ['\x7d']
  else [c]

/-- The text between double quotes, each of its characters shown. -/
def quotation (s : String) : String :=
  String.ofList ('"' :: s.toList.flatMap quotedChar ++ ['"'])

/-! A quote, a control character and a combining mark are shown, an ordinary letter stays. -/

example : quotation "a\"\t\u0301é" = "\"a\\\"\\t\\u\x7b301\x7dé\"" := by decide +kernel

end Scorecard
