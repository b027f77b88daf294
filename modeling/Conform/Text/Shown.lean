import Conform.Text.Hidden

/-!
# Text shown in quotes

The form in which messages show a text: double quotes around it, the usual short escapes, and
`\u{…}` for every character that would not be seen.
-/

namespace Conform.Text

/-- Lower case hexadecimal of `n`, without leading zeros. -/
def hex (n : Nat) : String := String.ofList (Nat.toDigits 16 n)

/-- One character of a shown text. -/
def showChar (c : Char) : String :=
  if c = '\x00' then "\\0"
  else if c = '\t' then "\\t"
  else if c = '\n' then "\\n"
  else if c = '\r' then "\\r"
  else if c = '"' then "\\\""
  else if c = '\\' then "\\\\"
  else if isHidden c then "\\u\x7b" ++ hex c.toNat ++ "\x7d"
  else String.singleton c

/-- The text `s` as messages show it. -/
def shown (s : String) : String := "\"" ++ String.join (s.toList.map showChar) ++ "\""

end Conform.Text
