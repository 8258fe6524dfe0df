import UrclDebugger.Text.Printable

/-!
# Quoted text

A text between double quotes. A quote, a backslash, a tab, the two line characters and the null
character are written with a backslash; any other character without a shape of its own is written
by its code point.
-/

namespace UrclDebugger.Text

/-- Hexadecimal digits of a number, without leading zeros. -/
def hexadecimal (n : Nat) : String := String.ofList (Nat.toDigits 16 n)

/-- One character as it is written between quotes. -/
def quoteChar (c : Char) : String :=
  if c = '"' then "\\\""
  else if c = '\\' then "\\\\"
  else if c = '\n' then "\\n"
  else if c = '\r' then "\\r"
  else if c = '\t' then "\\t"
  else if c.toNat = 0 then "\\0"
  else if isExtending c || !isPrintable c then "\\u\x7b" ++ hexadecimal c.toNat ++ "\x7d"
  else String.singleton c

/-- A text between quotes. -/
def quote (text : String) : String :=
  text.toList.foldl (fun written c => written ++ quoteChar c) "\"" ++ "\""

end UrclDebugger.Text
