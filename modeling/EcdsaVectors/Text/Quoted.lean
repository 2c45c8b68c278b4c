/-
Text between quotation marks.

A quotation mark or a backslash inside the text gets a backslash in front, four controls have
letters of their own, and every other character that leaves no mark is written as its code
point in hexadecimal.  Text without any of these stands between the marks as it is.
-/
import EcdsaVectors.Text.Unprintable
namespace EcdsaVectors.Text

/-- A code point in hexadecimal, between braces. -/
def codePoint (c : Char) : String :=
  "\\u\x7b" ++ String.ofList (Nat.toDigits 16 c.toNat) ++ "\x7d"

/-- How one character is written between quotation marks. -/
def escapeChar (c : Char) : String :=
  if c = '"' then "\\\""
  else if c = '\\' then "\\\\"
  else if c = '\t' then "\\t"
  else if c = '\n' then "\\n"
  else if c = '\r' then "\\r"
  else if c.toNat = 0 then "\\0"
  else if isUnprintable c then codePoint c
  else c.toString

/-- How a text is written between quotation marks, without the marks. -/
def escape : List Char → String
  | [] => ""
  | c :: s => escapeChar c ++ escape s

/-- A text between quotation marks. -/
def quoted (s : String) : String :=
  "\"" ++ escape s.toList ++ "\""

example : quoted "a\"\\\t\u0301 é" = "\"a\\\"\\\\\\t\\u\x7b301\x7d é\"" := by decide +kernel

end EcdsaVectors.Text
