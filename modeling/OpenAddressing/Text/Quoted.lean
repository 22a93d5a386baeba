import OpenAddressing.Text.Unprintable

/-!
# Quoted text

A string is quoted by writing it between double quotes. Quotes and backslashes get a backslash
in front, the usual controls have an escape of one letter, and all other characters that would
not be seen are written by their code point.
-/

namespace OpenAddressing

namespace Text

/-- A number in base sixteen, in lower case and without leading zeros. -/
def hex (n : Nat) : String :=
  String.ofList (Nat.toDigits 16 n)

/-- A character as it stands between double quotes. -/
def escape (c : Char) : String :=
  match c with
  | '"' => "\\\""
  | '\\' => "\\\\"
  | '\t' => "\\t"
  | '\n' => "\\n"
  | '\r' => "\\r"
  | '\x00' => "\\0"
  | _ => if isUnprintable c then "\\u\x7b" ++ hex c.toNat ++ "\x7d" else c.toString

/-- A string between double quotes. -/
def quote (s : String) : String :=
  "\"" ++ String.join (s.toList.map escape) ++ "\""

end Text

end OpenAddressing
