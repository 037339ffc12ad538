import ClassAtlas.Text.Printable

/-!
Quoted text as messages show it: the text between single quotes, or between double quotes
when it holds a single quote and no double quote, with the quote, the backslash, the
controls and the characters that do not print written as escapes.
-/

namespace ClassAtlas.Text

/-- The lower-case hexadecimal digits of `n`, padded with zeros to `width`. -/
def hexDigits (width n : Nat) : String :=
  let digits := Nat.toDigits 16 n
  String.ofList (List.replicate (width - digits.length) '0' ++ digits)

/-- The escaped form of one character inside quotes `q`. -/
def quoteChar (q c : Char) : String :=
  if c = q ∨ c = '\\' then String.ofList ['\\', c]
  else if c = '\t' then "\\t"
  else if c = '\n' then "\\n"
  else if c = '\r' then "\\r"
  else if c.val < 32 ∨ c.val = 127 then "\\x" ++ hexDigits 2 c.toNat
  else if c.val < 127 ∨ isPrintable c then String.singleton c
  else if c.val < 256 then "\\x" ++ hexDigits 2 c.toNat
  else if c.val < 65536 then "\\u" ++ hexDigits 4 c.toNat
  else "\\U" ++ hexDigits 8 c.toNat

def quote (s : String) : String :=
  let q := if s.contains '\'' && !s.contains '"' then '"' else '\''
  String.singleton q ++ String.join (s.toList.map (quoteChar q)) ++ String.singleton q

end ClassAtlas.Text
