import ClassAtlas.Text.Blank
import ClassAtlas.Text.Letter

/-!
Integer numerals: optional blanks, an optional sign, decimal digits of any script with single
underscores between them, and optional blanks. Numerals of more than 4300 digits are refused.
-/

namespace ClassAtlas.Text

def numeralDigitLimit : Nat := 4300

/-- The value of digits with single underscores between them, read after `acc`; `none` for an
empty run, a leading, trailing or doubled underscore, or any other character. -/
def digitsValue : Nat → Nat → List Char → Option (Nat × Nat)
  | acc, count, [] => if count = 0 then none else some (acc, count)
  | acc, count, '_' :: c :: rest =>
    if count = 0 then none
    else match digitValue? c with
      | some d => digitsValue (acc * 10 + d) (count + 1) rest
      | none => none
  | _, _, ['_'] => none
  | acc, count, c :: rest =>
    match digitValue? c with
    | some d => digitsValue (acc * 10 + d) (count + 1) rest
    | none => none

/-- The blanks a numeral may stand between: among ASCII characters only tab, line feed, vertical
tab, form feed, carriage return and space (the separators U+001C to U+001F are not), beyond
ASCII all white space. -/
def isNumeralBlank (c : Char) : Bool :=
  if c.toNat < 128 then c = ' ' || ('\t' ≤ c && c ≤ '\r') else isBlank c

/-- The integer a numeral denotes, if it is one. -/
def readInt (s : String) : Option Int :=
  let body := ((s.toList.dropWhile isNumeralBlank).reverse.dropWhile isNumeralBlank).reverse
  let (negative, digits) := match body with
    | '-' :: rest => (true, rest)
    | '+' :: rest => (false, rest)
    | rest => (false, rest)
  match digitsValue 0 0 digits with
  | some (n, count) => if count > numeralDigitLimit then none else some (if negative then -(n : Int) else n)
  | none => none

end ClassAtlas.Text
