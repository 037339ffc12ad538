import ClassAtlas.Text.Ranges

/-!
White space: the characters that separate words when a text is split on blanks and that are
trimmed from both ends of a text.
-/

namespace ClassAtlas.Text

/-- Code points of white space in Unicode 14.0 (bidirectional class WS, B or S, or category Zs). -/
def blankRanges : Array (Nat × Nat) := #[
  (9, 13), (28, 32), (133, 133), (160, 160), (5760, 5760), (8192, 8202),
  (8232, 8233), (8239, 8239), (8287, 8287), (12288, 12288)]

def isBlank (c : Char) : Bool := inRanges blankRanges c.toNat

end ClassAtlas.Text
