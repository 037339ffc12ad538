/-!
Occurrence of one text inside another, and the prefix and suffix tests of texts.
-/

namespace ClassAtlas.Text

/-- Whether `needle` occurs in `hay` as a run of consecutive characters. -/
def occursIn (needle : List Char) : List Char → Bool
  | [] => needle.isEmpty
  | c :: rest => needle.isPrefixOf (c :: rest) || occursIn needle rest

def contains (hay needle : String) : Bool := occursIn needle.toList hay.toList

def startsWith (s p : String) : Bool := p.toList.isPrefixOf s.toList

def endsWith (s p : String) : Bool := p.toList.reverse.isPrefixOf s.toList.reverse

end ClassAtlas.Text
