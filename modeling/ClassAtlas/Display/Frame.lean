import ClassAtlas.Display.Wrap

/-!
Boxes around text. A box fills the width: its top edge carries a title after one line
segment, its sides stand one space away from the lines inside, and its corners are rounded.
Text is also set in a margin: lines padded to the width, with blank lines above and below.
-/

namespace ClassAtlas.Display

def repeatChar (n : Nat) (c : Char) : String := String.ofList (List.replicate n c)

/-- Lines inside a box `width` cells wide with a title in its top edge; each line is set to the
width inside the box. -/
def boxed (width : Nat) (title : String) (body : List String) : List String :=
  let inner := width - 4
  let heading := String.ofList (fitLine inner false (" " ++ title ++ " ").toList)
  let top := "╭─" ++ heading ++ repeatChar (inner - Display.width heading) '─' ++ "─╮"
  let sides := body.map fun line => "│ " ++ String.ofList (fitLine inner true line.toList) ++ " │"
  top :: sides ++ ["╰" ++ repeatChar (width - 2) '─' ++ "╯"]

def boxedText (width : Nat) (text : String) : List String :=
  (wrap (width - 4) .asIs .fold text.toList).map String.ofList

/-- Lines set in a margin: `left` spaces before, padded to the width with spaces, and
`above` and `below` blank lines around them. -/
def margined (width left above below : Nat) (lines : List String) : List String :=
  let blank := repeatChar width ' '
  List.replicate above blank ++
    lines.map (fun line => repeatChar left ' ' ++ String.ofList (fitLine (width - left) true line.toList)) ++
    List.replicate below blank

end ClassAtlas.Display
