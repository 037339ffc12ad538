import ClassAtlas.Display.Wrap

/-!
Trees of labels drawn with guide lines. The root's label stands alone; each branch hangs from
its parent by `├── `, the last by `└── `, and the lines below a branch continue with `│   `
while more branches follow, or with spaces after the last. A label too wide for what is left of
the line wraps, its further lines indented like the branch's children; a branch so deep that no
room is left draws nothing.
-/

namespace ClassAtlas.Display

inductive Outline where
  | node (label : String) (branches : List Outline)
  deriving Repr, Inhabited

/-- The guide that leads to a branch, and the one under it, for a last or another branch. -/
def guides (last : Bool) : String × String :=
  if last then ("└── ", "    ") else ("├── ", "│   ")

def labelLines (width indent : Nat) (label : String) : List String :=
  if width ≤ indent then []
  else
    (wrap (width - indent) .asIs .fold label.toList).map fun line =>
      String.ofList (fitLine (width - indent) false line)

mutual

/-- The lines of a branch under the guides `above`, the last of its siblings or not. -/
def Outline.branchLines (width : Nat) (above : List String) (last : Bool) : Outline → List String
  | .node label branches =>
    let (lead, under) := guides last
    let first := String.join above ++ lead
    let rest := String.join above ++ under
    let lines := labelLines width (4 * (above.length + 1)) label
    let labelled := match lines with
      | [] => []
      | l :: more => (first ++ l) :: more.map (rest ++ ·)
    labelled ++ branchesLines width (above ++ [under]) branches

def branchesLines (width : Nat) (above : List String) : List Outline → List String
  | [] => []
  | [b] => b.branchLines width above true
  | b :: rest => b.branchLines width above false ++ branchesLines width above rest

end

def Outline.render (width : Nat) : Outline → List String
  | .node label branches => labelLines width 0 label ++ branchesLines width [] branches

mutual

/-- A tree with every label changed, or the first failure, root first and then branch by
branch. -/
def Outline.mapLabels {ε : Type} (f : String → Except ε String) : Outline → Except ε Outline
  | .node label branches => do
    let l ← f label
    let bs ← Outline.mapBranches f branches
    return .node l bs

def Outline.mapBranches {ε : Type} (f : String → Except ε String) : List Outline → Except ε (List Outline)
  | [] => pure []
  | b :: rest => do
    let b' ← b.mapLabels f
    let rest' ← Outline.mapBranches f rest
    return b' :: rest'

end

end ClassAtlas.Display
