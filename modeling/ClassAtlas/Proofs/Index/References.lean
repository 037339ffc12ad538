import ClassAtlas.Proofs.Index.TextSearch

/-!
What a search for references reports, said without the matcher. The pattern of a reference is the
identifier between two word boundaries, and a word boundary (`wordEdge`) is a place with a word
character on exactly one side of it, in a line that is not empty. A search tries the positions
of a line from the left and answers the first match (`search_eq`), so a line is reported with
the leftmost occurrence of the identifier that has a word boundary at both ends
(`search_wordPattern`, `fileMatches_wordPattern`).

For an identifier that starts and ends with a word character, a boundary at its ends means that
no word character stands right before or right after it (`edgedAt_iff_standsAlone`): such an
occurrence is never part of a longer identifier. For any other identifier the boundaries ask for
a word character next to its punctuation instead: `a.operator+(b)` holds no reference to
`operator+` (`operator_function_not_referenced`).
-/

namespace ClassAtlas.Pattern

open Prog

theorem searchFrom_go_eq (p : Program) (text : Array Char) (i fuel : Nat) :
    Program.searchFrom.go p text i false fuel = (List.range' i fuel).findSome? fun j => p.matchAt text j false := by
  induction fuel generalizing i with
  | zero => rfl
  | succ fuel ih =>
    rw [Program.searchFrom.go,List.range'_succ,List.findSome?_cons,ih]
    cases p.matchAt text i false <;> rfl

theorem search_eq (p : Program) (s : String) :
    p.search s = (List.range (s.length + 1)).findSome? fun j => p.matchAt s.toList.toArray j false := by
  simp [Program.search,Program.searchFrom,searchFrom_go_eq,List.range_eq_range',String.length_toList]

/-- Characters tested exactly take the text where it starts with them. -/
theorem run_exact_chars (text : Array Char) (s : List Char) (i : Nat) (m : Marks) (k : Next) :
    run text (all (s.map fun c => .char (.char c.toNat))) i m k =
      if s <+: text.toList.drop i then k (i + s.length) m else none := by
  induction s generalizing i with
  | nil => simp [all,run]
  | cons c s ih =>
    rw [List.map_cons,run_all_cons]
    simp only [run,ih]
    cases found : text[i]? with
    | none =>
      have past : text.toList.length ≤ i := by simpa using found
      simp [List.drop_eq_nil_of_le past]
    | some d =>
      obtain ⟨inside,rfl⟩ := Array.getElem?_eq_some_iff.mp found
      have here : text.toList.drop i = text[i] :: text.toList.drop (i + 1) :=
        List.drop_eq_getElem_cons (by simpa using inside)
      by_cases same : c = text[i]
      · simp [here,CharTest.holds,same,Nat.add_assoc,Nat.add_comm 1 s.length]
      · have differ : text[i].toNat ≠ c.toNat := fun h => same (Char.ext (UInt32.toNat_inj.mp h.symm))
        simp [here,CharTest.holds,same,differ]

theorem literal_exact (s : String) : literal false s = all (s.toList.map fun c => .char (.char c.toNat)) := by
  simp [literal,literalTest,foldOf,hasFlag]

theorem run_boundary (text : Array Char) (i : Nat) (m : Marks) (k : Next) :
    run text boundary i m k = if (Point.boundary false).holds text i then k i m else none := rfl

end ClassAtlas.Pattern

namespace ClassAtlas.Index

open ClassAtlas.Files ClassAtlas.Pattern ClassAtlas.Text Prog

/-! ### Word boundaries -/

def wordBefore (cs : List Char) (p : Nat) : Bool := 0 < p && cs[p - 1]?.any isWordChar

def wordAfter (cs : List Char) (p : Nat) : Bool := cs[p]?.any isWordChar

/-- A word boundary: a word character on exactly one side of `p`, in a line that is not empty. -/
def wordEdge (cs : List Char) (p : Nat) : Bool := !cs.isEmpty && wordBefore cs p != wordAfter cs p

theorem boundary_holds_eq (cs : List Char) (p : Nat) :
    (Point.boundary false).holds cs.toArray p = wordEdge cs p := by
  simp only [Point.holds,atBoundary,isWordAt,wordEdge,wordBefore,wordAfter,List.getElem?_toArray,
    Bool.false_eq_true,if_false,List.size_toArray]
  cases cs with
  | nil => simp
  | cons c rest =>
    cases cs_before : (c :: rest)[p - 1]? <;> cases (c :: rest)[p]? <;> simp

/-- An occurrence of `name` at `p` with a word boundary at both of its ends. -/
def edgedAt (name cs : List Char) (p : Nat) : Bool :=
  decide (name <+: cs.drop p) && wordEdge cs p && wordEdge cs (p + name.length)

def leftmostEdged (name cs : List Char) : Option Nat := (List.range (cs.length + 1)).find? (edgedAt name cs)

/-- The pattern of a reference matches from `p` exactly over an occurrence with a boundary at
    both ends. -/
theorem wordPattern_matchAt (name : String) (cs : List Char) (p : Nat) :
    (wordPattern name).matchAt cs.toArray p false =
      if edgedAt name.toList cs p then some ⟨p,p + name.length,#[]⟩ else none := by
  simp only [Program.matchAt,wordPattern,run_all_cons,run_boundary,literal_exact,run_exact_chars,
    Program.emptyMarks,boundary_holds_eq,edgedAt,String.length_toList]
  by_cases start : wordEdge cs p <;> by_cases occurs : name.toList <+: cs.drop p <;>
    by_cases stop : wordEdge cs (p + name.length) <;> simp [start,occurs,stop,all,run]

/-- A search for a reference starts at the leftmost occurrence with a boundary at both ends. -/
theorem search_wordPattern (name line : String) :
    ((wordPattern name).search line).map Found.start = leftmostEdged name.toList line.toList := by
  rw [search_eq,List.map_findSome?,leftmostEdged,String.length_toList,← List.findSome?_guard]
  congr 1
  funext p
  show ((wordPattern name).matchAt line.toList.toArray p false).map Found.start = _
  rw [wordPattern_matchAt]
  by_cases edged : edgedAt name.toList line.toList p <;> simp [edged,Option.guard]

/-- The lines of a file that mention `name` between word boundaries: each with its number, the
    column of the leftmost such mention and the lines around it. -/
def referenceLines (t : Tree) (name : String) (file : Location) : List CodeMatch :=
  match t.readVia? file with
  | none => []
  | some content =>
    let lines := splitLines content
    lines.zipIdx.filterMap fun (line,i) =>
      (leftmostEdged name.toList line.toList).map fun p => ⟨render file,i + 1,p + 1,contextWindow lines i 2⟩

theorem fileMatches_wordPattern (t : Tree) (name : String) (file : Location) :
    fileMatches t (wordPattern name) true file = referenceLines t name file := by
  unfold fileMatches referenceLines
  cases t.readVia? file with
  | none => rfl
  | some content =>
    simp only [Bool.true_or,List.filter_true]
    congr 1
    funext entry
    rw [← search_wordPattern,Option.map_map]
    rfl

def wordEdged (name : List Char) : Bool := name.head?.any isWordChar && name.getLast?.any isWordChar

/-- An occurrence of `name` at `p` that no word character stands right before or right after. -/
def standsAlone (name cs : List Char) (p : Nat) : Bool :=
  decide (name <+: cs.drop p) && !wordBefore cs p && !wordAfter cs (p + name.length)

/-- Around a name that starts and ends with a word character, a word boundary is the absence of
    a word character. -/
theorem edgedAt_iff_standsAlone {name cs : List Char} (edged : wordEdged name = true) (p : Nat) :
    edgedAt name cs p = standsAlone name cs p := by
  obtain ⟨a,first,word⟩ : ∃ a, name.head? = some a ∧ isWordChar a = true := by
    simp only [wordEdged,Bool.and_eq_true,Option.any_eq_true] at edged
    exact edged.1
  obtain ⟨z,last,word'⟩ : ∃ z, name.getLast? = some z ∧ isWordChar z = true := by
    simp only [wordEdged,Bool.and_eq_true,Option.any_eq_true] at edged
    exact edged.2
  by_cases occurs : name <+: cs.drop p
  · obtain ⟨rest,whole⟩ := id occurs
    have filled : name ≠ [] := by rintro rfl; cases first
    -- the occurrence puts its first character at `p` and its last just before its end
    have atStart : cs[p]? = some a := by
      rw [← List.head?_drop,← whole,List.head?_append,first]; rfl
    have atEnd : cs[p + name.length - 1]? = some z := by
      have inside : name.length - 1 < name.length := by
        have := List.length_pos_of_ne_nil filled
        omega
      have shifted : cs[p + (name.length - 1)]? = name[name.length - 1]? := by
        rw [← List.getElem?_drop,← whole,List.getElem?_append_left inside]
      rw [show p + name.length - 1 = p + (name.length - 1) by have := List.length_pos_of_ne_nil filled; omega,
        shifted,← List.getLast?_eq_getElem?,last]
    have nonEmpty : cs.isEmpty = false := by cases cs <;> simp_all
    have ends : 0 < p + name.length := by have := List.length_pos_of_ne_nil filled; omega
    simp [edgedAt,standsAlone,wordEdge,wordBefore,wordAfter,atStart,atEnd,word,word',nonEmpty,ends,occurs]
  · simp [edgedAt,standsAlone,occurs]

/-- The leftmost edged occurrence of a word-edged name is its leftmost occurrence standing alone. -/
theorem leftmostEdged_eq_alone {name : List Char} (edged : wordEdged name = true) (cs : List Char) :
    leftmostEdged name cs = (List.range (cs.length + 1)).find? (standsAlone name cs) := by
  unfold leftmostEdged
  congr 1
  funext p
  exact edgedAt_iff_standsAlone edged p

/-! ### What a search for references reports -/

/-- A search for references reports the first hundred lines, in the order the files are searched,
    that hold the identifier between word boundaries, each at the column of the leftmost such
    occurrence; for an identifier that starts and ends with a word character, that occurrence is
    the leftmost one that no word character stands right before or right after. -/
theorem references_are_edged_occurrences (t : Tree) (ix : Registry) (identifier : String) :
    (findReferences t identifier).run.run ix =
      ((searchedFiles t ix.roots defaultFilePattern).map fun files =>
        (files.flatMap (referenceLines t identifier)).take matchLimit,ix) ∧
    (wordEdged identifier.toList = true → ∀ line : List Char,
      leftmostEdged identifier.toList line =
        (List.range (line.length + 1)).find? (standsAlone identifier.toList line)) := by
  refine ⟨?_,fun edged line => leftmostEdged_eq_alone edged line⟩
  have reported : fileMatches t (wordPattern identifier) true = referenceLines t identifier :=
    funext (fileMatches_wordPattern t identifier)
  rw [findReferences_run,reported]

/-- `Health` is referenced in `MaxHealth = Health;` only where it stands alone. -/
theorem health_referenced_alone :
    wordEdged "Health".toList = true ∧
      leftmostEdged "Health".toList "MaxHealth = Health;".toList = some 12 := by
  have edged : wordEdged "Health".toList = true := by decide
  refine ⟨edged,?_⟩
  rw [(references_are_edged_occurrences Tree.empty ⟨Roots.none,.empty 1,.empty 1⟩ "Health").2 edged]
  decide

/-- `operator+` stands alone in `a.operator+(b);`, yet no reference to it is reported there: no
    word character follows its `+`, so its end is no word boundary. -/
theorem operator_function_not_referenced :
    let t : Tree := ⟨[["P"]],[(["P","A.h"],"a.operator+(b);\n".toUTF8)]⟩
    let ix : Registry := ⟨⟨some ["P"],none⟩,Cache.Recency.empty 1,Cache.Recency.empty 1⟩
    standsAlone "operator+".toList "a.operator+(b);".toList 2 = true ∧
      ((findReferences t "operator+").run.run ix).1 = .ok [] := by
  intro t ix
  exact ⟨by decide,by decide +kernel⟩

end ClassAtlas.Index
