import Mathlib.Data.List.Forall2
import ClassAtlas.Source.Extract
import ClassAtlas.Proofs.Pattern.Marks

/-!
How the spelling of a class name enters extraction. The name is matched as a literal with case
ignored, one character after another. Two names whose characters are matched by the same
characters, position by position, are found by every shape at the same places, so the check for
a definition and the record read for them are the same (`containsDefinition_congr`,
`extractClass_congr`). The record carries the name as the header spells it: a match of a
definition line always captures it (`definitionShape_records_name`), so the name asked for never
stands in for it.
-/

namespace ClassAtlas.Pattern

open Prog

theorem run_char_congr (text : Array Char) {t t' : CharTest} (same : t.holds = t'.holds) :
    run text (.char t) = run text (.char t') := by
  funext i m k
  simp only [run,same]

theorem run_group_congr (text : Array Char) (g : Nat) {p q : Prog} (same : run text p = run text q) :
    run text (.group g p) = run text (.group g q) := by
  funext i m k
  simp only [run,same]

theorem run_all_congr (text : Array Char) {ps qs : List Prog}
    (same : List.Forall₂ (fun p q => run text p = run text q) ps qs) :
    run text (all ps) = run text (all qs) := by
  induction same with
  | nil => rfl
  | cons head _ ih =>
    funext i m k
    rw [run_all_cons,run_all_cons,head,ih]

theorem matchAt_congr {p q : Program} (body : ∀ text, run text p.body = run text q.body)
    (groups : p.groups = q.groups) : p.matchAt = q.matchAt := by
  funext text i nonEmpty
  simp only [Program.matchAt,Program.emptyMarks,body,groups]

theorem searchFrom_congr {p q : Program} (same : p.matchAt = q.matchAt) :
    p.searchFrom = q.searchFrom := by
  -- the scan tries the same positions with the same fuel
  have scan (text : Array Char) (fuel : Nat) :
      ∀ i nonEmpty, Program.searchFrom.go p text i nonEmpty fuel =
        Program.searchFrom.go q text i nonEmpty fuel := by
    induction fuel with
    | zero => intro i nonEmpty; rfl
    | succ fuel ih => intro i nonEmpty; simp only [Program.searchFrom.go,same,ih]
  funext text i nonEmpty
  exact scan text _ i nonEmpty

end ClassAtlas.Pattern

namespace ClassAtlas.Source

open ClassAtlas.Pattern Prog

/-- Two names that a literal ignoring case matches at the same characters, position by
    position. -/
def SpelledAlike (a b : String) : Prop :=
  List.Forall₂ (fun x y => (literalTest ignoreCase false x.toNat).holds =
    (literalTest ignoreCase false y.toNat).holds) a.toList b.toList

theorem SpelledAlike.refl (a : String) : SpelledAlike a a :=
  List.forall₂_refl a.toList

theorem SpelledAlike.symm {a b : String} (alike : SpelledAlike a b) : SpelledAlike b a :=
  (List.Forall₂.flip alike).imp fun _ _ same => same.symm

theorem SpelledAlike.length_eq {a b : String} (alike : SpelledAlike a b) : a.length = b.length := by
  simpa [String.length_toList] using List.Forall₂.length_eq alike

theorem run_literal_congr (text : Array Char) {a b : String} (alike : SpelledAlike a b) :
    run text (literal true a) = run text (literal true b) := by
  apply run_all_congr
  rw [List.forall₂_map_left_iff,List.forall₂_map_right_iff]
  exact alike.imp fun x y same => run_char_congr text (by simpa using same)

theorem definitionShape_matchAt_congr {a b : String} (alike : SpelledAlike a b) :
    (definitionShape a).matchAt = (definitionShape b).matchAt := by
  refine matchAt_congr (fun text => run_all_congr text ?_) rfl
  simp [run_group_congr text 1 (run_literal_congr text alike)]

theorem existenceShape_matchAt_congr {a b : String} (alike : SpelledAlike a b) :
    (existenceShape a).matchAt = (existenceShape b).matchAt := by
  refine matchAt_congr (fun text => run_all_congr text ?_) rfl
  simp [run_literal_congr text alike]

/-- Every match of a definition line captures the name as the line spells it. -/
theorem definitionShape_records_name (name : String) {text : Array Char} {i : Nat}
    {nonEmpty : Bool} {f : Found} (found : (definitionShape name).matchAt text i nonEmpty = some f) :
    (f.group text 1).isSome := by
  have recorded := matchAt_records_group (definitionShape name)
    [.point .textStart,blanks,optional (all [macroCall true "UCLASS",blanks]),literal true "class",
      many1 blank,optional (exportMacro true)]
    [boundary,.look none true (all [blanks,optional (all [literal true "final",blanks]),lit ';']),
      blanks,optional (literal true "final"),blanks,
      optional (all [lit ':',blanks,.group 2 (many1 anyInLine)])]
    1 true name rfl
    (by simp [Prog.sets,boundary,blanks,many,many1,Prog.optional,blank,classOf,lit,anyInLine])
    (by simp [definitionShape]) found
  simpa [Found.group] using recorded

theorem containsDefinition_congr {a b : String} (alike : SpelledAlike a b) (content : String) :
    containsDefinition content a = containsDefinition content b := by
  simp only [containsDefinition,Program.search,searchFrom_congr (existenceShape_matchAt_congr alike)]

theorem definitionOf_congr {a b : String} (alike : SpelledAlike a b) (lines : List String) :
    definitionOf lines a = definitionOf lines b := by
  -- the lines are tried in order; a line that matches for one name matches for the other, and
  -- its record takes the name from the line
  have scan : ∀ (lines : List String) (i : Nat), definitionOf.go a (definitionShape a) lines i =
      definitionOf.go b (definitionShape b) lines i := by
    intro lines
    induction lines with
    | nil => intro i; rfl
    | cons line rest ih =>
      intro i
      simp only [definitionOf.go,definitionShape_matchAt_congr alike,ih]
      split
      · next f found =>
        obtain ⟨declared,named⟩ := Option.isSome_iff_exists.mp (definitionShape_records_name b found)
        simp [named]
      · rfl
  exact scan lines 1

theorem extractClass_congr {a b : String} (alike : SpelledAlike a b) (content sourceFile : String) :
    extractClass content a sourceFile = extractClass content b sourceFile := by
  simp only [extractClass,definitionOf_congr alike]

end ClassAtlas.Source
