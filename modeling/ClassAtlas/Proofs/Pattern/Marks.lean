import ClassAtlas.Pattern.Match
import ClassAtlas.Pattern.Build

/-!
What running a program does with the group marks. Every success of a program is a success of the
continuation it was handed, at some position and with marks of the same size that differ from
those it was given only in the slots of the program's own groups (`run_hands`): repetitions,
look-arounds and atomic groups pass on what their body hands them. A literal text hands on the
position just past it and the marks untouched (`run_literal`). So a group around a literal
always records its bounds, and what follows it cannot undo them (`matchAt_records_group`).
-/

namespace ClassAtlas.Pattern

/-- Whether some group of a program records a bound in slot `s` of the marks. -/
def Prog.sets (s : Nat) : Prog → Bool
  | .group g body => 2 * g - 2 == s || 2 * g - 1 == s || body.sets s
  | .seq a b => a.sets s || b.sets s
  | .alt a b => a.sets s || b.sets s
  | .loop _ _ _ body => body.sets s
  | .look _ _ body => body.sets s
  | .atomic body => body.sets s
  | .ifGroup _ yes no => yes.sets s || no.sets s
  | _ => false

/-- Marks of the same size as `m` that agree with it on the slots in `S`. -/
def Keeps (S : Nat → Prop) (m m' : Marks) : Prop :=
  m'.size = m.size ∧ ∀ s, S s → m'[s]? = m[s]?

theorem Keeps.refl (S : Nat → Prop) (m : Marks) : Keeps S m m := ⟨rfl,fun _ _ => rfl⟩

theorem Keeps.trans {S : Nat → Prop} {a b c : Marks} (first : Keeps S a b) (second : Keeps S b c) :
    Keeps S a c :=
  ⟨second.1.trans first.1,fun s member => (second.2 s member).trans (first.2 s member)⟩

/-- A runner hands each of its successes to the continuation it was given, at some position
    and at marks that keep the slots in `S`. -/
def Hands (S : Nat → Prop) (step : Runner) : Prop :=
  ∀ i m k r, step i m k = some r → ∃ j m', Keeps S m m' ∧ k j m' = some r

theorem finish_eq {j : Nat} {m : Marks} {r : Nat × Marks} (done : finish j m = some r) : r = (j,m) := by
  simp only [finish,Option.some.injEq] at done
  exact done.symm

section Loops

variable {S : Nat → Prop} (text : Array Char) {step : Runner} (stepHands : Hands S step)
  (lo : Nat) (hi : Option Nat)
include stepHands

theorem greedyLoop_hands (count : Nat) : Hands S (greedyLoop text step lo hi count) := by
  intro i m k r done
  fun_induction greedyLoop text step lo hi count i m k generalizing r with
  | case1 count i m below ih =>
    obtain ⟨j,m',kept,next⟩ := stepHands _ _ _ _ done
    split at next
    · next inside =>
      obtain ⟨j',m'',kept',last⟩ := ih j m' inside r next
      exact ⟨j',m'',kept.trans kept',last⟩
    · cases next
  | case2 count i m notBelow more result moreSome ih =>
    cases done
    simp only [more] at moreSome
    split at moreSome
    · obtain ⟨j,m',kept,next⟩ := stepHands _ _ _ _ moreSome
      split at next
      · exact ⟨j,m',kept,next⟩
      · split at next
        · next inside =>
          obtain ⟨j',m'',kept',last⟩ := ih j m' inside _ next
          exact ⟨j',m'',kept.trans kept',last⟩
        · cases next
    · cases moreSome
  | case3 count i m notBelow more nothing ih => exact ⟨i,m,Keeps.refl S m,done⟩

theorem lazyLoop_hands (count : Nat) : Hands S (lazyLoop text step lo hi count) := by
  intro i m k r done
  fun_induction lazyLoop text step lo hi count i m k generalizing r with
  | case1 count i m below ih =>
    obtain ⟨j,m',kept,next⟩ := stepHands _ _ _ _ done
    split at next
    · next inside =>
      obtain ⟨j',m'',kept',last⟩ := ih j m' inside r next
      exact ⟨j',m'',kept.trans kept',last⟩
    · cases next
  | case2 count i m notBelow result found =>
    cases done
    exact ⟨i,m,Keeps.refl S m,found⟩
  | case3 count i m notBelow nothing allowed ih =>
    obtain ⟨j,m',kept,next⟩ := stepHands _ _ _ _ done
    split at next
    · exact ⟨j,m',kept,next⟩
    · split at next
      · next inside =>
        obtain ⟨j',m'',kept',last⟩ := ih j m' inside r next
        exact ⟨j',m'',kept.trans kept',last⟩
      · cases next
  | case4 count i m notBelow nothing refused => cases done

omit stepHands in
theorem Hands.finish_keeps (stepHands : Hands S step) {i j : Nat} {m m' : Marks}
    (ran : step i m finish = some (j,m')) : Keeps S m m' := by
  obtain ⟨j0,m0,kept,last⟩ := stepHands _ _ _ _ ran
  cases finish_eq last
  exact kept

theorem possessiveLoop_hands (count : Nat) : Hands S (possessiveLoop text step lo hi count) := by
  intro i m k r done
  fun_induction possessiveLoop text step lo hi count i m k generalizing r with
  | case1 count i m below j m' ran inside ih =>
    obtain ⟨j',m'',kept',last⟩ := ih r done
    exact ⟨j',m'',(stepHands.finish_keeps ran).trans kept',last⟩
  | case2 => cases done
  | case3 => cases done
  | case4 count m notBelow allowed j m' ran => exact ⟨j,m',stepHands.finish_keeps ran,done⟩
  | case5 count i m notBelow allowed j m' ran moved inside ih =>
    obtain ⟨j',m'',kept',last⟩ := ih r done
    exact ⟨j',m'',(stepHands.finish_keeps ran).trans kept',last⟩
  | case6 => cases done
  | case7 count i m notBelow allowed nothing => exact ⟨i,m,Keeps.refl S m,done⟩
  | case8 count i m notBelow refused => exact ⟨i,m,Keeps.refl S m,done⟩

end Loops

/-- Every success of a program is its continuation's, at marks of the same size that keep each
    slot none of the program's groups records. -/
theorem run_hands (text : Array Char) (p : Prog) (S : Nat → Prop)
    (free : ∀ s, S s → p.sets s = false) : Hands S (run text p) := by
  induction p generalizing S with
  | empty => intro i m k r done; exact ⟨i,m,Keeps.refl S m,done⟩
  | char t =>
    intro i m k r done
    simp only [run] at done
    split at done
    · split at done
      · exact ⟨_,m,Keeps.refl S m,done⟩
      · cases done
    · cases done
  | seq a b iha ihb =>
    intro i m k r done
    have parts (s : Nat) (member : S s) : a.sets s = false ∧ b.sets s = false := by
      simpa [Prog.sets] using free s member
    obtain ⟨j,m',kept,next⟩ := iha S (fun s member => (parts s member).1) _ _ _ _ done
    obtain ⟨j',m'',kept',last⟩ := ihb S (fun s member => (parts s member).2) _ _ _ _ next
    exact ⟨j',m'',kept.trans kept',last⟩
  | alt a b iha ihb =>
    intro i m k r done
    have parts (s : Nat) (member : S s) : a.sets s = false ∧ b.sets s = false := by
      simpa [Prog.sets] using free s member
    simp only [run] at done
    split at done
    · next found =>
      cases done
      exact iha S (fun s member => (parts s member).1) _ _ _ _ found
    · exact ihb S (fun s member => (parts s member).2) _ _ _ _ done
  | loop lo hi mode body ih =>
    intro i m k r done
    have bodyHands := ih S fun s member => by simpa [Prog.sets] using free s member
    simp only [run] at done
    cases mode with
    | greedy => exact greedyLoop_hands text bodyHands lo hi 0 _ _ _ _ done
    | lazy => exact lazyLoop_hands text bodyHands lo hi 0 _ _ _ _ done
    | possessive => exact possessiveLoop_hands text bodyHands lo hi 0 _ _ _ _ done
  | group g body ih =>
    intro i m k r done
    -- the group writes its own two slots, which no slot of `S` is
    have apart (s : Nat) (member : S s) : 2 * g - 2 ≠ s ∧ 2 * g - 1 ≠ s ∧ body.sets s = false := by
      simpa [Prog.sets,and_assoc] using free s member
    obtain ⟨j,m',kept,last⟩ :=
      ih S (fun s member => (apart s member).2.2) _ _ _ _ done
    refine ⟨j,m'.setIfInBounds (2 * g - 1) (some j),⟨?_,fun s member => ?_⟩,last⟩
    · simp [kept.1]
    · rw [Array.getElem?_setIfInBounds_ne (apart s member).2.1,kept.2 s member,
        Array.getElem?_setIfInBounds_ne (apart s member).1]
  | backref g fold =>
    intro i m k r done
    simp only [run] at done
    split at done
    · split at done
      · exact ⟨_,m,Keeps.refl S m,done⟩
      · cases done
    · cases done
  | point q =>
    intro i m k r done
    simp only [run] at done
    split at done
    · exact ⟨i,m,Keeps.refl S m,done⟩
    · cases done
  | look behind negated body ih =>
    intro i m k r done
    have bodyHands := ih S fun s member => by simpa [Prog.sets] using free s member
    cases behind with
    | none =>
      simp only [run] at done
      split at done
      · next j m' ran =>
        cases negated
        · exact ⟨i,m',bodyHands.finish_keeps ran,done⟩
        · cases done
      · cases negated
        · cases done
        · exact ⟨i,m,Keeps.refl S m,done⟩
    | some w =>
      simp only [run] at done
      split at done
      · cases negated
        · cases done
        · exact ⟨i,m,Keeps.refl S m,done⟩
      · split at done
        · next j m' ran =>
          cases negated
          · exact ⟨i,m',bodyHands.finish_keeps ran,done⟩
          · cases done
        · cases negated
          · cases done
          · exact ⟨i,m,Keeps.refl S m,done⟩
  | atomic body ih =>
    intro i m k r done
    have bodyHands := ih S fun s member => by simpa [Prog.sets] using free s member
    simp only [run] at done
    split at done
    · next j m' ran => exact ⟨j,m',bodyHands.finish_keeps ran,done⟩
    · cases done
  | ifGroup g yes no ihy ihn =>
    intro i m k r done
    have parts (s : Nat) (member : S s) : yes.sets s = false ∧ no.sets s = false := by
      simpa [Prog.sets] using free s member
    simp only [run] at done
    split at done
    · exact ihy S (fun s member => (parts s member).1) _ _ _ _ done
    · exact ihn S (fun s member => (parts s member).2) _ _ _ _ done

theorem run_hands_size (text : Array Char) (p : Prog) {i : Nat} {m : Marks} {k : Next}
    {r : Nat × Marks} (done : run text p i m k = some r) : ∃ j m', m'.size = m.size ∧ k j m' = some r := by
  obtain ⟨j,m',kept,last⟩ := run_hands text p (fun _ => False) (fun _ none => none.elim) _ _ _ _ done
  exact ⟨j,m',kept.1,last⟩

namespace Prog

@[simp] theorem sets_all (s : Nat) (ps : List Prog) : (all ps).sets s = ps.any (·.sets s) := by
  induction ps with
  | nil => rfl
  | cons p rest ih =>
    cases rest with
    | nil => simp [all]
    | cons q rest => simp only [all,Prog.sets,ih,List.any_cons]

@[simp] theorem sets_literal (s : Nat) (ignoring : Bool) (name : String) :
    (literal ignoring name).sets s = false := by
  simp [literal,Prog.sets]

end Prog

open Prog

theorem run_all_cons (text : Array Char) (p : Prog) (rest : List Prog) (i : Nat) (m : Marks)
    (k : Next) : run text (all (p :: rest)) i m k = run text p i m fun j m' => run text (all rest) j m' k := by
  cases rest <;> rfl

theorem run_all_append (text : Array Char) (front back : List Prog) {i : Nat} {m : Marks} {k : Next}
    {r : Nat × Marks} (done : run text (all (front ++ back)) i m k = some r) :
    ∃ j m', m'.size = m.size ∧ run text (all back) j m' k = some r := by
  induction front generalizing i m with
  | nil => exact ⟨i,m,rfl,done⟩
  | cons p front ih =>
    rw [List.cons_append,run_all_cons] at done
    obtain ⟨j,m',sized,next⟩ := run_hands_size text p done
    obtain ⟨j',m'',sized',last⟩ := ih next
    exact ⟨j',m'',sized'.trans sized,last⟩

/-- A run of single characters hands on the position past them and the marks it was given. -/
theorem run_chars (text : Array Char) (ts : List CharTest) {i : Nat} {m : Marks} {k : Next}
    {r : Nat × Marks} (done : run text (all (ts.map .char)) i m k = some r) :
    k (i + ts.length) m = some r := by
  induction ts generalizing i with
  | nil => exact done
  | cons t ts ih =>
    -- one character is taken, then the rest from the next position
    have taken (j : Nat) (k' : Next) (ran : run text (.char t) j m k' = some r) : k' (j + 1) m = some r := by
      simp only [run] at ran
      split at ran
      · split at ran
        · exact ran
        · cases ran
      · cases ran
    cases ts with
    | nil => exact taken i k done
    | cons t' ts =>
      have first : run text (.char t) i m (fun j m' => run text (all ((t' :: ts).map .char)) j m' k) =
          some r := done
      have moved := ih (taken i _ first)
      simpa [Nat.add_assoc,Nat.add_comm 1] using moved

theorem run_literal (text : Array Char) (ignoring : Bool) (name : String) {i : Nat} {m : Marks}
    {k : Next} {r : Nat × Marks} (done : run text (literal ignoring name) i m k = some r) :
    k (i + name.length) m = some r := by
  have shape : literal ignoring name = all ((name.toList.map fun c =>
      literalTest (if ignoring then ignoreCase else 0) false c.toNat).map .char) := by
    rw [literal,List.map_map]; rfl
  rw [shape] at done
  have moved := run_chars text _ done
  simpa [String.length_toList] using moved

/-- A group around a literal, with nothing after it in the sequence that records its bounds, is
    recorded by every match of the program. -/
theorem matchAt_records_group (p : Program) (front rest : List Prog) (g : Nat) (ignoring : Bool)
    (name : String) (shape : p.body = all (front ++ .group g (literal ignoring name) :: rest))
    (restFree : (all rest).sets (2 * g - 2) = false ∧ (all rest).sets (2 * g - 1) = false)
    (counted : 0 < g ∧ g ≤ p.groups) {text : Array Char} {i : Nat} {nonEmpty : Bool} {f : Found}
    (found : p.matchAt text i nonEmpty = some f) : (groupSpan f.marks g).isSome := by
  obtain ⟨r,ran,rfl⟩ := Option.map_eq_some_iff.mp found
  rw [shape] at ran
  obtain ⟨j,m,sized,reached⟩ := run_all_append text front _ ran
  rw [run_all_cons] at reached
  -- the group opens at `j`, the literal takes the name, the group closes past it
  have closed := run_literal text ignoring name reached
  let m' := (m.setIfInBounds (2 * g - 2) (some j)).setIfInBounds (2 * g - 1) (some (j + name.length))
  have bounds : 2 * g - 2 < m.size ∧ 2 * g - 1 < m.size := by
    rw [sized]; simp only [Program.emptyMarks,Array.size_replicate]; omega
  obtain ⟨e,m'',kept,last⟩ := run_hands text (all rest) (fun s => s = 2 * g - 2 ∨ s = 2 * g - 1)
    (by rintro s (rfl | rfl) <;> simp [restFree]) _ m' _ _ closed
  have opened : m''[2 * g - 2]? = some (some j) := by
    rw [kept.2 _ (.inl rfl),Array.getElem?_setIfInBounds_ne (by omega),
      Array.getElem?_setIfInBounds_self_of_lt (by simpa using bounds.1)]
  have shut : m''[2 * g - 1]? = some (some (j + name.length)) := by
    rw [kept.2 _ (.inr rfl),Array.getElem?_setIfInBounds_self_of_lt (by simpa using bounds.2)]
  split at last
  · cases last
  · cases last
    simp [groupSpan,opened,shut]

end ClassAtlas.Pattern
