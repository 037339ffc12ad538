import ClassAtlas.Proofs.Pattern.Marks

/-!
Where a program can match, as a relation on positions. `Derives text p i j` says that the text
from `i` up to `j` is one way for `p` to match, reading a look-around as taking nothing; the
rounds of a repetition form a `Repeats` chain. Every success of the matcher is its
continuation's at a position the program derives, with the slots that no group of the program
records kept (`run_sound`). Conversely, a program whose matcher tries every way of matching
(`Prog.plain`: no look-around, back reference, atomic group, condition, or repetition other
than greedy) succeeds from wherever it derives a position at which the continuation succeeds
(`run_complete`), so a search finds a match wherever the program derives one
(`search_isSome_of_derives`). A derivation that tests only the characters it takes carries
over to any text holding those characters at shifted positions (`Derives.shift`).
-/

namespace ClassAtlas.Pattern

open Prog

mutual

/-- The text from `i` up to `j` is one way for `p` to match: a look-around takes nothing, and a
    back reference takes characters that recur from some position. -/
inductive Derives (text : Array Char) : Prog → Nat → Nat → Prop
  | empty (i : Nat) : Derives text .empty i i
  | char {t : CharTest} {i : Nat} {c : Char} : text[i]? = some c → t.holds c = true →
      Derives text (.char t) i (i + 1)
  | seq {a b : Prog} {i j l : Nat} : Derives text a i j → Derives text b j l →
      Derives text (.seq a b) i l
  | left {a b : Prog} {i j : Nat} : Derives text a i j → Derives text (.alt a b) i j
  | right {a b : Prog} {i j : Nat} : Derives text b i j → Derives text (.alt a b) i j
  | loop {lo : Nat} {hi : Option Nat} {mode : Repetition} {body : Prog} {i j : Nat} :
      Repeats text body lo hi 0 i j → Derives text (.loop lo hi mode body) i j
  | group {g : Nat} {body : Prog} {i j : Nat} : Derives text body i j →
      Derives text (.group g body) i j
  | backref {g : Nat} {fold : Fold} {s i len : Nat} : recursAt text fold s i len = true →
      Derives text (.backref g fold) i (i + len)
  | point {p : Point} {i : Nat} : p.holds text i = true → Derives text (.point p) i i
  | look {behind : Option Nat} {negated : Bool} {body : Prog} (i : Nat) :
      Derives text (.look behind negated body) i i
  | atomic {body : Prog} {i j : Nat} : Derives text body i j → Derives text (.atomic body) i j
  | yes {g : Nat} {yes no : Prog} {i j : Nat} : Derives text yes i j →
      Derives text (.ifGroup g yes no) i j
  | no {g : Nat} {yes no : Prog} {i j : Nat} : Derives text no i j →
      Derives text (.ifGroup g yes no) i j

/-- The rounds of a repetition of `body` after `count` of them, from `i` to `j`: it stops only
    once `lo` rounds are done, and takes another round ending inside the text either before `lo`
    rounds are done or within `hi` rounds and moving on. -/
inductive Repeats (text : Array Char) : Prog → Nat → Option Nat → Nat → Nat → Nat → Prop
  | stop {body : Prog} {lo : Nat} {hi : Option Nat} {count i : Nat} : lo ≤ count →
      Repeats text body lo hi count i i
  | round {body : Prog} {lo : Nat} {hi : Option Nat} {count i j l : Nat} :
      (count < lo ∨ hi.all (count < ·) = true ∧ i < j) → Derives text body i j → j ≤ text.size →
      Repeats text body lo hi (count + 1) j l → Repeats text body lo hi count i l

end

variable {text : Array Char}

mutual

theorem Derives.le {p : Prog} {i j : Nat} : Derives text p i j → i ≤ j
  | .empty _ | .point _ | .look _ => Nat.le_refl _
  | .char _ _ => Nat.le_succ _
  | .backref _ => Nat.le_add_right _ _
  | .seq first second => Nat.le_trans first.le second.le
  | .left d | .right d | .group d | .atomic d | .yes d | .no d => d.le
  | .loop rounds => rounds.le

theorem Repeats.le {body : Prog} {lo : Nat} {hi : Option Nat} {count i j : Nat} :
    Repeats text body lo hi count i j → i ≤ j
  | .stop _ => Nat.le_refl _
  | .round _ once _ rest => Nat.le_trans once.le rest.le

end

theorem Derives.all_cons {p : Prog} {rest : List Prog} {i l : Nat}
    (d : Derives text (all (p :: rest)) i l) : ∃ j, Derives text p i j ∧ Derives text (all rest) j l := by
  cases rest with
  | nil => exact ⟨l,d,.empty l⟩
  | cons q rest =>
    cases d with
    | seq first later => exact ⟨_,first,later⟩

theorem Derives.all_cons_of {p : Prog} {rest : List Prog} {i j l : Nat} (first : Derives text p i j)
    (later : Derives text (all rest) j l) : Derives text (all (p :: rest)) i l := by
  cases rest with
  | nil =>
    cases later
    exact first
  | cons q rest => exact .seq first later

theorem Derives.char_at {t : CharTest} {i j : Nat} (d : Derives text (.char t) i j) :
    j = i + 1 ∧ ∃ c, text[i]? = some c ∧ t.holds c = true := by
  cases d with
  | char found holds => exact ⟨rfl,_,found,holds⟩

theorem run_all_snoc (front : List Prog) (last : Prog) (i : Nat) (m : Marks) (k : Next) :
    run text (all (front ++ [last])) i m k = run text (all front) i m fun j m' => run text last j m' k := by
  induction front generalizing i m with
  | nil => rfl
  | cons p front ih =>
    cases front with
    | nil => rfl
    | cons q front =>
      show run text p i m (fun j m' => run text (all ((q :: front) ++ [last])) j m' k) = _
      simp only [ih]
      rfl

/-- A repetition whose rounds that move end at positions with `P` ends at one, unless it took
    nothing. -/
theorem Repeats.ends {body : Prog} {P : Nat → Prop} (ends : ∀ a b, Derives text body a b → a < b → P b) :
    ∀ {lo : Nat} {hi : Option Nat} {count i j : Nat}, Repeats text body lo hi count i j → i = j ∨ P j
  | _,_,_,_,_,.stop _ => .inl rfl
  | _,_,_,i,_,.round (j := j) _ once _ rest => by
    rcases Repeats.ends ends rest with same | later
    · subst same
      rcases Nat.lt_or_eq_of_le once.le with moved | same
      · exact .inr (ends _ _ once moved)
      · exact .inl same
    · exact .inr later

/-! ### Soundness of the matcher -/

/-- A runner whose every success is its continuation's, at a position `reach` relates the start
    to and at marks that keep the slots in `S`. -/
def Sound (S : Nat → Prop) (reach : Nat → Nat → Prop) (step : Runner) : Prop :=
  ∀ i m k r, step i m k = some r → ∃ j m', reach i j ∧ Keeps S m m' ∧ k j m' = some r

section Loops

variable {S : Nat → Prop} (text) {step : Runner} {body : Prog}
  (stepSound : Sound S (Derives text body) step) (lo : Nat) (hi : Option Nat)
include stepSound

theorem greedyLoop_sound (count : Nat) :
    Sound S (Repeats text body lo hi count) (greedyLoop text step lo hi count) := by
  intro i m k r done
  fun_induction greedyLoop text step lo hi count i m k generalizing r with
  | case1 count i m below ih =>
    obtain ⟨j,m',once,kept,next⟩ := stepSound _ _ _ _ done
    split at next
    · next inside =>
      obtain ⟨j',m'',rest,kept',last⟩ := ih j m' inside r next
      exact ⟨j',m'',.round (.inl below) once inside.2 rest,kept.trans kept',last⟩
    · cases next
  | case2 count i m notBelow more result moreSome ih =>
    cases done
    simp only [more] at moreSome
    split at moreSome
    · next allowed =>
      obtain ⟨j,m',once,kept,next⟩ := stepSound _ _ _ _ moreSome
      split at next
      · -- a round that takes nothing ends the repetition where it started
        next same =>
        subst same
        exact ⟨j,m',.stop (by omega),kept,next⟩
      · split at next
        · next inside =>
          obtain ⟨j',m'',rest,kept',last⟩ := ih j m' inside _ next
          exact ⟨j',m'',.round (.inr ⟨allowed,inside.1⟩) once inside.2 rest,kept.trans kept',last⟩
        · cases next
    · cases moreSome
  | case3 count i m notBelow more nothing ih => exact ⟨i,m,.stop (by omega),Keeps.refl S m,done⟩

theorem lazyLoop_sound (count : Nat) :
    Sound S (Repeats text body lo hi count) (lazyLoop text step lo hi count) := by
  intro i m k r done
  fun_induction lazyLoop text step lo hi count i m k generalizing r with
  | case1 count i m below ih =>
    obtain ⟨j,m',once,kept,next⟩ := stepSound _ _ _ _ done
    split at next
    · next inside =>
      obtain ⟨j',m'',rest,kept',last⟩ := ih j m' inside r next
      exact ⟨j',m'',.round (.inl below) once inside.2 rest,kept.trans kept',last⟩
    · cases next
  | case2 count i m notBelow result found =>
    cases done
    exact ⟨i,m,.stop (by omega),Keeps.refl S m,found⟩
  | case3 count i m notBelow nothing allowed ih =>
    obtain ⟨j,m',once,kept,next⟩ := stepSound _ _ _ _ done
    split at next
    · next same =>
      subst same
      exact ⟨j,m',.stop (by omega),kept,next⟩
    · split at next
      · next inside =>
        obtain ⟨j',m'',rest,kept',last⟩ := ih j m' inside r next
        exact ⟨j',m'',.round (.inr ⟨allowed,inside.1⟩) once inside.2 rest,kept.trans kept',last⟩
      · cases next
  | case4 count i m notBelow nothing refused => cases done

omit stepSound in
theorem Sound.finish {reach : Nat → Nat → Prop} (sound : Sound S reach step) {i j : Nat} {m m' : Marks}
    (ran : step i m finish = some (j,m')) : reach i j ∧ Keeps S m m' := by
  obtain ⟨j0,m0,reached,kept,last⟩ := sound _ _ _ _ ran
  cases finish_eq last
  exact ⟨reached,kept⟩

theorem possessiveLoop_sound (count : Nat) :
    Sound S (Repeats text body lo hi count) (possessiveLoop text step lo hi count) := by
  intro i m k r done
  fun_induction possessiveLoop text step lo hi count i m k generalizing r with
  | case1 count i m below j m' ran inside ih =>
    obtain ⟨j',m'',rest,kept',last⟩ := ih r done
    have once := stepSound.finish ran
    exact ⟨j',m'',.round (.inl below) once.1 inside.2 rest,once.2.trans kept',last⟩
  | case2 => cases done
  | case3 => cases done
  | case4 count m notBelow allowed j m' ran =>
    exact ⟨j,m',.stop (by omega),(stepSound.finish ran).2,done⟩
  | case5 count i m notBelow allowed j m' ran moved inside ih =>
    obtain ⟨j',m'',rest,kept',last⟩ := ih r done
    have once := stepSound.finish ran
    exact ⟨j',m'',.round (.inr ⟨allowed,inside.1⟩) once.1 inside.2 rest,once.2.trans kept',last⟩
  | case6 => cases done
  | case7 count i m notBelow allowed nothing => exact ⟨i,m,.stop (by omega),Keeps.refl S m,done⟩
  | case8 count i m notBelow refused => exact ⟨i,m,.stop (by omega),Keeps.refl S m,done⟩

end Loops

/-- The soundness of the matcher: every success of a program is its continuation's at a
    position the program derives, at marks that keep each slot none of its groups records. -/
theorem run_sound (text : Array Char) (p : Prog) (S : Nat → Prop)
    (free : ∀ s, S s → p.sets s = false) : Sound S (Derives text p) (run text p) := by
  induction p generalizing S with
  | empty => intro i m k r done; exact ⟨i,m,.empty i,Keeps.refl S m,done⟩
  | char t =>
    intro i m k r done
    simp only [run] at done
    split at done
    · next c found =>
      split at done
      · next holds => exact ⟨_,m,.char found holds,Keeps.refl S m,done⟩
      · cases done
    · cases done
  | seq a b iha ihb =>
    intro i m k r done
    have parts (s : Nat) (member : S s) : a.sets s = false ∧ b.sets s = false := by
      simpa [Prog.sets] using free s member
    obtain ⟨j,m',first,kept,next⟩ := iha S (fun s member => (parts s member).1) _ _ _ _ done
    obtain ⟨j',m'',second,kept',last⟩ := ihb S (fun s member => (parts s member).2) _ _ _ _ next
    exact ⟨j',m'',.seq first second,kept.trans kept',last⟩
  | alt a b iha ihb =>
    intro i m k r done
    have parts (s : Nat) (member : S s) : a.sets s = false ∧ b.sets s = false := by
      simpa [Prog.sets] using free s member
    simp only [run] at done
    split at done
    · next found =>
      cases done
      obtain ⟨j,m',first,kept,last⟩ := iha S (fun s member => (parts s member).1) _ _ _ _ found
      exact ⟨j,m',.left first,kept,last⟩
    · obtain ⟨j,m',second,kept,last⟩ := ihb S (fun s member => (parts s member).2) _ _ _ _ done
      exact ⟨j,m',.right second,kept,last⟩
  | loop lo hi mode body ih =>
    intro i m k r done
    have bodySound := ih S fun s member => by simpa [Prog.sets] using free s member
    simp only [run] at done
    have rounds : ∃ j m', Repeats text body lo hi 0 i j ∧ Keeps S m m' ∧ k j m' = some r := by
      cases mode with
      | greedy => exact greedyLoop_sound text bodySound lo hi 0 _ _ _ _ done
      | lazy => exact lazyLoop_sound text bodySound lo hi 0 _ _ _ _ done
      | possessive => exact possessiveLoop_sound text bodySound lo hi 0 _ _ _ _ done
    obtain ⟨j,m',repeated,kept,last⟩ := rounds
    exact ⟨j,m',.loop repeated,kept,last⟩
  | group g body ih =>
    intro i m k r done
    -- the group writes its own two slots, which no slot of `S` is
    have apart (s : Nat) (member : S s) : 2 * g - 2 ≠ s ∧ 2 * g - 1 ≠ s ∧ body.sets s = false := by
      simpa [Prog.sets,and_assoc] using free s member
    obtain ⟨j,m',inner,kept,last⟩ := ih S (fun s member => (apart s member).2.2) _ _ _ _ done
    refine ⟨j,m'.setIfInBounds (2 * g - 1) (some j),.group inner,⟨?_,fun s member => ?_⟩,last⟩
    · simp [kept.1]
    · rw [Array.getElem?_setIfInBounds_ne (apart s member).2.1,kept.2 s member,
        Array.getElem?_setIfInBounds_ne (apart s member).1]
  | backref g fold =>
    intro i m k r done
    simp only [run] at done
    split at done
    · split at done
      · next recurs => exact ⟨_,m,.backref recurs,Keeps.refl S m,done⟩
      · cases done
    · cases done
  | point q =>
    intro i m k r done
    simp only [run] at done
    split at done
    · next holds => exact ⟨i,m,.point holds,Keeps.refl S m,done⟩
    · cases done
  | look behind negated body ih =>
    intro i m k r done
    have bodySound := ih S fun s member => by simpa [Prog.sets] using free s member
    -- whatever the body does, the look-around hands on its own position
    obtain ⟨m',kept,last⟩ : ∃ m', Keeps S m m' ∧ k i m' = some r := by
      cases behind with
      | none =>
        simp only [run] at done
        split at done
        · next j m' ran =>
          cases negated
          · exact ⟨m',(bodySound.finish ran).2,done⟩
          · cases done
        · cases negated
          · cases done
          · exact ⟨m,Keeps.refl S m,done⟩
      | some w =>
        simp only [run] at done
        split at done
        · cases negated
          · cases done
          · exact ⟨m,Keeps.refl S m,done⟩
        · split at done
          · next j m' ran =>
            cases negated
            · exact ⟨m',(bodySound.finish ran).2,done⟩
            · cases done
          · cases negated
            · cases done
            · exact ⟨m,Keeps.refl S m,done⟩
    exact ⟨i,m',.look i,kept,last⟩
  | atomic body ih =>
    intro i m k r done
    have bodySound := ih S fun s member => by simpa [Prog.sets] using free s member
    simp only [run] at done
    split at done
    · next j m' ran =>
      have once := bodySound.finish ran
      exact ⟨j,m',.atomic once.1,once.2,done⟩
    · cases done
  | ifGroup g yes no ihy ihn =>
    intro i m k r done
    have parts (s : Nat) (member : S s) : yes.sets s = false ∧ no.sets s = false := by
      simpa [Prog.sets] using free s member
    simp only [run] at done
    split at done
    · obtain ⟨j,m',taken,kept,last⟩ := ihy S (fun s member => (parts s member).1) _ _ _ _ done
      exact ⟨j,m',.yes taken,kept,last⟩
    · obtain ⟨j,m',taken,kept,last⟩ := ihn S (fun s member => (parts s member).2) _ _ _ _ done
      exact ⟨j,m',.no taken,kept,last⟩

/-- Every success of a program is its continuation's at a position the program derives. -/
theorem run_derives (text : Array Char) (p : Prog) {i : Nat} {m : Marks} {k : Next}
    {r : Nat × Marks} (done : run text p i m k = some r) : ∃ j m', Derives text p i j ∧ k j m' = some r := by
  obtain ⟨j,m',derived,-,last⟩ := run_sound text p (fun _ => False) (fun _ none => none.elim) _ _ _ _ done
  exact ⟨j,m',derived,last⟩

/-! ### Completeness for programs that try every way -/

/-- Programs whose matcher tries every way of matching: characters, anchors, sequences,
    alternatives, groups and greedy repetitions. -/
def Prog.plain : Prog → Bool
  | .empty | .char _ | .point _ => true
  | .seq a b | .alt a b => a.plain && b.plain
  | .loop _ _ .greedy body | .group _ body => body.plain
  | _ => false

@[simp] theorem Prog.plain_all (ps : List Prog) : (all ps).plain = ps.all Prog.plain := by
  induction ps with
  | nil => rfl
  | cons p rest ih =>
    cases rest with
    | nil => simp [all]
    | cons q rest => simp only [all,Prog.plain,ih,List.all_cons]

@[simp] theorem Prog.plain_literal (ignoring : Bool) (s : String) : (literal ignoring s).plain = true := by
  simp [literal,Prog.plain]

/-- A continuation that succeeds at `j` whatever the marks. -/
def Accepts (k : Next) (j : Nat) : Prop := ∀ m, (k j m).isSome

section Complete

variable {step : Runner} {body : Prog} {lo : Nat} {hi : Option Nat}

/-- A greedy repetition whose body succeeds wherever it derives a position the continuation
    accepts succeeds along any chain of rounds: it tries one more round before stopping. -/
theorem greedyLoop_complete
    (stepComplete : ∀ i j, Derives text body i j → ∀ k, Accepts k j → ∀ m, (step i m k).isSome)
    {count i j : Nat} (rounds : Repeats text body lo hi count i j) {k : Next} (accepted : Accepts k j)
    (m : Marks) : (greedyLoop text step lo hi count i m k).isSome := by
  -- the loop's own recursion: each round counts towards the minimum or moves on
  revert j
  fun_induction greedyLoop text step lo hi count i m k with
  | case1 count i m below ih =>
    intro j rounds accepted
    cases rounds with
    | stop enough => omega
    | round chosen once inside rest =>
      refine stepComplete i _ once _ (fun m' => ?_) m
      simp only [dif_pos (And.intro once.le inside),ih _ m' ⟨once.le,inside⟩ rest accepted]
  | case2 => intros; rfl
  | case3 count i m notBelow more nothing =>
    rename_i ih
    intro j rounds accepted
    cases rounds with
    | stop enough => exact accepted m
    | round chosen once inside rest =>
      -- the round that moves on is tried before stopping, and it succeeds
      have allowed : hi.all (count < ·) = true ∧ i < _ := chosen.resolve_left notBelow
      have tried := stepComplete i _ once (fun j m' => if h : j = i then k j m' else
        if h : i < j ∧ j ≤ text.size then greedyLoop text step lo hi (count + 1) j m' k else none)
        (fun m' => by simp only [dif_neg (Nat.ne_of_gt allowed.2),dif_pos (And.intro allowed.2 inside),
          ih _ m' ⟨allowed.2,inside⟩ rest accepted]) m
      simp only [more,dif_pos allowed.1] at nothing
      rw [nothing] at tried
      cases tried

end Complete

/-- The completeness of the matcher: a program that tries every way of matching succeeds from
    `i` whenever it derives a position at which the continuation succeeds. -/
theorem run_complete (text : Array Char) (p : Prog) (plain : p.plain = true) :
    ∀ i j, Derives text p i j → ∀ k, Accepts k j → ∀ m, (run text p i m k).isSome := by
  induction p with
  | empty =>
    intro i j derived k accepted m
    cases derived
    exact accepted m
  | char t =>
    intro i j derived k accepted m
    cases derived with
    | char found holds => simp only [run,found,holds,if_true]; exact accepted m
  | seq a b iha ihb =>
    intro i j derived k accepted m
    simp only [Prog.plain,Bool.and_eq_true] at plain
    cases derived with
    | seq first second =>
      exact iha plain.1 _ _ first _ (fun m' => ihb plain.2 _ _ second k accepted m') m
  | alt a b iha ihb =>
    intro i j derived k accepted m
    simp only [Prog.plain,Bool.and_eq_true] at plain
    simp only [run]
    cases derived with
    | left first =>
      have found := iha plain.1 _ _ first k accepted m
      split
      · rfl
      · simp_all
    | right second =>
      split
      · rfl
      · exact ihb plain.2 _ _ second k accepted m
  | loop lo hi mode body ih =>
    intro i j derived k accepted m
    cases mode with
    | greedy =>
      cases derived with
      | loop rounds => exact greedyLoop_complete (ih plain) rounds accepted m
    | lazy => cases plain
    | possessive => cases plain
  | group g body ih =>
    intro i j derived k accepted m
    cases derived with
    | group inner =>
      simp only [run]
      exact ih plain _ _ inner (fun j m' => k j (m'.setIfInBounds (2 * g - 1) (some j)))
        (fun m' => accepted _) _
  | point q =>
    intro i j derived k accepted m
    cases derived with
    | point holds => simp only [run,holds,if_true]; exact accepted m
  | backref => cases plain
  | look => cases plain
  | atomic => cases plain
  | ifGroup => cases plain

/-- A search finds a match when the program derives one from a position within the text. -/
theorem search_isSome_of_derives (p : Program) (plain : p.body.plain = true) {s : String} {i j : Nat}
    (inside : i ≤ s.toList.toArray.size) (derived : Derives s.toList.toArray p.body i j) :
    (p.search s).isSome := by
  have matched : (p.matchAt s.toList.toArray i false).isSome := by
    simp only [Program.matchAt,Option.isSome_map]
    exact run_complete _ _ plain i j derived _ (fun _ => rfl) _
  -- the search tries every position from the start, and stops at the first match
  have searched : ∀ fuel start, start ≤ i → i < start + fuel →
      (Program.searchFrom.go p s.toList.toArray start false fuel).isSome := by
    intro fuel
    induction fuel with
    | zero => intro start _ _; omega
    | succ fuel ih =>
      intro start before within
      rw [Program.searchFrom.go]
      split
      · rfl
      · next missed =>
        have other : start ≠ i := fun same => by simp_all
        exact ih (start + 1) (by omega) (by omega)
  exact searched _ 0 (Nat.zero_le i) (by omega)

/-- Programs that test nothing but the characters they take: no anchor or back reference. -/
def Prog.anchorless : Prog → Bool
  | .point _ | .backref _ _ => false
  | .seq a b | .alt a b => a.anchorless && b.anchorless
  | .ifGroup _ a b => a.anchorless && b.anchorless
  | .loop _ _ _ body | .group _ body | .atomic body => body.anchorless
  | _ => true

@[simp] theorem Prog.anchorless_all (ps : List Prog) : (all ps).anchorless = ps.all Prog.anchorless := by
  induction ps with
  | nil => rfl
  | cons p rest ih =>
    cases rest with
    | nil => simp [all]
    | cons q rest => simp only [all,Prog.anchorless,ih,List.all_cons]

@[simp] theorem Prog.anchorless_literal (ignoring : Bool) (s : String) :
    (literal ignoring s).anchorless = true := by
  simp [literal,Prog.anchorless]

section Shift

variable {wider : Array Char} {off : Nat}

mutual

/-- A derivation that tests only the characters it takes holds in a wider text that holds the
    same characters `off` places later. -/
theorem Derives.shift (agree : ∀ x c, text[x]? = some c → wider[off + x]? = some c)
    (fits : off + text.size ≤ wider.size) :
    ∀ {p : Prog} {i j : Nat}, p.anchorless = true → Derives text p i j → Derives wider p (off + i) (off + j)
  | _,_,_,_,.empty i => .empty _
  | _,_,_,_,.char found holds => .char (agree _ _ found) holds
  | _,_,_,reads,.seq first second => by
    simp only [Prog.anchorless,Bool.and_eq_true] at reads
    exact .seq (first.shift agree fits reads.1) (second.shift agree fits reads.2)
  | _,_,_,reads,.left first => by
    simp only [Prog.anchorless,Bool.and_eq_true] at reads
    exact .left (first.shift agree fits reads.1)
  | _,_,_,reads,.right second => by
    simp only [Prog.anchorless,Bool.and_eq_true] at reads
    exact .right (second.shift agree fits reads.2)
  | _,_,_,reads,.loop rounds => .loop (rounds.shift agree fits reads)
  | _,_,_,reads,.group inner => .group (inner.shift agree fits reads)
  | _,_,_,reads,.backref _ => nomatch reads
  | _,_,_,reads,.point _ => nomatch reads
  | _,_,_,_,.look i => .look _
  | _,_,_,reads,.atomic inner => .atomic (inner.shift agree fits reads)
  | _,_,_,reads,.yes taken => by
    simp only [Prog.anchorless,Bool.and_eq_true] at reads
    exact .yes (taken.shift agree fits reads.1)
  | _,_,_,reads,.no taken => by
    simp only [Prog.anchorless,Bool.and_eq_true] at reads
    exact .no (taken.shift agree fits reads.2)

theorem Repeats.shift (agree : ∀ x c, text[x]? = some c → wider[off + x]? = some c)
    (fits : off + text.size ≤ wider.size) :
    ∀ {body : Prog} {lo : Nat} {hi : Option Nat} {count i j : Nat}, body.anchorless = true →
      Repeats text body lo hi count i j → Repeats wider body lo hi count (off + i) (off + j)
  | _,_,_,_,_,_,_,.stop enough => .stop enough
  | _,_,_,_,_,_,reads,.round chosen once inside rest =>
    .round (chosen.imp_right fun ⟨allowed,moved⟩ => ⟨allowed,by omega⟩) (once.shift agree fits reads)
      (by omega) (rest.shift agree fits reads)

end

end Shift

end ClassAtlas.Pattern
