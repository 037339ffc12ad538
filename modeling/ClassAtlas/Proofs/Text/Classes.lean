import ClassAtlas.Pattern.Program
import ClassAtlas.Text.Lines

/-!
Facts about the character tables that the quick test for a definition relies on. The tables are
searched by halving, and what the search finds is an entry of the table that holds the code
point (`rangeIn_sound`, `CaseRun.find_sound`); from there a fact about every entry, checked once
over the table, becomes a fact about every character: white space is no character of a word
(`blank_not_word`), and only `C` and `c` lower to `c` (`lowerCode_eq_c`). A line of a text stands
in it after a newline or at its start (`splitLines_locate`), and a slice between bounds that are
not negative is a drop and a take (`slice_natCast`).
-/

namespace ClassAtlas.Text

/-- A range the halving search finds is a range of the table and holds the code point. -/
theorem rangeIn_sound {table : Array (Nat × Nat)} {c lo hi : Nat} {r : Nat × Nat}
    (found : rangeIn table c lo hi = some r) : r ∈ table.toList ∧ r.1 ≤ c ∧ c ≤ r.2 := by
  fun_induction rangeIn table c lo hi with
  | case1 => cases found
  | case2 _ _ _ _ _ _ _ _ ih => exact ih found
  | case3 _ _ _ _ _ _ _ _ _ ih => exact ih found
  | case4 _ _ _ _ a b stored before after =>
    cases found
    exact ⟨Array.mem_toList_iff.mpr (Array.mem_of_getElem? stored),by omega,by omega⟩
  | case5 => cases found

theorem inRanges_sound {table : Array (Nat × Nat)} {c : Nat} (inside : inRanges table c = true) :
    ∃ r ∈ table.toList, r.1 ≤ c ∧ c ≤ r.2 := by
  obtain ⟨r,found⟩ := Option.isSome_iff_exists.mp inside
  exact ⟨r,rangeIn_sound found⟩

/-- A run the halving search finds is a run of the table and spans the code point. -/
theorem CaseRun.find_sound {runs : Array CaseRun} {c lo hi : Nat} {r : CaseRun}
    (found : CaseRun.find runs c lo hi = some r) : r ∈ runs.toList ∧ r.lo ≤ c ∧ c ≤ r.hi := by
  fun_induction CaseRun.find runs c lo hi with
  | case1 => cases found
  | case2 _ _ _ _ _ _ _ ih => exact ih found
  | case3 _ _ _ _ _ _ _ _ ih => exact ih found
  | case4 _ _ _ _ run stored before after =>
    cases found
    exact ⟨Array.mem_toList_iff.mpr (Array.mem_of_getElem? stored),by omega,by omega⟩
  | case5 => cases found

theorem blank_not_word {c : Char} (blank : isBlank c = true) : isWordChar c = false := by
  obtain ⟨r,member,above,below⟩ := inRanges_sound blank
  -- the blank ranges are short: every code point in them is checked
  have checked : ∀ r ∈ blankRanges.toList, ∀ x ∈ List.range' r.1 (r.2 + 1 - r.1),
      isWordChar (Char.ofNat x) = false := by decide +kernel
  have word := checked r member c.toNat (List.mem_range'_1.mpr ⟨above,by omega⟩)
  rwa [Char.ofNat_toNat] at word

theorem splitNewlines_ne_nil (cs : List Char) : splitNewlines cs ≠ [] := by
  cases cs with
  | nil => simp [splitNewlines]
  | cons c rest =>
    simp only [splitNewlines]
    split
    · simp
    · split <;> simp

/-- Each piece between newlines stands in the text with a newline, or nothing, before it; only
    the first piece starts the text. -/
theorem splitNewlines_locate : ∀ (cs : List Char) (idx : Nat) (piece : List Char),
    (splitNewlines cs)[idx]? = some piece → ∃ before after, cs = before ++ piece ++ after ∧
      ((idx = 0 ∧ before = []) ∨ (0 < idx ∧ before.getLast? = some '\n'))
  | [],idx,piece,found => by
    cases idx with
    | zero =>
      simp only [splitNewlines,List.getElem?_cons_zero,Option.some.injEq] at found
      exact ⟨[],[],by simp [← found],.inl ⟨rfl,rfl⟩⟩
    | succ idx => simp [splitNewlines] at found
  | c :: rest,idx,piece,found => by
    obtain ⟨first,others,split⟩ := List.exists_cons_of_ne_nil (splitNewlines_ne_nil rest)
    simp only [splitNewlines,split] at found
    by_cases newline : c = '\n'
    · rw [if_pos newline] at found
      cases idx with
      | zero =>
        simp only [List.getElem?_cons_zero,Option.some.injEq] at found
        exact ⟨[],c :: rest,by simp [← found],.inl ⟨rfl,rfl⟩⟩
      | succ idx =>
        -- a later piece of the rest, now behind the newline `c` as well
        simp only [List.getElem?_cons_succ] at found
        obtain ⟨before,after,whole,edge⟩ := splitNewlines_locate rest idx piece (by rw [split]; exact found)
        refine ⟨c :: before,after,by simp [whole],.inr ⟨Nat.succ_pos idx,?_⟩⟩
        rcases edge with ⟨-,rfl⟩ | ⟨-,last⟩
        · simp [newline]
        · rw [List.getLast?_cons,last]; rfl
    · rw [if_neg newline] at found
      cases idx with
      | zero =>
        -- the first piece takes `c` in front
        simp only [List.getElem?_cons_zero,Option.some.injEq] at found
        obtain ⟨before,after,whole,edge⟩ := splitNewlines_locate rest 0 first (by rw [split]; rfl)
        have start : before = [] := by
          rcases edge with ⟨-,start⟩ | ⟨never,-⟩
          · exact start
          · cases never
        exact ⟨[],after,by simp [← found,whole,start],.inl ⟨rfl,rfl⟩⟩
      | succ idx =>
        simp only [List.getElem?_cons_succ] at found
        obtain ⟨before,after,whole,edge⟩ :=
          splitNewlines_locate rest (idx + 1) piece (by rw [split]; exact found)
        refine ⟨c :: before,after,by simp [whole],.inr ⟨Nat.succ_pos idx,?_⟩⟩
        rcases edge with ⟨impossible,-⟩ | ⟨-,last⟩
        · cases impossible
        · rw [List.getLast?_cons,last]; rfl

theorem dropTrailingReturns_front (cs : List Char) :
    cs = dropTrailingReturns cs ++ (cs.reverse.takeWhile (· = '\r')).reverse := by
  have split := List.takeWhile_append_dropWhile (p := fun x => decide (x = '\r')) (l := cs.reverse)
  calc cs = (cs.reverse.takeWhile (· = '\r') ++ cs.reverse.dropWhile (· = '\r')).reverse := by
        rw [split,List.reverse_reverse]
    _ = _ := by rw [List.reverse_append]; rfl

/-- Each line stands in the text with a newline, or nothing, before it. -/
theorem splitLines_locate {content : String} {idx : Nat} {line : String}
    (found : (splitLines content)[idx]? = some line) :
    ∃ before after, content.toList = before ++ line.toList ++ after ∧
      (before = [] ∨ before.getLast? = some '\n') := by
  simp only [splitLines,List.getElem?_map,Option.map_eq_some_iff] at found
  obtain ⟨piece,located,rfl⟩ := found
  obtain ⟨before,after,whole,edge⟩ := splitNewlines_locate _ idx piece located
  refine ⟨before,(piece.reverse.takeWhile (· = '\r')).reverse ++ after,?_,edge.imp And.right And.right⟩
  rw [whole,String.toList_ofList]
  conv => lhs; rw [dropTrailingReturns_front piece]
  simp

/-- A slice between bounds that are not negative drops up to the first and takes up to the
    second. -/
theorem slice_natCast {α : Type} (xs : List α) (start stop : Nat) :
    slice xs start stop = (xs.drop start).take (stop - start) := by
  have startKept : ¬ (start : Int) < 0 := by omega
  have stopKept : ¬ (stop : Int) < 0 := by omega
  simp only [slice, sliceBound, startKept, stopKept, if_false, Int.toNat_natCast]
  by_cases within : start ≤ xs.length
  · rw [Nat.min_eq_left within, List.take_eq_take_iff, List.length_drop]
    omega
  · rw [List.drop_eq_nil_of_le (by omega), List.drop_eq_nil_of_le (by omega)]
    simp

end ClassAtlas.Text

namespace ClassAtlas.Pattern

open ClassAtlas.Text

theorem toNat_ofNat_of_valid {n : Nat} (valid : n.isValidChar) : (Char.ofNat n).toNat = n := by
  show (dite n.isValidChar (fun h => Char.ofNatAux n h) _).toNat = n
  rw [dif_pos valid]
  rfl

/-- A character made from a number reads back that number when it is a code point, and zero
    otherwise. -/
theorem ofNat_toNat_cases (n : Nat) : (Char.ofNat n).toNat = n ∨ (Char.ofNat n).toNat = 0 := by
  by_cases valid : n.isValidChar
  · exact .inl (toNat_ofNat_of_valid valid)
  · right
    show (dite n.isValidChar (fun h => Char.ofNatAux n h) _).toNat = 0
    rw [dif_neg valid]
    rfl

/-- Only the two ASCII letters lower to `c`. -/
theorem lowerCode_eq_c {x : Nat} (lowered : lowerCode x = 99) : x = 67 ∨ x = 99 := by
  unfold lowerCode at lowered
  split at lowered
  · split at lowered <;> omega
  · next wide =>
    split at lowered
    · next scalar =>
      exfalso
      have valid : x.isValidChar := by simp [isScalar,Nat.isValidChar] at scalar ⊢; omega
      have back : (Char.ofNat x).toNat = x := toNat_ofNat_of_valid valid
      have narrow : ¬ (Char.ofNat x).val < 128 := by
        intro small
        have : (Char.ofNat x).toNat < 128 := UInt32.lt_iff_toNat_lt.mp small
        omega
      simp only [lowerSimple,narrow,if_false,back] at lowered
      have moved : CaseRun.apply lowerRuns x = 99 := by
        rcases ofNat_toNat_cases (CaseRun.apply lowerRuns x) with same | zero <;> omega
      -- no run of the lower-case map moves a code point beyond ASCII to `c`
      have runs : ∀ r ∈ lowerRuns.toList, ((r.lo : Int) ≤ 99 - r.delta ∧ 99 - r.delta ≤ r.hi) →
          99 - r.delta < 128 := by decide +kernel
      unfold CaseRun.apply at moved
      split at moved
      · next r found =>
        obtain ⟨member,above,below⟩ := CaseRun.find_sound found
        split at moved
        · have shifted : (x : Int) + r.delta = 99 := by omega
          have := runs r member ⟨by omega,by omega⟩
          omega
        · omega
      · omega
    · omega

end ClassAtlas.Pattern
