import ClassAtlas.Proofs.Text.Classes

/-!
Line numbers. A position starts a line when it is the start of the text or follows a newline;
the line it starts is the one numbered by the newlines before it, counting from one
(`splitLines_getElem_count`): the text from there up to the next newline, less the carriage
returns that end it. A later line start has more newlines before it (`count_take_lt_of_newline`),
and a front part of a line that does not end in a carriage return is kept when the returns are
dropped (`prefix_dropTrailingReturns`).
-/

namespace ClassAtlas.Text

/-- The piece between newlines that a line start begins is the one numbered by the newlines
    before it. -/
theorem splitNewlines_getElem_count : ∀ (cs : List Char) (a : Nat), (a = 0 ∨ cs[a - 1]? = some '\n') →
    a ≤ cs.length → (splitNewlines cs)[(cs.take a).count '\n']? = some ((cs.drop a).takeWhile (· != '\n'))
  | [], a, _, inside => by
    obtain rfl : a = 0 := by simpa using inside
    rfl
  | c :: rest, a, start, inside => by
    obtain ⟨first, others, split⟩ := List.exists_cons_of_ne_nil (splitNewlines_ne_nil rest)
    have firstPiece := splitNewlines_getElem_count rest 0 (.inl rfl) (Nat.zero_le _)
    simp only [List.take_zero, List.count_nil, List.drop_zero, split, List.getElem?_cons_zero,
      Option.some.injEq] at firstPiece
    simp only [splitNewlines, split]
    cases a with
    | zero =>
      by_cases newline : c = '\n'
      · simp [newline]
      · simp [newline, firstPiece]
    | succ a =>
      simp only [List.take_succ_cons, List.count_cons, List.drop_succ_cons]
      have later : a = 0 ∨ rest[a - 1]? = some '\n' := by
        rcases start with never | behind
        · cases never
        · cases a with
          | zero => exact .inl rfl
          | succ a => exact .inr (by simpa using behind)
      have piece := splitNewlines_getElem_count rest a later (by simpa using inside)
      rw [split] at piece
      by_cases newline : c = '\n'
      · simpa [newline] using piece
      · -- the newline before the line start lies in the rest, so some newline is counted
        have behind : rest[a - 1]? = some '\n' := by
          rcases start with never | behind
          · cases never
          · cases a with
            | zero => simp [newline] at behind
            | succ a => simpa using behind
        have counted : 0 < (rest.take a).count '\n' := by
          refine List.count_pos_iff.mpr (List.mem_of_getElem? (i := a - 1) ?_)
          rw [List.getElem?_take, if_pos (by cases a <;> simp_all), behind]
        obtain ⟨n, hn⟩ := Nat.exists_eq_succ_of_ne_zero (Nat.pos_iff_ne_zero.mp counted)
        simp only [newline, if_false, beq_iff_eq, Nat.add_zero, hn] at piece ⊢
        simpa using piece

/-- The line a line start begins is numbered by the newlines before it, counting from one. -/
theorem splitLines_getElem_count {content : String} {a : Nat}
    (start : a = 0 ∨ content.toList[a - 1]? = some '\n') (inside : a ≤ content.toList.length) :
    (splitLines content)[(content.toList.take a).count '\n']? =
      some (String.ofList (dropTrailingReturns ((content.toList.drop a).takeWhile (· != '\n')))) := by
  rw [splitLines, List.getElem?_map, splitNewlines_getElem_count _ a start inside]
  rfl

theorem count_take_lt_of_newline {cs : List Char} {a b : Nat} (before : a < b)
    (newline : cs[b - 1]? = some '\n') : (cs.take a).count '\n' < (cs.take b).count '\n' := by
  have split : cs.take b = cs.take a ++ (cs.drop a).take (b - a) := by
    rw [← List.take_add, Nat.add_sub_cancel' (Nat.le_of_lt before)]
  have held : '\n' ∈ (cs.drop a).take (b - a) := by
    refine List.mem_of_getElem? (i := b - 1 - a) ?_
    rw [List.getElem?_take, if_pos (by omega), List.getElem?_drop, Nat.add_sub_cancel' (by omega), newline]
  rw [split, List.count_append]
  have := List.count_pos_iff.mpr held
  omega

/-- Dropping the carriage returns at the end of a line keeps a front part that does not end in
    one. -/
theorem prefix_dropTrailingReturns {front : List Char} (last : front.getLast? ≠ some '\r')
    (rest : List Char) : front <+: dropTrailingReturns (front ++ rest) := by
  have kept : front.reverse.dropWhile (· = '\r') = front.reverse := by
    cases reversed : front.reverse with
    | nil => rfl
    | cons x xs =>
      have ends : front.getLast? = some x := by
        rw [← List.head?_reverse, reversed]
        rfl
      rw [List.dropWhile_cons_of_neg]
      intro same
      exact last (by rw [ends, of_decide_eq_true same])
  rw [dropTrailingReturns, List.reverse_append, List.dropWhile_append]
  split
  · simp only [kept, List.reverse_reverse, List.prefix_refl]
  · rw [List.reverse_append, List.reverse_reverse]
    exact List.prefix_append _ _

end ClassAtlas.Text
