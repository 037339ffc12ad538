import Mathlib.Algebra.GroupWithZero.Nat
import ClassAtlas.Reference.Entry
import ClassAtlas.Proofs.Text.Classes

/-!
The weights of a search term. Lowering looks at the neighbours of a capital sigma to tell a
final sigma, skipping case-ignorable characters, and stops at the first character that is not
one. A space is neither cased nor case-ignorable, so no look passes over it (`WordBreak`):
lowering a text runs part by part on either side of a break (`lowerChars_apart`), and a text
joined by spaces lowers to the join of its lowered parts (`lower_intercalate_space`).

Hence the lowered name, category and module of an entry stand in its lowered text, a term found
in one of them is found in the text as well, each term weighs 0, 2, 7, 12, 17 or 22, and an
entry scores above zero exactly when some term occurs in its text (`score_sums_weighted_hits`).
-/

namespace ClassAtlas.Text

theorem occursIn_iff_infix (needle : List Char) : ∀ hay, occursIn needle hay = true ↔ needle <:+: hay
  | [] => by simp [occursIn]
  | c :: rest => by
    rw [occursIn, Bool.or_eq_true, List.isPrefixOf_iff_prefix, occursIn_iff_infix needle rest,
      List.infix_cons_iff]

theorem contains_iff_infix (hay needle : String) :
    contains hay needle = true ↔ needle.toList <:+: hay.toList :=
  occursIn_iff_infix _ _

theorem infix_intercalate_of_mem {sep s : String} : ∀ {parts : List String}, s ∈ parts →
    s.toList <:+: (sep.intercalate parts).toList
  | [_], .head _ => List.infix_rfl
  | [_], .tail _ member => nomatch member
  | _ :: _ :: _, .head _ => by
    rw [String.intercalate_cons_cons, String.toList_append, String.toList_append, List.append_assoc]
    exact (List.prefix_append _ _).isInfix
  | _ :: _ :: _, .tail _ member => by
    rw [String.intercalate_cons_cons, String.toList_append]
    exact (infix_intercalate_of_mem member).trans (List.suffix_append _ _).isInfix

/-! ### Where the look of a capital sigma stops -/

/-- The end of a text, or a character that is neither cased nor case-ignorable: the look for
    a cased neighbour of a capital sigma stops there without finding one. -/
def WordBreak : List Char → Prop
  | [] => True
  | c :: _ => isCaseIgnorable c = false ∧ isCased c = false

theorem inRanges_eq_false {table : Array (Nat × Nat)} {c : Nat}
    (outside : ∀ r ∈ table.toList, ¬ (r.1 ≤ c ∧ c ≤ r.2)) : inRanges table c = false := by
  cases inside : inRanges table c with
  | false => rfl
  | true =>
    obtain ⟨r, member, above, below⟩ := inRanges_sound inside
    exact absurd ⟨above, below⟩ (outside r member)

theorem space_wordBreak (rest : List Char) : WordBreak (' ' :: rest) :=
  ⟨inRanges_eq_false (by decide +kernel), inRanges_eq_false (by decide +kernel)⟩

theorem dropWhile_wordBreak {B : List Char} (stop : WordBreak B) :
    B.dropWhile isCaseIgnorable = B := by
  cases B with
  | nil => rfl
  | cons c rest => simp [stop.1]

/-- What stands behind a break cannot change whether a capital sigma ends a word. -/
theorem endsWord_apart {p a B A : List Char} (behind : WordBreak B) (ahead : WordBreak A) :
    endsWord (p ++ B) (a ++ A) = endsWord p a := by
  have front : ∀ {xs ys : List Char}, WordBreak ys → (xs.dropWhile isCaseIgnorable = [] →
      (xs ++ ys).dropWhile isCaseIgnorable = ys) ∧ ∀ x t, xs.dropWhile isCaseIgnorable = x :: t →
      (xs ++ ys).dropWhile isCaseIgnorable = x :: (t ++ ys) := by
    intro xs ys stop
    refine ⟨fun gone => ?_, fun x t kept => ?_⟩
    · rw [List.dropWhile_append, gone, List.isEmpty_nil, if_pos rfl, dropWhile_wordBreak stop]
    · rw [List.dropWhile_append, kept]
      rfl
  unfold endsWord
  congr 1
  · cases seen : p.dropWhile isCaseIgnorable with
    | nil =>
      rw [(front behind).1 seen]
      cases B with
      | nil => rfl
      | cons c rest => exact behind.2
    | cons x t => rw [(front behind).2 x t seen]
  · cases seen : a.dropWhile isCaseIgnorable with
    | nil =>
      rw [(front ahead).1 seen]
      cases A with
      | nil => rfl
      | cons c rest => simp [ahead.2]
    | cons x t => rw [(front ahead).2 x t seen]

/-- Between two breaks, a text lowers as it would alone. -/
theorem lowerChars_apart {B A : List Char} (behind : WordBreak B) (ahead : WordBreak A) :
    ∀ (xs p : List Char),
      lowerChars (p ++ B) (xs ++ A) = lowerChars p xs ++ lowerChars (xs.reverse ++ p ++ B) A
  | [], p => by simp [lowerChars]
  | c :: xs, p => by
    have later := lowerChars_apart behind ahead xs (c :: p)
    simp only [List.cons_append, List.append_assoc] at later
    simp only [List.cons_append, lowerChars, endsWord_apart behind ahead, later, List.reverse_cons,
      List.append_assoc, List.nil_append]

theorem lowerChars_front {A : List Char} (ahead : WordBreak A) (xs : List Char) :
    lowerChars [] (xs ++ A) = lowerChars [] xs ++ lowerChars xs.reverse A := by
  simpa using lowerChars_apart (show WordBreak [] from trivial) ahead xs []

theorem lowerChars_back {B : List Char} (behind : WordBreak B) (xs : List Char) :
    lowerChars B xs = lowerChars [] xs := by
  simpa [lowerChars] using lowerChars_apart behind (show WordBreak [] from trivial) xs []

theorem lower_append_space (a b : String) : lower (a ++ " " ++ b) = lower a ++ " " ++ lower b := by
  have spaced : (a ++ " " ++ b).toList = a.toList ++ ' ' :: b.toList := by simp
  have space : lowerSimple ' ' = ' ' := by decide
  apply String.toList_inj.mp
  simp only [lower, spaced, lowerChars_front (space_wordBreak _), String.toList_append,
    String.toList_ofList]
  simp [lowerChars, space, lowerChars_back (space_wordBreak _)]

/-- A text joined by spaces lowers to the join of its lowered parts. -/
theorem lower_intercalate_space : ∀ (parts : List String),
    lower (" ".intercalate parts) = " ".intercalate (parts.map lower)
  | [] => by decide
  | [a] => by simp
  | a :: b :: rest => by
    rw [String.intercalate_cons_cons, lower_append_space, lower_intercalate_space (b :: rest)]
    simp

end ClassAtlas.Text

namespace ClassAtlas.Reference

open ClassAtlas.Text

/-! ### Scores -/

theorem lowered_fields_in_searchText (e : Entry) :
    ∀ field ∈ [e.className, e.category.label, e.module], (lower field).toList <:+: e.searchText.toList := by
  intro field member
  rw [Entry.searchText, lower_intercalate_space]
  apply infix_intercalate_of_mem
  apply List.mem_map_of_mem
  simp only [List.mem_cons, List.not_mem_nil, or_false] at member
  simp only [List.cons_append, List.mem_cons]
  rcases member with rfl | rfl | rfl <;> simp

/-- A term that hits the name, the category or the module hits the entry's text. -/
theorem hits_searchText (e : Entry) (term : String)
    (hit : (contains (lower e.className) term || contains (lower e.category.label) term ||
      contains (lower e.module) term) = true) : contains e.searchText term = true := by
  have within := lowered_fields_in_searchText e
  simp only [Bool.or_eq_true, contains_iff_infix] at hit ⊢
  rcases hit with (hit | hit) | hit
  · exact hit.trans (within _ (by simp))
  · exact hit.trans (within _ (by simp))
  · exact hit.trans (within _ (by simp))

/-- The weight of one term is one of six values, fixed by where it hits, and it is positive
    exactly when the term hits the text, which every other hit implies. -/
theorem termScore_values (name category module text term : String)
    (within : (contains name term || contains category term || contains module term) = true →
      contains text term = true) :
    termScore name category module text term ∈ [0, 2, 7, 12, 17, 22] ∧
      (0 < termScore name category module text term ↔ contains text term = true) := by
  unfold termScore
  generalize contains name term = inName at within
  generalize contains category term = inCategory at within
  generalize contains module term = inModule at within
  generalize contains text term = inText at within
  cases inName <;> cases inCategory <;> cases inModule <;> cases inText <;> simp_all

/-- The score of an entry is the sum over the terms of their weighted hits in the lowered name,
    category and module and in the lowered text, each of which is a hit in the text too; so each
    term adds 0, 2, 7, 12, 17 or 22, and the score is positive exactly when some term occurs in
    the text. -/
theorem score_sums_weighted_hits (e : Entry) (terms : List String) :
    score e terms = (terms.map fun t =>
        (if contains (lower e.className) t then 10 else 0) +
        (if contains (lower e.category.label) t then 5 else 0) +
        (if contains (lower e.module) t then 5 else 0) +
        (if contains e.searchText t then 2 else 0)).sum ∧
    (∀ t, (contains (lower e.className) t || contains (lower e.category.label) t ||
      contains (lower e.module) t) = true → contains e.searchText t = true) ∧
    (∀ t, termScore (lower e.className) (lower e.category.label) (lower e.module) e.searchText t ∈
      [0, 2, 7, 12, 17, 22]) ∧
    (0 < score e terms ↔ ∃ t ∈ terms, contains e.searchText t = true) := by
  have summed : score e terms =
      (terms.map (termScore (lower e.className) (lower e.category.label) (lower e.module)
        e.searchText)).sum := by
    rw [score, List.sum_eq_foldr]
  refine ⟨summed, hits_searchText e, fun t => (termScore_values _ _ _ _ t (hits_searchText e t)).1, ?_⟩
  rw [summed, List.sum_pos_iff_exists_pos_nat]
  simp only [List.mem_map]
  constructor
  · rintro ⟨_, ⟨t, member, rfl⟩, positive⟩
    exact ⟨t, member, (termScore_values _ _ _ _ t (hits_searchText e t)).2.mp positive⟩
  · rintro ⟨t, member, found⟩
    exact ⟨_, ⟨t, member, rfl⟩, (termScore_values _ _ _ _ t (hits_searchText e t)).2.mpr found⟩

end ClassAtlas.Reference
