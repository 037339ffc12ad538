import Mathlib.Data.List.DropRight
import ClassAtlas.Reference.Query
import ClassAtlas.Proofs.Index.TextSearch
import ClassAtlas.Proofs.Text.Classes

/-!
Ranking the cached classes against a query. A query reads each cached record's entry through
the cache of entries, which is keyed by the declared name: the entry kept under the record's
name, else the record's own entry, which is then kept (`readEntry`, `readEntries`). The loop
over the records gathers, in cache order, the results of the entries so read (`forIn_rank`).
An entry read is the record's own, one the cache kept before, or the own entry of an earlier
record of the same name (`readEntries_provenance`); it is the record's own when every entry
kept under a record's name is that record's own entry (`EntriesAgree`) and records sharing a
name describe their class alike (`NamesAgree`). Sorting by relevance is stable
(`mergeSort_ranks_stably`); the count cuts a prefix, and a negative count drops that many
results from the end (`rankResults_of_nonneg`, `rankResults_of_neg`).
-/

namespace ClassAtlas.Reference

open ClassAtlas.Index ClassAtlas.Source ClassAtlas.Cache ClassAtlas.Text

/-- The entry a record reads through the cache of entries, with the cache after: the entry kept
    under the record's name, else the record's own entry, which is then kept. -/
def readEntry (entries : Recency String Entry) (r : Record) : Entry × Recency String Entry :=
  match (entries.get r.name).1 with
  | some e => (e, (entries.get r.name).2)
  | none => (synthesize r, (entries.get r.name).2.put r.name (some (synthesize r)))

/-- The entries records read one after the other through the cache of entries. -/
def readEntries (entries : Recency String Entry) : List Record → List Entry
  | [] => []
  | r :: rest => (readEntry entries r).1 :: readEntries (readEntry entries r).2 rest

theorem length_readEntries (entries : Recency String Entry) (rs : List Record) :
    (readEntries entries rs).length = rs.length := by
  induction rs generalizing entries with
  | nil => rfl
  | cons r rest ih => simp [readEntries, ih]

theorem apiEntry_run (r : Record) (ix : Registry) :
    (apiEntry r).run.run ix = (.ok (readEntry ix.entries r).1, { ix with entries := (readEntry ix.entries r).2 }) := by
  unfold readEntry
  cases found : (ix.entries.get r.name).1 with
  | some e => simp only [apiEntry, run_get_bind, run_set_bind, found, run_pure]
  | none => simp only [apiEntry, run_get_bind, run_set_bind, run_modify_bind, found, run_pure]

theorem mem_of_get_fst {entries : Recency String Entry} {k : String} {e : Entry}
    (found : (entries.get k).1 = some e) : (k, some e) ∈ entries.entries := by
  rw [Recency.get_fst] at found
  simp only [Recency.peek, Option.bind_eq_some_iff] at found
  obtain ⟨x, located, stored⟩ := found
  have named : x.1 = k := by simpa using List.find?_some located
  rw [← named, ← stored]
  exact List.mem_of_find?_eq_some located

theorem mem_readEntry_snd {entries : Recency String Entry} {r : Record} {x : String × Option Entry}
    (member : x ∈ (readEntry entries r).2.entries) : x ∈ entries.entries ∨ x = (r.name, some (synthesize r)) := by
  unfold readEntry at member
  split at member
  · exact .inl (Recency.mem_of_mem_get member)
  · rcases Recency.mem_of_mem_put member with old | new
    · exact .inl (Recency.mem_of_mem_get old)
    · exact .inr new

theorem readEntry_fst (entries : Recency String Entry) (r : Record) :
    (readEntry entries r).1 = synthesize r ∨ (r.name, some (readEntry entries r).1) ∈ entries.entries := by
  unfold readEntry
  split
  · next e found => exact .inr (mem_of_get_fst found)
  · exact .inl rfl

/-- Each entry read is the record's own, one the cache kept under the record's name before the
    reading began, or the own entry of an earlier record of the same name. -/
theorem readEntries_provenance : ∀ (entries : Recency String Entry) (rs : List Record) (k : Nat)
    (e : Entry) (r : Record), (readEntries entries rs)[k]? = some e → rs[k]? = some r →
      e = synthesize r ∨ (r.name, some e) ∈ entries.entries ∨
        ∃ j < k, ∃ r', rs[j]? = some r' ∧ r'.name = r.name ∧ e = synthesize r'
  | _, [], _, _, _, _, listed => by simp at listed
  | entries, first :: rest, 0, e, r, read, listed => by
    simp only [readEntries, List.getElem?_cons_zero, Option.some.injEq] at read listed
    subst read listed
    rcases readEntry_fst entries first with own | kept
    · exact .inl own
    · exact .inr (.inl kept)
  | entries, first :: rest, k + 1, e, r, read, listed => by
    simp only [readEntries, List.getElem?_cons_succ] at read listed
    -- a later record reads through the cache the first one left
    rcases readEntries_provenance _ rest k e r read listed with own | kept | ⟨j, before, r', found, named, same⟩
    · exact .inl own
    · rcases mem_readEntry_snd kept with old | new
      · exact .inr (.inl old)
      · obtain ⟨named, same⟩ := Prod.mk.inj new
        exact .inr (.inr ⟨0, Nat.succ_pos k, first, rfl, named.symm, Option.some.inj same⟩)
    · exact .inr (.inr ⟨j + 1, Nat.succ_lt_succ before, r', found, named, same⟩)

/-- Every entry kept under the name of one of the records, when it holds one, holds that
    record's own entry. -/
def EntriesAgree (records : List Record) (entries : Recency String Entry) : Prop :=
  ∀ x ∈ entries.entries, ∀ r ∈ records, x.1 = r.name → ∀ e, x.2 = some e → e = synthesize r

/-- Records that share a name describe their class alike. -/
def NamesAgree (records : List Record) : Prop :=
  ∀ r ∈ records, ∀ r' ∈ records, r.name = r'.name → synthesize r = synthesize r'

theorem readEntry_agrees {records : List Record} (names : NamesAgree records)
    {entries : Recency String Entry} (agree : EntriesAgree records entries) {r : Record} (member : r ∈ records) :
    (readEntry entries r).1 = synthesize r ∧ EntriesAgree records (readEntry entries r).2 := by
  refine ⟨?_, fun x held r' member' named e stored => ?_⟩
  · rcases readEntry_fst entries r with own | kept
    · exact own
    · exact agree _ kept r member rfl _ rfl
  · rcases mem_readEntry_snd held with old | rfl
    · exact agree x old r' member' named e stored
    · cases stored
      exact names r member r' member' named

/-- From a cache that agrees with the records, each record reads its own entry. -/
theorem readEntries_of_agree {records : List Record} (names : NamesAgree records) :
    ∀ (entries : Recency String Entry) (rest : List Record), EntriesAgree records entries →
      (∀ r ∈ rest, r ∈ records) → readEntries entries rest = rest.map synthesize
  | _, [], _, _ => rfl
  | entries, r :: rest, agree, within => by
    obtain ⟨own, agree'⟩ := readEntry_agrees names agree (within r List.mem_cons_self)
    rw [readEntries, own, readEntries_of_agree names _ rest agree' fun r' member => within r' (List.mem_cons_of_mem r member),
      List.map_cons]

section Loop

-- The body of the query's loop: `step` reads the record's entry and keeps its result.
variable (rank : Entry → Option QueryResult)
    (step : Record → List QueryResult → IndexM (ForInStep (List QueryResult)))
    (stepped : ∀ r acc ix, (step r acc).run.run ix = match (apiEntry r).run.run ix with
      | (.ok e, s) => (.ok (.yield (acc ++ (rank e).toList)), s)
      | (.error f, s) => (.error f, s))

include stepped

/-- The loop over the cached records gathers, in order, the results of the entries they read
    that pass the filters and score. -/
theorem forIn_rank : ∀ (rest : List Record) (acc : List QueryResult) (ix : Registry),
    ∃ ix', (forIn rest acc step).run.run ix = (.ok (acc ++ (readEntries ix.entries rest).filterMap rank), ix')
  | [], acc, ix => ⟨ix, by simp only [List.forIn_nil, run_pure, readEntries, List.filterMap_nil, List.append_nil]⟩
  | r :: rest, acc, ix => by
    obtain ⟨ix', later⟩ := forIn_rank rest (acc ++ (rank (readEntry ix.entries r).1).toList)
      { ix with entries := (readEntry ix.entries r).2 }
    refine ⟨ix', ?_⟩
    rw [List.forIn_cons, run_bind, stepped, apiEntry_run]
    simp only [later, readEntries, List.append_assoc]
    cases ranked : rank (readEntry ix.entries r).1 <;> simp [ranked]

theorem forIn_rank_run (ix : Registry) :
    (forIn ix.cachedRecords [] step).run.run ix =
      (.ok ((readEntries ix.entries ix.cachedRecords).filterMap rank), ((forIn ix.cachedRecords [] step).run.run ix).2) := by
  obtain ⟨ix', looped⟩ := forIn_rank rank step stepped ix.cachedRecords [] ix
  rw [looped, List.nil_append]

end Loop

/-- A query on configured roots ranks the entries the cached records read, in cache order;
    otherwise it is refused. -/
theorem queryApi_run (ix : Registry) (text : String) (category module : Option String)
    (withExamples : Bool) (count : Int) :
    ((queryApi text category module withExamples count).run.run ix).1 =
      ix.roots.require.map fun _ => rankResults ((readEntries ix.entries ix.cachedRecords).filterMap fun e =>
        rankEntry e ((words (lower text)).filter (!·.isEmpty)) category module withExamples) count := by
  unfold queryApi
  rw [run_bind, requireConfigured_run]
  cases ix.roots.require with
  | error e => rfl
  | ok roots =>
    have got : (get : IndexM Registry).run.run ix = (.ok ix, ix) := rfl
    simp only [run_bind, got]
    rw [forIn_rank_run (fun e => rankEntry e ((words (lower text)).filter (!·.isEmpty))
      category module withExamples) _ ?_ ix]
    · rfl
    · intro r acc ix'
      rw [run_bind]
      rcases (apiEntry r).run.run ix' with ⟨_ | e, s⟩
      · rfl
      · dsimp only
        cases rankEntry e ((words (lower text)).filter (!·.isEmpty)) category module withExamples <;>
          simp only [Option.toList, List.append_nil, run_pure]

theorem slice_zero_of_nonneg {α : Type} (xs : List α) {stop : Int} (bounded : 0 ≤ stop) :
    slice xs 0 stop = xs.take stop.toNat := by
  obtain ⟨n, rfl⟩ := Int.eq_ofNat_of_zero_le bounded
  simpa using slice_natCast xs 0 n

/-- For a count that is not negative, the ranked results are a prefix of the results sorted
    by relevance, ten of them when the count is zero. -/
theorem rankResults_of_nonneg (results : List QueryResult) {count : Int} (counted : 0 ≤ count) :
    rankResults results count =
      (results.mergeSort fun a b => a.relevance ≥ b.relevance).take
        (if count = 0 then 10 else count.toNat) := by
  unfold rankResults
  by_cases zero : count = 0
  · simp only [zero, beq_self_eq_true, if_true]
    rw [slice_zero_of_nonneg _ (show (0 : Int) ≤ defaultResultCount by decide)]
    rfl
  · have unequal : (count == 0) = false := by simpa using zero
    simp only [unequal, Bool.false_eq_true, if_false, if_neg zero]
    exact slice_zero_of_nonneg _ counted

/-- A negative count drops that many results from the end of the results sorted by relevance. -/
theorem rankResults_of_neg (results : List QueryResult) {count : Int} (negative : count < 0) :
    rankResults results count =
      (results.mergeSort fun a b => a.relevance ≥ b.relevance).rdrop count.natAbs := by
  have unequal : (count == 0) = false := by simpa using Int.ne_of_lt negative
  simp only [rankResults, unequal, Bool.false_eq_true, if_false, slice, sliceBound, Int.lt_irrefl,
    if_false, Int.toNat_zero, Nat.zero_min, List.drop_zero, Nat.sub_zero, if_pos negative, List.rdrop]
  congr 1
  omega

/-- The ranked results for every count: the first `count` of the results sorted by relevance,
    ten for zero, and all but the last `-count` for a negative count. -/
theorem rankResults_eq (results : List QueryResult) (count : Int) :
    rankResults results count =
      if count < 0 then (results.mergeSort fun a b => a.relevance ≥ b.relevance).rdrop count.natAbs
      else (results.mergeSort fun a b => a.relevance ≥ b.relevance).take (if count = 0 then 10 else count.toNat) := by
  by_cases negative : count < 0
  · rw [if_pos negative, rankResults_of_neg _ negative]
  · rw [if_neg negative, rankResults_of_nonneg _ (Int.not_lt.mp negative)]

/-- A list ordered by non-increasing relevance, holding the results of `results` and keeping
    results of equal relevance in their order there. -/
def RankedStably (sorted results : List QueryResult) : Prop :=
  sorted.Perm results ∧ sorted.Pairwise (fun a b => b.relevance ≤ a.relevance) ∧
    ∀ v, sorted.filter (·.relevance = v) = results.filter (·.relevance = v)

/-- Sorting by relevance is stable. -/
theorem mergeSort_ranks_stably (results : List QueryResult) :
    RankedStably (results.mergeSort fun a b => a.relevance ≥ b.relevance) results := by
  have trans : ∀ a b c : QueryResult, decide (a.relevance ≥ b.relevance) = true →
      decide (b.relevance ≥ c.relevance) = true → decide (a.relevance ≥ c.relevance) = true := by
    intro a b c ab bc
    simp only [decide_eq_true_eq] at ab bc ⊢
    omega
  have total : ∀ a b : QueryResult,
      (decide (a.relevance ≥ b.relevance) || decide (b.relevance ≥ a.relevance)) = true := by
    intro a b
    simp only [Bool.or_eq_true, decide_eq_true_eq]
    omega
  have perm := List.mergeSort_perm results fun a b => a.relevance ≥ b.relevance
  refine ⟨perm, ?_, fun v => ?_⟩
  · simpa using List.pairwise_mergeSort trans total results
  · -- the results of one relevance are sorted among themselves, so they stay a sublist
    have level : (results.filter (·.relevance = v)).Pairwise
        fun a b => decide (a.relevance ≥ b.relevance) = true := by
      refine List.Pairwise.imp_of_mem (R := fun _ _ => True) ?_ (List.pairwise_of_forall fun _ _ => trivial)
      intro a b ina inb _
      simp only [List.mem_filter, decide_eq_true_eq] at ina inb
      simp [ina.2, inb.2]
    have kept := List.sublist_mergeSort trans total level List.filter_sublist
    have within := kept.filter (·.relevance = v)
    simp only [List.filter_filter, Bool.and_self] at within
    exact (within.eq_of_length ((perm.filter _).length_eq.symm)).symm

/-- A query on configured roots reads one entry per cached record, in cache order, through the
    cache of entries, and gives the results of those that pass the filters and score above zero,
    sorted by relevance with ties in cache order, cut to the count asked for: the first `count`
    (ten for zero), or all but the last `-count` for a negative count; with no root set it is
    refused. Each entry read is the record's own, one the cache kept under the record's name, or
    the own entry of an earlier record of that name, and every entry read is the record's own
    when the cache agrees with the records. -/
theorem queryApi_ranks_cached_entries (ix : Registry) (text : String)
    (category module : Option String) (withExamples : Bool) (count : Int) :
    (∃ sorted, RankedStably sorted ((readEntries ix.entries ix.cachedRecords).filterMap fun e =>
        rankEntry e ((words (lower text)).filter (!·.isEmpty)) category module withExamples) ∧
      ((queryApi text category module withExamples count).run.run ix).1 =
        if ix.roots.isConfigured then
          .ok (if count < 0 then sorted.rdrop count.natAbs
            else sorted.take (if count = 0 then 10 else count.toNat))
        else .error .notInitialized) ∧
    (readEntries ix.entries ix.cachedRecords).length = ix.cachedRecords.length ∧
    (∀ (k : Nat) (e : Entry) (r : Record),
      (readEntries ix.entries ix.cachedRecords)[k]? = some e → ix.cachedRecords[k]? = some r →
      e = synthesize r ∨ (r.name, some e) ∈ ix.entries.entries ∨
        ∃ j < k, ∃ r', ix.cachedRecords[j]? = some r' ∧ r'.name = r.name ∧ e = synthesize r') ∧
    (EntriesAgree ix.cachedRecords ix.entries → NamesAgree ix.cachedRecords →
      readEntries ix.entries ix.cachedRecords = ix.cachedRecords.map synthesize) := by
  refine ⟨⟨_, mergeSort_ranks_stably _, ?_⟩, length_readEntries _ _, readEntries_provenance _ _,
    fun agree names => readEntries_of_agree names _ _ agree fun _ member => member⟩
  rw [queryApi_run, rankResults_eq]
  unfold Roots.require
  cases ix.roots.isConfigured <;> rfl

/-- One cached class read twice: from a fresh cache of entries, which agrees with the records,
    it reads its own entry; from a cache that kept the entry of an earlier declaration of the
    same name, it reads that one. -/
theorem own_and_stale_entries_read :
    let p : Record := ⟨"AFoo", "P/A.h", 1, ["UObject"], [], [], []⟩
    let q : Record := ⟨"AFoo", "Q/A.h", 1, ["AActor"], [], [], []⟩
    let fresh : Registry := ⟨⟨some ["P"], none⟩, ⟨1, [("afoo", some p)]⟩, .empty 1⟩
    let stale : Registry := ⟨⟨some ["Q"], none⟩, ⟨1, [("afoo", some q)]⟩, ⟨1, [("AFoo", some (synthesize p))]⟩⟩
    (EntriesAgree fresh.cachedRecords fresh.entries ∧ NamesAgree fresh.cachedRecords ∧
      readEntries fresh.entries fresh.cachedRecords = fresh.cachedRecords.map synthesize) ∧
    ((readEntries stale.entries stale.cachedRecords)[0]? = some (synthesize p) ∧
      stale.cachedRecords[0]? = some q ∧
      (synthesize p = synthesize q ∨ (q.name, some (synthesize p)) ∈ stale.entries.entries ∨
        ∃ j < 0, ∃ r', stale.cachedRecords[j]? = some r' ∧ r'.name = q.name ∧ synthesize p = synthesize r')) := by
  intro p q fresh stale
  have agree : EntriesAgree fresh.cachedRecords fresh.entries := fun x held => by
    simp [fresh, Recency.empty] at held
  have names : NamesAgree fresh.cachedRecords := by
    intro r held r' held' _
    simp only [fresh, Registry.cachedRecords, Recency.values, List.map_cons, List.map_nil,
      List.filterMap_cons, List.filterMap_nil, id, List.mem_singleton] at held held'
    rw [held, held']
  have read : (readEntries stale.entries stale.cachedRecords)[0]? = some (synthesize p) := rfl
  have listed : stale.cachedRecords[0]? = some q := rfl
  obtain ⟨-, -, -, agreeing⟩ := queryApi_ranks_cached_entries fresh "afoo" none none false 3
  obtain ⟨-, -, provenance, -⟩ := queryApi_ranks_cached_entries stale "afoo" none none false (-1)
  exact ⟨⟨agree, names, agreeing agree names⟩, read, listed, provenance 0 _ q read listed⟩

/-- A query is not always a prefix of the cached records' own entries, ranked: with no root set
    it is refused even with nothing cached; a count of `-1` drops the last result, here the only
    one; and an entry kept from an earlier record of the same name is used in place of the cached
    record's own. -/
theorem queryApi_refused_cut_or_stale :
    ((queryApi "afoo" none none false 10).run.run ⟨Roots.none, .empty 1, .empty 1⟩).1.map
        List.length = .error .notInitialized ∧
    (rankEntry (synthesize ⟨"AFoo", "P/A.h", 1, ["UObject"], [], [], []⟩) ["afoo"] none none
        false).isSome ∧
    ((queryApi "afoo" none none false (-1)).run.run ⟨⟨some ["P"], none⟩,
        ⟨1, [("afoo", some ⟨"AFoo", "P/A.h", 1, ["UObject"], [], [], []⟩)]⟩, .empty 1⟩).1.map
        List.length = .ok 0 ∧
    ((queryApi "afoo" none none false 10).run.run ⟨⟨some ["Q"], none⟩,
        ⟨1, [("afoo", some ⟨"AFoo", "Q/A.h", 1, ["AActor"], [], [], []⟩)]⟩,
        ⟨1, [("AFoo", some (synthesize ⟨"AFoo", "P/A.h", 1, ["UObject"], [], [], []⟩))]⟩⟩).1.map
        (List.map (·.entry.declaration)) = .ok ["class AFoo : public UObject"] ∧
    (synthesize ⟨"AFoo", "Q/A.h", 1, ["AActor"], [], [], []⟩).declaration =
      "class AFoo : public AActor" := by
  refine ⟨?_, ?_, ?_, ?_, ?_⟩ <;> decide +kernel

end ClassAtlas.Reference
