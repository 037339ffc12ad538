import ClassAtlas.Index.Registry
import ClassAtlas.Proofs.Source.Spelling
import ClassAtlas.Proofs.Cache.History

/-!
The class cache against the scan it stands in for. A class is resolved by scanning the headers
under the class roots (`scanClass`), unless a record is cached under its lowered name. Every
resolution keeps one invariant (`CacheSound`): the keys are distinct, and each entry holds the
record the scan gives for some name resolved before whose lowered form is the key.

So a run of resolutions answers every name as the scan does whenever names that share a lowered
form are matched alike by the scan (`resolveEach_as_scan`). Lowering and matching with case
ignored are different relations, though: `İ` and `i̇` lower alike, yet only the first matches the
one-character name `İ`. And the cache holds each declaration once whenever names the scan
resolves to one declaration lower alike (`resolveEach_declarations_once`), which `AS` and `Aſ`,
both matching `AS`, do not.
-/

namespace ClassAtlas.Index

open ClassAtlas.Files ClassAtlas.Source ClassAtlas.Cache

section Steps

variable {α : Type}

@[simp] theorem run_get_bind (f : Registry → IndexM α) (ix : Registry) :
    (get >>= f : IndexM α).run.run ix = (f ix).run.run ix := rfl

@[simp] theorem run_set_bind (s : Registry) (x : IndexM α) (ix : Registry) :
    (set s >>= fun _ => x : IndexM α).run.run ix = x.run.run s := rfl

@[simp] theorem run_modify_bind (f : Registry → Registry) (x : IndexM α) (ix : Registry) :
    (modify f >>= fun _ => x : IndexM α).run.run ix = x.run.run (f ix) := rfl

@[simp] theorem run_pure (a : α) (ix : Registry) : (pure a : IndexM α).run.run ix = (.ok a,ix) := rfl

@[simp] theorem run_throw (e : Failure) (ix : Registry) :
    (throw e : IndexM α).run.run ix = (.error e,ix) := rfl

@[simp] theorem run_throw_bind {β : Type} (e : Failure) (f : β → IndexM α) (ix : Registry) :
    (throw e >>= f : IndexM α).run.run ix = (.error e,ix) := rfl

end Steps

/-- What a name resolves to with nothing cached: the record of its first definition under the
    class roots, or the refusal. -/
def scanClass (t : Tree) (r : Roots) (name : String) : Except Failure Record :=
  if (r.classSearchRoots t).isEmpty then .error .noSearchPath
  else
    match findDefinition t name (r.classSearchRoots t) with
    | some rec => .ok rec
    | none => .error (.classNotFound name)

/-- Resolves names one after the other on one registry, with the answer to each. -/
def resolveEach (t : Tree) (ix : Registry) : List String → List (Except Failure Record) × Registry
  | [] => ([],ix)
  | n :: rest =>
    let step := (resolveClass t n).run.run ix
    let later := resolveEach t step.2 rest
    (step.1 :: later.1,later.2)

variable {t : Tree} {ix : Registry} {n : String}

/-- A name found in the cache is answered from it, and its entry becomes the most recent. -/
theorem resolveClass_of_cached {r : Record} (found : (ix.classes.get (Text.lower n)).1 = some r) :
    (resolveClass t n).run.run ix = (.ok r,{ ix with classes := (ix.classes.get (Text.lower n)).2 }) := by
  simp only [resolveClass,run_get_bind,run_set_bind,found,run_pure]

/-- A name not in the cache is answered by the scan, and a record found is cached. -/
theorem resolveClass_of_missing (missing : (ix.classes.get (Text.lower n)).1 = none) :
    (resolveClass t n).run.run ix = (scanClass t ix.roots n,
      match scanClass t ix.roots n with
      | .ok rec => { ix with classes := ix.classes.put (Text.lower n) (some rec) }
      | .error _ => ix) := by
  have kept := Recency.get_snd_of_none ix.classes _ missing
  unfold scanClass
  by_cases unrooted : (ix.roots.classSearchRoots t).isEmpty
  · simp only [resolveClass,run_get_bind,run_set_bind,missing,kept,unrooted,if_true,run_throw_bind]
  · cases found : findDefinition t n (ix.roots.classSearchRoots t) <;>
      simp only [resolveClass,run_get_bind,run_set_bind,run_modify_bind,missing,kept,unrooted,found,
        Bool.false_eq_true,if_false,run_throw,run_pure]

theorem resolveClass_fresh (t : Tree) (r : Roots) (m : Nat) (es : Recency String Reference.Entry) (n : String) :
    ((resolveClass t n).run.run ⟨r,Recency.empty m,es⟩).1 = scanClass t r n := by
  rw [resolveClass_of_missing rfl]

theorem resolveClass_roots (t : Tree) (ix : Registry) (n : String) :
    ((resolveClass t n).run.run ix).2.roots = ix.roots := by
  cases found : (ix.classes.get (Text.lower n)).1 with
  | some r => rw [resolveClass_of_cached found]
  | none =>
    rw [resolveClass_of_missing found]
    split <;> rfl

theorem findDefinition_congr {a b : String} (alike : SpelledAlike a b) (t : Tree)
    (roots : List Location) : findDefinition t a roots = findDefinition t b roots := by
  induction roots with
  | nil => rfl
  | cons root rest ih =>
    simp only [findDefinition,containsDefinition_congr alike,extractClass_congr alike,ih]

/-- Names matched alike are resolved by the scan to one record; only a refusal names the name. -/
theorem scanClass_congr {a b : String} (alike : SpelledAlike a b) {t : Tree} {r : Roots}
    {rec : Record} (found : scanClass t r a = .ok rec) : scanClass t r b = .ok rec := by
  unfold scanClass at found ⊢
  rw [← findDefinition_congr alike]
  split at found
  · cases found
  · split at found
    · next same => simp_all
    · cases found

/-! ### The invariant of the class cache -/

/-- The class cache has distinct keys, and each entry holds the record the scan gives for a
    name among `seen` whose lowered form is the entry's key. -/
structure CacheSound (t : Tree) (ix : Registry) (seen : List String) : Prop where
  distinct : ix.classes.keys.Nodup
  scanned : ∀ e ∈ ix.classes.entries, ∃ a ∈ seen, Text.lower a = e.1 ∧
    ∃ rec, e.2 = some rec ∧ scanClass t ix.roots a = .ok rec

theorem CacheSound.empty (t : Tree) (r : Roots) (m : Nat) (es : Recency String Reference.Entry) :
    CacheSound t ⟨r,Recency.empty m,es⟩ [] :=
  ⟨List.nodup_nil,fun _ member => nomatch member⟩

variable {seen : List String}

theorem CacheSound.cons (sound : CacheSound t ix seen) (n : String) : CacheSound t ix (n :: seen) := by
  refine ⟨sound.distinct,fun e member => ?_⟩
  obtain ⟨a,named,keyed,held⟩ := sound.scanned e member
  exact ⟨a,List.mem_cons_of_mem n named,keyed,held⟩

/-- The step lemma: a resolution keeps the invariant, with its name among those seen. -/
theorem CacheSound.resolve (sound : CacheSound t ix seen) (n : String) :
    CacheSound t ((resolveClass t n).run.run ix).2 (n :: seen) := by
  cases found : (ix.classes.get (Text.lower n)).1 with
  | some r =>
    -- a hit only moves an entry to the most recent end
    rw [resolveClass_of_cached found]
    refine ⟨Recency.nodup_keys_get sound.distinct _,fun e member => ?_⟩
    exact (sound.cons n).scanned e (Recency.mem_of_mem_get member)
  | none =>
    rw [resolveClass_of_missing found]
    cases scanned : scanClass t ix.roots n with
    | error => exact sound.cons n
    | ok rec =>
      -- a miss adds the scanned record under the name's key and may evict others
      refine ⟨Recency.nodup_keys_put sound.distinct _ _,fun e member => ?_⟩
      rcases Recency.mem_of_mem_put member with old | rfl
      · exact (sound.cons n).scanned e old
      · exact ⟨n,List.mem_cons_self,rfl,rec,rfl,scanned⟩

/-- Under the invariant, a name is answered as the scan answers it when every name seen with
    its lowered form is matched alike. -/
theorem CacheSound.resolve_answer (sound : CacheSound t ix seen) (n : String)
    (alike : ∀ a ∈ seen, Text.lower a = Text.lower n → SpelledAlike a n) :
    ((resolveClass t n).run.run ix).1 = scanClass t ix.roots n := by
  cases found : (ix.classes.get (Text.lower n)).1 with
  | some r =>
    rw [resolveClass_of_cached found]
    obtain ⟨a,named,keyed,rec,held,answer⟩ :=
      sound.scanned _ (Recency.mem_of_get_found found)
    cases held
    exact (scanClass_congr (alike a named keyed) answer).symm
  | none => rw [resolveClass_of_missing found]

/-- The run lemma: after any resolutions the invariant holds with every name resolved. -/
theorem CacheSound.resolveEach_state (sound : CacheSound t ix seen) (names : List String) :
    CacheSound t (resolveEach t ix names).2 (names.reverse ++ seen) := by
  induction names generalizing ix seen with
  | nil => exact sound
  | cons n rest ih =>
    have later := ih (sound.resolve n)
    simpa [resolveEach] using later

theorem resolveEach_roots (t : Tree) (ix : Registry) (names : List String) :
    (resolveEach t ix names).2.roots = ix.roots := by
  induction names generalizing ix with
  | nil => rfl
  | cons n rest ih => simp only [resolveEach,ih,resolveClass_roots]

/-- Every answer of a run is the scan's when names sharing a lowered form are matched alike. -/
theorem CacheSound.resolveEach_answers (sound : CacheSound t ix seen) (names : List String)
    (alike : ∀ a ∈ seen ++ names, ∀ b ∈ names, Text.lower a = Text.lower b → SpelledAlike a b) :
    (resolveEach t ix names).1 = names.map (scanClass t ix.roots) := by
  induction names generalizing ix seen with
  | nil => rfl
  | cons n rest ih =>
    have first := sound.resolve_answer n fun a named => alike a (by simp [named]) n List.mem_cons_self
    have later := ih (sound.resolve n) fun a named b later =>
      alike a (List.perm_middle.mem_iff.mpr named) b (List.mem_cons_of_mem n later)
    simp only [resolveEach,List.map_cons,first,later,resolveClass_roots]

/-- Over any resolutions on one set of roots, each name is answered as a registry with an empty
    cache answers it, provided names that lower alike are matched alike by the scan. -/
theorem resolveEach_as_scan (t : Tree) (r : Roots) (m m' : Nat) (es es' : Recency String Reference.Entry)
    (names : List String)
    (alike : ∀ a ∈ names, ∀ b ∈ names, Text.lower a = Text.lower b → SpelledAlike a b) :
    (resolveEach t ⟨r,Recency.empty m,es⟩ names).1 =
      names.map fun n => ((resolveClass t n).run.run ⟨r,Recency.empty m',es'⟩).1 := by
  rw [(CacheSound.empty t r m es).resolveEach_answers names (by simpa using alike)]
  simp only [resolveClass_fresh]

theorem hero_spellings_answer_as_scan :
    let t : Tree := ⟨[["P"]],[(["P","A.h"],"class AHero : public UObject {};\n".toUTF8)]⟩
    let r : Roots := ⟨some ["P"],none⟩
    (∀ a ∈ ["AHero","ahero"], ∀ b ∈ ["AHero","ahero"], Text.lower a = Text.lower b →
      SpelledAlike a b) ∧
    (resolveEach t ⟨r,Recency.empty 1,Recency.empty 1⟩ ["AHero","ahero"]).1 =
      ["AHero","ahero"].map fun n => ((resolveClass t n).run.run ⟨r,Recency.empty 1,Recency.empty 1⟩).1 := by
  intro t r
  have hero : SpelledAlike "AHero" "ahero" := by
    -- the two capitals are tested by the sets of their lower cases, the rest by themselves
    show List.Forall₂ _ ['A','H','e','r','o'] ['a','h','e','r','o']
    exact .cons rfl (.cons rfl (.cons rfl (.cons rfl (.cons rfl .nil))))
  have alike : ∀ a ∈ ["AHero","ahero"], ∀ b ∈ ["AHero","ahero"], Text.lower a = Text.lower b →
      SpelledAlike a b := by
    intro a named b named' _
    simp only [List.mem_cons,List.not_mem_nil,or_false] at named named'
    rcases named with rfl | rfl <;> rcases named' with rfl | rfl
    · exact SpelledAlike.refl _
    · exact hero
    · exact hero.symm
    · exact SpelledAlike.refl _
  exact ⟨alike,resolveEach_as_scan t r 1 1 _ _ _ alike⟩

/-- At a header declaring `İ`, the names `İ` and `i̇` lower alike but are not spelled alike:
    once `İ` is cached, `i̇` is answered with its record, while a registry with an empty cache
    finds no class `i̇`. -/
theorem dotted_i_answered_from_cache :
    let t : Tree := ⟨[["P"]],[(["P","A.h"],"class İ : public UObject {};\n".toUTF8)]⟩
    let r : Roots := ⟨some ["P"],none⟩
    let ix : Registry := ⟨r,Recency.empty defaultCapacity,Recency.empty defaultCapacity⟩
    let record : Record := ⟨"İ","/P/A.h",1,["UObject"],[],[],[]⟩
    Text.lower "İ" = Text.lower "i̇" ∧ ¬ SpelledAlike "İ" "i̇" ∧
      (resolveEach t ix ["İ","i̇"]).1 = [.ok record,.ok record] ∧
      ((resolveClass t "i̇").run.run ix).1 = .error (.classNotFound "i̇") := by
  intro t r ix record
  refine ⟨by decide +kernel,fun alike => absurd alike.length_eq (by decide +kernel),?_⟩
  decide +kernel

/-! ### Declarations in the cache -/

def declaredAt (rec : Record) : String × Nat := (rec.sourceFile,rec.definitionLine)

/-- Entries under distinct keys hold distinct declarations when names the scan resolves to one
    declaration lower alike. -/
theorem CacheSound.entries_apart (sound : CacheSound t ix seen)
    (oneKey : ∀ a ∈ seen, ∀ b ∈ seen, ∀ ra rb, scanClass t ix.roots a = .ok ra →
      scanClass t ix.roots b = .ok rb → declaredAt ra = declaredAt rb → Text.lower a = Text.lower b) :
    ix.classes.entries.Pairwise fun e e' => ∀ ra ∈ e.2, ∀ rb ∈ e'.2, declaredAt ra ≠ declaredAt rb := by
  have keys : ix.classes.entries.Pairwise fun e e' => e.1 ≠ e'.1 :=
    List.pairwise_map.mp sound.distinct
  refine keys.imp_of_mem fun {e e'} member member' apart ra held rb held' same => apart ?_
  obtain ⟨a,named,keyed,rec,stored,scanned⟩ := sound.scanned e member
  obtain ⟨b,named',keyed',rec',stored',scanned'⟩ := sound.scanned e' member'
  rw [Option.mem_def,stored,Option.some.injEq] at held
  rw [Option.mem_def,stored',Option.some.injEq] at held'
  subst held held'
  rw [← keyed,← keyed']
  exact oneKey a named b named' _ _ scanned scanned' same

theorem CacheSound.cachedRecords_length (sound : CacheSound t ix seen) :
    ix.cachedRecords.length = ix.cacheSize := by
  rw [Registry.cachedRecords,Registry.cacheSize,Recency.values,Recency.size,List.filterMap_map]
  refine List.filterMap_length_eq_length.mpr fun e member => ?_
  obtain ⟨a,-,-,rec,stored,-⟩ := sound.scanned e member
  simp [stored]

/-- Over any resolutions from an empty cache, the cache never holds one declaration twice when
    names the scan resolves to one declaration lower alike: it counts its records, and lists
    each declaration once. -/
theorem resolveEach_declarations_once (t : Tree) (r : Roots) (m : Nat)
    (es : Recency String Reference.Entry) (names : List String)
    (oneKey : ∀ a ∈ names, ∀ b ∈ names, ∀ ra rb, scanClass t r a = .ok ra → scanClass t r b = .ok rb →
      declaredAt ra = declaredAt rb → Text.lower a = Text.lower b) :
    let ix := (resolveEach t ⟨r,Recency.empty m,es⟩ names).2
    (ix.classes.entries.Pairwise fun e e' => ∀ ra ∈ e.2, ∀ rb ∈ e'.2, declaredAt ra ≠ declaredAt rb) ∧
      ix.cacheSize = ix.cachedRecords.length ∧ (ix.cachedRecords.map declaredAt).Nodup := by
  intro ix
  have sound := (CacheSound.empty t r m es).resolveEach_state names
  have rooted : ix.roots = r := resolveEach_roots t _ names
  have apart := sound.entries_apart fun a named b named' => by
    rw [rooted]
    exact oneKey a (by simpa using named) b (by simpa using named')
  refine ⟨apart,sound.cachedRecords_length.symm,?_⟩
  -- the records are the entries' values, so distinct declarations carry over to them
  rw [List.Nodup,List.pairwise_map,Registry.cachedRecords,Recency.values,List.filterMap_map]
  exact apart.filterMap _ fun e e' distinct ra held rb held' => distinct ra held rb held'

theorem hero_spellings_cache_one_declaration :
    let t : Tree := ⟨[["P"]],[(["P","A.h"],"class AHero : public UObject {};\n".toUTF8)]⟩
    let r : Roots := ⟨some ["P"],none⟩
    let ix := (resolveEach t ⟨r,Recency.empty 1,Recency.empty 1⟩ ["AHero","ahero"]).2
    (∀ a ∈ ["AHero","ahero"], ∀ b ∈ ["AHero","ahero"], ∀ ra rb, scanClass t r a = .ok ra →
      scanClass t r b = .ok rb → declaredAt ra = declaredAt rb → Text.lower a = Text.lower b) ∧
    (ix.classes.entries.Pairwise fun e e' => ∀ ra ∈ e.2, ∀ rb ∈ e'.2, declaredAt ra ≠ declaredAt rb) ∧
      ix.cacheSize = ix.cachedRecords.length ∧ (ix.cachedRecords.map declaredAt).Nodup := by
  intro t r ix
  -- both spellings lower to one key, whatever the scan finds for them
  have oneKey : ∀ a ∈ ["AHero","ahero"], ∀ b ∈ ["AHero","ahero"], ∀ ra rb, scanClass t r a = .ok ra →
      scanClass t r b = .ok rb → declaredAt ra = declaredAt rb → Text.lower a = Text.lower b := by
    intro a named b named' _ _ _ _ _
    simp only [List.mem_cons,List.not_mem_nil,or_false] at named named'
    rcases named with rfl | rfl <;> rcases named' with rfl | rfl <;> decide
  exact ⟨oneKey,resolveEach_declarations_once t r 1 _ _ oneKey⟩

/-- At a header declaring `AS`, the names `AS` and `Aſ` lower differently, yet the scan resolves
    both to that declaration, so the cache holds it twice. -/
theorem long_s_spelling_caches_declaration_twice :
    let t : Tree := ⟨[["P"]],[(["P","A.h"],"class AS : public UObject {};\n".toUTF8)]⟩
    let r : Roots := ⟨some ["P"],none⟩
    let record : Record := ⟨"AS","/P/A.h",1,["UObject"],[],[],[]⟩
    let ix := (resolveEach t ⟨r,Recency.empty defaultCapacity,Recency.empty defaultCapacity⟩ ["AS","Aſ"]).2
    Text.lower "AS" ≠ Text.lower "Aſ" ∧ scanClass t r "AS" = .ok record ∧
      scanClass t r "Aſ" = .ok record ∧ ix.cacheSize = 2 ∧ ix.cachedRecords = [record,record] := by
  intro t r record ix
  decide +kernel

end ClassAtlas.Index
