import Mathlib.Data.List.Dedup
import Mathlib.Data.List.DropRight
import Mathlib.Data.Finset.Card
import ClassAtlas.Cache.Recency

/-!
The order of a bounded cache, read as a history. A request touches a key when it puts the key,
or reads it and finds a value there; an empty value read does not count. After any sequence of
requests from an empty cache of capacity `m`, the entries are the last `m` distinct keys of the
touch history, least recently touched first, each with the value last put under it (`Tracks`,
`tracks_run`). So a key is present exactly when fewer than `m` other keys were touched after its
last touch, a read answers the last value put, the size is the number of keys ever put, up to
`m`, and the values come in order of last touch (`run_follows_touches`).
-/

namespace ClassAtlas.Cache.Recency

variable {κ ν : Type}

def Op.putKey : Op κ ν → Option κ
  | .put k _ => some k
  | _ => none

def putKeys (ops : List (Op κ ν)) : List κ := ops.filterMap Op.putKey

@[simp] theorem putKeys_append_singleton (ops : List (Op κ ν)) (op : Op κ ν) :
    putKeys (ops ++ [op]) = putKeys ops ++ op.putKey.toList := by
  cases h : op.putKey <;> simp [putKeys,h]

variable [DecidableEq κ]

/-- The key a request touches in `c`: the key it puts, or the key it reads when a value is
    found. -/
def touch (c : Recency κ ν) : Op κ ν → Option κ
  | .put k _ => some k
  | .get k => if (c.get k).1.isSome then some k else none
  | _ => none

/-- The keys touched by a sequence of requests made from `c`, in order. -/
def touches (c : Recency κ ν) : List (Op κ ν) → List κ
  | [] => []
  | op :: ops => (c.touch op).toList ++ (c.perform op).2.touches ops

/-- The values after a request, given those before it: a put replaces the value of its key. -/
def Op.apply (op : Op κ ν) (val : κ → Option ν) : κ → Option ν :=
  match op with
  | .put k v => Function.update val k v
  | _ => val

/-- The value last put under each key by a sequence of requests; none for a key never put. -/
def lastPut (ops : List (Op κ ν)) : κ → Option ν :=
  ops.foldl (fun val op => op.apply val) fun _ => none

/-- The keys touched after the last touch of `k`. -/
def afterLast (k : κ) (h : List κ) : List κ := (h.reverse.takeWhile (· ≠ k)).reverse

theorem touches_append_singleton (c : Recency κ ν) (ops : List (Op κ ν)) (op : Op κ ν) :
    c.touches (ops ++ [op]) = c.touches ops ++ ((c.run ops).touch op).toList := by
  induction ops generalizing c with
  | nil => simp [touches]
  | cons o ops ih => simp [touches,ih]

@[simp] theorem lastPut_append_singleton (ops : List (Op κ ν)) (op : Op κ ν) :
    lastPut (ops ++ [op]) = op.apply (lastPut ops) := by
  simp [lastPut]

@[simp] theorem afterLast_concat_self (k : κ) (h : List κ) : afterLast k (h ++ [k]) = [] := by
  simp [afterLast]

theorem afterLast_concat_of_ne {k x : κ} (h : List κ) (other : x ≠ k) :
    afterLast k (h ++ [x]) = afterLast k h ++ [x] := by
  simp [afterLast,other]

/-! ### Lists of distinct keys -/

theorem dedup_concat (h : List κ) (k : κ) : (h ++ [k]).dedup = h.dedup.erase k ++ [k] := by
  induction h with
  | nil => simp
  | cons x h ih =>
    by_cases inside : x ∈ h
    · simp [List.dedup_cons_of_mem,inside,ih]
    · by_cases same : x = k
      · subst same
        have absent : x ∉ h.dedup := by simpa using inside
        simp [List.dedup_cons_of_mem,List.dedup_cons_of_notMem,inside,ih,List.erase_of_not_mem absent]
      · have fresh : x ∉ h ++ [k] := by simp [inside,same]
        have kept : (x :: h.dedup).erase k = x :: h.dedup.erase k :=
          List.erase_cons_tail (by simpa using same)
        simp [List.dedup_cons_of_notMem,inside,fresh,ih,kept]

theorem rtake_append_of_le {α : Type} (x y : List α) (n : Nat) (long : n ≤ y.length ∨ x = []) :
    (x ++ y).rtake n = y.rtake n := by
  rcases long with long | rfl
  · simp only [List.rtake,List.length_append]
    rw [List.drop_append,List.drop_eq_nil_of_le (by omega),List.nil_append]
    congr 1
    omega
  · rfl

/-- Moving a key to the end and keeping the last `n` keys can be done in either order, for a
    list without repetitions. -/
theorem rtake_erase_concat (l : List κ) (distinct : l.Nodup) (k : κ) (n : Nat) :
    ((l.rtake n).erase k ++ [k]).rtake n = (l.erase k ++ [k]).rtake n := by
  have split : l = l.take (l.length - n) ++ l.rtake n := (List.take_append_drop _ _).symm
  have long : n ≤ (l.rtake n).length ∨ l.take (l.length - n) = [] := by
    by_cases h : n ≤ l.length
    · left; simp [List.rtake]; omega
    · right; simp; omega
  by_cases recent : k ∈ l.rtake n
  · have older : k ∉ l.take (l.length - n) := by
      intro h
      rw [split] at distinct
      exact List.disjoint_of_nodup_append distinct h recent
    conv => rhs; rw [split, List.erase_append_right _ older, List.append_assoc]
    refine (rtake_append_of_le _ _ _ ?_).symm
    rcases long with long | long
    · left; simp [List.length_erase_of_mem recent]; omega
    · right; exact long
  · have front : l.erase k = (l.take (l.length - n)).erase k ++ l.rtake n := by
      conv => lhs; rw [split]
      rw [List.erase_append]
      split
      · rfl
      · rw [List.erase_of_not_mem recent, List.erase_of_not_mem ‹_›]
    rw [List.erase_of_not_mem recent, front, List.append_assoc]
    refine (rtake_append_of_le _ _ _ ?_).symm
    rcases long with long | long
    · left; simp; omega
    · right; simp [long]

theorem rtake_of_length_le {α : Type} (l : List α) (n : Nat) (short : l.length ≤ n) :
    l.rtake n = l := by
  simp [List.rtake,Nat.sub_eq_zero_of_le short]

/-- A touched key stands in the distinct history with the distinct keys touched after it, and
    nothing else, behind it. -/
theorem dedup_split (h : List κ) (k : κ) (touched : k ∈ h) :
    ∃ s, h.dedup = s ++ k :: (afterLast k h).dedup := by
  induction h using List.reverseRecOn with
  | nil => simp at touched
  | append_singleton h x ih =>
    by_cases same : x = k
    · subst same
      exact ⟨h.dedup.erase x,by simp [dedup_concat]⟩
    · have earlier : k ∈ h := by
        rcases List.mem_append.mp touched with inside | last
        · exact inside
        · exact absurd (List.mem_singleton.mp last).symm same
      obtain ⟨s,split⟩ := ih earlier
      have distinct : (s ++ k :: (afterLast k h).dedup).Nodup := split ▸ List.nodup_dedup h
      rw [afterLast_concat_of_ne h same,dedup_concat,dedup_concat,split]
      by_cases before : x ∈ s
      · have behind : x ∉ (afterLast k h).dedup := fun h' =>
          List.disjoint_of_nodup_append distinct before (List.mem_cons_of_mem k h')
        refine ⟨s.erase x,?_⟩
        rw [List.erase_append_left _ before,List.erase_of_not_mem behind]
        simp
      · refine ⟨s,?_⟩
        rw [List.erase_append_right _ before,List.erase_cons_tail (by simpa using Ne.symm same)]
        simp

theorem mem_rtake_split {α : Type} (s d : List α) (k : α) (distinct : (s ++ k :: d).Nodup) (n : Nat) :
    k ∈ (s ++ k :: d).rtake n ↔ d.length < n := by
  simp only [List.rtake,List.length_append,List.length_cons]
  constructor
  · intro member
    by_contra far
    rw [List.drop_append,List.drop_eq_nil_of_le (by omega),List.nil_append] at member
    have cut : s.length + (d.length + 1) - n - s.length = (s.length + (d.length + 1) - n - s.length - 1) + 1 := by
      omega
    rw [cut,List.drop_succ_cons] at member
    have behind : k ∈ d := List.mem_of_mem_drop member
    exact (List.nodup_cons.mp (List.nodup_append.mp distinct).2.1).1 behind
  · intro near
    rw [List.drop_append_of_le_length (by omega)]
    exact List.mem_append_right _ List.mem_cons_self

/-- A touched key is among the last `n` distinct keys of a history exactly when fewer than `n`
    distinct keys were touched after its last touch. -/
theorem mem_rtake_dedup_iff (h : List κ) (k : κ) (n : Nat) :
    k ∈ h.dedup.rtake n ↔ k ∈ h ∧ (afterLast k h).dedup.length < n := by
  by_cases touched : k ∈ h
  · obtain ⟨s,split⟩ := dedup_split h k touched
    have distinct := split ▸ List.nodup_dedup h
    rw [split,mem_rtake_split s _ k distinct n]
    simp [touched]
  · have absent : k ∉ h.dedup.rtake n := fun member =>
      touched (List.mem_dedup.mp (List.mem_of_mem_drop member))
    simp [touched,absent]

theorem filter_mem_rtake {α : Type} [DecidableEq α] (l : List α) (distinct : l.Nodup) (n : Nat) :
    l.filter (fun x => decide (x ∈ l.rtake n)) = l.rtake n := by
  conv => lhs; rw [← List.take_append_drop (l.length - n) l]
  have apart := List.disjoint_of_nodup_append ((List.take_append_drop (l.length - n) l).symm ▸ distinct)
  rw [List.filter_append,List.filter_eq_nil_iff.mpr,List.filter_eq_self.mpr,List.nil_append]
  · rfl
  · intro x member
    simpa [List.rtake] using member
  · intro x member
    simpa [List.rtake] using apart member

/-! ### The cache against its history -/

/-- The entries of `c` are the last `capacity` distinct keys of the history `h`, least recently
    touched first, each with its value under `val`. -/
def Tracks (c : Recency κ ν) (h : List κ) (val : κ → Option ν) : Prop :=
  c.entries = (h.dedup.rtake c.capacity).map fun k => (k,val k)

section Entries

variable (l : List κ) (val : κ → Option ν)

theorem without_map (distinct : l.Nodup) (k : κ) :
    without (l.map fun j => (j,val j)) k = (l.erase k).map fun j => (j,val j) := by
  rw [without,List.filter_map,distinct.erase_eq_filter]
  rfl

omit [DecidableEq κ] in
theorem trim_map (n : Nat) :
    trim (l.map fun j => (j,val j)) n = (l.rtake n).map fun j => (j,val j) := by
  simp [trim,List.rtake,List.map_drop]

theorem find_key_map (k : κ) :
    (l.map fun j => (j,val j)).find? (fun e => e.1 == k) = if k ∈ l then some (k,val k) else none := by
  induction l with
  | nil => simp
  | cons x l ih =>
    by_cases same : x = k
    · subst same; simp
    · simp [same,ih,Ne.symm same]

end Entries

variable {c : Recency κ ν} {h : List κ} {val : κ → Option ν}

theorem nodup_rtake_dedup (h : List κ) (n : Nat) : (h.dedup.rtake n).Nodup :=
  (List.drop_sublist _ _).nodup (List.nodup_dedup h)

theorem Tracks.peek_eq (t : Tracks c h val) (k : κ) :
    c.peek k = if k ∈ h.dedup.rtake c.capacity then val k else none := by
  rw [peek,t,find_key_map]
  split <;> simp

theorem Tracks.contains_eq (t : Tracks c h val) (k : κ) :
    c.contains k = decide (k ∈ h.dedup.rtake c.capacity) := by
  rw [contains,t,List.any_map]
  exact Bool.eq_iff_iff.mpr (by simp)

theorem get_fst (c : Recency κ ν) (k : κ) : (c.get k).1 = c.peek k := by
  unfold get; split <;> simp_all

theorem get_snd_of_none (c : Recency κ ν) (k : κ) (missing : (c.get k).1 = none) :
    (c.get k).2 = c := by
  unfold get at missing ⊢
  split <;> simp_all

theorem peek_get_snd {k : κ} {v : ν} (stored : c.peek k = some v) : (c.get k).2.peek k = some v := by
  -- the entries under other keys come first, and the moved entry is the only one under `k`
  have others : (without c.entries k).find? (fun e => e.1 == k) = none :=
    List.find?_eq_none.mpr fun e kept => by simp_all [without]
  rw [get,stored]
  simp [peek,List.find?_append,others]

/-! ### Entries of any cache

Whatever the history, a request only reorders, drops or adds the entry it names, so a property
of every entry, and distinct keys, hold after it when they held before and of the new entry. -/

theorem mem_of_get_found {k : κ} {v : ν} (found : (c.get k).1 = some v) : (k,some v) ∈ c.entries := by
  rw [get_fst,peek,Option.bind_eq_some_iff] at found
  obtain ⟨e,hit,stored⟩ := found
  have named : e.1 = k := by simpa using List.find?_some hit
  have entry : e = (k,some v) := by
    cases e
    simp_all
  exact entry ▸ List.mem_of_find?_eq_some hit

theorem mem_of_mem_get {k : κ} {e : κ × Option ν} (member : e ∈ (c.get k).2.entries) : e ∈ c.entries := by
  cases found : (c.get k).1 with
  | none => rwa [get_snd_of_none c k found] at member
  | some v =>
    unfold get at member found
    split at member
    · simp only [without,List.mem_append,List.mem_filter,List.mem_singleton] at member
      rcases member with ⟨kept,-⟩ | rfl
      · exact kept
      · exact mem_of_get_found (by rw [get_fst]; assumption)
    · simp_all

theorem mem_of_mem_put {k : κ} {v : Option ν} {e : κ × Option ν} (member : e ∈ (c.put k v).entries) :
    e ∈ c.entries ∨ e = (k,v) := by
  simp only [put,trim] at member
  have whole := List.mem_of_mem_drop member
  simp only [without,List.mem_append,List.mem_filter,List.mem_singleton] at whole
  exact whole.imp_left And.left

theorem nodup_keys_without_concat {l : List (κ × Option ν)} (distinct : (l.map Prod.fst).Nodup)
    (k : κ) (v : Option ν) : ((without l k ++ [(k,v)]).map Prod.fst).Nodup := by
  rw [List.map_append,List.nodup_append]
  refine ⟨(List.filter_sublist.map Prod.fst).nodup distinct,List.nodup_singleton k,?_⟩
  simp [without]

theorem nodup_keys_put (distinct : c.keys.Nodup) (k : κ) (v : Option ν) : (c.put k v).keys.Nodup := by
  simp only [keys,put,trim,List.map_drop]
  exact (List.drop_sublist _ _).nodup (nodup_keys_without_concat distinct k v)

theorem nodup_keys_get (distinct : c.keys.Nodup) (k : κ) : (c.get k).2.keys.Nodup := by
  unfold get
  split
  · exact nodup_keys_without_concat distinct k _
  · exact distinct

/-- Putting a key moves it to the end of the history and gives it the new value. -/
theorem Tracks.put (t : Tracks c h val) (k : κ) (v : Option ν) :
    Tracks (c.put k v) (h ++ [k]) (Function.update val k v) := by
  have distinct := nodup_rtake_dedup h c.capacity
  have moved : ((h.dedup.rtake c.capacity).erase k).map (fun j => (j,val j)) ++ [(k,v)] =
      ((h.dedup.rtake c.capacity).erase k ++ [k]).map fun j => (j,Function.update val k v j) := by
    rw [List.map_append]
    congr 1
    · refine List.map_congr_left fun j member => ?_
      have other : j ≠ k := fun same => distinct.not_mem_erase (same ▸ member)
      simp [other]
    · simp
  unfold Tracks
  rw [put_capacity]
  show trim (without c.entries k ++ [(k,v)]) c.capacity = _
  rw [t,without_map _ _ distinct,moved,trim_map,rtake_erase_concat _ (List.nodup_dedup h),dedup_concat]

/-- A read that finds a value moves its key to the end of the history. -/
theorem Tracks.get_found (t : Tracks c h val) (k : κ) (found : (c.get k).1.isSome) :
    Tracks (c.get k).2 (h ++ [k]) val := by
  have distinct := nodup_rtake_dedup h c.capacity
  have recent : k ∈ h.dedup.rtake c.capacity := by
    by_contra absent
    simp [get_fst,t.peek_eq,absent] at found
  obtain ⟨v,peeked⟩ : ∃ v, c.peek k = some v := Option.isSome_iff_exists.mp (get_fst c k ▸ found)
  have value : val k = some v := by simpa [t.peek_eq,recent] using peeked
  have short : ((h.dedup.rtake c.capacity).erase k ++ [k]).length ≤ c.capacity := by
    have bound : (h.dedup.rtake c.capacity).length ≤ c.capacity := by simp [List.rtake]; omega
    have positive := List.length_pos_of_mem recent
    rw [List.length_append,List.length_erase_of_mem recent,List.length_singleton]
    omega
  have moved := rtake_erase_concat h.dedup (List.nodup_dedup h) k c.capacity
  rw [rtake_of_length_le _ _ short] at moved
  simp only [get,peeked,Tracks]
  rw [t,without_map _ _ distinct,dedup_concat,← moved,List.map_append]
  simp [value]

/-- One request keeps the cache in step with its history: the key it touches goes to the end,
    and a put changes the value of its key. -/
theorem Tracks.perform (t : Tracks c h val) (op : Op κ ν) :
    Tracks (c.perform op).2 (h ++ (c.touch op).toList) (op.apply val) := by
  cases op with
  | put k v => exact t.put k v
  | get k =>
    by_cases found : (c.get k).1.isSome
    · simpa [Recency.perform,touch,found,Op.apply] using t.get_found k found
    · have missing : (c.get k).1 = none := Option.not_isSome_iff_eq_none.mp found
      simpa [Recency.perform,touch,found,Op.apply,get_snd_of_none c k missing] using t
  | contains k => simpa [Recency.perform,touch,Op.apply] using t
  | size => simpa [Recency.perform,touch,Op.apply] using t
  | values => simpa [Recency.perform,touch,Op.apply] using t

theorem Tracks.mem_of_touch_get (t : Tracks c h val) {k j : κ} (touched : c.touch (.get k) = some j) :
    j ∈ h := by
  by_cases found : (c.get k).1.isSome
  · have same : k = j := by simpa [touch,found] using touched
    subst same
    have recent : k ∈ h.dedup.rtake c.capacity := by
      by_contra absent
      simp [get_fst,t.peek_eq,absent] at found
    exact List.mem_dedup.mp (List.mem_of_mem_drop recent)
  · simp [touch,found] at touched

/-- Every run from an empty cache stays in step with its touch history and its last puts. -/
theorem tracks_run (m : Nat) (ops : List (Op κ ν)) :
    Tracks ((empty m).run ops) ((empty m).touches ops) (lastPut ops) := by
  induction ops using List.reverseRecOn with
  | nil => simp [Tracks,empty,touches]
  | append_singleton ops op ih =>
    rw [run_append_singleton,touches_append_singleton,lastPut_append_singleton]
    exact ih.perform op

/-- An empty value read is no touch: the key holding it is the one evicted next. -/
example : ((empty 2).run [.put 1 none,.put 2 (some 'b'),.get 1,.put 3 (some 'c')] : Recency Nat Char).keys =
    [2,3] := by decide

/-- The keys ever touched are the keys ever put. -/
theorem mem_touches_iff (m : Nat) (ops : List (Op κ ν)) :
    ∀ k, k ∈ (empty m).touches ops ↔ k ∈ putKeys ops := by
  induction ops using List.reverseRecOn with
  | nil => simp [touches,putKeys]
  | append_singleton ops op ih =>
    intro k
    rw [touches_append_singleton,putKeys_append_singleton,List.mem_append,List.mem_append,ih]
    cases op with
    | put j v => simp [touch,Op.putKey]
    | get j =>
      cases touched : (run (empty m) ops).touch (.get j) with
      | none => simp [Op.putKey]
      | some i =>
        -- a read touches a key that was put before
        have old := (ih i).mp ((tracks_run m ops).mem_of_touch_get touched)
        simp only [Option.toList_some,List.mem_singleton,Op.putKey,Option.toList_none,
          List.not_mem_nil,or_false,or_iff_left_iff_imp]
        rintro rfl
        exact old
    | contains j => simp [touch,Op.putKey]
    | size => simp [touch,Op.putKey]
    | values => simp [touch,Op.putKey]

/-- After any sequence of requests from an empty cache of capacity `m`: a key is present exactly
    when it was put and fewer than `m` distinct other keys were touched after its last touch; a
    read answers the value last put under a present key, and nothing otherwise; the size is the
    number of keys ever put, up to `m`; the values are those of the present keys in order of last
    touch; and asking for membership, the size or the values, or a read that finds nothing,
    changes nothing. -/
theorem run_follows_touches (m : Nat) (ops : List (Op κ ν)) :
    let c := (empty m).run ops
    let h := (empty m).touches ops
    (∀ k, c.contains k = true ↔ k ∈ putKeys ops ∧ (afterLast k h).toFinset.card < m) ∧
    (∀ k, (c.get k).1 = if c.contains k then lastPut ops k else none) ∧
    c.size = min m (putKeys ops).toFinset.card ∧
    c.values = (h.dedup.filter fun k => c.contains k).map (lastPut ops) ∧
    (∀ k, (c.perform (.contains k)).2 = c) ∧ (c.perform .size).2 = c ∧
    (c.perform .values).2 = c ∧ (∀ k, (c.get k).1 = none → (c.get k).2 = c) := by
  intro c h
  have t : Tracks c h (lastPut ops) := tracks_run m ops
  have capacity : c.capacity = m := by rw [run_capacity]; rfl
  have present (k : κ) : c.contains k = decide (k ∈ h.dedup.rtake m) := by
    rw [t.contains_eq,capacity]
  have members : ∀ k, k ∈ h ↔ k ∈ putKeys ops := mem_touches_iff m ops
  refine ⟨?_,?_,?_,?_,?_,?_,?_,?_⟩
  · intro k
    rw [present,decide_eq_true_iff,mem_rtake_dedup_iff,members,List.card_toFinset]
  · intro k
    rw [get_fst,t.peek_eq,capacity,present]
    by_cases recent : k ∈ h.dedup.rtake m <;> simp [recent]
  · have same : h.toFinset = (putKeys ops).toFinset := by
      ext k
      simpa using members k
    rw [size,t,List.length_map,capacity,← same,List.card_toFinset]
    simp [List.rtake]
    omega
  · have keep : (h.dedup.filter fun k => c.contains k) = h.dedup.rtake m := by
      rw [← filter_mem_rtake h.dedup (List.nodup_dedup h) m]
      exact List.filter_congr fun k _ => present k
    rw [keep,values,t,capacity,List.map_map]
    rfl
  · intro k
    rfl
  · rfl
  · rfl
  · exact get_snd_of_none c

end ClassAtlas.Cache.Recency
