/-!
A bounded map that forgets the entry used least recently. Entries are kept in order of last
use, least recent first, so that the order itself is the state: putting a key moves it to the
most recent end (evicting from the other end while there are too many), and reading a key moves
it there too, unless the value stored under it is empty. An empty value is a value like any
other for membership and size; it only does not count as a use when read.
-/

namespace ClassAtlas.Cache

/-- The number of entries a cache keeps when no other bound is asked for. -/
def defaultCapacity : Nat := 50000

/-- A bounded map whose entries are ordered by last use, least recent first; a stored `none`
is an empty value. -/
structure Recency (κ : Type) (ν : Type) where
  capacity : Nat
  entries : List (κ × Option ν)
  deriving Repr, Inhabited

namespace Recency

variable {κ ν : Type} [BEq κ]

def empty (capacity : Nat) : Recency κ ν := ⟨capacity, []⟩

def boundMessage (bound : Int) : String :=
  "max_size must be positive, got " ++ toString bound

/-- An empty cache for a bound given as any integer; a bound below one is refused. -/
def create (bound : Int) : Except String (Recency κ ν) :=
  if bound < 1 then .error (boundMessage bound) else .ok (empty bound.toNat)

def without (entries : List (κ × Option ν)) (k : κ) : List (κ × Option ν) :=
  entries.filter fun e => !(e.1 == k)

/-- Drops entries from the least recent end until at most `n` remain. -/
def trim (entries : List (κ × Option ν)) (n : Nat) : List (κ × Option ν) :=
  entries.drop (entries.length - n)

/-- Stores `v` under `k` as the most recent entry, evicting the least recent ones while there
are more than the capacity. -/
def put (c : Recency κ ν) (k : κ) (v : Option ν) : Recency κ ν :=
  { c with entries := trim (without c.entries k ++ [(k, v)]) c.capacity }

/-- The value stored under `k`, without touching the order. -/
def peek (c : Recency κ ν) (k : κ) : Option ν :=
  (c.entries.find? fun e => e.1 == k).bind Prod.snd

/-- Whether some value, empty or not, is stored under `k`. -/
def contains (c : Recency κ ν) (k : κ) : Bool :=
  c.entries.any fun e => e.1 == k

/-- Reads the value under `k`; a value that is not empty becomes the most recent entry. -/
def get (c : Recency κ ν) (k : κ) : Option ν × Recency κ ν :=
  match c.peek k with
  | some v => (some v, { c with entries := without c.entries k ++ [(k, some v)] })
  | none => (none, c)

def size (c : Recency κ ν) : Nat := c.entries.length

def values (c : Recency κ ν) : List (Option ν) := c.entries.map Prod.snd

def keys (c : Recency κ ν) : List κ := c.entries.map Prod.fst

@[simp] theorem put_capacity (c : Recency κ ν) (k : κ) (v : Option ν) :
    (c.put k v).capacity = c.capacity := rfl

@[simp] theorem get_capacity (c : Recency κ ν) (k : κ) : (c.get k).2.capacity = c.capacity := by
  unfold get; split <;> rfl

/-- A request to a cache. -/
inductive Op (κ : Type) (ν : Type) where
  | put (k : κ) (v : Option ν)
  | get (k : κ)
  | contains (k : κ)
  | size
  | values
  deriving Repr, Inhabited

inductive Reply (ν : Type) where
  | stored
  | found (v : Option ν)
  | member (b : Bool)
  | count (n : Nat)
  | listing (vs : List (Option ν))
  deriving Repr, Inhabited

/-- Answers a request, with the cache it leaves. -/
def perform (c : Recency κ ν) : Op κ ν → Reply ν × Recency κ ν
  | .put k v => (.stored, c.put k v)
  | .get k => (.found (c.get k).1, (c.get k).2)
  | .contains k => (.member (c.contains k), c)
  | .size => (.count c.size, c)
  | .values => (.listing c.values, c)

def run (c : Recency κ ν) (ops : List (Op κ ν)) : Recency κ ν :=
  ops.foldl (fun c op => (c.perform op).2) c

@[simp] theorem run_nil (c : Recency κ ν) : c.run [] = c := rfl

@[simp] theorem run_append_singleton (c : Recency κ ν) (ops : List (Op κ ν)) (op : Op κ ν) :
    c.run (ops ++ [op]) = ((c.run ops).perform op).2 := by
  simp [run]

@[simp] theorem perform_capacity (c : Recency κ ν) (op : Op κ ν) :
    (c.perform op).2.capacity = c.capacity := by
  cases op <;> simp [perform]

@[simp] theorem run_cons (c : Recency κ ν) (op : Op κ ν) (ops : List (Op κ ν)) :
    c.run (op :: ops) = (c.perform op).2.run ops := rfl

@[simp] theorem run_capacity (c : Recency κ ν) (ops : List (Op κ ν)) :
    (c.run ops).capacity = c.capacity := by
  induction ops generalizing c with
  | nil => rfl
  | cons op ops ih => rw [run_cons, ih, perform_capacity]

end Recency

end ClassAtlas.Cache
