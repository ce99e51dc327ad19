import AvalancheGo.Ids.ID
import Mathlib.Data.List.Nodup
import Mathlib.Logic.Function.Basic

/-! The bounded LRU cache the vertex store writes through: its entries and their order of use. -/

namespace AvalancheGo

/--
Modelled from the spec: `cache.LRU`, the store's bounded LRU cache. `entryMap` holds the cached
values and `entryList` their keys, each once, from the least to the most recently used, at most
`size` of them.
-/
structure LRU (V : Type) where
  size : Nat
  entryList : List ID
  entryMap : ID → Option V
  size_pos : 0 < size
  mem_entryList : ∀ key, key ∈ entryList ↔ entryMap key ≠ none
  nodup : entryList.Nodup
  bounded : entryList.length ≤ size

namespace LRU

variable {V : Type}

/-- An empty cache of `size` entries. -/
def empty (size : Nat) (size_pos : 0 < size) : LRU V where
  size := size
  entryList := []
  entryMap := fun _ => none
  size_pos := size_pos
  mem_entryList _ := by simp
  nodup := List.nodup_nil
  bounded := Nat.zero_le _

/-- `entryList.MoveToBack`: a cached key becomes the most recently used. -/
def moveToBack (c : LRU V) (key : ID) (cached : c.entryMap key ≠ none) : LRU V where
  size := c.size
  entryList := c.entryList.erase key ++ [key]
  entryMap := c.entryMap
  size_pos := c.size_pos
  mem_entryList k := by
    -- The key is still listed, now last, and no other key moved in or out.
    by_cases same : k = key
    · subst same; simpa using cached
    · simp [c.nodup.mem_erase_iff, same, c.mem_entryList]
  nodup := List.nodup_append.2 ⟨c.nodup.erase key, List.nodup_singleton key, fun k erased last => by
    rw [List.mem_singleton] at last
    exact (c.nodup.mem_erase_iff.1 erased).1 last⟩
  bounded := by
    have listed := (c.mem_entryList key).2 cached
    rw [List.length_append, List.length_erase_of_mem listed]
    have := List.length_pos_of_mem listed
    have := c.bounded
    simp only [List.length_singleton]
    omega

/-- A cached key takes a new value, keeping its place. -/
def setValue (c : LRU V) (key : ID) (value : V) (cached : c.entryMap key ≠ none) : LRU V where
  size := c.size
  entryList := c.entryList
  entryMap := Function.update c.entryMap key (some value)
  size_pos := c.size_pos
  mem_entryList k := by
    by_cases same : k = key
    · subst same; simpa [c.mem_entryList] using cached
    · simp [same, c.mem_entryList]
  nodup := c.nodup
  bounded := c.bounded

/-- The least recently used entry is dropped, from the list and from the map. -/
def removeFront (c : LRU V) : LRU V where
  size := c.size
  entryList := c.entryList.tail
  entryMap := fun k => if c.entryList.head? = some k then none else c.entryMap k
  size_pos := c.size_pos
  mem_entryList k := by
    -- The front key was listed once, so the keys after it are the listed keys other than it.
    have mem := c.mem_entryList k
    have nodup := c.nodup
    cases listed : c.entryList with
    | nil => simp_all
    | cons oldest rest =>
      rw [listed] at mem nodup
      rw [List.nodup_cons] at nodup
      simp only [List.tail_cons, List.head?_cons, Option.some.injEq]
      by_cases same : oldest = k
      · subst same; simp [nodup.1]
      · simp [same, ← mem, Ne.symm same]
  nodup := c.nodup.sublist (List.tail_sublist _)
  bounded := (List.length_tail _).trans_le (Nat.sub_le _ _) |>.trans c.bounded

/-- A new key goes in last, as the most recently used, where there is room for it. -/
def pushBack (c : LRU V) (key : ID) (value : V) (fresh : c.entryMap key = none)
    (room : c.entryList.length < c.size) : LRU V where
  size := c.size
  entryList := c.entryList ++ [key]
  entryMap := Function.update c.entryMap key (some value)
  size_pos := c.size_pos
  mem_entryList k := by
    by_cases same : k = key
    · subst same; simp
    · simp [same, c.mem_entryList]
  nodup := List.nodup_append.2 ⟨c.nodup, List.nodup_singleton key, fun k listed last => by
    rw [List.mem_singleton] at last
    subst last
    exact (c.mem_entryList k).1 listed fresh⟩
  bounded := by simp only [List.length_append, List.length_singleton]; omega

/-- Dropping the least recently used entry of a full cache leaves room for one more key. -/
theorem removeFront_room {c : LRU V} (full : c.size ≤ c.entryList.length) :
    c.removeFront.entryList.length < c.removeFront.size := by
  -- A full cache is not empty, and it held at most `size` keys.
  have := c.bounded
  have := c.size_pos
  simp only [removeFront, List.length_tail]
  omega

/-- Dropping the least recently used entry caches no key that was not cached. -/
theorem removeFront_fresh {c : LRU V} {key : ID} (fresh : c.entryMap key = none) :
    c.removeFront.entryMap key = none := by
  simp [removeFront, fresh]

/-- `Get`: the value cached under `key`, the key becoming the most recently used; a miss changes nothing. -/
def get (c : LRU V) (key : ID) : LRU V × Option V :=
  match found : c.entryMap key with
  | none => (c, none)
  | some value => (c.moveToBack key (by simp [found]), some value)

/--
`Put`: a cached key takes the value and becomes the most recently used; a new key goes in last,
after the least recently used entry is dropped when the cache is full.
-/
def put (c : LRU V) (key : ID) (value : V) : LRU V :=
  match found : c.entryMap key with
  | none =>
    if full : c.size ≤ c.entryList.length then
      c.removeFront.pushBack key value (removeFront_fresh found) (removeFront_room full)
    else c.pushBack key value found (by omega)
  | some _ => (c.moveToBack key (by simp [found])).setValue key value (by simp [moveToBack, found])

/-- `Evict`: the key's entry is dropped, wherever it stands. -/
def evict (c : LRU V) (key : ID) : LRU V where
  size := c.size
  entryList := c.entryList.erase key
  entryMap := Function.update c.entryMap key none
  size_pos := c.size_pos
  mem_entryList k := by
    by_cases same : k = key
    · subst same; simp [c.nodup.mem_erase_iff]
    · simp [c.nodup.mem_erase_iff, same, c.mem_entryList]
  nodup := c.nodup.erase key
  bounded := (List.length_erase_le _ _).trans c.bounded

/-- The entry a `Put` of `key` drops: the least recently used one, when `key` is new and the cache is full. -/
def victim (c : LRU V) (key : ID) : Option ID :=
  match c.entryMap key with
  | none => if c.size ≤ c.entryList.length then c.entryList.head? else none
  | some _ => none

/-- A `Get` that misses changes nothing. -/
theorem get_of_none {c : LRU V} {key : ID} (fresh : c.entryMap key = none) : c.get key = (c, none) := by
  unfold get
  split <;> simp_all

/-- After a `Put`, the key holds the value; of the others only the entry it drops is gone. -/
theorem put_entryMap (c : LRU V) (key : ID) (value : V) :
    (c.put key value).entryMap =
      Function.update (fun k => if c.victim key = some k then none else c.entryMap k) key (some value) := by
  -- A new key in a full cache first drops the front entry; otherwise no entry is dropped.
  funext k
  unfold put victim
  split
  · rename_i found
    by_cases full : c.size ≤ c.entryList.length
    · simp [found, full, pushBack, removeFront]
    · simp [found, full, pushBack]
  · rename_i found
    simp [found, setValue, moveToBack]

/-- After a `Put` the key holds the value put. -/
@[simp] theorem put_entryMap_self (c : LRU V) (key : ID) (value : V) : (c.put key value).entryMap key = some value := by
  simp [put_entryMap]

/-- A `Put` of a new key leaves every other entry but the least recently used one, which a full cache drops. -/
theorem put_entryMap_other {c : LRU V} {key other : ID} (fresh : c.entryMap key = none) (value : V)
    (apart : other ≠ key) :
    (c.put key value).entryMap other =
      if c.size ≤ c.entryList.length ∧ c.entryList.head? = some other then none else c.entryMap other := by
  -- The victim of a new key is the front of a full cache, and nothing otherwise.
  by_cases full : c.size ≤ c.entryList.length <;> simp [put_entryMap, victim, fresh, full, apart]

end LRU

end AvalancheGo
