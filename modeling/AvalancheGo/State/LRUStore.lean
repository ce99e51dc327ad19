import AvalancheGo.State.Refinement
import AvalancheGo.Cache.LRU

/-! The vertex store over its bounded LRU cache, and its refinement of the store whose cache may drop any entry. -/

namespace AvalancheGo

/-- The store `state` with its `dbCache` a bounded `cache.LRU`, and its database `db`. -/
structure LRUState where
  dbCache : LRU CacheValue
  db : List UInt8 → Option (List UInt8)

namespace LRUState

/-- A store over an empty database, with an empty cache of `size` entries. -/
def empty (size : Nat) (size_pos : 0 < size) : LRUState := ⟨LRU.empty size size_pos, fun _ => none⟩

/-- `dbCache.Put`. -/
def cachePut (s : LRUState) (id : ID) (v : CacheValue) : LRUState :=
  { s with dbCache := s.dbCache.put id v }

/-- `db.Put`. -/
def dbPut (s : LRUState) (key value : List UInt8) : LRUState :=
  { s with db := Function.update s.db key (some value) }

/-- `db.Delete`. -/
def dbDelete (s : LRUState) (key : List UInt8) : LRUState :=
  { s with db := Function.update s.db key none }

/-- `state.Status`: the cached status, else the stored one (cached), else `Unknown` (cached). -/
def status (s : LRUState) (id : ID) : LRUState × Status :=
  let (dbCache, found) := s.dbCache.get id
  let s := { s with dbCache := dbCache }
  match found with
  | some v => (s, v.asStatus)
  | none =>
    match (s.db id.bytes).bind parseStatus with
    | some status => (s.cachePut id (.status status), status)
    | none => (s.cachePut id (.status .unknown), .unknown)

/-- `state.SetStatus`: cache first, then delete `Unknown` or store the packed status. -/
def setStatus (s : LRUState) (id : ID) (status : Status) : LRUState :=
  let s := s.cachePut id (.status status)
  if status = .unknown then s.dbDelete id.bytes
  else s.dbPut id.bytes (packStatus status)

/-- `state.Edge`: the cached frontier, else the stored one (cached), else nil (a cached miss). -/
def edge (s : LRUState) (id : ID) : LRUState × Slice ID :=
  let (dbCache, found) := s.dbCache.get id
  let s := { s with dbCache := dbCache }
  match found with
  | some v => (s, v.asEdge)
  | none =>
    match (s.db id.bytes).bind parseEdge with
    | some frontier => (s.cachePut id (.edge (some frontier)), some frontier)
    | none => (s.cachePut id .nil, none)

/-- `state.SetEdge`: cache first, then delete an empty frontier or store the packed one. -/
def setEdge (s : LRUState) (id : ID) (frontier : Slice ID) : LRUState :=
  let s := s.cachePut id (.edge frontier)
  if frontier.toList.length = 0 then s.dbDelete id.bytes
  else s.dbPut id.bytes (packEdge frontier.toList)

/-- One step of the store, with what the caller is answered; an eviction is the cache's `Evict`. -/
def step (s : LRUState) : Event → LRUState × Answer
  | .setStatus id status => (s.setStatus id status, .none)
  | .setEdge id frontier => (s.setEdge id frontier, .none)
  | .status id => ((s.status id).1, .status (s.status id).2)
  | .edge id => ((s.edge id).1, .edge (s.edge id).2.toList)
  | .evict id => ({ s with dbCache := s.dbCache.evict id }, .none)

/-- The store after a trace, with the answers it gave. -/
def run (s : LRUState) : List Event → LRUState × List Answer
  | [] => (s, [])
  | e :: rest => ((s.step e).1.run rest).map id ((s.step e).2 :: ·)

/-- The store the cached entries and the database make, the order of use forgotten. -/
def view (s : LRUState) : State := ⟨s.dbCache.entryMap, s.db⟩

/-- The store seen after the cache drops `victim`, if it must drop an entry. -/
def dropped (s : LRUState) : Option ID → State
  | some victim => s.view.evict victim
  | none => s.view

variable (s : LRUState) (id : ID)

/-- A store rebuilt from its own cache and database is itself. -/
@[simp] theorem mk_self : (⟨s.dbCache, s.db⟩ : LRUState) = s := rfl

/-- Dropping an entry touches no stored value. -/
@[simp] theorem dropped_db (victim : Option ID) : (s.dropped victim).db = s.db := by
  cases victim <;> rfl

variable {kind : ID → Kind} {c : Contents}

/-- An `Edge` of an ID with nothing cached puts whatever the stored bytes parse as. -/
theorem edge_uncached {b : List UInt8} (uncached : s.dbCache.entryMap id = none) (stored : s.db id.bytes = some b) :
    s.edge id = match parseEdge b with
      | some frontier => (s.cachePut id (.edge (some frontier)), some frontier)
      | none => (s.cachePut id .nil, none) := by
  simp [edge, LRU.get_of_none uncached, stored]

end LRUState

/--
`Edge` of an ID with nothing cached and bytes `b` stored: it returns a list exactly when `b` is a
`uint32` count `n` followed by exactly `n` thirty-two byte IDs, and then returns those IDs in order
and caches them under the ID; on any other bytes it returns nil and caches a miss under the ID.
Either way the database is unchanged, and so is every other cache entry but the least recently
used one, which a full cache drops to make room.
-/
theorem edge_decodes_stored (s : LRUState) (id : ID) (b : List UInt8) (uncached : s.dbCache.entryMap id = none)
    (stored : s.db id.bytes = some b) :
    ((∃ frontier, (s.edge id).2 = some frontier) ↔ b.length = 4 + 32 * (beUint32 b).toNat) ∧
    (b.length = 4 + 32 * (beUint32 b).toNat → ∃ frontier, frontier.length = (beUint32 b).toNat ∧
      frontier.flatMap ID.bytes = b.drop 4 ∧ (s.edge id).2 = some frontier ∧
      (s.edge id).1.dbCache.entryMap id = some (.edge (some frontier))) ∧
    (b.length ≠ 4 + 32 * (beUint32 b).toNat →
      (s.edge id).2 = none ∧ (s.edge id).1.dbCache.entryMap id = some .nil) ∧
    (s.edge id).1.db = s.db ∧
    ∀ other, other ≠ id → (s.edge id).1.dbCache.entryMap other =
      if s.dbCache.size ≤ s.dbCache.entryList.length ∧ s.dbCache.entryList.head? = some other then none
      else s.dbCache.entryMap other := by
  -- Nothing is cached, so `Edge` puts whatever the stored bytes parse as, and the put drops at most the front entry.
  have read := s.edge_uncached id uncached stored
  have others : ∀ v other, other ≠ id → (s.cachePut id v).dbCache.entryMap other =
      if s.dbCache.size ≤ s.dbCache.entryList.length ∧ s.dbCache.entryList.head? = some other then none
      else s.dbCache.entryMap other := fun v _ apart => LRU.put_entryMap_other uncached v apart
  by_cases exact : b.length = 4 + 32 * (beUint32 b).toNat
  · obtain ⟨frontier, counted, bytes, parsed⟩ := parseEdge_of_length b exact
    rw [parsed] at read
    rw [read]
    exact ⟨⟨fun _ => exact, fun _ => ⟨frontier, rfl⟩⟩, fun _ => ⟨frontier, counted, bytes, rfl, by simp [LRUState.cachePut]⟩,
      fun different => absurd exact different, rfl, others _⟩
  · rw [parseEdge_of_length_ne b exact] at read
    rw [read]
    exact ⟨⟨fun ⟨_, returned⟩ => Option.noConfusion returned, fun same => absurd same exact⟩, fun same => absurd same exact,
      fun _ => ⟨rfl, by simp [LRUState.cachePut]⟩, rfl, others _⟩

/-- A stored count of two IDs followed by the bytes of only one, in an empty cache: `Edge` returns nil and caches a miss. -/
theorem edge_decodes_stored_overrun :
    let b : List UInt8 := [0, 0, 0, 2] ++ List.replicate 32 0
    let s := (LRUState.empty 1 Nat.one_pos).dbPut ID.empty.bytes b
    s.dbCache.entryMap ID.empty = none ∧ s.db ID.empty.bytes = some b ∧
      (((∃ frontier, (s.edge ID.empty).2 = some frontier) ↔ b.length = 4 + 32 * (beUint32 b).toNat) ∧
      (b.length = 4 + 32 * (beUint32 b).toNat → ∃ frontier, frontier.length = (beUint32 b).toNat ∧
        frontier.flatMap ID.bytes = b.drop 4 ∧ (s.edge ID.empty).2 = some frontier ∧
        (s.edge ID.empty).1.dbCache.entryMap ID.empty = some (.edge (some frontier))) ∧
      (b.length ≠ 4 + 32 * (beUint32 b).toNat →
        (s.edge ID.empty).2 = none ∧ (s.edge ID.empty).1.dbCache.entryMap ID.empty = some .nil) ∧
      (s.edge ID.empty).1.db = s.db ∧
      ∀ other, other ≠ ID.empty → (s.edge ID.empty).1.dbCache.entryMap other =
        if s.dbCache.size ≤ s.dbCache.entryList.length ∧ s.dbCache.entryList.head? = some other then none
        else s.dbCache.entryMap other) := by
  intro b s
  have stored : s.db ID.empty.bytes = some b := by simp [s, LRUState.dbPut]
  exact ⟨rfl, stored, edge_decodes_stored s ID.empty b rfl stored⟩

/--
A full cache of one entry, holding a miss for another ID: an `Edge` of malformed stored bytes
returns nil, and caching its miss drops the other ID's entry.
-/
theorem edge_miss_evicts_neighbour :
    let other : ID := ⟨List.replicate hashLen 1, List.length_replicate _ _⟩
    let s : LRUState := ⟨(LRU.empty 1 Nat.one_pos).put other .nil, fun key => if key = ID.empty.bytes then some [1] else none⟩
    other ≠ ID.empty ∧ s.dbCache.entryMap ID.empty = none ∧ s.db ID.empty.bytes = some [1] ∧
      s.dbCache.entryMap other = some .nil ∧ (s.edge ID.empty).2 = none ∧
      (s.edge ID.empty).1.dbCache.entryMap other = none :=
  ⟨by decide, rfl, rfl, rfl, rfl, rfl⟩

end AvalancheGo
