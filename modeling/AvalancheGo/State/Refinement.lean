import AvalancheGo.State.Store

/-! Every trace of status and edge calls, under any evictions, answers as the last writes under each ID. -/

namespace AvalancheGo

namespace State

variable (s : State) (id : ID)

/-- A cache put writes nothing to the database. -/
@[simp] theorem cachePut_db (v : CacheValue) : (s.cachePut id v).db = s.db := rfl

/-- A cache put sets its own entry and no other. -/
@[simp] theorem cachePut_dbCache (v : CacheValue) :
    (s.cachePut id v).dbCache = Function.update s.dbCache id (some v) := rfl

/-- An eviction writes nothing to the database. -/
@[simp] theorem evict_db : (s.evict id).db = s.db := rfl

/-- An eviction drops its own entry and no other. -/
@[simp] theorem evict_dbCache : (s.evict id).dbCache = Function.update s.dbCache id none := rfl

/-- An entry cached after a put is the one put, or one that was cached before. -/
theorem cachePut_cached {v v' : CacheValue} {id' : ID} (cached : (s.cachePut id v).dbCache id' = some v') :
    (id' = id ∧ v' = v) ∨ s.dbCache id' = some v' := by
  by_cases same : id' = id
  · subst same
    rw [cachePut_dbCache, Function.update_same, Option.some.injEq] at cached
    exact .inl ⟨rfl, cached.symm⟩
  · rw [cachePut_dbCache, Function.update_noteq same] at cached
    exact .inr cached

/-- An entry still cached after an eviction was cached before it. -/
theorem evict_cached {v : CacheValue} {id' : ID} (cached : (s.evict id).dbCache id' = some v) :
    s.dbCache id' = some v := by
  -- Only the evicted entry changed, and it is now empty.
  by_cases same : id' = id
  · subst same
    rw [evict_dbCache, Function.update_same] at cached
    cases cached
  · rwa [evict_dbCache, Function.update_noteq same] at cached

/-- `SetStatus` caches the status under its ID, whatever it writes to the database. -/
@[simp] theorem setStatus_dbCache (status : Status) :
    (s.setStatus id status).dbCache = Function.update s.dbCache id (some (.status status)) := by
  unfold setStatus; split <;> rfl

/-- `SetStatus` writes only its own key: nothing for `Unknown`, else the packed status. -/
theorem setStatus_db (status : Status) :
    (s.setStatus id status).db = Function.update s.db id.bytes
      (if status = .unknown then none else some (packStatus status)) := by
  unfold setStatus; split <;> simp_all [dbDelete, dbPut]

/-- `SetEdge` caches the frontier under its ID, whatever it writes to the database. -/
@[simp] theorem setEdge_dbCache (frontier : Slice ID) :
    (s.setEdge id frontier).dbCache = Function.update s.dbCache id (some (.edge frontier)) := by
  unfold setEdge; split <;> rfl

/-- `SetEdge` writes only its own key: nothing for an empty frontier, else the packed one. -/
theorem setEdge_db (frontier : Slice ID) :
    (s.setEdge id frontier).db = Function.update s.db id.bytes
      (if frontier.toList.length = 0 then none else some (packEdge frontier.toList)) := by
  unfold setEdge; split <;> simp_all [dbDelete, dbPut]

end State

/-- One step of a trace on the store: a call, or the cache dropping an entry. -/
inductive Event
  | setStatus (id : ID) (status : Status)
  | setEdge (id : ID) (frontier : Slice ID)
  | status (id : ID)
  | edge (id : ID)
  | evict (id : ID)

/-- What a step answers: nothing for a write or an eviction, a status, or the IDs of a frontier. -/
inductive Answer
  | none
  | status (status : Status)
  | edge (frontier : List ID)
deriving DecidableEq

/-- The namespace an ID is used in: statuses or edges. -/
inductive Kind
  | status
  | edge
deriving DecidableEq

/-- An event uses its ID in the namespace `kind` gives it, and writes fewer than 2^32 IDs. -/
def Event.WellFormed (kind : ID → Kind) : Event → Prop
  | .setStatus id _ => kind id = .status
  | .setEdge id frontier => kind id = .edge ∧ frontier.toList.length < 2 ^ 32
  | .status id => kind id = .status
  | .edge id => kind id = .edge
  | .evict _ => True

namespace State

/-- One step of the store, with what the caller is answered. -/
def step (s : State) : Event → State × Answer
  | .setStatus id status => (s.setStatus id status, .none)
  | .setEdge id frontier => (s.setEdge id frontier, .none)
  | .status id => ((s.status id).1, .status (s.status id).2)
  | .edge id => ((s.edge id).1, .edge (s.edge id).2.toList)
  | .evict id => (s.evict id, .none)

/-- The store after a trace, with the answers it gave. -/
def run (s : State) : List Event → State × List Answer
  | [] => (s, [])
  | e :: rest => ((s.step e).1.run rest).map id ((s.step e).2 :: ·)

end State

/-- What the store is for: the status and the frontier last written under each ID. -/
structure Contents where
  statuses : ID → Status
  edges : ID → List ID

namespace Contents

/-- Nothing written yet: every status `Unknown`, every frontier empty. -/
def empty : Contents := ⟨fun _ => .unknown, fun _ => []⟩

/-- A write replaces what is held under its ID; a read answers it; an eviction is invisible. -/
def step (c : Contents) : Event → Contents × Answer
  | .setStatus id status => ({ c with statuses := Function.update c.statuses id status }, .none)
  | .setEdge id frontier => ({ c with edges := Function.update c.edges id frontier.toList }, .none)
  | .status id => (c, .status (c.statuses id))
  | .edge id => (c, .edge (c.edges id))
  | .evict _ => (c, .none)

/-- The contents after a trace, with the answers they gave. -/
def run (c : Contents) : List Event → Contents × List Answer
  | [] => (c, [])
  | e :: rest => ((c.step e).1.run rest).map id ((c.step e).2 :: ·)

end Contents

/--
The store holds `c`: its database decodes to `c`, and every cached value reads as `c` does.

This is the agreement between a read served from the cache and one decoded from the database.
-/
structure Holds (kind : ID → Kind) (s : State) (c : Contents) : Prop where
  db_status : ∀ id, kind id = .status →
    ((s.db id.bytes).bind parseStatus).getD .unknown = c.statuses id
  db_edge : ∀ id, kind id = .edge → ((s.db id.bytes).bind parseEdge).getD [] = c.edges id
  cache_status : ∀ id v, kind id = .status → s.dbCache id = some v → v.asStatus = c.statuses id
  cache_edge : ∀ id v, kind id = .edge → s.dbCache id = some v → v.asEdge.toList = c.edges id

namespace State

variable (s : State) (id : ID)

/-- A status read either changes nothing or caches what it answers. -/
theorem status_cases :
    (s.status id).1 = s ∨ (s.status id).1 = s.cachePut id (.status (s.status id).2) := by
  -- A hit changes nothing; a miss caches what it answers.
  unfold status
  split
  · exact .inl rfl
  · split <;> exact .inr rfl

/-- An edge read either changes nothing or caches a value that reads as what it answers. -/
theorem edge_cases :
    (s.edge id).1 = s ∨ ∃ v, v.asEdge = (s.edge id).2 ∧ (s.edge id).1 = s.cachePut id v := by
  -- A hit changes nothing; a miss caches the frontier or the miss it answers.
  unfold edge
  split
  · exact .inl rfl
  · split
    · exact .inr ⟨.edge (some _), rfl, rfl⟩
    · exact .inr ⟨.nil, rfl, rfl⟩

end State

namespace Holds

variable {kind : ID → Kind} {s : State} {c : Contents} {id : ID}

/-- The empty store holds the empty contents. -/
theorem empty (kind : ID → Kind) : Holds kind State.empty Contents.empty := by
  constructor <;> simp [State.empty, Contents.empty]

/-- Distinct IDs are stored under distinct keys. -/
theorem bytes_ne {id' : ID} (other : id' ≠ id) : id'.bytes ≠ id.bytes :=
  fun same => other (ID.bytes_injective same)

/-- Caching a value that reads as the contents keeps the store holding them. -/
theorem cachePut (holds : Holds kind s c) (v : CacheValue)
    (reads_status : kind id = .status → v.asStatus = c.statuses id)
    (reads_edge : kind id = .edge → v.asEdge.toList = c.edges id) :
    Holds kind (s.cachePut id v) c where
  db_status := holds.db_status
  db_edge := holds.db_edge
  cache_status id' v' used cached := by
    rcases s.cachePut_cached id cached with ⟨rfl, rfl⟩ | old
    · exact reads_status used
    · exact holds.cache_status id' v' used old
  cache_edge id' v' used cached := by
    rcases s.cachePut_cached id cached with ⟨rfl, rfl⟩ | old
    · exact reads_edge used
    · exact holds.cache_edge id' v' used old

/-- Dropping a cache entry keeps the store holding its contents. -/
theorem evict (holds : Holds kind s c) : Holds kind (s.evict id) c where
  db_status := holds.db_status
  db_edge := holds.db_edge
  cache_status id' v' used cached := holds.cache_status id' v' used (s.evict_cached id cached)
  cache_edge id' v' used cached := holds.cache_edge id' v' used (s.evict_cached id cached)

/-- A status read answers what the contents hold. -/
theorem status_answer (holds : Holds kind s c) (used : kind id = .status) :
    (s.status id).2 = c.statuses id := by
  -- A cached value reads as the contents, and so does whatever the database decodes to.
  unfold State.status
  split
  · exact holds.cache_status id _ used ‹_›
  · have stored := holds.db_status id used
    split <;> simp_all

/-- An edge read answers the IDs the contents hold. -/
theorem edge_answer (holds : Holds kind s c) (used : kind id = .edge) :
    (s.edge id).2.toList = c.edges id := by
  -- As for a status read, with the frontier's IDs.
  unfold State.edge
  split
  · exact holds.cache_edge id _ used ‹_›
  · have stored := holds.db_edge id used
    split <;> simp_all


/-- A status read keeps the store holding its contents. -/
theorem status (holds : Holds kind s c) (used : kind id = .status) :
    Holds kind (s.status id).1 c := by
  -- Whatever the read caches is the status it answers.
  rcases State.status_cases s id with same | cached
  · rw [same]; exact holds
  · rw [cached]
    exact holds.cachePut _ (fun _ => holds.status_answer used) (by simp [used])

/-- An edge read keeps the store holding its contents. -/
theorem edge (holds : Holds kind s c) (used : kind id = .edge) : Holds kind (s.edge id).1 c := by
  -- Whatever the read caches reads as the frontier it answers.
  rcases State.edge_cases s id with same | ⟨v, reads, cached⟩
  · rw [same]; exact holds
  · rw [cached]
    exact holds.cachePut v (by simp [used]) (fun _ => reads ▸ holds.edge_answer used)

/-- `SetStatus` makes the store hold the contents with that status written. -/
theorem setStatus (holds : Holds kind s c) (used : kind id = .status) (status : Status) :
    Holds kind (s.setStatus id status) { c with statuses := Function.update c.statuses id status } where
  db_status id' used' := by
    -- Its own key decodes to the status written; every other key is untouched.
    rw [State.setStatus_db]
    by_cases same : id' = id
    · subst same
      split <;> simp_all [parseStatus_packStatus]
    · simpa [bytes_ne same, same] using holds.db_status id' used'
  db_edge id' used' := by
    have same : id' ≠ id := by rintro rfl; simp_all
    simpa [State.setStatus_db, bytes_ne same] using holds.db_edge id' used'
  cache_status id' v used' cached := by
    by_cases same : id' = id
    · subst same; simp at cached; subst cached; simp [CacheValue.asStatus]
    · simpa [same] using holds.cache_status id' v used' (by simpa [same] using cached)
  cache_edge id' v used' cached := by
    have same : id' ≠ id := by rintro rfl; simp_all
    exact holds.cache_edge id' v used' (by simpa [same] using cached)

/-- `SetEdge` of fewer than 2^32 IDs makes the store hold the contents with that frontier written. -/
theorem setEdge (holds : Holds kind s c) (used : kind id = .edge) (frontier : Slice ID)
    (small : frontier.toList.length < 2 ^ 32) :
    Holds kind (s.setEdge id frontier) { c with edges := Function.update c.edges id frontier.toList } where
  db_status id' used' := by
    have same : id' ≠ id := by rintro rfl; simp_all
    simpa [State.setEdge_db, bytes_ne same] using holds.db_status id' used'
  db_edge id' used' := by
    -- Its own key decodes to the frontier written; every other key is untouched.
    rw [State.setEdge_db]
    by_cases same : id' = id
    · subst same
      split <;> simp_all [parseEdge_packEdge]
    · simpa [bytes_ne same, same] using holds.db_edge id' used'
  cache_status id' v used' cached := by
    have same : id' ≠ id := by rintro rfl; simp_all
    exact holds.cache_status id' v used' (by simpa [same] using cached)
  cache_edge id' v used' cached := by
    by_cases same : id' = id
    · subst same; simp at cached; subst cached; simp [CacheValue.asEdge]
    · simpa [same] using holds.cache_edge id' v used' (by simpa [same] using cached)

/-- One well-formed step keeps the store holding the contents and answers as they do. -/
theorem step (holds : Holds kind s c) {e : Event} (wf : e.WellFormed kind) :
    Holds kind (s.step e).1 (c.step e).1 ∧ (s.step e).2 = (c.step e).2 := by
  -- Each event by its own lemma.
  cases e with
  | setStatus id status => exact ⟨holds.setStatus wf status, rfl⟩
  | setEdge id frontier => exact ⟨holds.setEdge wf.1 frontier wf.2, rfl⟩
  | status id => exact ⟨holds.status wf, by simp [State.step, Contents.step, holds.status_answer wf]⟩
  | edge id => exact ⟨holds.edge wf, by simp [State.step, Contents.step, holds.edge_answer wf]⟩
  | evict id => exact ⟨holds.evict, rfl⟩

end Holds

/-- A store holding some contents answers a well-formed trace as they do, and holds them after it. -/
theorem Holds.run {kind : ID → Kind} (trace : List Event) (wf : ∀ e ∈ trace, e.WellFormed kind) :
    ∀ {s c}, Holds kind s c →
      Holds kind (s.run trace).1 (c.run trace).1 ∧ (s.run trace).2 = (c.run trace).2 := by
  -- One step at a time, each keeping the invariant and giving the same answer.
  induction trace with
  | nil => exact fun holds => ⟨holds, rfl⟩
  | cons e rest ih =>
    intro s c holds
    obtain ⟨next, answer⟩ := holds.step (wf e (List.mem_cons_self e rest))
    obtain ⟨after, answers⟩ := ih (fun e' mem => wf e' (List.mem_cons_of_mem e mem)) next
    exact ⟨after, by simp [State.run, Contents.run, answer, answers]⟩

/-- Every cached value reads as what the database decodes to under the same key. -/
def CacheAgrees (kind : ID → Kind) (s : State) : Prop :=
  ∀ id v, s.dbCache id = some v →
    (kind id = .status → v.asStatus = ((s.db id.bytes).bind parseStatus).getD .unknown) ∧
    (kind id = .edge → v.asEdge.toList = ((s.db id.bytes).bind parseEdge).getD [])

/-- A store that holds any contents has its cache agree with its database. -/
theorem Holds.cacheAgrees {kind : ID → Kind} {s : State} {c : Contents} (holds : Holds kind s c) :
    CacheAgrees kind s := fun id v cached =>
  -- Both read as the contents.
  ⟨fun used => (holds.cache_status id v used cached).trans (holds.db_status id used).symm,
    fun used => (holds.cache_edge id v used cached).trans (holds.db_edge id used).symm⟩

/--
Started on an empty database, the store answers every well-formed trace, under any evictions,
as the last status and the last frontier written under each ID, and its cache agrees with its
database after it.
-/
theorem store_answers_last_writes (kind : ID → Kind) (trace : List Event)
    (wf : ∀ e ∈ trace, e.WellFormed kind) :
    (State.empty.run trace).2 = (Contents.empty.run trace).2 ∧
      CacheAgrees kind (State.empty.run trace).1 :=
  -- The empty store holds the empty contents, and the run keeps it so.
  have ran := Holds.run trace wf (Holds.empty kind)
  ⟨ran.2, ran.1.cacheAgrees⟩

/-- A frontier written, dropped from the cache, and read back from the database. -/
theorem store_answers_last_writes_evicted :
    (State.empty.run [.setEdge ID.empty (some [ID.empty]), .evict ID.empty, .edge ID.empty]).2 =
        (Contents.empty.run [.setEdge ID.empty (some [ID.empty]), .evict ID.empty, .edge ID.empty]).2 ∧
      CacheAgrees (fun _ => .edge)
        (State.empty.run [.setEdge ID.empty (some [ID.empty]), .evict ID.empty, .edge ID.empty]).1 :=
  store_answers_last_writes (fun _ => .edge) _ (by simp [Event.WellFormed])

/-- An event writes fewer than 2^32 IDs, whatever namespace its ID is used in. -/
def Event.EdgesFit : Event → Prop
  | .setEdge _ frontier => frontier.toList.length < 2 ^ 32
  | _ => True

/--
Every value in the database is one a write left there: a packed status other than `Unknown`, or
a packed non-empty frontier of fewer than 2^32 IDs.
-/
def State.Written (s : State) : Prop :=
  ∀ key b, s.db key = some b → (∃ status, status ≠ .unknown ∧ b = packStatus status) ∨
    ∃ frontier : List ID, frontier ≠ [] ∧ frontier.length < 2 ^ 32 ∧ b = packEdge frontier

namespace State

variable (s : State) (id : ID)

/-- A status read writes nothing to the database. -/
@[simp] theorem status_db : (s.status id).1.db = s.db := by
  rcases s.status_cases id with same | cached
  · rw [same]
  · rw [cached, cachePut_db]

/-- An edge read writes nothing to the database. -/
@[simp] theorem edge_db : (s.edge id).1.db = s.db := by
  rcases s.edge_cases id with same | ⟨v, -, cached⟩
  · rw [same]
  · rw [cached, cachePut_db]

/-- One step whose frontier fits keeps every stored value one a write left there. -/
theorem Written.step {s : State} (written : s.Written) {e : Event} (fits : e.EdgesFit) : (s.step e).1.Written := by
  -- A write leaves a packed value of its kind under its own key; a read or an eviction leaves the database.
  intro key b stored
  cases e with
  | setStatus id status =>
    -- Its own key gets the packed status, or nothing for `Unknown`; the others are untouched.
    rw [State.step, setStatus_db] at stored
    by_cases own : key = id.bytes
    · subst own
      rw [Function.update_same] at stored
      split at stored
      · cases stored
      · exact .inl ⟨status, ‹_›, (Option.some.inj stored).symm⟩
    · exact written key b (by rwa [Function.update_noteq own] at stored)
  | setEdge id frontier =>
    rw [State.step, setEdge_db] at stored
    by_cases own : key = id.bytes
    · subst own
      rw [Function.update_same] at stored
      split at stored
      · cases stored
      · exact .inr ⟨frontier.toList, fun empty => ‹¬_› (by rw [empty]; rfl), fits, (Option.some.inj stored).symm⟩
    · exact written key b (by rwa [Function.update_noteq own] at stored)
  | status id => exact written key b (by simpa [State.step] using stored)
  | edge id => exact written key b (by simpa [State.step] using stored)
  | evict id => exact written key b (by simpa [State.step] using stored)

/-- A run whose frontiers fit keeps every stored value one a write left there. -/
theorem Written.run {s : State} (written : s.Written) (trace : List Event) (fits : ∀ e ∈ trace, e.EdgesFit) :
    (s.run trace).1.Written := by
  -- One step at a time.
  induction trace generalizing s with
  | nil => exact written
  | cons e rest ih =>
    simpa [State.run] using ih (written.step (fits e (List.mem_cons_self e rest)))
      (fun e' mem => fits e' (List.mem_cons_of_mem e mem))

end State

/--
Started on an empty database, after any trace of writes, reads and evictions, whichever namespace
each ID is used in, with every frontier written of fewer than 2^32 IDs, every value in the
database is read back by exactly one of the two readers: as a status other than `Unknown` that
is no frontier, or as a non-empty frontier that is no status.
-/
theorem stored_values_one_kind (trace : List Event) (fits : ∀ e ∈ trace, e.EdgesFit) (key b : List UInt8)
    (stored : (State.empty.run trace).1.db key = some b) :
    (∃ status, status ≠ .unknown ∧ parseStatus b = some status ∧ parseEdge b = none) ∨
      ∃ frontier, frontier ≠ [] ∧ parseEdge b = some frontier ∧ parseStatus b = none := by
  -- The empty database holds nothing, and every write leaves a value of one kind.
  have written : State.empty.Written := fun _ _ stored => by cases stored
  rcases written.run trace fits key b stored with ⟨status, known, rfl⟩ | ⟨frontier, nonempty, small, rfl⟩
  · exact .inl ⟨status, known, parseStatus_packStatus status, parseEdge_packStatus known⟩
  · exact .inr ⟨frontier, nonempty, parseEdge_packEdge frontier small, parseStatus_packEdge nonempty⟩

/-- A status and then a frontier written under one ID: the frontier replaces the status. -/
theorem stored_values_one_kind_mixed :
    let trace : List Event := [.setStatus ID.empty 2, .setEdge ID.empty (some [ID.empty])]
    (∀ e ∈ trace, e.EdgesFit) ∧ (State.empty.run trace).1.db ID.empty.bytes = some (packEdge [ID.empty]) ∧
      ((∃ status, status ≠ .unknown ∧ parseStatus (packEdge [ID.empty]) = some status ∧
          parseEdge (packEdge [ID.empty]) = none) ∨
        ∃ frontier, frontier ≠ [] ∧ parseEdge (packEdge [ID.empty]) = some frontier ∧
          parseStatus (packEdge [ID.empty]) = none) := by
  intro trace
  have fits : ∀ e ∈ trace, e.EdgesFit := by simp [trace, Event.EdgesFit]
  have stored : (State.empty.run trace).1.db ID.empty.bytes = some (packEdge [ID.empty]) := rfl
  exact ⟨fits, stored, stored_values_one_kind trace fits _ _ stored⟩

end AvalancheGo
