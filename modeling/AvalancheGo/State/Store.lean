import AvalancheGo.Wrappers.Packer
import Mathlib.Logic.Function.Basic

/-! The vertex state store: statuses and frontier edges, written through an LRU cache into a key/value database. -/

namespace AvalancheGo

/-- A `choices.Status`: a `uint32`, of which zero is `Unknown`. -/
abbrev Status := UInt32

/-- `choices.Unknown`. -/
def Status.unknown : Status := 0

/-- A value the cache holds (`interface{}`): an untyped nil for a cached miss, a status, or a frontier. -/
inductive CacheValue
  | nil
  | status (status : Status)
  | edge (frontier : Slice ID)

/-- `statusIntf.(choices.Status)`: the status held, or the zero status for any other value. -/
def CacheValue.asStatus : CacheValue → Status
  | .status held => held
  | _ => Status.unknown

/-- `frontierIntf.([]ids.ID)`: the frontier held, or the nil slice for any other value. -/
def CacheValue.asEdge : CacheValue → Slice ID
  | .edge frontier => frontier
  | _ => none

/-- The store `state`: its cache `dbCache` and its database `db`, keyed by `id.Bytes()`. -/
structure State where
  dbCache : ID → Option CacheValue
  db : List UInt8 → Option (List UInt8)

namespace State

/-- A store over an empty database with nothing cached. -/
def empty : State := ⟨fun _ => none, fun _ => none⟩

/--
`dbCache.Put`, with no bound: where a bounded cache drops its least recently used entry to make
room, that drop is an `evict` of its own.
-/
def cachePut (s : State) (id : ID) (v : CacheValue) : State :=
  { s with dbCache := Function.update s.dbCache id (some v) }

/-- `db.Put`. -/
def dbPut (s : State) (key value : List UInt8) : State :=
  { s with db := Function.update s.db key (some value) }

/-- `db.Delete`. -/
def dbDelete (s : State) (key : List UInt8) : State :=
  { s with db := Function.update s.db key none }

/-- The cache drops an entry, as the LRU may at any moment. -/
def evict (s : State) (id : ID) : State :=
  { s with dbCache := Function.update s.dbCache id none }

end State

/-- The status stored bytes hold: one `uint32` that fills them exactly. -/
def parseStatus (b : List UInt8) : Option Status :=
  let (p, status) := Packer.unpackInt { bytes := b }
  if p.offset = b.length ∧ p.errored = false then some status else none

/-- The bytes `SetStatus` stores: one `uint32` packed into a four-byte buffer. -/
def packStatus (status : Status) : List UInt8 :=
  (Packer.packInt { bytes := List.replicate intLen 0 } status).bytes

/-- The loop of `Edge`: while the count is positive and nothing has failed, read one more ID. -/
def unpackIDs : Nat → Packer → List ID → Packer × List ID
  | 0, p, frontier => (p, frontier)
  | i + 1, p, frontier =>
    if p.errored then (p, frontier)
    else
      let (p, b) := p.unpackFixedBytes hashLen
      unpackIDs i p (frontier ++ [(toID b).toOption.getD .empty])

/-- The frontier stored bytes hold: a `uint32` count and that many IDs, filling them exactly. -/
def parseEdge (b : List UInt8) : Option (List ID) :=
  let (p, count) := Packer.unpackInt { bytes := b }
  let (p, frontier) := unpackIDs count.toNat p []
  if p.offset = b.length ∧ p.errored = false then some frontier else none

/-- The bytes `SetEdge` stores: the count, then each ID, packed into a buffer of exactly their size. -/
def packEdge (frontier : List ID) : List UInt8 :=
  let p : Packer := { bytes := List.replicate (intLen + hashLen * frontier.length) 0 }
  (frontier.foldl (fun p id => p.packFixedBytes id.bytes)
    (p.packInt (UInt32.ofNat frontier.length))).bytes

namespace State

/-- `state.Status`: the cached status, else the stored one (cached), else `Unknown` (cached). -/
def status (s : State) (id : ID) : State × Status :=
  match s.dbCache id with
  | some v => (s, v.asStatus)
  | none =>
    match (s.db id.bytes).bind parseStatus with
    | some status => (s.cachePut id (.status status), status)
    | none => (s.cachePut id (.status .unknown), .unknown)

/-- `state.SetStatus`: cache first, then delete `Unknown` or store the packed status. -/
def setStatus (s : State) (id : ID) (status : Status) : State :=
  let s := s.cachePut id (.status status)
  if status = .unknown then s.dbDelete id.bytes
  else s.dbPut id.bytes (packStatus status)

/-- `state.Edge`: the cached frontier, else the stored one (cached), else nil (a cached miss). -/
def edge (s : State) (id : ID) : State × Slice ID :=
  match s.dbCache id with
  | some v => (s, v.asEdge)
  | none =>
    match (s.db id.bytes).bind parseEdge with
    | some frontier => (s.cachePut id (.edge (some frontier)), some frontier)
    | none => (s.cachePut id .nil, none)

/-- `state.SetEdge`: cache first, then delete an empty frontier or store the packed one. -/
def setEdge (s : State) (id : ID) (frontier : Slice ID) : State :=
  let s := s.cachePut id (.edge frontier)
  if frontier.toList.length = 0 then s.dbDelete id.bytes
  else s.dbPut id.bytes (packEdge frontier.toList)

end State

/-- The bytes `SetStatus` stores are the status as a big-endian word, filling the four-byte buffer. -/
theorem packStatus_eq (status : Status) : packStatus status = putUint32 status := by
  simpa [packStatus, Packer.packInt] using
    congrArg Packer.bytes (Packer.packFixedBytes_pad [] (putUint32 status) intLen le_rfl)

/-- A status packed by `SetStatus` parses back as itself. -/
theorem parseStatus_packStatus (status : Status) : parseStatus (packStatus status) = some status := by
  -- Reading the word takes exactly the four bytes it was written to.
  rw [packStatus_eq, parseStatus, Packer.unpackInt_fits _ _ (by simp)]
  simpa using beUint32_putUint32 status []

/-- Stored bytes parse as a status exactly when there are four of them, and then as the word they hold. -/
theorem parseStatus_eq_some_iff (b : List UInt8) (status : Status) :
    parseStatus b = some status ↔ b.length = intLen ∧ status = beUint32 b := by
  -- A word reads exactly when four bytes are there, and fills them exactly when there are four.
  by_cases long : intLen ≤ b.length
  · simp [parseStatus, Packer.unpackInt_fits b 0 long, eq_comm]
  · simp [parseStatus, Packer.unpackInt_short b 0 (by omega), Packer.errored]
    omega

/-- The status bytes the store accepts are exactly those `SetStatus` packs. -/
theorem parseStatus_iff_packStatus (b : List UInt8) (status : Status) :
    parseStatus b = some status ↔ b = packStatus status := by
  -- Four bytes are the word they hold, written back.
  rw [parseStatus_eq_some_iff, packStatus_eq]
  constructor
  · rintro ⟨four, rfl⟩
    rw [putUint32_beUint32 b four.ge, List.take_of_length_le four.le]
  · rintro rfl
    exact ⟨rfl, by simpa using (beUint32_putUint32 status []).symm⟩

/-- Packing each ID of a frontier into zero padding lays their bytes down one after another. -/
theorem foldl_packFixedBytes_pad (frontier : List ID) (done : List UInt8) (k : Nat)
    (fits : hashLen * frontier.length ≤ k) :
    frontier.foldl (fun (p : Packer) (id : ID) => p.packFixedBytes id.bytes)
        ⟨done ++ List.replicate k 0, done.length, none⟩
      = ⟨done ++ frontier.flatMap ID.bytes ++ List.replicate (k - hashLen * frontier.length) 0,
          (done ++ frontier.flatMap ID.bytes).length, none⟩ := by
  -- One ID at a time into the padding.
  induction frontier generalizing done k with
  | nil => simp
  | cons id rest ih =>
    -- The first ID fills its own thirty-two bytes of padding, and the rest follow it.
    have sizes : hashLen * (id :: rest).length = hashLen + hashLen * rest.length := by
      simp only [List.length_cons]; ring
    have first : id.bytes.length ≤ k := by rw [id.length_bytes]; omega
    rw [List.foldl_cons, Packer.packFixedBytes_pad _ _ _ first, id.length_bytes,
      ih _ _ (by omega), sizes]
    simp only [List.flatMap_cons, List.append_assoc, List.length_append, Nat.sub_sub]

/-- A frontier packed by `SetEdge` is its count followed by the bytes of each ID in order. -/
theorem packEdge_eq (frontier : List ID) :
    packEdge frontier = putUint32 (UInt32.ofNat frontier.length) ++ frontier.flatMap ID.bytes := by
  -- The count goes first into the padding, then each ID after it, leaving no padding over.
  have count := Packer.packFixedBytes_pad [] (putUint32 (UInt32.ofNat frontier.length))
    (intLen + hashLen * frontier.length) (by simp)
  have ids := foldl_packFixedBytes_pad frontier (putUint32 (UInt32.ofNat frontier.length)) _ le_rfl
  simp only [List.nil_append, List.length_nil, putUint32_length, Nat.add_sub_cancel_left] at count ids
  simp [packEdge, Packer.packInt, count, ids]

/-- Once the packer has failed, the loop reads nothing more. -/
theorem unpackIDs_errored (i : Nat) {p : Packer} (failed : p.errored = true) (acc : List ID) :
    unpackIDs i p acc = (p, acc) := by
  cases i with
  | zero => rfl
  | succ i => simp [unpackIDs, failed]

/-- Reading IDs whose bytes fit takes exactly those bytes, as IDs in order, and moves past them. -/
theorem unpackIDs_fits (b : List UInt8) (i offset : Nat) (fits : offset + hashLen * i ≤ b.length)
    (acc : List ID) :
    ∃ frontier : List ID, frontier.length = i ∧ frontier.flatMap ID.bytes = (b.drop offset).take (hashLen * i) ∧
      unpackIDs i ⟨b, offset, none⟩ acc = (⟨b, offset + hashLen * i, none⟩, acc ++ frontier) := by
  -- One ID at a time, each read from the thirty-two bytes at the offset.
  induction i generalizing offset acc with
  | zero => exact ⟨[], rfl, by simp, by simp [unpackIDs]⟩
  | succ i ih =>
    -- The next thirty-two bytes are the next ID, and the rest are read from after them.
    have unit : hashLen * (i + 1) = hashLen + hashLen * i := by rw [Nat.mul_succ, Nat.add_comm]
    have sized : ((b.drop offset).take hashLen).length = hashLen :=
      List.length_take_of_le (by rw [List.length_drop]; omega)
    obtain ⟨rest, counted, read, loop⟩ := ih (offset + hashLen) (by omega) (acc ++ [⟨_, sized⟩])
    refine ⟨⟨_, sized⟩ :: rest, by simp [counted], ?_, ?_⟩
    · rw [List.flatMap_cons, read, unit, List.take_add, List.drop_drop]
    · simp only [unpackIDs, Packer.errored_mk, Bool.false_eq_true, if_false,
        Packer.unpackFixedBytes_fits _ _ _ (show offset + hashLen ≤ b.length by omega)]
      rw [show toID ((b.drop offset).take hashLen) = .ok ⟨_, sized⟩ from toID_bytes ⟨_, sized⟩]
      simpa [Except.toOption, unit, Nat.add_assoc] using loop

/-- Reading IDs laid down one after another returns them in order and stops at their end. -/
theorem unpackIDs_flatMap (frontier acc : List ID) (pre : List UInt8) :
    unpackIDs frontier.length ⟨pre ++ frontier.flatMap ID.bytes, pre.length, none⟩ acc
      = (⟨pre ++ frontier.flatMap ID.bytes, (pre ++ frontier.flatMap ID.bytes).length, none⟩,
          acc ++ frontier) := by
  -- The loop reads as many IDs as there are, and bytes that are IDs are those IDs.
  obtain ⟨read, -, bytes, loop⟩ :=
    unpackIDs_fits (pre ++ frontier.flatMap ID.bytes) frontier.length pre.length
      (le_of_eq (by rw [List.length_append, length_flatMap_bytes])) acc
  simp only [List.drop_left, ← length_flatMap_bytes, List.take_length] at bytes
  rw [loop, flatMap_bytes_injective bytes, List.length_append, length_flatMap_bytes]

/-- Reading more IDs than the bytes hold leaves the packer failed. -/
theorem unpackIDs_overrun (b : List UInt8) (i : Nat) {offset : Nat} (within : offset ≤ b.length)
    (over : b.length < offset + hashLen * i) (acc : List ID) :
    (unpackIDs i ⟨b, offset, none⟩ acc).1.errored = true := by
  -- Read until an ID no longer fits; that read fails.
  induction i generalizing offset acc with
  | zero => omega
  | succ i ih =>
    have unit : hashLen * (i + 1) = hashLen + hashLen * i := by rw [Nat.mul_succ, Nat.add_comm]
    by_cases room : offset + hashLen ≤ b.length
    · -- The next ID fits, and the overrun comes later.
      simp only [unpackIDs, Packer.errored_mk, Bool.false_eq_true, if_false,
        Packer.unpackFixedBytes_fits _ _ _ room]
      exact ih room (by omega) _
    · -- The next ID does not fit: the read fails and the loop stops there.
      simp only [unpackIDs, Packer.errored_mk, Bool.false_eq_true, if_false,
        Packer.unpackFixedBytes_short _ _ _ (show b.length - offset < hashLen by omega)]
      rw [unpackIDs_errored (p := ⟨b, offset, some .errBadLength⟩) _ rfl]
      rfl

/-- Bytes that are a count and then exactly that many IDs parse as those IDs, in order. -/
theorem parseEdge_of_length (b : List UInt8) (exact : b.length = intLen + hashLen * (beUint32 b).toNat) :
    ∃ frontier, frontier.length = (beUint32 b).toNat ∧ frontier.flatMap ID.bytes = b.drop intLen ∧
      parseEdge b = some frontier := by
  -- The count reads, and then the IDs fill the bytes after it exactly.
  have count := Packer.unpackInt_fits b 0 (by omega)
  obtain ⟨frontier, counted, read, loop⟩ := unpackIDs_fits b (beUint32 b).toNat intLen (by omega) []
  rw [List.take_of_length_le (by simp; omega)] at read
  exact ⟨frontier, counted, read, by simp [parseEdge, count, loop, exact]⟩

/-- Any other bytes parse as nothing: too short for the count, too short for the IDs, or longer than both. -/
theorem parseEdge_of_length_ne (b : List UInt8) (malformed : b.length ≠ intLen + hashLen * (beUint32 b).toNat) :
    parseEdge b = none := by
  -- The count, the IDs, or the end of the bytes fails to line up.
  by_cases long : intLen ≤ b.length
  · have count := Packer.unpackInt_fits b 0 (by omega)
    by_cases fits : intLen + hashLen * (beUint32 b).toNat ≤ b.length
    · -- The IDs fit with bytes to spare, so the loop stops short of the end.
      obtain ⟨frontier, -, -, loop⟩ := unpackIDs_fits b (beUint32 b).toNat intLen fits []
      simp [parseEdge, count, loop, Ne.symm malformed]
    · -- The IDs overrun the bytes, and the loop fails.
      simp [parseEdge, count, unpackIDs_overrun b (beUint32 b).toNat long (by omega) []]
  · -- The bytes are too short for the count.
    simp [parseEdge, Packer.unpackInt_short b 0 (by omega), unpackIDs, Packer.errored]

/-- A frontier of fewer than 2^32 IDs packed by `SetEdge` parses back as itself. -/
theorem parseEdge_packEdge (frontier : List ID) (small : frontier.length < 2 ^ 32) :
    parseEdge (packEdge frontier) = some frontier := by
  -- The count reads back exactly, and then exactly that many IDs fill the rest.
  have count : (UInt32.ofNat frontier.length).toNat = frontier.length :=
    UInt32.toNat_ofNat_of_lt small
  have read := unpackIDs_flatMap frontier [] (putUint32 (UInt32.ofNat frontier.length))
  simp only [putUint32_length, List.nil_append] at read
  rw [packEdge_eq, parseEdge, Packer.unpackInt_fits _ _ (by simp)]
  simp [beUint32_putUint32, count, read]

/-- The frontier bytes the store accepts are exactly those `SetEdge` packs, for fewer than 2^32 IDs. -/
theorem parseEdge_iff_packEdge (b : List UInt8) (frontier : List ID) :
    parseEdge b = some frontier ↔ frontier.length < 2 ^ 32 ∧ b = packEdge frontier := by
  -- Bytes that parse are the count and the IDs' bytes, which is what `SetEdge` packs.
  constructor
  · intro parsed
    by_cases exact : b.length = intLen + hashLen * (beUint32 b).toNat
    · -- The count is the word at the front, and the IDs are the bytes after it.
      obtain ⟨read, counted, bytes, parsed'⟩ := parseEdge_of_length b exact
      obtain rfl : read = frontier := Option.some.inj (parsed'.symm.trans parsed)
      have word : UInt32.ofNat read.length = beUint32 b :=
        UInt32.toNat.inj (by rw [counted, UInt32.toNat_ofNat_of_lt (beUint32 b).toNat_lt_size])
      refine ⟨counted ▸ (beUint32 b).toNat_lt_size, ?_⟩
      rw [packEdge_eq, word, bytes, putUint32_beUint32 b (by omega), List.take_append_drop]
    · rw [parseEdge_of_length_ne b exact] at parsed
      cases parsed
  · rintro ⟨small, rfl⟩
    exact parseEdge_packEdge frontier small

/--
The store's two formats are canonical: stored bytes read back as a status exactly when they are
the bytes `SetStatus` packs for it, and as a frontier exactly when they are the bytes `SetEdge`
packs for it, a frontier of fewer than 2^32 IDs; no other bytes are accepted as either.
-/
theorem store_formats_canonical :
    (∀ b status, parseStatus b = some status ↔ b = packStatus status) ∧
    (∀ b frontier, parseEdge b = some frontier ↔ frontier.length < 2 ^ 32 ∧ b = packEdge frontier) :=
  ⟨parseStatus_iff_packStatus, parseEdge_iff_packEdge⟩

/-- A packed status other than `Unknown` is no frontier: its count asks for more bytes than follow it. -/
theorem parseEdge_packStatus {status : Status} (known : status ≠ .unknown) : parseEdge (packStatus status) = none := by
  -- The count of a packed status asks for more IDs than follow it.
  apply parseEdge_of_length_ne
  rw [packStatus_eq, ← List.append_nil (putUint32 status), beUint32_putUint32]
  have : status.toNat ≠ 0 := fun zero => known (UInt32.toNat.inj zero)
  simp [hashLen, intLen]
  omega

/-- A packed non-empty frontier is no status: it is longer than four bytes. -/
theorem parseStatus_packEdge {frontier : List ID} (nonempty : frontier ≠ []) : parseStatus (packEdge frontier) = none :=
  Option.eq_none_iff_forall_not_mem.2 fun status parsed => by
    have four := ((parseStatus_eq_some_iff _ status).1 parsed).1
    rw [packEdge_eq, List.length_append, putUint32_length, length_flatMap_bytes] at four
    exact nonempty (List.length_eq_zero.1 (by unfold hashLen at four; omega))

/--
`Status` and `Edge` share one cache. With a status other than `Unknown` stored under an ID and
nothing cached for it, `Status` returns that status, but after an `Edge` of the same ID, which
caches a miss, `Status` returns `Unknown`; with a non-empty frontier stored, `Edge` returns it,
but after a `Status` of the same ID, which caches `Unknown`, `Edge` returns nil.
-/
theorem kinds_mask_each_other (s : State) (id : ID) (uncached : s.dbCache id = none) :
    (∀ status, status ≠ .unknown → s.db id.bytes = some (packStatus status) →
      (s.status id).2 = status ∧ ((s.edge id).1.status id).2 = .unknown) ∧
    (∀ frontier : List ID, frontier ≠ [] → frontier.length < 2 ^ 32 → s.db id.bytes = some (packEdge frontier) →
      (s.edge id).2 = some frontier ∧ ((s.status id).1.edge id).2 = none) := by
  -- Each kind's bytes are a miss for the other reader, and the miss is cached.
  refine ⟨fun status known stored => ?_, fun frontier nonempty small stored => ?_⟩
  · simp [State.status, State.edge, uncached, stored, parseStatus_packStatus, parseEdge_packStatus known,
      CacheValue.asStatus, State.cachePut]
  · simp [State.status, State.edge, uncached, stored, parseEdge_packEdge frontier small, parseStatus_packEdge nonempty,
      CacheValue.asEdge, State.cachePut]

/--
A status `2` and a one-ID frontier, each written and then dropped from the cache: each is read back
by its own reader and masked for the other one.
-/
theorem kinds_mask_each_other_evicted :
    let statusStore := (State.empty.setStatus ID.empty 2).evict ID.empty
    let edgeStore := (State.empty.setEdge ID.empty (some [ID.empty])).evict ID.empty
    (statusStore.dbCache ID.empty = none ∧ (2 : Status) ≠ .unknown ∧
      statusStore.db ID.empty.bytes = some (packStatus 2) ∧
      (statusStore.status ID.empty).2 = 2 ∧ ((statusStore.edge ID.empty).1.status ID.empty).2 = .unknown) ∧
    (edgeStore.dbCache ID.empty = none ∧ [ID.empty] ≠ [] ∧ [ID.empty].length < 2 ^ 32 ∧
      edgeStore.db ID.empty.bytes = some (packEdge [ID.empty]) ∧
      (edgeStore.edge ID.empty).2 = some [ID.empty] ∧ ((edgeStore.status ID.empty).1.edge ID.empty).2 = none) := by
  intro statusStore edgeStore
  have uncachedStatus : statusStore.dbCache ID.empty = none := by simp [statusStore, State.evict]
  have uncachedEdge : edgeStore.dbCache ID.empty = none := by simp [edgeStore, State.evict]
  have known : (2 : Status) ≠ .unknown := by decide
  have storedStatus : statusStore.db ID.empty.bytes = some (packStatus 2) := rfl
  have storedEdge : edgeStore.db ID.empty.bytes = some (packEdge [ID.empty]) := rfl
  exact ⟨⟨uncachedStatus, known, storedStatus,
      (kinds_mask_each_other statusStore ID.empty uncachedStatus).1 2 known storedStatus⟩,
    ⟨uncachedEdge, List.cons_ne_nil _ _, by decide, storedEdge,
      (kinds_mask_each_other edgeStore ID.empty uncachedEdge).2 [ID.empty] (List.cons_ne_nil _ _) (by decide) storedEdge⟩⟩

end AvalancheGo
