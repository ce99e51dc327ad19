import AvalancheGo.Ids.ID
import AvalancheGo.Utils.Sort
import Mathlib.Data.Prod.Lex

/-! UTXO identifiers, their order, and the sorted-and-unique check that rules out spending one twice. -/

namespace AvalancheGo

/-- A `UTXOID`: the transaction and the output index naming one UTXO. -/
structure UTXOID where
  txID : ID
  outputIndex : UInt32
deriving DecidableEq

/-- `InputSource`: the transaction and index the UTXO comes from. -/
def UTXOID.inputSource (utxo : UTXOID) : ID × UInt32 := (utxo.txID, utxo.outputIndex)

/-- `innerSortUTXOIDs.Less`: by transaction bytes, then by output index. -/
def innerSortUTXOIDs.less (i j : UTXOID) : Bool :=
  let c := compareBytes i.txID.bytes j.txID.bytes
  if c = -1 then true else if c = 0 then i.outputIndex < j.outputIndex else false

/-- `SortUTXOIDs`. -/
def sortUTXOIDs (utxos : List UTXOID) : List UTXOID := sortBy innerSortUTXOIDs.less utxos

/-- `IsSortedAndUniqueUTXOIDs`. -/
def isSortedAndUniqueUTXOIDs (utxos : List UTXOID) : Bool :=
  isSortedAndUnique innerSortUTXOIDs.less utxos

/-- The pair a UTXO is ordered by: its transaction's bytes, then its output index, lexicographically. -/
def UTXOID.key (utxo : UTXOID) : List Nat ×ₗ Nat :=
  toLex (utxo.txID.bytes.map UInt8.toNat, utxo.outputIndex.toNat)

/-- Output indices compare as the numbers they hold. -/
theorem uint32_lt_iff (a b : UInt32) : a < b ↔ a.toNat < b.toNat := UInt32.lt_def.trans BitVec.lt_def

/-- `Less` is the lexicographic order on the keys. -/
theorem less_iff (i j : UTXOID) : innerSortUTXOIDs.less i j = true ↔ i.key < j.key := by
  -- The transaction IDs compare byte by byte first, then the output indices.
  obtain ⟨before, same⟩ := compareBytes_spec i.txID.bytes j.txID.bytes
  have bytes_eq : i.txID.bytes.map UInt8.toNat = j.txID.bytes.map UInt8.toNat ↔ i.txID.bytes = j.txID.bytes :=
    map_toNat_injective.eq_iff
  simp only [innerSortUTXOIDs.less, UTXOID.key, Prod.Lex.lt_iff, bytes_eq, ← before, ← same, uint32_lt_iff]
  by_cases c1 : compareBytes i.txID.bytes j.txID.bytes = -1
  · simp only [c1, Int.reduceNeg, ↓reduceIte, Int.neg_eq_zero, Int.reduceEq, false_and, or_false]
  · by_cases c0 : compareBytes i.txID.bytes j.txID.bytes = 0
    · simp only [c0, Int.reduceNeg, reduceCtorEq, ↓reduceIte, decide_eq_true_eq, true_and, false_or]
    · simp only [Int.reduceNeg, c1, ↓reduceIte, c0, Bool.false_eq_true, false_and, or_self]

/-- The sorted-and-unique check holds exactly when the keys strictly increase along the list. -/
theorem isSortedAndUniqueUTXOIDs_iff (utxos : List UTXOID) :
    isSortedAndUniqueUTXOIDs utxos = true ↔ (utxos.map UTXOID.key).Chain' (· < ·) := by
  rw [isSortedAndUniqueUTXOIDs, isSortedAndUnique_iff, List.chain'_map]
  simp only [less_iff]

/-- Keys are distinct exactly when the UTXOs they order name distinct sources. -/
theorem nodup_keys_iff (utxos : List UTXOID) :
    (utxos.map UTXOID.key).Nodup ↔ (utxos.map UTXOID.inputSource).Nodup := by
  -- The key is the source read through two injective maps.
  have factors : (UTXOID.key) = (fun source : ID × UInt32 =>
      toLex (source.1.bytes.map UInt8.toNat, source.2.toNat)) ∘ UTXOID.inputSource := rfl
  rw [factors, ← List.map_map]
  refine List.nodup_map_iff fun p q same => ?_
  simp only [toLex_inj, Prod.mk.injEq] at same
  exact Prod.ext (ID.bytes_injective (map_toNat_injective same.1))
    (UInt32.toNat.inj same.2)

/-- Keys that strictly increase are distinct. -/
theorem nodup_of_chain {keys : List (List Nat ×ₗ Nat)} (chain : keys.Chain' (· < ·)) : keys.Nodup :=
  (List.chain'_iff_pairwise.1 chain).imp ne_of_lt

/--
`IsSortedAndUniqueUTXOIDs` holds exactly when the (transaction bytes, output index) pairs strictly
increase lexicographically, and then no UTXO is named twice; `SortUTXOIDs` permutes a list so
that the check passes exactly when its UTXOs are pairwise distinct.
-/
theorem utxoids_sorted_unique (utxos : List UTXOID) :
    (isSortedAndUniqueUTXOIDs utxos = true ↔ (utxos.map UTXOID.key).Chain' (· < ·)) ∧
    (isSortedAndUniqueUTXOIDs utxos = true → (utxos.map UTXOID.inputSource).Nodup) ∧
    (sortUTXOIDs utxos).Perm utxos ∧
    (isSortedAndUniqueUTXOIDs (sortUTXOIDs utxos) = true ↔ (utxos.map UTXOID.inputSource).Nodup) := by
  -- The sort orders the keys weakly; strictness is then the same as distinctness.
  have perm : (sortUTXOIDs utxos).Perm utxos := sortBy_perm _ utxos
  have sorted : ((sortUTXOIDs utxos).map UTXOID.key).Sorted (· ≤ ·) := sortBy_sorted UTXOID.key less_iff utxos
  refine ⟨isSortedAndUniqueUTXOIDs_iff utxos, fun checked => ?_, perm, ?_⟩
  · exact (nodup_keys_iff utxos).1 (nodup_of_chain ((isSortedAndUniqueUTXOIDs_iff utxos).1 checked))
  · rw [isSortedAndUniqueUTXOIDs_iff, ← nodup_keys_iff, ← (perm.map UTXOID.key).nodup_iff]
    constructor
    · exact nodup_of_chain
    · intro distinct
      exact List.chain'_iff_pairwise.2 ((sorted.and distinct).imp fun ⟨le, ne⟩ => lt_of_le_of_ne le ne)

/-- Why `UTXOID.Verify` refused. -/
inductive UTXOIDError
  | errNilUTXOID
  | errNilTxID
deriving DecidableEq, Repr

/-- `UTXOID.Verify`: a nil UTXO ID, or one naming the zero transaction, is refused. -/
def UTXOID.verify : Option UTXOID → Option UTXOIDError
  | none => some .errNilUTXOID
  | some utxo => if utxo.txID = ID.empty then some .errNilTxID else none

/--
`UTXOID.InputID`, with the unexported field `id` as its cache and `ids.ID.Prefix` given as
`prefixed`: the cached ID unless it is zero, else `TxID.Prefix(uint64(OutputIndex))`, which is
then cached; the new cache and the ID returned.
-/
def UTXOID.inputID (prefixed : ID → UInt64 → ID) (utxo : UTXOID) (cached : ID) : ID × ID :=
  if cached = ID.empty then
    let id := prefixed utxo.txID utxo.outputIndex.toUInt64
    (id, id)
  else (cached, cached)

/-- From a cache that is zero or already holds it, `InputID` returns the prefixed ID and caches it. -/
theorem UTXOID.inputID_of_cached (prefixed : ID → UInt64 → ID) (utxo : UTXOID) {cached : ID}
    (valid : cached = ID.empty ∨ cached = prefixed utxo.txID utxo.outputIndex.toUInt64) :
    utxo.inputID prefixed cached =
      (prefixed utxo.txID utxo.outputIndex.toUInt64, prefixed utxo.txID utxo.outputIndex.toUInt64) := by
  -- A non-zero cache can only be the prefixed ID itself.
  unfold inputID
  split_ifs with zero
  · rfl
  · rw [valid.resolve_left zero]

end AvalancheGo
