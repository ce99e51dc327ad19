import AvalancheGo.Ids.ID
import Mathlib.Data.List.AList
import Mathlib.Data.Finset.Card
import Mathlib.Data.BitVec

/-! Unique bags: per-ID sets of voter indices packed in 64-bit words, and the vote counts they give. -/

namespace AvalancheGo

/-- Modelled from the spec: `ids.BitSet`, a set of indices below 64 kept as the bits of one word. -/
abbrev BitSet := BitVec 64

namespace BitSet

/-- Modelled from the spec: `BitSet.Add`, setting bit `i` (`1 << i` is zero from 64 on). -/
def add (bs : BitSet) (i : Nat) : BitSet := bs ||| (1#64 <<< i)

/-- Modelled from the spec: `BitSet.Union`. -/
def union (bs s : BitSet) : BitSet := bs ||| s

/-- Modelled from the spec: `BitSet.Difference`, the and-not `&^=`. -/
def difference (bs s : BitSet) : BitSet := bs &&& ~~~s

/-- Modelled from the spec: `BitSet.Contains`, `bs & (1 << i) != 0`. -/
def contains (bs : BitSet) (i : Nat) : Bool := bs &&& (1#64 <<< i) != 0

/-- Modelled from the spec: `BitSet.Len`, `bits.OnesCount64`, the number of bits set. -/
def len (bs : BitSet) : Nat := ((Finset.range 64).filter (fun i => bs.getLsbD i)).card

/-- The indices a word holds. -/
def toFinset (bs : BitSet) : Finset Nat := (Finset.range 64).filter (fun i => bs.getLsbD i)

/-- An index is in a word exactly when it is below 64 and its bit is set. -/
@[simp] theorem mem_toFinset (bs : BitSet) (i : Nat) : i ∈ bs.toFinset ↔ i < 64 ∧ bs.getLsbD i := by
  simp [toFinset]

/-- `Contains` tests exactly the indices the word holds. -/
theorem contains_iff (bs : BitSet) (i : Nat) : bs.contains i = true ↔ i ∈ bs.toFinset := by
  -- The mask has the single bit `i` when `i < 64`, and none otherwise.
  rw [mem_toFinset, contains, bne_iff_ne, ne_eq]
  constructor
  · intro nonzero
    by_contra missing
    apply nonzero
    apply BitVec.eq_of_getLsbD_eq
    intro j
    simp only [BitVec.getLsbD_and, BitVec.getLsbD_shiftLeft, BitVec.getLsbD_one,
      BitVec.getLsbD_zero]
    by_cases same : (j : Nat) = i
    · subst same; simp_all
    · simp; omega
  · rintro ⟨below, set⟩ zero
    have := congrArg (fun x => x.getLsbD i) zero
    simp [BitVec.getLsbD_and, BitVec.getLsbD_shiftLeft, set, below] at this

/-- The zero word holds no index. -/
@[simp] theorem toFinset_zero : BitSet.toFinset 0#64 = ∅ := by
  ext j; simp

/-- `Union` holds the indices of either word. -/
@[simp] theorem toFinset_union (bs s : BitSet) : (bs.union s).toFinset = bs.toFinset ∪ s.toFinset := by
  ext i; simp [union, BitVec.getLsbD_or]; tauto

/-- `Difference` holds the indices of the first word that the second lacks. -/
@[simp] theorem toFinset_difference (bs s : BitSet) :
    (bs.difference s).toFinset = bs.toFinset \ s.toFinset := by
  ext i; simp [difference, BitVec.getLsbD_and, BitVec.getLsbD_not]; tauto

/-- Adding an index below 64 to the empty word gives that index alone. -/
theorem toFinset_add_zero {i : Nat} (below : i < 64) : ((0 : BitSet).add i).toFinset = {i} := by
  ext j; simp [add, BitVec.getLsbD_or, BitVec.getLsbD_shiftLeft]; omega

/-- `Len` counts the indices a word holds. -/
theorem len_eq_card (bs : BitSet) : bs.len = bs.toFinset.card := rfl

end BitSet

/-- A `UniqueBag`: a map from IDs (by their bytes) to the set of voters behind each. -/
abbrev UniqueBag := AList (fun _ : ID => BitSet)

/-- Modelled from the spec: `ids.Bag`, the count of each ID and the threshold a count can meet. -/
structure Bag where
  counts : ID → Nat
  threshold : Nat

/-- Modelled from the spec: `Bag.AddCount`, adding a positive count to an ID. -/
def Bag.addCount (bag : Bag) (id : ID) (count : Nat) : Bag :=
  if count = 0 then bag else { bag with counts := Function.update bag.counts id (bag.counts id + count) }

namespace UniqueBag

/-- `GetSet`: the voters behind an ID, none when it is absent. -/
def getSet (b : UniqueBag) (id : ID) : BitSet := (b.lookup id).getD 0

/-- `UnionSet`: add voters to an ID. -/
def unionSet (b : UniqueBag) (id : ID) (set : BitSet) : UniqueBag :=
  b.insert id ((b.getSet id).union set)

/-- `DifferenceSet`: remove voters from an ID, recording it even when it was absent. -/
def differenceSet (b : UniqueBag) (id : ID) (set : BitSet) : UniqueBag :=
  b.insert id ((b.getSet id).difference set)

/-- `Add`: voter `setID` votes for each listed ID. -/
def add (b : UniqueBag) (setID : Nat) (idSet : List ID) : UniqueBag :=
  let bs := (0 : BitSet).add setID
  idSet.foldl (fun b id => b.unionSet id bs) b

/-- The body of `Difference`'s loop: an entry less the voters `diff` has for its ID, if any. -/
def differenceEntry (diff : UniqueBag) (key : ID) (previousSet : BitSet) : BitSet :=
  match diff.lookup key with
  | some previousSetDiff => previousSet.difference previousSetDiff
  | none => previousSet

/-- `Difference`: for each ID of the bag, remove the voters `diff` has for it. -/
def difference (b diff : UniqueBag) : UniqueBag :=
  b.foldl (fun b key previousSet => b.insert key (differenceEntry diff key previousSet)) b

/-- `RemoveSet`. -/
def removeSet (b : UniqueBag) (id : ID) : UniqueBag := b.erase id

/-- `List`: the IDs of the bag. -/
def list (b : UniqueBag) : List ID := b.keys

/-- `Bag(alpha)`: a bag with threshold `alpha` counting, for each ID, its number of voters. -/
def bag (b : UniqueBag) (alpha : Nat) : Bag :=
  b.foldl (fun bag id bs => bag.addCount id bs.len) ⟨fun _ => 0, alpha⟩

end UniqueBag

/-- Adding a count to one ID adds it to that ID's count alone. -/
@[simp] theorem Bag.addCount_counts (bag : Bag) (key id : ID) (count : Nat) :
    (bag.addCount key count).counts id = bag.counts id + if id = key then count else 0 := by
  -- Only the key's count moves.
  unfold Bag.addCount
  split
  · simp_all
  · by_cases same : id = key
    · subst same; simp
    · simp [same]

namespace UniqueBag


/-- Reassigning every entry of a map through `f` sends each key's value through `f`. -/
theorem foldl_insert_lookup (f : ID → BitSet → BitSet) (m acc : UniqueBag) (id : ID) :
    (m.foldl (fun acc key v => acc.insert key (f key v)) acc).lookup id =
      if id ∈ m then (m.lookup id).map (f id) else acc.lookup id := by
  -- The loop runs over the entries, whose keys are distinct.
  have general : ∀ (l : List (Sigma fun _ : ID => BitSet)), l.NodupKeys → ∀ acc : UniqueBag,
      (l.foldl (fun acc e => acc.insert e.1 (f e.1 e.2)) acc).lookup id =
        if id ∈ l.keys then (l.dlookup id).map (f id) else acc.lookup id := by
    intro l
    induction l with
    | nil => simp
    | cons e rest ih =>
      rcases e with ⟨key, v⟩
      intro nodup acc
      obtain ⟨fresh, distinct⟩ := List.nodupKeys_cons.1 nodup
      rw [List.foldl_cons, ih distinct]
      by_cases same : id = key
      · subst same; simp [fresh, AList.lookup_insert]
      · simp [same, AList.lookup_insert_ne same, List.dlookup_cons_ne rest ⟨key, v⟩ same]
  simpa only [AList.foldl, AList.lookup, AList.mem_keys, AList.keys] using
    general m.entries m.nodupKeys acc

/-- Counting every entry of a map adds to each key's count the number of voters it holds. -/
theorem foldl_addCount (m : UniqueBag) (bag : Bag) (id : ID) :
    (m.foldl (fun bag key bs => bag.addCount key bs.len) bag).counts id =
      bag.counts id + ((m.lookup id).map BitSet.len).getD 0 := by
  -- Each ID's count collects the size of its own set, once.
  have general : ∀ (l : List (Sigma fun _ : ID => BitSet)), l.NodupKeys → ∀ bag : Bag,
      (l.foldl (fun bag e => bag.addCount e.1 e.2.len) bag).counts id =
        bag.counts id + ((l.dlookup id).map BitSet.len).getD 0 := by
    intro l
    induction l with
    | nil => simp
    | cons e rest ih =>
      rcases e with ⟨key, v⟩
      intro nodup bag
      obtain ⟨fresh, distinct⟩ := List.nodupKeys_cons.1 nodup
      rw [List.foldl_cons, ih distinct]
      by_cases same : id = key
      · subst same; simp [List.dlookup_eq_none.2 fresh]
      · simp [same, List.dlookup_cons_ne rest ⟨key, v⟩ same]
  simpa only [AList.foldl, AList.lookup] using general m.entries m.nodupKeys bag

/-- The empty bag holds the zero word under every ID. -/
@[simp] theorem getSet_empty (id : ID) : getSet ∅ id = 0#64 := rfl

/-- Storing a word under a key replaces that key's word and no other. -/
theorem getSet_insert (b : UniqueBag) (key id : ID) (bs : BitSet) :
    getSet (b.insert key bs) id = if id = key then bs else b.getSet id := by
  by_cases same : id = key
  · subst same; simp [getSet, AList.lookup_insert]
  · simp [getSet, AList.lookup_insert_ne same, same]

/-- `UnionSet` joins the set into the key's word and leaves the others. -/
@[simp] theorem getSet_unionSet (b : UniqueBag) (key id : ID) (set : BitSet) :
    (b.unionSet key set).getSet id = if id = key then (b.getSet key).union set else b.getSet id := by
  simp [unionSet, getSet_insert]

/-- `DifferenceSet` takes the set out of the key's word and leaves the others. -/
@[simp] theorem getSet_differenceSet (b : UniqueBag) (key id : ID) (set : BitSet) :
    (b.differenceSet key set).getSet id =
      if id = key then (b.getSet key).difference set else b.getSet id := by
  simp [differenceSet, getSet_insert]

/-- `RemoveSet` empties the key's word and leaves the others. -/
@[simp] theorem getSet_removeSet (b : UniqueBag) (key id : ID) :
    (b.removeSet key).getSet id = if id = key then 0 else b.getSet id := by
  by_cases same : id = key
  · subst same; simp [removeSet, getSet, AList.lookup_erase]
  · simp [removeSet, getSet, AList.lookup_erase_ne same, same]

/-- After `Add`, each listed ID holds the new voter too, and every other ID is unchanged. -/
theorem getSet_add (setID : Nat) (idSet : List ID) :
    ∀ (b : UniqueBag) id, ((b.add setID idSet).getSet id).toFinset =
      if id ∈ idSet then (b.getSet id).toFinset ∪ ((0 : BitSet).add setID).toFinset
      else (b.getSet id).toFinset := by
  -- The set index is added to each ID of the list, one at a time.
  induction idSet with
  | nil => simp [add]
  | cons key rest ih =>
    intro b id
    have step := ih (b.unionSet key ((0 : BitSet).add setID)) id
    simp only [add, List.foldl_cons] at step ⊢
    rw [step]
    by_cases same : id = key
    · subst same; by_cases again : id ∈ rest <;> simp [again]
    · simp [same]

/-- After `Difference`, each ID holds its voters less those `diff` has for it. -/
theorem getSet_difference (b diff : UniqueBag) (id : ID) :
    ((b.difference diff).getSet id).toFinset = (b.getSet id).toFinset \ (diff.getSet id).toFinset := by
  -- The loop reassigns each key of the bag once, from the value it held before.
  simp only [difference, getSet, foldl_insert_lookup]
  by_cases mem : id ∈ b
  · obtain ⟨bs, found⟩ := Option.isSome_iff_exists.1 (AList.lookup_isSome.2 mem)
    rw [if_pos mem, found]
    cases changed : diff.lookup id <;> simp [differenceEntry, changed]
  · simp [mem, AList.lookup_eq_none.2 mem]

/-- `Bag(alpha)` counts each ID's voters. -/
theorem bag_counts (b : UniqueBag) (alpha : Nat) (id : ID) :
    (b.bag alpha).counts id = (b.getSet id).toFinset.card := by
  rw [bag, foldl_addCount]
  cases found : b.lookup id <;> simp [getSet, BitSet.len_eq_card, found]

end UniqueBag

/-- A call that changes a unique bag. -/
inductive BagCall
  | add (setID : Nat) (idSet : List ID)
  | unionSet (id : ID) (set : BitSet)
  | differenceSet (id : ID) (set : BitSet)
  | difference (diff : UniqueBag)
  | removeSet (id : ID)

/-- Every `Add` names a voter index below 64, the width of the word. -/
def BagCall.IndexFits : BagCall → Prop
  | .add setID _ => setID < 64
  | _ => True

namespace UniqueBag

/-- The bag after one call. -/
def call (b : UniqueBag) : BagCall → UniqueBag
  | .add setID idSet => b.add setID idSet
  | .unionSet id set => b.unionSet id set
  | .differenceSet id set => b.differenceSet id set
  | .difference diff => b.difference diff
  | .removeSet id => b.removeSet id

/-- The bag after a sequence of calls. -/
def run (b : UniqueBag) (calls : List BagCall) : UniqueBag := calls.foldl call b

end UniqueBag

/-- What a unique bag is for: the finite set of voters behind each ID. -/
abbrev Votes := ID → Finset Nat

namespace Votes

/-- The votes after one call: `Add` inserts, the set calls unite or subtract, `RemoveSet` empties. -/
def call (m : Votes) : BagCall → Votes
  | .add setID idSet => fun id => if id ∈ idSet then insert setID (m id) else m id
  | .unionSet id set => Function.update m id (m id ∪ set.toFinset)
  | .differenceSet id set => Function.update m id (m id \ set.toFinset)
  | .difference diff => fun id => m id \ (diff.getSet id).toFinset
  | .removeSet id => Function.update m id ∅

/-- The votes after a sequence of calls. -/
def run (m : Votes) (calls : List BagCall) : Votes := calls.foldl call m

end Votes

/-- One call on a bag whose words hold the votes keeps them holding the votes after the call. -/
theorem UniqueBag.call_toFinset {b : UniqueBag} {m : Votes} (holds : ∀ id, (b.getSet id).toFinset = m id)
    {c : BagCall} (fits : c.IndexFits) (id : ID) :
    ((b.call c).getSet id).toFinset = m.call c id := by
  -- Each call acts on the words as the votes act on the sets.
  cases c with
  | add setID idSet =>
    rw [call, getSet_add, BitSet.toFinset_add_zero fits]
    by_cases listed : id ∈ idSet <;> simp [Votes.call, listed, holds, Finset.insert_eq, Finset.union_comm]
  | difference diff => simp [call, Votes.call, getSet_difference, holds]
  | unionSet key set | differenceSet key set | removeSet key =>
    -- Only the entry of `key` changes, on both sides.
    by_cases same : id = key
    · subst same; simp [call, Votes.call, holds]
    · simp [call, Votes.call, same, holds]

/--
From the empty bag, after any calls whose `Add`s name voters below 64, `GetSet(id)` contains a
voter exactly when the abstract votes of `id` do, and `Bag(alpha)` counts the votes of each ID.
-/
theorem uniqueBag_refines_votes (calls : List BagCall) (fits : ∀ c ∈ calls, c.IndexFits) :
    (∀ id setID, (((∅ : UniqueBag).run calls).getSet id).contains setID = true ↔
      setID ∈ Votes.run (fun _ => ∅) calls id) ∧
    ∀ alpha id, (((∅ : UniqueBag).run calls).bag alpha).counts id =
      (Votes.run (fun _ => ∅) calls id).card := by
  -- Each call keeps the words holding the votes, starting from nothing on either side.
  have holds : ∀ (calls : List BagCall), (∀ c ∈ calls, c.IndexFits) → ∀ (b : UniqueBag) (m : Votes),
      (∀ id, (b.getSet id).toFinset = m id) → ∀ id, ((b.run calls).getSet id).toFinset = m.run calls id := by
    intro calls
    induction calls with
    | nil => exact fun _ _ _ holds => holds
    | cons c rest ih =>
      intro fits b m holds
      exact ih (fun c' mem => fits c' (List.mem_cons_of_mem c mem)) (b.call c) (m.call c)
        (UniqueBag.call_toFinset holds (fits c (List.mem_cons_self c rest)))
  have ran := holds calls fits ∅ (fun _ => ∅) (by simp)
  exact ⟨fun id setID => by rw [BitSet.contains_iff, ran], fun alpha id => by
    rw [UniqueBag.bag_counts, ran]⟩

/-- The same voter added twice for one ID, listed twice, is counted once. -/
theorem uniqueBag_refines_votes_repeated :
    (∀ c ∈ [BagCall.add 3 [ID.empty, ID.empty], BagCall.add 3 [ID.empty]], c.IndexFits) ∧
      ((((∅ : UniqueBag).run [.add 3 [ID.empty, ID.empty], .add 3 [ID.empty]]).bag 1).counts ID.empty =
        (Votes.run (fun _ => ∅) [.add 3 [ID.empty, ID.empty], .add 3 [ID.empty]] ID.empty).card) :=
  have fits : ∀ c ∈ [BagCall.add 3 [ID.empty, ID.empty], BagCall.add 3 [ID.empty]], c.IndexFits := by
    simp [BagCall.IndexFits]
  ⟨fits, (uniqueBag_refines_votes _ fits).2 1 ID.empty⟩

end AvalancheGo
