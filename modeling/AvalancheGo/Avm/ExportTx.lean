import AvalancheGo.Djtx.UTXOID
import AvalancheGo.Avm.BuildGenesis
import Mathlib.Algebra.Group.Int
import Mathlib.Data.List.Nodup
import Mathlib.Data.List.Range

/-! Exporting assets to another chain: the checks an `ExportTx` passes, and the UTXOs it writes to shared memory. -/

namespace AvalancheGo

/-- A `djtx.TransferableOutput`: the asset it carries, and the output of the extension that owns it. -/
structure TransferableOutput (Out : Type) where
  assetID : ID
  out : Out

/-- A `djtx.UTXO`: its name, its asset and its output. -/
structure UTXO (Out : Type) where
  utxoID : UTXOID
  assetID : ID
  out : Out

/-- An `atomic.Element`: the key, the value and the traits a UTXO is written to shared memory under. -/
structure Element where
  key : List UInt8
  value : List UInt8
  traits : Slice (List UInt8)

/-- An `ExportTx`: its base transaction's inputs and outputs, the chain it exports to, and the outputs it exports. -/
structure ExportTx (In Out : Type) where
  ins : List In
  outs : List (TransferableOutput Out)
  destinationChain : ID
  exportedOuts : List (TransferableOutput Out)

/-- The errors the methods of `ExportTx` return. -/
inductive ExportError
  | errNilTx
  | errWrongBlockchainID
  | errNoExportOutputs
  | errWrongAssetID
  | errIncompatibleFx
  /-- an error passed on from a call: `MetadataVerify`, `djtx.VerifyTx`, `SNLookup.SubnetID`, `getFx` or the base transaction's `SemanticVerify` -/
  | check (message : String)
deriving DecidableEq, Repr

/--
What the methods of `ExportTx` read from the VM and its context, as the answers they give:
`MetadataVerify`, `djtx.VerifyTx` on the fee and the input and output groups, the chain, subnet
and DJTX asset IDs, `SNLookup.SubnetID`, `getFx`, `verifyFxUsage`, the base transaction's
`SemanticVerify`, `ids.ID.Prefix`, `codec.Marshal` of a UTXO, `Addresses` of an addressable
output (`none` for one that is not), and `SharedMemory.Put`.
-/
structure ExportEnv (In Out : Type) where
  metadataVerify : Option String
  verifyTx : UInt64 → ID → List (List In) → List (List (TransferableOutput Out)) → Option String
  chainID : ID
  subnetID : ID
  djtxAssetID : ID
  subnetOf : ID → Except String ID
  getFx : Out → Except String Nat
  verifyFxUsage : Nat → ID → Bool
  baseSemanticVerify : Option String
  prefixed : ID → UInt64 → ID
  marshal : UTXO Out → Except String (List UInt8)
  addresses : Out → Option (List (List UInt8))
  put : ID → List Element → Option String

variable {In Out : Type}

/--
`ExportTx.SyntacticVerify`: a nil transaction, the zero destination chain and no exported outputs
are refused in turn; then the metadata is checked, and last `djtx.VerifyTx` with the inputs as
one group and the outputs and exported outputs as two.
-/
def ExportTx.syntacticVerify (env : ExportEnv In Out) (txFeeAssetID : ID) (txFee : UInt64) :
    Option (ExportTx In Out) → Option ExportError
  | none => some .errNilTx
  | some t =>
    if t.destinationChain = ID.empty then some .errWrongBlockchainID
    else if t.exportedOuts.length = 0 then some .errNoExportOutputs
    else match env.metadataVerify with
      | some err => some (.check err)
      | none => (env.verifyTx txFee txFeeAssetID [t.ins] [t.outs, t.exportedOuts]).map .check

/-- The loop of `ExportTx.SemanticVerify` over the exported outputs: a known extension, the DJTX asset, and an extension that may carry it. -/
def ExportEnv.verifyExportedOuts (env : ExportEnv In Out) : List (TransferableOutput Out) → Option ExportError
  | [] => none
  | out :: rest =>
    match env.getFx out.out with
    | .error err => some (.check err)
    | .ok fxIndex =>
      if out.assetID ≠ env.djtxAssetID then some .errWrongAssetID
      else if !env.verifyFxUsage fxIndex out.assetID then some .errIncompatibleFx
      else env.verifyExportedOuts rest

/--
`ExportTx.SemanticVerify`: the destination must be on this chain's subnet and not this chain, every
exported output must pass the loop, and then the base transaction's check decides.
-/
def ExportTx.semanticVerify (env : ExportEnv In Out) (t : ExportTx In Out) : Option ExportError :=
  match env.subnetOf t.destinationChain with
  | .error err => some (.check err)
  | .ok subnetID =>
    if env.subnetID ≠ subnetID ∨ t.destinationChain = env.chainID then some .errWrongBlockchainID
    else match env.verifyExportedOuts t.exportedOuts with
      | some err => some err
      | none => env.baseSemanticVerify.map .check

/-- The UTXOs `ExecuteWithSideEffects` makes of the exported outputs: the `i`-th has index `uint32(len(t.Outs) + i)`. -/
def ExportTx.exportedUTXOs (t : ExportTx In Out) (txID : ID) : List (UTXO Out) :=
  t.exportedOuts.enum.map fun (i, out) => ⟨⟨txID, UInt32.ofNat (t.outs.length + i)⟩, out.assetID, out.out⟩

/-- The element written for one UTXO: the `InputID` of a fresh UTXO as key, its bytes as value, its addresses as traits. -/
def ExportEnv.element (env : ExportEnv In Out) (utxo : UTXO Out) : Except String Element :=
  match env.marshal utxo with
  | .error err => .error err
  | .ok utxoBytes => .ok ⟨(utxo.utxoID.inputID env.prefixed ID.empty).2.bytes, utxoBytes, env.addresses utxo.out⟩

/-- `ExportTx.ExecuteWithSideEffects`: an element per exported UTXO, stopping at a failed marshal, then one `Put` to the destination. -/
def ExportTx.executeWithSideEffects (env : ExportEnv In Out) (t : ExportTx In Out) (txID : ID) : Option String :=
  match (t.exportedUTXOs txID).mapM env.element with
  | .error err => some err
  | .ok elems => env.put t.destinationChain elems

/-- The element of a UTXO is its marshalled bytes, keyed by the UTXO's prefixed ID, with its addresses as traits. -/
theorem element_eq (env : ExportEnv In Out) (utxo : UTXO Out) :
    env.element utxo = (env.marshal utxo).map fun value =>
      ⟨(env.prefixed utxo.utxoID.txID utxo.utxoID.outputIndex.toUInt64).bytes, value, env.addresses utxo.out⟩ := by
  -- A fresh UTXO has the zero cache, so `InputID` computes the prefix.
  unfold ExportEnv.element
  rw [UTXOID.inputID_of_cached _ _ (.inl rfl)]
  cases env.marshal utxo <;> rfl

/-- Making the elements marshals the UTXOs in turn, stopping at the first failure, and pairs each value with its UTXO's key and addresses. -/
theorem mapM_element (env : ExportEnv In Out) (utxos : List (UTXO Out)) :
    utxos.mapM env.element = (utxos.mapM env.marshal).map fun values =>
      List.zipWith (fun utxo value =>
        ⟨(env.prefixed utxo.utxoID.txID utxo.utxoID.outputIndex.toUInt64).bytes, value, env.addresses utxo.out⟩)
        utxos values := by
  -- One UTXO at a time, each element as `element_eq` builds it.
  induction utxos with
  | nil => rfl
  | cons utxo rest ih =>
    -- The head's element is its marshal, and the rest follow it.
    rw [List.mapM_cons, List.mapM_cons, element_eq, ih]
    cases env.marshal utxo <;> cases rest.mapM env.marshal <;> rfl

/-- The exported UTXOs are named by the transaction and the indices after its own outputs, as `uint32`s. -/
theorem exportedUTXOs_utxoID (t : ExportTx In Out) (txID : ID) :
    (t.exportedUTXOs txID).map UTXO.utxoID =
      (List.range t.exportedOuts.length).map fun i => ⟨txID, UInt32.ofNat (t.outs.length + i)⟩ := by
  rw [← List.enum_map_fst, ExportTx.exportedUTXOs, List.map_map, List.map_map]
  rfl

/-- A `uint32` conversion keeps the number below 2^32 and wraps it above. -/
theorem uint32_toNat_ofNat (n : Nat) : (UInt32.ofNat n).toNat = n % 2 ^ 32 := by
  simp only [UInt32.toNat, UInt32.ofNat, BitVec.toNat_ofNat]

/--
Counting on from `first` for `count` steps as `uint32`s gives distinct indices, none below `first`,
exactly when no step reaches 2^32, or there are no steps.
-/
theorem uint32_range_distinct (first count : Nat) :
    ((List.range count).map fun i => UInt32.ofNat (first + i)).Nodup ∧
        (∀ i < count, first ≤ (UInt32.ofNat (first + i)).toNat) ↔
      first + count ≤ 2 ^ 32 ∨ count = 0 := by
  -- Below 2^32 the conversion keeps each index; past it, an index wraps onto an earlier one.
  simp only [uint32_toNat_ofNat]
  constructor
  · rintro ⟨distinct, above⟩
    by_contra wraps
    push_neg at wraps
    by_cases huge : 2 ^ 32 ≤ first
    · -- The first index already wrapped below `first`.
      have := above 0 (by omega)
      omega
    · -- The index `2^32 - first` wraps to zero, so `first` is zero and the count passes 2^32.
      have zero := above (2 ^ 32 - first) (by omega)
      rw [show first + (2 ^ 32 - first) = 2 ^ 32 by omega, Nat.mod_self] at zero
      have same := List.inj_on_of_nodup_map distinct (List.mem_range.2 (show 0 < count by omega))
        (List.mem_range.2 (show 2 ^ 32 < count by omega))
        (by simp only [show first = 0 by omega]; rfl)
      omega
  · intro fits
    have small : ∀ i < count, first + i < 2 ^ 32 := fun i below => by omega
    refine ⟨List.Nodup.map_on (fun i iIn j jIn same => ?_) (List.nodup_range count), fun i below => ?_⟩
    · -- Below 2^32 the conversion keeps the index, so equal indices are equal steps.
      have := congrArg UInt32.toNat same
      simp only [uint32_toNat_ofNat, Nat.mod_eq_of_lt (small i (List.mem_range.1 iIn)),
        Nat.mod_eq_of_lt (small j (List.mem_range.1 jIn))] at this
      omega
    · rw [Nat.mod_eq_of_lt (small i below)]
      omega

/--
What an export hands `SharedMemory.Put`: when every UTXO marshals, one element per exported output,
in order, to the destination chain, keyed by the prefixed ID of the UTXO `(txID, uint32(len(Outs) + i))`,
its marshalled bytes as value and its addresses as traits; otherwise the first marshal error, with
nothing put. Those UTXO IDs are distinct and none takes an index of the transaction's own outputs
(below `len(Outs)`) exactly when the outputs number at most 2^32 in all, or none is exported;
beyond that the index wraps.
-/
theorem export_utxos_distinct (env : ExportEnv In Out) (t : ExportTx In Out) (txID : ID) :
    (∀ values, (t.exportedUTXOs txID).mapM env.marshal = .ok values →
      t.executeWithSideEffects env txID = env.put t.destinationChain
        (List.zipWith (fun utxo value =>
          ⟨(env.prefixed utxo.utxoID.txID utxo.utxoID.outputIndex.toUInt64).bytes, value, env.addresses utxo.out⟩)
          (t.exportedUTXOs txID) values)) ∧
    (∀ err, (t.exportedUTXOs txID).mapM env.marshal = .error err → t.executeWithSideEffects env txID = some err) ∧
    (((t.exportedUTXOs txID).map UTXO.utxoID).Nodup ∧
        (∀ utxo ∈ t.exportedUTXOs txID, t.outs.length ≤ utxo.utxoID.outputIndex.toNat) ↔
      t.outs.length + t.exportedOuts.length ≤ 2 ^ 32 ∨ t.exportedOuts = []) := by
  -- The elements are the marshals paired with the keys, and the names are counted in `uint32`.
  refine ⟨fun values marshalled => ?_, fun err failed => ?_, ?_⟩
  · -- Every element is built, so they are what the one `Put` receives.
    rw [ExportTx.executeWithSideEffects, mapM_element, marshalled]; rfl
  · rw [ExportTx.executeWithSideEffects, mapM_element, failed]; rfl
  · -- The names differ only in their index, so this is the fact about counting in `uint32`.
    have distinct : ((t.exportedUTXOs txID).map UTXO.utxoID).Nodup ↔
        ((List.range t.exportedOuts.length).map fun i => UInt32.ofNat (t.outs.length + i)).Nodup := by
      rw [exportedUTXOs_utxoID, show (fun i => (⟨txID, UInt32.ofNat (t.outs.length + i)⟩ : UTXOID)) =
        UTXOID.mk txID ∘ fun i => UInt32.ofNat (t.outs.length + i) from rfl, ← List.map_map]
      exact List.nodup_map_iff fun _ _ same => (UTXOID.mk.inj same).2
    have above : (∀ utxo ∈ t.exportedUTXOs txID, t.outs.length ≤ utxo.utxoID.outputIndex.toNat) ↔
        ∀ i < t.exportedOuts.length, t.outs.length ≤ (UInt32.ofNat (t.outs.length + i)).toNat := by
      rw [← List.forall_mem_map (P := fun utxoID : UTXOID => t.outs.length ≤ utxoID.outputIndex.toNat),
        exportedUTXOs_utxoID]
      simp
    rw [distinct, above, uint32_range_distinct, List.length_eq_zero]

/-- The loop passes exactly when every exported output has a known extension, the DJTX asset, and an extension that may carry it. -/
theorem verifyExportedOuts_eq_none_iff (env : ExportEnv In Out) (outs : List (TransferableOutput Out)) :
    env.verifyExportedOuts outs = none ↔ ∀ out ∈ outs, out.assetID = env.djtxAssetID ∧
      ∃ fxIndex, env.getFx out.out = .ok fxIndex ∧ env.verifyFxUsage fxIndex out.assetID = true := by
  -- One output at a time, as the loop checks them.
  induction outs with
  | nil => simp [ExportEnv.verifyExportedOuts]
  | cons out rest ih =>
    -- The head passes its three checks, and then the rest decides.
    simp only [ExportEnv.verifyExportedOuts, List.forall_mem_cons]
    cases fx : env.getFx out.out with
    | error err => simp only [reduceCtorEq, false_and, exists_const, and_false]
    | ok fxIndex =>
      by_cases asset : out.assetID = env.djtxAssetID
      · rw [asset]
        cases usage : env.verifyFxUsage fxIndex env.djtxAssetID <;>
          simp only [ne_eq, not_true_eq_false, ↓reduceIte, usage, Bool.not_false, Bool.not_true, reduceCtorEq,
            Except.ok.injEq, exists_eq_left', Bool.false_eq_true, and_false, false_and, ih, and_self, true_and]
      · simp [asset]

/--
`SemanticVerify` accepts an export exactly when its destination is a chain on this chain's subnet
other than this chain, every exported output carries DJTX under an extension that may carry it,
and the base transaction's check passes: no other asset ever leaves the chain this way.
-/
theorem export_semantic_accepts (env : ExportEnv In Out) (t : ExportTx In Out) :
    t.semanticVerify env = none ↔
      env.subnetOf t.destinationChain = .ok env.subnetID ∧ t.destinationChain ≠ env.chainID ∧
      (∀ out ∈ t.exportedOuts, out.assetID = env.djtxAssetID ∧
        ∃ fxIndex, env.getFx out.out = .ok fxIndex ∧ env.verifyFxUsage fxIndex out.assetID = true) ∧
      env.baseSemanticVerify = none := by
  -- The loop's condition is the one proved for it; the other stages each fail on their own error.
  rw [← verifyExportedOuts_eq_none_iff]
  unfold ExportTx.semanticVerify
  cases subnet : env.subnetOf t.destinationChain with
  | error err => simp
  | ok subnetID =>
    by_cases same : env.subnetID = subnetID
    · -- The chain check, then the loop, then the base check, each failing on its own error.
      subst same
      by_cases self : t.destinationChain = env.chainID <;> cases loop : env.verifyExportedOuts t.exportedOuts <;>
        cases base : env.baseSemanticVerify <;> simp [self, loop, base]
    · simp [same, Ne.symm same]

end AvalancheGo
