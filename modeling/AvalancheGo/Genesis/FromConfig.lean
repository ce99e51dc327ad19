import AvalancheGo.Avm.BuildGenesis
import Mathlib.Algebra.BigOperators.Group.List
import Mathlib.Tactic.Ring
import Mathlib.Tactic.NormNum

/-! The network's genesis from a configuration: the AVM genesis, the platform chain's arguments, and the supply counted along the way. -/

namespace AvalancheGo

/-- Modelled from the spec: `units.KiloDjtx`, a thousand DJTX of `10^9` base units each, the asset's denomination being 9. -/
def kiloDjtx : Nat := 10 ^ 12

/-- Modelled from the spec: `units.MegaDjtx`, a million DJTX. -/
def megaDjtx : Nat := 10 ^ 15

/-- `initialSupply += amount` on a `uint64`: the sum wraps past `2^64`. -/
def addUint64 (a b : Nat) : Nat := (a + b) % 2 ^ 64

/-- A genesis `Config`, with the fields `FromConfig` reads. -/
structure Config where
  networkID : BitVec 32
  mintAddresses : List String
  fundedAddresses : List String
  parsedStakerIDs : List ShortID
  evmBytes : List UInt8
  message : String

/-- The items of the DJTX asset's initial state: an `avm.Owners` or an `avm.Holder`. -/
inductive AvmState
  | owners (owners : Owners)
  | holder (holder : Holder)

/-- `EVMID`: the ID whose first bytes spell `evm`. -/
def evmID : ID := ⟨[101, 118, 109] ++ List.replicate 29 0, by decide⟩

/-- `genesisTime.Unix()`: the first of November 2019, midnight UTC. -/
def genesisTime : Nat := 1572566400

/-- `endStakingTime.Unix()`: 365 days of 24 hours after the genesis time. -/
def endStakingTime : Nat := genesisTime + 365 * 24 * 60 * 60

/--
The DJTX asset `FromConfig` defines: a variable cap to the mint addresses when there are any, and
a fixed-cap holding of `5 * MegaDjtx` for each funded address.
-/
def djtxDefinition (config : Config) : AssetDefinition AvmState :=
  ⟨"DIJETS", "DJTX", 9,
    ⟨(if config.mintAddresses.length > 0 then [("variableCap", [.owners ⟨1, config.mintAddresses⟩])] else []) ++
      (if config.fundedAddresses = [] then []
        else [("fixedCap", config.fundedAddresses.map fun addr => .holder ⟨5 * megaDjtx, addr⟩)]),
      by split_ifs <;> simp⟩⟩

/-- The AVM's arguments `FromConfig` builds, with the supply counted by then: `5 * MegaDjtx` per funded address. -/
def avmStage (config : Config) : BuildGenesisArgs AvmState × Nat :=
  (⟨⟨[("DJTX", djtxDefinition config)], by simp⟩⟩,
    config.fundedAddresses.foldl (fun initialSupply _ => addUint64 initialSupply (5 * megaDjtx)) 0)

/-- A `platformvm.APIUTXO`: an amount given at genesis to an address. -/
structure APIUTXO where
  address : String
  amount : Nat

/-- A `platformvm.APIOwner`: a threshold and the addresses that own a reward. -/
structure APIOwner where
  threshold : Nat
  addresses : List String

/-- A `platformvm.APIPrimaryValidator`; the node ID is passed as its prefixed string, here the ID itself. -/
structure APIPrimaryValidator where
  startTime : Nat
  endTime : Nat
  weight : Nat
  nodeID : ShortID
  rewardOwner : APIOwner

/-- A `platformvm.APIChain`: a chain that exists from genesis. -/
structure APIChain where
  genesisData : List UInt8
  subnetID : ID
  vmID : ID
  fxIDs : List ID
  name : String

/-- The platform chain's `BuildGenesisArgs` as `FromConfig` fills them. -/
structure PlatformArgs where
  networkID : BitVec 32
  djtxAssetID : ID
  time : Nat
  message : String
  utxos : List APIUTXO
  validators : List APIPrimaryValidator
  chains : List APIChain
  initialSupply : Nat

/--
The staker loop: a validator of `20 * KiloDjtx` for each staker, its reward to the funded address
at the staker's index modulo the number of funded addresses. Go's `%` by zero is a run-time panic,
the error here.
-/
def stakerValidators (fundedAddresses : List String) : Nat → List ShortID → Except String (List APIPrimaryValidator)
  | _, [] => .ok []
  | i, validatorID :: rest =>
    if h : fundedAddresses.length = 0 then .error "runtime error: integer divide by zero"
    else do
      let destAddr := fundedAddresses.get ⟨i % fundedAddresses.length, Nat.mod_lt _ (Nat.pos_of_ne_zero h)⟩
      let validators ← stakerValidators fundedAddresses (i + 1) rest
      pure (⟨genesisTime, endStakingTime, 20 * kiloDjtx, validatorID, ⟨1, [destAddr]⟩⟩ :: validators)

/-- What `DJTXAssetID` calls: the codec's registrations, `Unmarshal` and `Marshal`, and the hash that names a transaction. -/
structure AssetIDEnv where
  registerTypes : Option String
  unmarshalGenesis : List UInt8 → Except String Genesis
  marshalUnsigned : CreateAssetTx → Except String (List UInt8)
  marshalSigned : CreateAssetTx → Except String (List UInt8)
  computeHash256 : List UInt8 → ID

/-- `DJTXAssetID`: the ID of the AVM genesis's first transaction, the hash of its signed bytes. -/
def AssetIDEnv.djtxAssetID (env : AssetIDEnv) (avmGenesisBytes : List UInt8) : Except String ID :=
  match env.registerTypes with
  | some err => .error err
  | none => do
    let genesis ← env.unmarshalGenesis avmGenesisBytes
    match genesis.txs with
    | [] => .error "genesis creates no transactions"
    | genesisTx :: _ => do
      let _unsignedBytes ← env.marshalUnsigned genesisTx.createAssetTx
      let signedBytes ← env.marshalSigned genesisTx.createAssetTx
      pure (env.computeHash256 signedBytes)

/--
What `FromConfig` calls and does not itself define: `Config.init`, what the AVM's `BuildGenesis`
and `DJTXAssetID` call, the platform chain's `BuildGenesis`, and the IDs of the AVM, its feature
extensions and the primary network.
-/
structure GenesisCollaborators where
  init : Config → Option String
  avm : GenesisEnv AvmState
  assetID : AssetIDEnv
  platformBuildGenesis : PlatformArgs → Except String (List UInt8)
  avmID : ID
  secp256k1fxID : ID
  nftfxID : ID
  propertyfxID : ID
  primaryNetworkID : ID

/-- The errors `FromConfig` returns. -/
inductive FromConfigError
  | init (err : String)
  | avmBuildGenesis (err : BuildGenesisError)
  /-- "couldn't generate DJTX asset ID: %w" -/
  | djtxAssetID (err : String)
  /-- "problem while building platform chain's genesis state: %w" -/
  | platformBuildGenesis (err : String)

/-- How `FromConfig` ends: with the genesis bytes and DJTX's asset ID, with an error, or in a panic. -/
inductive FromConfigResult
  | ok (genesisBytes : List UInt8) (djtxAssetID : ID)
  | error (err : FromConfigError)
  | panic (message : String)

/--
The platform chain's arguments, built after the AVM genesis with the supply counted on from
`initialSupply`: a UTXO of `5 * MegaDjtx` per funded address, the staker loop, and the two chains.
-/
def GenesisCollaborators.platformStage (c : GenesisCollaborators) (config : Config) (avmBytes : List UInt8)
    (djtxAssetID : ID) (initialSupply : Nat) : Except String PlatformArgs := do
  let utxos := config.fundedAddresses.map fun addr => ⟨addr, 5 * megaDjtx⟩
  let initialSupply := config.fundedAddresses.foldl (fun supply _ => addUint64 supply (5 * megaDjtx)) initialSupply
  let validators ← stakerValidators config.fundedAddresses 0 config.parsedStakerIDs
  let initialSupply := config.parsedStakerIDs.foldl (fun supply _ => addUint64 supply (20 * kiloDjtx)) initialSupply
  pure ⟨config.networkID, djtxAssetID, genesisTime, config.message, utxos, validators,
    [⟨avmBytes, c.primaryNetworkID, c.avmID, [c.secp256k1fxID, c.nftfxID, c.propertyfxID], "X-Chain"⟩,
      ⟨config.evmBytes, c.primaryNetworkID, evmID, [], "C-Chain"⟩],
    initialSupply⟩

/--
What `FromConfig` does once it has the AVM genesis and DJTX's asset ID: build the platform chain's
arguments, then its genesis, returning the arguments it passes; their supply is what it stores in
`platformvm.InitialSupply` just before the call.
-/
def GenesisCollaborators.finishGenesis (c : GenesisCollaborators) (config : Config) (avmBytes : List UInt8)
    (djtxAssetID : ID) : FromConfigResult × Option PlatformArgs :=
  match c.platformStage config avmBytes djtxAssetID (avmStage config).2 with
  | .error message => (.panic message, none)
  | .ok platformArgs =>
    match c.platformBuildGenesis platformArgs with
    | .error err => (.error (.platformBuildGenesis err), some platformArgs)
    | .ok bytes => (.ok bytes djtxAssetID, some platformArgs)

/--
`FromConfig`, with the arguments it passes to the platform chain's `BuildGenesis` when it gets that
far: check the configuration, build the AVM genesis and read DJTX's asset ID from it, then finish.
-/
def GenesisCollaborators.fromConfig (c : GenesisCollaborators) (config : Config) :
    FromConfigResult × Option PlatformArgs :=
  match c.init config with
  | some err => (.error (.init err), none)
  | none =>
    match c.avm.buildGenesis (avmStage config).1 with
    | .error err => (.error (.avmBuildGenesis err), none)
    | .ok avmBytes =>
      match c.assetID.djtxAssetID avmBytes with
      | .error err => (.error (.djtxAssetID err), none)
      | .ok djtxAssetID => c.finishGenesis config avmBytes djtxAssetID

/-- The amounts the fixed-cap holders of an AVM genesis hold, summed exactly. -/
def fixedCapTotal (args : BuildGenesisArgs AvmState) : Nat :=
  ((args.genesisData.entries.flatMap fun asset => asset.2.initialState.entries.flatMap fun state =>
    if state.1 = "fixedCap" then state.2 else []).map fun
      | .holder holder => holder.amount
      | .owners _ => 0).sum

/-- A list of one amount per element sums to that many times the amount. -/
theorem sum_map_const {α : Type} (l : List α) (c : Nat) : (l.map fun _ => c).sum = l.length * c := by
  rw [List.map_const', List.sum_const_nat]

/-- The AVM genesis `FromConfig` asks for holds `5 * MegaDjtx` per funded address. -/
theorem fixedCapTotal_avmStage (config : Config) :
    fixedCapTotal (avmStage config).1 = config.fundedAddresses.length * (5 * megaDjtx) := by
  unfold fixedCapTotal avmStage djtxDefinition
  split_ifs <;> simp_all [sum_map_const, Function.comp_def, List.sum_const_nat]

/-- With a funded address the staker loop gives a validator of `20 * KiloDjtx` per staker. -/
theorem stakerValidators_ok {fundedAddresses : List String} (funded : fundedAddresses ≠ []) (i : Nat)
    (ids : List ShortID) : ∃ validators, stakerValidators fundedAddresses i ids = .ok validators ∧
      validators.map APIPrimaryValidator.weight = ids.map fun _ => 20 * kiloDjtx := by
  -- With a funded address the index modulo their number is in range, so each staker gets a validator.
  induction ids generalizing i with
  | nil => exact ⟨[], rfl, rfl⟩
  | cons id rest ih =>
    obtain ⟨validators, loop, weights⟩ := ih (i + 1)
    have nonzero : fundedAddresses.length ≠ 0 := by simpa using funded
    exact ⟨_, by rw [stakerValidators, dif_neg nonzero, loop]; rfl, by simp [weights]⟩

/-- Adding an amount once per element to a `uint64` gives the exact total, wrapped. -/
theorem foldl_addUint64 {α : Type} (l : List α) (amount : Nat) {start : Nat} (small : start < 2 ^ 64) :
    l.foldl (fun supply _ => addUint64 supply amount) start = (start + l.length * amount) % 2 ^ 64 := by
  -- Each wrapped addition keeps the running total the exact one, wrapped.
  induction l generalizing start with
  | nil => rw [List.foldl_nil, List.length_nil, Nat.zero_mul, Nat.add_zero, Nat.mod_eq_of_lt small]
  | cons _ rest ih =>
    rw [List.foldl_cons, ih (show addUint64 start amount < 2 ^ 64 from Nat.mod_lt _ (Nat.two_pow_pos 64)),
      addUint64, Nat.mod_add_mod, List.length_cons, Nat.succ_mul, Nat.add_assoc, Nat.add_comm amount]

/--
With a funded address, or no staker, the platform stage succeeds: a UTXO of `5 * MegaDjtx` per
funded address, a validator of `20 * KiloDjtx` per staker, and the supply counted on, wrapped.
-/
theorem platformStage_ok (c : GenesisCollaborators) (config : Config) (avmBytes : List UInt8) (djtxAssetID : ID)
    {initialSupply : Nat} (small : initialSupply < 2 ^ 64)
    (funds : config.fundedAddresses ≠ [] ∨ config.parsedStakerIDs = []) :
    ∃ args, c.platformStage config avmBytes djtxAssetID initialSupply = .ok args ∧
      args.utxos.map APIUTXO.amount = config.fundedAddresses.map (fun _ => 5 * megaDjtx) ∧
      args.validators.map APIPrimaryValidator.weight = config.parsedStakerIDs.map (fun _ => 20 * kiloDjtx) ∧
      args.initialSupply = (initialSupply + config.fundedAddresses.length * (5 * megaDjtx) +
        config.parsedStakerIDs.length * (20 * kiloDjtx)) % 2 ^ 64 := by
  -- The staker loop succeeds, and the supply counts on from the AVM stage's.
  obtain ⟨validators, loop, weights⟩ : ∃ validators,
      stakerValidators config.fundedAddresses 0 config.parsedStakerIDs = .ok validators ∧
      validators.map APIPrimaryValidator.weight = config.parsedStakerIDs.map fun _ => 20 * kiloDjtx := by
    rcases funds with funded | idle
    · exact stakerValidators_ok funded 0 _
    · exact ⟨[], by rw [idle]; rfl, by rw [idle]; rfl⟩
  refine ⟨_, by rw [GenesisCollaborators.platformStage, loop]; rfl, by simp [Function.comp_def], weights, ?_⟩
  dsimp only
  rw [foldl_addUint64 _ _ small, foldl_addUint64 _ _ (Nat.mod_lt _ (Nat.two_pow_pos 64)), Nat.mod_add_mod]

/-- Once the configuration is accepted and the AVM genesis and its asset ID are built, `FromConfig` finishes. -/
theorem fromConfig_of_ready {c : GenesisCollaborators} {config : Config} (accepted : c.init config = none)
    {avmBytes : List UInt8} (built : c.avm.buildGenesis (avmStage config).1 = .ok avmBytes)
    {djtxAssetID : ID} (named : c.assetID.djtxAssetID avmBytes = .ok djtxAssetID) :
    c.fromConfig config = c.finishGenesis config avmBytes djtxAssetID := by
  simp only [GenesisCollaborators.fromConfig, accepted, built, named]

/-- `FromConfig` either stops with an error before the platform stage, or finishes. -/
theorem fromConfig_cases (c : GenesisCollaborators) (config : Config) :
    (∃ err, c.fromConfig config = (.error err, none)) ∨
      ∃ avmBytes djtxAssetID, c.init config = none ∧ c.avm.buildGenesis (avmStage config).1 = .ok avmBytes ∧
        c.assetID.djtxAssetID avmBytes = .ok djtxAssetID ∧
        c.fromConfig config = c.finishGenesis config avmBytes djtxAssetID := by
  -- Each early stage either fails with its own error or hands on to the next.
  cases accepted : c.init config with
  | some err => exact .inl ⟨.init err, by simp only [GenesisCollaborators.fromConfig, accepted]⟩
  | none =>
    cases built : c.avm.buildGenesis (avmStage config).1 with
    | error err => exact .inl ⟨.avmBuildGenesis err, by simp only [GenesisCollaborators.fromConfig, accepted, built]⟩
    | ok avmBytes =>
      cases named : c.assetID.djtxAssetID avmBytes with
      | error err =>
        exact .inl ⟨.djtxAssetID err, by simp only [GenesisCollaborators.fromConfig, accepted, built, named]⟩
      | ok djtxAssetID =>
        exact .inr ⟨avmBytes, djtxAssetID, rfl, rfl, named, fromConfig_of_ready accepted built named⟩

/-- The last stage passes arguments to the platform chain exactly when it builds them. -/
theorem finishGenesis_snd (c : GenesisCollaborators) (config : Config) (avmBytes : List UInt8) (djtxAssetID : ID)
    (args : PlatformArgs) : (c.finishGenesis config avmBytes djtxAssetID).2 = some args ↔
      c.platformStage config avmBytes djtxAssetID (avmStage config).2 = .ok args := by
  -- The arguments are passed on exactly when the platform stage builds them.
  unfold GenesisCollaborators.finishGenesis
  cases c.platformStage config avmBytes djtxAssetID (avmStage config).2 with
  | error message => simp
  | ok platformArgs => cases built : c.platformBuildGenesis platformArgs <;> simp [built]

/-- The last stage panics exactly when building the platform chain's arguments does. -/
theorem finishGenesis_fst (c : GenesisCollaborators) (config : Config) (avmBytes : List UInt8) (djtxAssetID : ID)
    (message : String) : (c.finishGenesis config avmBytes djtxAssetID).1 = .panic message ↔
      c.platformStage config avmBytes djtxAssetID (avmStage config).2 = .error message := by
  -- Only the platform stage can panic.
  unfold GenesisCollaborators.finishGenesis
  cases c.platformStage config avmBytes djtxAssetID (avmStage config).2 with
  | error message => simp
  | ok platformArgs => cases built : c.platformBuildGenesis platformArgs <;> simp [built]

/-- The supply the genesis hands out, summed exactly: the AVM's fixed-cap holdings, the platform chain's UTXOs and its validators' weights. -/
def exactSupply (avmArgs : BuildGenesisArgs AvmState) (platformArgs : PlatformArgs) : Nat :=
  fixedCapTotal avmArgs + (platformArgs.utxos.map APIUTXO.amount).sum +
    (platformArgs.validators.map APIPrimaryValidator.weight).sum

/-- The supply counted by the end of the AVM stage: `5 * MegaDjtx` per funded address, wrapped. -/
theorem avmStage_supply (config : Config) :
    (avmStage config).2 = config.fundedAddresses.length * (5 * megaDjtx) % 2 ^ 64 := by
  rw [avmStage, foldl_addUint64 _ _ (Nat.two_pow_pos 64), Nat.zero_add]

/-- With stakers and no funded address the staker loop divides by zero. -/
theorem platformStage_divides_by_zero (c : GenesisCollaborators) {config : Config}
    (unfunded : config.fundedAddresses = []) (staking : config.parsedStakerIDs ≠ []) (avmBytes : List UInt8)
    (djtxAssetID : ID) (initialSupply : Nat) :
    c.platformStage config avmBytes djtxAssetID initialSupply = .error "runtime error: integer divide by zero" := by
  obtain ⟨id, rest, ids⟩ := List.exists_cons_of_ne_nil staking
  simp only [GenesisCollaborators.platformStage, unfunded, ids]
  rfl

/-- The supply counted by the end of the AVM stage is a `uint64`. -/
theorem avmStage_supply_lt (config : Config) : (avmStage config).2 < 2 ^ 64 := by
  rw [avmStage_supply]; exact Nat.mod_lt _ (Nat.two_pow_pos 64)

/-- The platform stage fails only by dividing by zero, with stakers and no funded address. -/
theorem platformStage_error (c : GenesisCollaborators) (config : Config) (avmBytes : List UInt8) (djtxAssetID : ID)
    {initialSupply : Nat} (small : initialSupply < 2 ^ 64) {message : String}
    (failed : c.platformStage config avmBytes djtxAssetID initialSupply = .error message) :
    config.fundedAddresses = [] ∧ config.parsedStakerIDs ≠ [] ∧ message = "runtime error: integer divide by zero" := by
  -- With a funded address or no staker the stage succeeds, so a failure is the division by zero.
  by_cases funds : config.fundedAddresses ≠ [] ∨ config.parsedStakerIDs = []
  · obtain ⟨args, staged, -⟩ := platformStage_ok c config avmBytes djtxAssetID small funds
    rw [staged] at failed; cases failed
  · simp only [not_or, ne_eq, not_not] at funds
    rw [platformStage_divides_by_zero c funds.1 funds.2] at failed
    cases failed
    exact ⟨funds.1, funds.2, rfl⟩

/-- Whatever `FromConfig` passes to the platform chain carries the exact supply, wrapped to 64 bits. -/
theorem supply_of_fromConfig {c : GenesisCollaborators} {config : Config} {args : PlatformArgs}
    (reached : (c.fromConfig config).2 = some args) :
    exactSupply (avmStage config).1 args = config.fundedAddresses.length * (2 * (5 * megaDjtx)) +
      config.parsedStakerIDs.length * (20 * kiloDjtx) ∧
    args.initialSupply = exactSupply (avmStage config).1 args % 2 ^ 64 := by
  -- The arguments reached come from the platform stage, which counts on from the AVM stage's supply.
  obtain ⟨avmBytes, djtxAssetID, staged⟩ : ∃ avmBytes djtxAssetID,
      c.platformStage config avmBytes djtxAssetID (avmStage config).2 = .ok args := by
    rcases fromConfig_cases c config with ⟨err, early⟩ | ⟨avmBytes, djtxAssetID, -, -, -, finished⟩
    · rw [early] at reached; cases reached
    · rw [finished, finishGenesis_snd] at reached; exact ⟨_, _, reached⟩
  -- The stage succeeded, so it did not divide by zero.
  have funds : config.fundedAddresses ≠ [] ∨ config.parsedStakerIDs = [] := by
    by_contra stuck
    simp only [not_or, ne_eq, not_not] at stuck
    rw [platformStage_divides_by_zero c stuck.1 stuck.2] at staged; cases staged
  obtain ⟨args', staged', utxos, weights, supply⟩ :=
    platformStage_ok c config avmBytes djtxAssetID (avmStage_supply_lt config) funds
  rw [staged] at staged'
  cases staged'
  have exact : exactSupply (avmStage config).1 args = config.fundedAddresses.length * (2 * (5 * megaDjtx)) +
      config.parsedStakerIDs.length * (20 * kiloDjtx) := by
    rw [exactSupply, fixedCapTotal_avmStage, utxos, weights, sum_map_const, sum_map_const]
    ring
  refine ⟨exact, ?_⟩
  rw [supply, exact, avmStage_supply, Nat.add_assoc, Nat.mod_add_mod]
  exact congrArg (· % 2 ^ 64) (by ring)

/--
Whenever `FromConfig` reaches the platform chain's genesis, the supply it passes and stores is the
exact total handed out, `2 * 5 * MegaDjtx` per funded address and `20 * KiloDjtx` per staker, wrapped
to 64 bits.
-/
theorem fromConfig_initialSupply (c : GenesisCollaborators) (config : Config) :
    (c.fromConfig config).2.map PlatformArgs.initialSupply =
      (c.fromConfig config).2.map (fun args => exactSupply (avmStage config).1 args % 2 ^ 64) ∧
    (c.fromConfig config).2.map (exactSupply (avmStage config).1) =
      (c.fromConfig config).2.map fun _ => config.fundedAddresses.length * (2 * (5 * megaDjtx)) +
        config.parsedStakerIDs.length * (20 * kiloDjtx) := by
  -- Where the platform chain is reached, its arguments carry the exact supply, wrapped.
  cases reached : (c.fromConfig config).2 with
  | none => exact ⟨rfl, rfl⟩
  | some args =>
    obtain ⟨exact, supply⟩ := supply_of_fromConfig reached
    simp [supply, exact]

/--
`FromConfig` panics exactly when it gets past the AVM genesis with stakers and no funded address:
the staker loop then takes an index modulo zero.
-/
theorem fromConfig_panics_iff (c : GenesisCollaborators) (config : Config) (message : String) :
    (c.fromConfig config).1 = .panic message ↔
      (c.init config = none ∧ ∃ avmBytes djtxAssetID, c.avm.buildGenesis (avmStage config).1 = .ok avmBytes ∧
        c.assetID.djtxAssetID avmBytes = .ok djtxAssetID) ∧
      config.fundedAddresses = [] ∧ config.parsedStakerIDs ≠ [] ∧ message = "runtime error: integer divide by zero" := by
  -- Only the platform stage panics, and only on the division by zero.
  constructor
  · intro panicked
    rcases fromConfig_cases c config with ⟨err, early⟩ | ⟨avmBytes, djtxAssetID, accepted, built, named, finished⟩
    · rw [early] at panicked; cases panicked
    · rw [finished, finishGenesis_fst] at panicked
      -- A stage that can proceed succeeds; only the division by zero fails.
      obtain ⟨unfunded, staking, rfl⟩ :=
        platformStage_error c config avmBytes djtxAssetID (avmStage_supply_lt config) panicked
      exact ⟨⟨accepted, avmBytes, djtxAssetID, built, named⟩, unfunded, staking, rfl⟩
  · rintro ⟨⟨accepted, avmBytes, djtxAssetID, built, named⟩, unfunded, staking, rfl⟩
    rw [fromConfig_of_ready accepted built named, finishGenesis_fst]
    exact platformStage_divides_by_zero c unfunded staking _ _ _

/--
A configuration with 1845 funded addresses, each the bech32 address `local18jma8ppw3nhx5r4ap8clazz0dps7rv5u00z96u`
that `formatting.ParseBech32` reads as twenty bytes: their `1845 * 10^16` base units pass `2^64`.
-/
def overflowingConfig : Config := ⟨0, [], List.replicate 1845 "local18jma8ppw3nhx5r4ap8clazz0dps7rv5u00z96u", [], [], ""⟩

/-- A configuration with one staker and no funded address. -/
def divideByZeroConfig : Config := ⟨0, [], [], [⟨List.replicate shortIDLen 0, List.length_replicate _ _⟩], [], ""⟩

/-- Collaborators that accept every configuration and answer every call with a fixed success. -/
def stubCollaborators : GenesisCollaborators where
  init _ := none
  avm := ⟨none, fun _ => .ok [], fun _ => .ok ⟨0, ""⟩, fun _ => .ok ⟨1, []⟩, fun _ => .ok (List.replicate shortIDLen 0),
    fun _ => [], fun g => .ok (List.replicate g.txs.length 0), fun g₁ g₂ same => by
      have sizes := congrArg List.length same
      simp only [List.length_map] at sizes
      simp only [sizes]⟩
  assetID := ⟨none, fun _ => .ok ⟨[⟨"DJTX", ⟨"", "", 0, []⟩⟩]⟩, fun _ => .ok [], fun _ => .ok [], fun _ => ID.empty⟩
  platformBuildGenesis _ := .ok []
  avmID := ID.empty
  secp256k1fxID := ID.empty
  nftfxID := ID.empty
  propertyfxID := ID.empty
  primaryNetworkID := ID.empty

/--
With 1845 funded addresses, once the configuration is accepted and the AVM genesis and its asset
ID are built, `FromConfig` passes and stores a supply `2^64` short of the exact total.
-/
theorem fromConfig_supply_wraps (c : GenesisCollaborators) (accepted : c.init overflowingConfig = none)
    (avmBytes : List UInt8) (built : c.avm.buildGenesis (avmStage overflowingConfig).1 = .ok avmBytes)
    (djtxAssetID : ID) (named : c.assetID.djtxAssetID avmBytes = .ok djtxAssetID) :
    ∃ args, (c.fromConfig overflowingConfig).2 = some args ∧
      args.initialSupply + 2 ^ 64 = exactSupply (avmStage overflowingConfig).1 args := by
  -- The platform stage is reached, and the exact total passes 2^64 once.
  obtain ⟨args, staged, -⟩ := platformStage_ok c overflowingConfig avmBytes djtxAssetID
    (show (avmStage overflowingConfig).2 < 2 ^ 64 by rw [avmStage_supply]; exact Nat.mod_lt _ (Nat.two_pow_pos 64))
    (.inl (List.cons_ne_nil _ _))
  have reached : (c.fromConfig overflowingConfig).2 = some args := by
    rw [fromConfig_of_ready accepted built named, finishGenesis_snd]; exact staged
  obtain ⟨exact, supply⟩ := supply_of_fromConfig reached
  refine ⟨args, reached, ?_⟩
  rw [supply, exact]
  norm_num [overflowingConfig, megaDjtx, kiloDjtx]

set_option maxRecDepth 8000 in
/-- The stub collaborators get `FromConfig` on the overflowing configuration to the platform chain. -/
theorem fromConfig_supply_wraps_stub :
    stubCollaborators.init overflowingConfig = none ∧
    stubCollaborators.avm.buildGenesis (avmStage overflowingConfig).1 = .ok [0] ∧
    stubCollaborators.assetID.djtxAssetID [0] = .ok ID.empty ∧
    ∃ args, (stubCollaborators.fromConfig overflowingConfig).2 = some args ∧
      args.initialSupply + 2 ^ 64 = exactSupply (avmStage overflowingConfig).1 args := by
  have built : stubCollaborators.avm.buildGenesis (avmStage overflowingConfig).1 = .ok [0] := by rfl
  exact ⟨rfl, built, rfl, fromConfig_supply_wraps stubCollaborators rfl [0] built ID.empty rfl⟩

/--
With a staker and no funded address, once the configuration is accepted and the AVM genesis and its
asset ID are built, `FromConfig` panics on an integer division by zero.
-/
theorem fromConfig_divides_by_zero (c : GenesisCollaborators) (accepted : c.init divideByZeroConfig = none)
    (avmBytes : List UInt8) (built : c.avm.buildGenesis (avmStage divideByZeroConfig).1 = .ok avmBytes)
    (djtxAssetID : ID) (named : c.assetID.djtxAssetID avmBytes = .ok djtxAssetID) :
    (c.fromConfig divideByZeroConfig).1 = .panic "runtime error: integer divide by zero" := by
  rw [fromConfig_of_ready accepted built named, finishGenesis_fst]
  exact platformStage_divides_by_zero c rfl (List.cons_ne_nil _ _) _ _ _

/-- The stub collaborators get `FromConfig` on the unfunded configuration to the staker loop. -/
theorem fromConfig_divides_by_zero_stub :
    stubCollaborators.init divideByZeroConfig = none ∧
    stubCollaborators.avm.buildGenesis (avmStage divideByZeroConfig).1 = .ok [0] ∧
    stubCollaborators.assetID.djtxAssetID [0] = .ok ID.empty ∧
    (stubCollaborators.fromConfig divideByZeroConfig).1 = .panic "runtime error: integer divide by zero" := by
  have built : stubCollaborators.avm.buildGenesis (avmStage divideByZeroConfig).1 = .ok [0] := by rfl
  exact ⟨rfl, built, rfl, fromConfig_divides_by_zero stubCollaborators rfl [0] built ID.empty rfl⟩

end AvalancheGo
