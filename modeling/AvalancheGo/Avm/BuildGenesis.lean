import AvalancheGo.Ids.ID
import AvalancheGo.Utils.Sort
import Mathlib.Data.List.Perm.Basic
import Mathlib.Data.Multiset.Basic
import Mathlib.Data.String.Basic

/-! The AVM's genesis: assets built from definitions held in Go maps, and bytes that do not depend on the order the maps are read in. -/

namespace AvalancheGo

/-- A Go map, as one enumeration of it: its entries in the order a `range` visits them, each key once. -/
structure GoMap (V : Type) where
  entries : List (String × V)
  nodup_keys : (entries.map Prod.fst).Nodup

/-- An `AssetDefinition`: name, symbol, denomination, and the initial state by kind of state. -/
structure AssetDefinition (Item : Type) where
  name : String
  symbol : String
  denomination : BitVec 8
  initialState : GoMap (List Item)

/-- `BuildGenesisArgs`: the asset definitions by alias. -/
structure BuildGenesisArgs (Item : Type) where
  genesisData : GoMap (AssetDefinition Item)

/-- A `Holder`: an amount held at genesis by an address. -/
structure Holder where
  amount : Nat
  address : String

/-- `Owners`: the threshold and minters of a variable-cap asset. -/
structure Owners where
  threshold : Nat
  minters : List String

/-- `secp256k1fx.OutputOwners` as genesis fills it: a threshold and the addresses. -/
structure OutputOwners where
  threshold : Nat
  addrs : List ShortID
deriving DecidableEq

/-- The outputs of an initial state: a `secp256k1fx.TransferOutput` or a `secp256k1fx.MintOutput`. -/
inductive Output
  | transferOutput (amt : Nat) (owners : OutputOwners)
  | mintOutput (owners : OutputOwners)
deriving DecidableEq

/-- An `InitialState`: the feature extension and its outputs. -/
structure InitialState where
  fxID : Nat
  outs : List Output
deriving DecidableEq

/-- The `CreateAssetTx` of a genesis asset; its base transaction is the empty one on `ids.Empty`. -/
structure CreateAssetTx where
  name : String
  symbol : String
  denomination : BitVec 8
  states : List InitialState
deriving DecidableEq

/-- A `GenesisAsset`: an alias and the transaction that creates the asset. -/
structure GenesisAsset where
  assetAlias : String
  createAssetTx : CreateAssetTx
deriving DecidableEq

/-- The AVM's `Genesis`: the transactions that create its assets. -/
structure Genesis where
  txs : List GenesisAsset

/-- Why an address of a holder or a minter did not parse. -/
inductive AddressError
  | bech32 (err : String)
  | shortID (err : IDError)

/-- The errors of `BuildGenesis`, by the message each one formats. -/
inductive BuildGenesisError
  | registerType (err : String)
  /-- "problem marshaling state: %w" -/
  | marshalingState (err : String)
  /-- "problem unmarshaling holder: %w" -/
  | unmarshalingHolder (err : String)
  /-- "problem parsing holder address: %w" -/
  | parsingHolderAddress (err : AddressError)
  /-- "problem unmarshaling Owners: %w" -/
  | unmarshalingOwners (err : String)
  /-- "problem parsing minters address: %w" -/
  | parsingMintersAddress (err : AddressError)
  /-- "unknown asset type" -/
  | errUnknownAssetType
  /-- "problem marshaling genesis: %w" -/
  | marshalingGenesis (err : String)

/-- What the codec writes of an asset: every field as it is, and each output as the bytes it writes for it. -/
def GenesisAsset.written (marshalOutput : Output → List UInt8) (asset : GenesisAsset) :
    String × String × String × BitVec 8 × List (Nat × List (List UInt8)) :=
  (asset.assetAlias, asset.createAssetTx.name, asset.createAssetTx.symbol, asset.createAssetTx.denomination,
    asset.createAssetTx.states.map fun state => (state.fxID, state.outs.map marshalOutput))

/--
What `BuildGenesis` calls and does not itself define, for initial-state items of type `Item` (Go's
`interface{}` values): the first error of the codec's `RegisterType` calls, `json.Marshal` of an
item and `json.Unmarshal` into a `Holder` or `Owners`, `formatting.ParseBech32`, and the codec's
`Marshal` of an output, which `InitialState.Sort` orders by, and of the genesis. Modelled from the
spec: the codec's format lays out fields in a fixed order, so the genesis bytes see an output only
through the bytes it writes for that output.
-/
structure GenesisEnv (Item : Type) where
  registerTypes : Option String
  marshalState : Item → Except String (List UInt8)
  unmarshalHolder : List UInt8 → Except String Holder
  unmarshalOwners : List UInt8 → Except String Owners
  parseBech32 : String → Except String (List UInt8)
  marshalOutput : Output → List UInt8
  marshalGenesis : Genesis → Except String (List UInt8)
  marshalGenesis_written : ∀ g₁ g₂ : Genesis, g₁.txs.map (GenesisAsset.written marshalOutput) =
    g₂.txs.map (GenesisAsset.written marshalOutput) → marshalGenesis g₁ = marshalGenesis g₂

/-- Modelled from the spec: `OutputOwners.Sort`, the addresses in the order of their bytes. -/
def OutputOwners.sort (owners : OutputOwners) : OutputOwners :=
  { owners with addrs := sortBy (fun a b => compareBytes a.bytes b.bytes = -1) owners.addrs }

/-- Modelled from the spec: `GenesisAsset.Sort`, the states by feature-extension ID. -/
def sortStates (states : List InitialState) : List InitialState := sortBy (fun a b => a.fxID < b.fxID) states

/-- Modelled from the spec: `Genesis.Sort`, the assets by alias. -/
def sortAssets (txs : List GenesisAsset) : List GenesisAsset :=
  sortBy (fun a b => decide (a.assetAlias < b.assetAlias)) txs

section Loops

variable {α β γ δ ε ε' κ : Type}

/-- A loop that stops at the first error ends with results exactly when each step gave its own. -/
theorem mapM_eq_ok_iff {f : α → Except ε β} {l : List α} {r : List β} :
    l.mapM f = .ok r ↔ List.Forall₂ (fun a b => f a = .ok b) l r := by
  -- One step at a time: the head's result, then the rest's.
  induction l generalizing r with
  | nil =>
    rw [List.mapM_nil, List.forall₂_nil_left_iff]
    exact ⟨fun done => by cases done; rfl, fun empty => empty ▸ rfl⟩
  | cons a rest ih =>
    simp only [List.mapM_cons, List.forall₂_cons_left_iff, ← ih]
    cases f a <;> cases List.mapM f rest <;> simp [bind, Except.bind, pure, Except.pure, eq_comm]

/-- A step then a continuation succeed exactly when the step does and the continuation on its result does. -/
theorem bind_eq_ok_iff {x : Except ε α} {g : α → Except ε β} {b : β} :
    x >>= g = .ok b ↔ ∃ a, x = .ok a ∧ g a = .ok b := by
  cases x <;> simp [bind, Except.bind]

/-- Running such a loop over the same steps in another order succeeds too, with the results reordered. -/
theorem mapM_perm_ok {f : α → Except ε β} {l l' : List α} (perm : l.Perm l') {r : List β}
    (ok : l.mapM f = .ok r) : ∃ r', l'.mapM f = .ok r' ∧ r.Perm r' := by
  obtain ⟨r', steps, reordered⟩ := List.perm_comp_forall₂ perm.symm (mapM_eq_ok_iff.1 ok)
  exact ⟨r', mapM_eq_ok_iff.2 steps, reordered.symm⟩

/-- Running it over steps that each succeed as the matching ones do succeeds too, with results that look alike. -/
theorem mapM_forall₂_ok {f : α → Except ε β} {g : γ → Except ε' δ} {S : α → γ → Prop} {W : β → κ}
    {W' : δ → κ} (step : ∀ a c, S a c → ∀ b, f a = .ok b → ∃ d, g c = .ok d ∧ W b = W' d)
    {l : List α} {l' : List γ} (related : List.Forall₂ S l l') {r : List β} (ok : l.mapM f = .ok r) :
    ∃ r', l'.mapM g = .ok r' ∧ r.map W = r'.map W' := by
  -- Walk the two lists together, each matching step succeeding with a result that looks alike.
  induction related generalizing r with
  | nil => exact ⟨[], rfl, by cases mapM_eq_ok_iff.1 ok; rfl⟩
  | cons hac _ ih =>
    obtain ⟨b, bs, fa, rest, rfl⟩ := List.forall₂_cons_left_iff.1 (mapM_eq_ok_iff.1 ok)
    obtain ⟨d, gc, same⟩ := step _ _ hac b fa
    obtain ⟨ds, loop, sames⟩ := ih (mapM_eq_ok_iff.2 rest)
    exact ⟨d :: ds, mapM_eq_ok_iff.2 (.cons gc (mapM_eq_ok_iff.1 loop)), by simp [same, sames]⟩

end Loops

section Builder

variable {Item : Type} (env : GenesisEnv Item)

/-- Modelled from the spec: `InitialState.Sort`, the outputs in the order of the bytes the codec gives them. -/
def GenesisEnv.sortOuts (outs : List Output) : List Output :=
  sortBy (fun a b => compareBytes (env.marshalOutput a) (env.marshalOutput b) = -1) outs

/-- An address of a holder or minter: `formatting.ParseBech32`, then `ids.ToShortID`. -/
def GenesisEnv.parseAddress (address : String) : Except AddressError ShortID := do
  let addrbuff ← (env.parseBech32 address).mapError .bech32
  (toShortID addrbuff).mapError .shortID

/-- One `fixedCap` item: through JSON into a `Holder`, into a transfer output of its amount to its address. -/
def GenesisEnv.fixedCapOut (state : Item) : Except BuildGenesisError Output := do
  let b ← (env.marshalState state).mapError .marshalingState
  let holder ← (env.unmarshalHolder b).mapError .unmarshalingHolder
  let addr ← (env.parseAddress holder.address).mapError .parsingHolderAddress
  pure (.transferOutput holder.amount ⟨1, [addr]⟩)

/-- One `variableCap` item: through JSON into `Owners`, into a mint output to its minters, sorted. -/
def GenesisEnv.variableCapOut (state : Item) : Except BuildGenesisError Output := do
  let b ← (env.marshalState state).mapError .marshalingState
  let owners ← (env.unmarshalOwners b).mapError .unmarshalingOwners
  let addrs ← owners.minters.mapM fun address => (env.parseAddress address).mapError .parsingMintersAddress
  pure (.mintOutput (OutputOwners.sort ⟨1, addrs⟩))

/-- The outputs of one kind of initial state, item by item; a kind other than the two is refused. -/
def GenesisEnv.stateOuts (assetType : String) (initialStates : List Item) :
    Except BuildGenesisError (List Output) :=
  if assetType = "fixedCap" then initialStates.mapM env.fixedCapOut
  else if assetType = "variableCap" then initialStates.mapM env.variableCapOut
  else .error .errUnknownAssetType

/--
The states of an asset: none for an empty initial state, else one of feature extension `0` holding
the outputs of every kind, in the order the map is read, then sorted.
-/
def GenesisEnv.assetStates (initialState : GoMap (List Item)) : Except BuildGenesisError (List InitialState) :=
  if initialState.entries.isEmpty then .ok []
  else do
    let outs ← initialState.entries.mapM fun entry => env.stateOuts entry.1 entry.2
    pure [⟨0, env.sortOuts outs.flatten⟩]

/-- The asset one entry of `GenesisData` becomes. -/
def GenesisEnv.genesisAsset (assetAlias : String) (assetDefinition : AssetDefinition Item) :
    Except BuildGenesisError GenesisAsset := do
  let states ← env.assetStates assetDefinition.initialState
  pure ⟨assetAlias, ⟨assetDefinition.name, assetDefinition.symbol, assetDefinition.denomination,
    sortStates states⟩⟩

/--
`StaticService.BuildGenesis`: register the codec's types, build an asset from each entry of
`GenesisData` in the order the map is read, stopping at the first error, sort the assets, and
marshal the genesis.
-/
def GenesisEnv.buildGenesis (args : BuildGenesisArgs Item) : Except BuildGenesisError (List UInt8) :=
  match env.registerTypes with
  | some err => .error (.registerType err)
  | none => do
    let txs ← args.genesisData.entries.mapM fun entry => env.genesisAsset entry.1 entry.2
    (env.marshalGenesis ⟨sortAssets txs⟩).mapError .marshalingGenesis


/-- What an asset definition holds as a Go value: its fields, and its initial state whatever order the map is read in. -/
def AssetDefinition.value (d : AssetDefinition Item) : String × String × BitVec 8 × Multiset (String × List Item) :=
  (d.name, d.symbol, d.denomination, (d.initialState.entries : Multiset (String × List Item)))

/-- What `GenesisData` holds as a Go value: each alias with its definition, whatever order the map is read in. -/
def BuildGenesisArgs.value (args : BuildGenesisArgs Item) :
    Multiset (String × String × String × BitVec 8 × Multiset (String × List Item)) :=
  (args.genesisData.entries.map fun entry => (entry.1, entry.2.value) : List _)

/-- Two orders of the same outputs, once sorted, are written as the same bytes. -/
theorem sortOuts_written {outs₁ outs₂ : List Output} (perm : outs₁.Perm outs₂) :
    (env.sortOuts outs₁).map env.marshalOutput = (env.sortOuts outs₂).map env.marshalOutput := by
  -- Sorting by the written bytes is sorting the bytes, and distinct byte strings sort one way only.
  have keeps := sortBy_map (fun a b => decide (compareBytes (env.marshalOutput a) (env.marshalOutput b) = -1))
    (fun x y => decide (compareBytes x y = -1)) env.marshalOutput (fun _ _ => rfl)
  rw [GenesisEnv.sortOuts, GenesisEnv.sortOuts, keeps, keeps]
  exact sortBy_eq_of_perm_of_injective (List.map UInt8.toNat) compareBytes_lt_iff map_toNat_injective (perm.map _)

/-- No states sort to none. -/
@[simp]
theorem sortStates_nil : sortStates [] = [] := rfl
/-- One state sorts to itself. -/
@[simp]
theorem sortStates_singleton (state : InitialState) : sortStates [state] = [state] := rfl

/-- An asset carries the alias of its entry. -/
theorem genesisAsset_alias {a : String} {d : AssetDefinition Item} {asset : GenesisAsset}
    (ok : env.genesisAsset a d = .ok asset) : asset.assetAlias = a := by
  obtain ⟨_, _, built⟩ := bind_eq_ok_iff.1 ok
  cases built; rfl

/-- Two readings of one initial state give states written as the same bytes, or both fail. -/
theorem assetStates_written {m₁ m₂ : GoMap (List Item)} (perm : m₁.entries.Perm m₂.entries)
    {states₁ : List InitialState} (ok : env.assetStates m₁ = .ok states₁) :
    ∃ states₂, env.assetStates m₂ = .ok states₂ ∧
      states₁.map (fun state => (state.fxID, state.outs.map env.marshalOutput)) =
        states₂.map (fun state => (state.fxID, state.outs.map env.marshalOutput)) := by
  -- Both readings see the same entries in another order, and each state's outputs sort to the same bytes.
  have empty_iff : m₁.entries.isEmpty = m₂.entries.isEmpty := by
    rw [Bool.eq_iff_iff, List.isEmpty_iff, List.isEmpty_iff]
    exact ⟨fun e => List.perm_nil.1 (e ▸ perm.symm), fun e => List.perm_nil.1 (e ▸ perm)⟩
  unfold GenesisEnv.assetStates at ok ⊢
  rw [← empty_iff]
  split_ifs at ok ⊢ with empty
  · exact ⟨[], rfl, by cases ok; rfl⟩
  · obtain ⟨outs₁, loop₁, built⟩ := bind_eq_ok_iff.1 ok
    cases built
    obtain ⟨outs₂, loop₂, reordered⟩ := mapM_perm_ok perm loop₁
    refine ⟨_, by rw [loop₂]; rfl, ?_⟩
    simp only [List.map_cons, List.map_nil, sortOuts_written env reordered.flatten]

/-- Two readings of one definition give assets written as the same bytes, or both fail. -/
theorem genesisAsset_written {d₁ d₂ : AssetDefinition Item} (same : d₁.value = d₂.value) (a : String)
    {asset₁ : GenesisAsset} (ok : env.genesisAsset a d₁ = .ok asset₁) :
    ∃ asset₂, env.genesisAsset a d₂ = .ok asset₂ ∧
      asset₁.written env.marshalOutput = asset₂.written env.marshalOutput := by
  -- Equal values have the same name, symbol and denomination, and initial states in another order.
  simp only [AssetDefinition.value, Prod.mk.injEq, Multiset.coe_eq_coe] at same
  obtain ⟨name, symbol, denomination, perm⟩ := same
  obtain ⟨states₁, built₁, ok⟩ := bind_eq_ok_iff.1 ok
  cases ok
  obtain ⟨states₂, built₂, written⟩ := assetStates_written env perm built₁
  refine ⟨_, bind_eq_ok_iff.2 ⟨states₂, built₂, rfl⟩, ?_⟩
  -- Sorting by feature extension keeps the written form of the states.
  have keeps := sortBy_map (fun a b : InitialState => decide (a.fxID < b.fxID))
    (fun x y : Nat × List (List UInt8) => decide (x.1 < y.1))
    (fun state : InitialState => (state.fxID, state.outs.map env.marshalOutput)) (fun _ _ => rfl)
  simp only [GenesisAsset.written, sortStates, keeps, written, name, symbol, denomination]

/-- The assets of a successful loop carry the aliases of the entries, in order. -/
theorem mapM_genesisAsset_aliases {l : List (String × AssetDefinition Item)} {txs : List GenesisAsset}
    (ok : l.mapM (fun entry => env.genesisAsset entry.1 entry.2) = .ok txs) :
    txs.map GenesisAsset.assetAlias = l.map Prod.fst := by
  -- Each asset built carries its own entry's alias.
  have steps := mapM_eq_ok_iff.1 ok
  clear ok
  induction steps with
  | nil => rfl
  | cons built _ ih => simp [genesisAsset_alias env built, ih]

/-- A reading of `GenesisData` that succeeds gives the same bytes as any other reading of it. -/
theorem buildGenesis_of_value_eq {args₁ args₂ : BuildGenesisArgs Item} (same : args₁.value = args₂.value)
    {bytes : List UInt8} (ok : env.buildGenesis args₁ = .ok bytes) : env.buildGenesis args₂ = .ok bytes := by
  -- Each stage sees the same entries up to order, and sorting removes the order.
  unfold GenesisEnv.buildGenesis at ok ⊢
  cases registered : env.registerTypes with
  | some err => simp only [registered] at ok; cases ok
  | none =>
    simp only [registered] at ok ⊢
    obtain ⟨txs₁, loop₁, marshaled⟩ := bind_eq_ok_iff.1 ok
    -- Match the first reading to the second entry by entry, then run its loop in that order.
    let key := fun entry : String × AssetDefinition Item => (entry.1, entry.2.value)
    have perm : (args₁.genesisData.entries.map key).Perm (args₂.genesisData.entries.map key) :=
      Multiset.coe_eq_coe.1 same
    obtain ⟨m, reordered, matched⟩ : ∃ m, args₁.genesisData.entries.Perm m ∧
        List.Forall₂ (fun e e' => key e = key e') m args₂.genesisData.entries := by
      have : Relation.Comp (List.Forall₂ (fun e k => key e = k)) List.Perm args₁.genesisData.entries
          (args₂.genesisData.entries.map key) :=
        ⟨_, List.forall₂_map_right_iff.2 (List.forall₂_same.2 fun _ _ => rfl), perm⟩
      rw [List.forall₂_comp_perm_eq_perm_comp_forall₂] at this
      obtain ⟨m, reordered, matched⟩ := this
      exact ⟨m, reordered, List.forall₂_map_right_iff.1 matched⟩
    have step : ∀ e e', key e = key e' → ∀ asset, env.genesisAsset e.1 e.2 = .ok asset →
        ∃ asset', env.genesisAsset e'.1 e'.2 = .ok asset' ∧
          asset.written env.marshalOutput = asset'.written env.marshalOutput := by
      rintro ⟨a, d⟩ ⟨a', d'⟩ sameKey asset built
      simp only [key, Prod.mk.injEq] at sameKey
      obtain ⟨rfl, sameValue⟩ := sameKey
      exact genesisAsset_written env sameValue a built
    obtain ⟨txsm, loopm, permm⟩ := mapM_perm_ok reordered loop₁
    obtain ⟨txs₂, loop₂, writtenm⟩ := mapM_forall₂_ok step matched loopm
    -- The aliases are the map's keys, so sorting by alias forgets the order of the assets.
    have distinct : ((txs₁.map (GenesisAsset.written env.marshalOutput)).map Prod.fst).Nodup := by
      rw [List.map_map]
      exact (mapM_genesisAsset_aliases env loop₁).symm ▸ args₁.genesisData.nodup_keys
    have sorted : (sortAssets txs₁).map (GenesisAsset.written env.marshalOutput) =
        (sortAssets txs₂).map (GenesisAsset.written env.marshalOutput) := by
      have keeps := sortBy_map (fun a b : GenesisAsset => decide (a.assetAlias < b.assetAlias))
        (fun x y : String × String × String × BitVec 8 × List (Nat × List (List UInt8)) => decide (x.1 < y.1))
        (GenesisAsset.written env.marshalOutput) (fun _ _ => rfl)
      rw [sortAssets, sortAssets, keeps, keeps]
      exact sortBy_eq_of_perm_of_nodup Prod.fst (fun _ _ => decide_eq_true_iff)
        (writtenm ▸ permm.map _) distinct
    rw [env.marshalGenesis_written ⟨sortAssets txs₁⟩ ⟨sortAssets txs₂⟩ sorted] at marshaled
    exact bind_eq_ok_iff.2 ⟨txs₂, loop₂, marshaled⟩

end Builder

section Deterministic

variable {Item : Type}

/--
Go reads maps in an order of its own choosing. For any two readings of the same `GenesisData`, and
of each definition's `InitialState`, `BuildGenesis` fails in both or succeeds in both with the same
bytes.
-/
theorem buildGenesis_deterministic (env : GenesisEnv Item) (args₁ args₂ : BuildGenesisArgs Item)
    (same : args₁.value = args₂.value) :
    ((∃ err, env.buildGenesis args₁ = .error err) ↔ (∃ err, env.buildGenesis args₂ = .error err)) ∧
      ∀ bytes, env.buildGenesis args₁ = .ok bytes ↔ env.buildGenesis args₂ = .ok bytes := by
  -- Success carries over both ways, and failure is the absence of success.
  have ok_iff : ∀ bytes, env.buildGenesis args₁ = .ok bytes ↔ env.buildGenesis args₂ = .ok bytes :=
    fun _ => ⟨buildGenesis_of_value_eq env same, buildGenesis_of_value_eq env same.symm⟩
  have fails : ∀ run : Except BuildGenesisError (List UInt8), (∃ err, run = .error err) ↔ ∀ bytes, run ≠ .ok bytes := by
    intro run; cases run <;> simp
  -- A run that cannot succeed fails, and success carries over both ways.
  rw [fails, fails]
  exact ⟨forall_congr' fun bytes => not_congr (ok_iff bytes), ok_iff⟩

/-- Two assets read in either order, in an environment that writes a byte per asset. -/
theorem buildGenesis_deterministic_swapped :
    let asset : AssetDefinition Unit := ⟨"Asset", "A", 9, ⟨[], List.nodup_nil⟩⟩
    let args₁ : BuildGenesisArgs Unit := ⟨⟨[("A", asset), ("B", asset)], by decide⟩⟩
    let args₂ : BuildGenesisArgs Unit := ⟨⟨[("B", asset), ("A", asset)], by decide⟩⟩
    let env : GenesisEnv Unit := ⟨none, fun _ => .ok [], fun _ => .error "", fun _ => .error "",
      fun _ => .error "", fun _ => [], fun g => .ok (List.replicate g.txs.length 0), fun g₁ g₂ same => by
        have := congrArg List.length same
        simp only [List.length_map] at this
        simp only [this]⟩
    args₁.value = args₂.value ∧
      (((∃ err, env.buildGenesis args₁ = .error err) ↔ (∃ err, env.buildGenesis args₂ = .error err)) ∧
        ∀ bytes, env.buildGenesis args₁ = .ok bytes ↔ env.buildGenesis args₂ = .ok bytes) := by
  intro asset args₁ args₂ env
  have same : args₁.value = args₂.value := Multiset.coe_eq_coe.2 (.swap _ _ _)
  exact ⟨same, buildGenesis_deterministic env args₁ args₂ same⟩

end Deterministic

end AvalancheGo
