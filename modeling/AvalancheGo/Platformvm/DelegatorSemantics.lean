import AvalancheGo.Platformvm.AddDelegatorTx
import AvalancheGo.Ids.ID

/-! Semantic verification of a delegator transaction: its checks against the chain's state, how each failure is classed, and the two databases it prepares. -/

namespace AvalancheGo

/-- What an error of `SemanticVerify` was caused by. -/
inductive SemanticError
  /-- an error of `Verify` -/
  | verify (err : DelegatorError)
  /-- "chain timestamp (%s) not before validator's start time (%s)" -/
  | timestampNotBeforeStart (currentTimestamp startTime : Int)
  /-- "delegator's time range must be a subset of the validator's time range" -/
  | errDelegatorSubset
  /-- an error a call to the VM returned -/
  | vm (message : String)

/-- A `TxError`: a `permError`, which the transaction can never get past, or a `tempError`, which it may. -/
inductive TxError
  | permError (err : SemanticError)
  | tempError (err : SemanticError)

/--
An `UnsignedAddDelegatorTx` with the fields `SemanticVerify` reads beyond those `Verify` reads: the
base transaction's inputs and outputs, the delegatee's node ID, the delegation's `Start` and `End`
in Unix seconds, and the transaction's ID.
-/
structure AddDelegatorTx (In Out : Type) extends UnsignedAddDelegatorTx Out where
  ins : List In
  outs : List Out
  nodeID : ShortID
  startTime : UInt64
  endTime : UInt64
  id : ID

/--
What `SemanticVerify` reads, as the answers it gives on a database `DB` and a signed transaction
`Stx`: `Validator.StartTime` and `EndTime`, the times of the `Start` and `End` seconds (absent from
src, so taken as given); from the VM the checks `Verify` calls and `minStake`, `getTimestamp`,
`isValidator` and `willBeValidator` (the validator's period when it is one),
`semanticVerifySpend` on the inputs and outputs, and the writes `consumeInputs`, `produceOutputs`
and `enqueueStaker`. Times are Unix seconds.
-/
structure DelegatorVM (DB In Out Stx : Type) where
  validatorTime : UInt64 → Int
  checks : DelegatorChecks Out
  minStake : UInt64
  getTimestamp : DB → Except String Int
  isValidator : DB → ShortID → Except String (Option (Int × Int))
  willBeValidator : DB → ShortID → Except String (Option (Int × Int))
  semanticVerifySpend : DB → Stx → List In → List Out → Option TxError
  consumeInputs : DB → List In → Except String DB
  produceOutputs : DB → ID → List Out → Except String DB
  enqueueStaker : DB → Stx → Except String DB

variable {DB In Out Stx : Type}

namespace AddDelegatorTx

/--
Modelled from the spec: `Validator.BoundedBy`, the delegation, its `Start` and `End` read as times
by `time`, lies within the period from `startTime` to `endTime`.
-/
def boundedBy (tx : AddDelegatorTx In Out) (time : UInt64 → Int) (startTime endTime : Int) : Bool :=
  startTime ≤ time tx.startTime && time tx.endTime ≤ endTime

/-- `InitiallyPrefersCommit`: the delegation, its `Start` read as a time by `time`, starts after the clock's time. -/
def initiallyPrefersCommit (tx : AddDelegatorTx In Out) (time : UInt64 → Int) (clock : Int) : Bool :=
  clock < time tx.startTime

end AddDelegatorTx

namespace DelegatorVM

/--
The delegatee checks of `SemanticVerify`: a current validator whose period holds the delegation,
or, for a node that is not one, a pending validator whose period holds it.
-/
def checkDelegatee (vm : DelegatorVM DB In Out Stx) (db : DB) (tx : AddDelegatorTx In Out) : Option TxError :=
  match vm.isValidator db tx.nodeID with
  | .error err => some (.tempError (.vm err))
  | .ok (some (startTime, endTime)) =>
    if tx.boundedBy vm.validatorTime startTime endTime then none else some (.permError .errDelegatorSubset)
  | .ok none =>
    match vm.willBeValidator db tx.nodeID with
    | .error err => some (.tempError (.vm err))
    | .ok none => some (.permError .errDelegatorSubset)
    | .ok (some (startTime, endTime)) =>
      if tx.boundedBy vm.validatorTime startTime endTime then none else some (.permError .errDelegatorSubset)

/-- The database if the proposal commits: the inputs consumed, the outputs produced, and the staker enqueued. -/
def onCommit (vm : DelegatorVM DB In Out Stx) (db : DB) (tx : AddDelegatorTx In Out) (stx : Stx) : Except String DB :=
  vm.consumeInputs db tx.ins >>= (vm.produceOutputs · tx.id tx.outs) >>= (vm.enqueueStaker · stx)

/-- The database if the proposal aborts: the inputs consumed, and the outputs and the stake produced. -/
def onAbort (vm : DelegatorVM DB In Out Stx) (db : DB) (tx : AddDelegatorTx In Out) : Except String DB :=
  vm.consumeInputs db tx.ins >>= (vm.produceOutputs · tx.id (tx.outs ++ tx.stake))

end DelegatorVM

/--
`UnsignedAddDelegatorTx.SemanticVerify`: `Verify`, then the chain's timestamp before the start,
then the delegatee, then the spend of the inputs to the outputs and the stake, and last the two
databases, each over its own view of `db`. A rule broken is a `permError`, a failed call of the
VM a `tempError`, and the spend check's error is returned as it is.
-/
def AddDelegatorTx.semanticVerify (vm : DelegatorVM DB In Out Stx) (tx : AddDelegatorTx In Out) (db : DB) (stx : Stx) :
    Except TxError (DB × DB) :=
  match (UnsignedAddDelegatorTx.verify vm.checks vm.minStake (some tx.toUnsignedAddDelegatorTx)).2 with
  | some err => .error (.permError (.verify err))
  | none =>
    match vm.getTimestamp db with
    | .error err => .error (.tempError (.vm err))
    | .ok currentTimestamp =>
      if currentTimestamp < vm.validatorTime tx.startTime then
        match vm.checkDelegatee db tx with
        | some err => .error err
        | none =>
          match vm.semanticVerifySpend db stx tx.ins (tx.outs ++ tx.stake) with
          | some err => .error err
          | none =>
            match vm.onCommit db tx stx with
            | .error err => .error (.tempError (.vm err))
            | .ok onCommitDB =>
              match vm.onAbort db tx with
              | .error err => .error (.tempError (.vm err))
              | .ok onAbortDB => .ok (onCommitDB, onAbortDB)
      else .error (.permError (.timestampNotBeforeStart currentTimestamp (vm.validatorTime tx.startTime)))

/--
What `newAddDelegatorTx` calls besides `Verify`: `vm.stake` for the amount, giving the inputs, the
unlocked and the locked outputs and the groups of signing keys; and `Tx.Sign`, which fixes the
signed transaction's ID.
-/
structure DelegatorWallet (In Out Key : Type) where
  stake : UInt64 → Except String (List In × List Out × List Out × List (List Key))
  sign : AddDelegatorTx In Out → List (List Key) → Except String ID

/--
`newAddDelegatorTx`: the inputs and outputs `vm.stake` picks, the locked ones as the stake and the
amount as the weight, signed, and returned with the error of its `Verify`.
-/
def newAddDelegatorTx {Key : Type} (wallet : DelegatorWallet In Out Key) (checks : DelegatorChecks Out)
    (minStake stakeAmt startTime endTime : UInt64) (nodeID : ShortID) :
    Except String (AddDelegatorTx In Out × Option DelegatorError) :=
  match wallet.stake stakeAmt with
  | .error err => .error ("couldn't generate tx inputs/outputs: " ++ err)
  | .ok (ins, unlockedOuts, lockedOuts, signers) =>
    let utx : AddDelegatorTx In Out :=
      { validatorWght := stakeAmt, stake := lockedOuts, syntacticallyVerified := false,
        ins, outs := unlockedOuts, nodeID, startTime, endTime, id := ID.empty }
    match wallet.sign utx signers with
    | .error err => .error err
    | .ok id =>
      let verified := UnsignedAddDelegatorTx.verify checks minStake (some { utx with id }.toUnsignedAddDelegatorTx)
      .ok ({ utx with id, toUnsignedAddDelegatorTx := verified.1.getD utx.toUnsignedAddDelegatorTx }, verified.2)

/--
A transaction `newAddDelegatorTx` returns without error stakes the locked outputs `vm.stake` picked,
with the amount as weight; `Verify` passed on it fresh, and it is marked as verified.
-/
theorem newAddDelegatorTx_ok {Key : Type} {wallet : DelegatorWallet In Out Key} {checks : DelegatorChecks Out}
    {minStake stakeAmt startTime endTime : UInt64} {nodeID : ShortID} {tx : AddDelegatorTx In Out}
    (built : newAddDelegatorTx wallet checks minStake stakeAmt startTime endTime nodeID = .ok (tx, none)) :
    ∃ ins unlockedOuts lockedOuts signers, wallet.stake stakeAmt = .ok (ins, unlockedOuts, lockedOuts, signers) ∧
      (UnsignedAddDelegatorTx.verify checks minStake (some ⟨stakeAmt, lockedOuts, false⟩)).2 = none ∧
      tx.toUnsignedAddDelegatorTx = ⟨stakeAmt, lockedOuts, true⟩ := by
  -- The stake picked is built into a fresh transaction, which `Verify` passing marks.
  unfold newAddDelegatorTx at built
  rcases staked : wallet.stake stakeAmt with err | ⟨ins, unlockedOuts, lockedOuts, signers⟩
  · simp [staked] at built
  · simp only [staked] at built
    split at built
    · cases built
    · -- The transaction built is fresh, so its `Verify` passing sets the flag on it.
      simp only [Except.ok.injEq, Prod.mk.injEq] at built
      obtain ⟨rfl, passed⟩ := built
      have fresh : (⟨stakeAmt, lockedOuts, false⟩ : UnsignedAddDelegatorTx Out).syntacticallyVerified = false := rfl
      rcases verify_fresh_cases checks minStake fresh with flagged | ⟨err, failed⟩
      · exact ⟨ins, unlockedOuts, lockedOuts, signers, rfl, passed, by simp [flagged]⟩
      · simp [failed] at passed

/--
A delegator transaction `newAddDelegatorTx` returns without error stakes exactly the locked outputs
`vm.stake` picked, each of which verifies, whose exact sum is the amount asked for, at least
`minStake`, and it is marked as verified.
-/
theorem newAddDelegatorTx_stake_exact {Key : Type} (wallet : DelegatorWallet In Out Key) (checks : DelegatorChecks Out)
    (minStake stakeAmt startTime endTime : UInt64) (nodeID : ShortID) (tx : AddDelegatorTx In Out)
    (built : newAddDelegatorTx wallet checks minStake stakeAmt startTime endTime nodeID = .ok (tx, none)) :
    ∃ ins unlockedOuts lockedOuts signers, wallet.stake stakeAmt = .ok (ins, unlockedOuts, lockedOuts, signers) ∧
      tx.stake = lockedOuts ∧ (∀ out ∈ lockedOuts, checks.output out = none) ∧
      checks.stakeSum lockedOuts = stakeAmt.toNat ∧ minStake ≤ stakeAmt ∧ tx.syntacticallyVerified = true := by
  -- `Verify` passed on the fresh transaction, which is the exact stake check.
  obtain ⟨ins, unlockedOuts, lockedOuts, signers, staked, passed, made⟩ := newAddDelegatorTx_ok built
  obtain ⟨-, -, verified, -, exact, enough⟩ := (verify_eq_none_iff checks minStake rfl).1 passed
  exact ⟨ins, unlockedOuts, lockedOuts, signers, staked, congrArg UnsignedAddDelegatorTx.stake made, verified, exact,
    enough, congrArg UnsignedAddDelegatorTx.syntacticallyVerified made⟩

/-- A wallet that locks one output of 5 for a delegation of 5, the minimum: the transaction is built and verifies. -/
theorem newAddDelegatorTx_stake_exact_single :
    let wallet : DelegatorWallet Unit Unit Unit := ⟨fun _ => .ok ([()], [], [()], [[()]]), fun _ _ => .ok ID.empty⟩
    let checks : DelegatorChecks Unit := ⟨none, none, fun _ => none, fun _ => 5, fun _ => true⟩
    let nodeID : ShortID := ⟨List.replicate shortIDLen 0, List.length_replicate _ _⟩
    let tx : AddDelegatorTx Unit Unit := ⟨⟨5, [()], true⟩, [()], [], nodeID, 1, 2, ID.empty⟩
    newAddDelegatorTx wallet checks 5 5 1 2 nodeID = .ok (tx, none) ∧
    ∃ ins unlockedOuts lockedOuts signers, wallet.stake 5 = .ok (ins, unlockedOuts, lockedOuts, signers) ∧
      tx.stake = lockedOuts ∧ (∀ out ∈ lockedOuts, checks.output out = none) ∧
      checks.stakeSum lockedOuts = (5 : UInt64).toNat ∧ (5 : UInt64) ≤ 5 ∧ tx.syntacticallyVerified = true := by
  intro wallet checks nodeID tx
  have built : newAddDelegatorTx wallet checks 5 5 1 2 nodeID = .ok (tx, none) := rfl
  exact ⟨built, newAddDelegatorTx_stake_exact wallet checks 5 5 1 2 nodeID tx built⟩

end AvalancheGo
