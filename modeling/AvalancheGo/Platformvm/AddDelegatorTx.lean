import Mathlib.Algebra.BigOperators.Group.List
import Mathlib.Tactic.Linarith

/-! Syntactic verification of a delegator transaction: the stake it locks adds up, without wrapping, to the weight it declares. -/

namespace AvalancheGo

/-- The errors `UnsignedAddDelegatorTx.Verify` returns. -/
inductive DelegatorError
  | errNilTx
  /-- an error passed on from a check `Verify` calls: the base transaction's, the validator's, the rewards owner's or an output's -/
  | check (message : String)
  /-- the overflow error of `safemath.Add64` -/
  | errOverflow
  | errOutputsNotSorted
  /-- "invalid amount" -/
  | errInvalidAmount
  | errWeightTooSmall
deriving DecidableEq, Repr

/-- Modelled from the spec: `safemath.Add64`, the sum of two `u64`s, or an overflow error. -/
def add64 (a b : Nat) : Except DelegatorError Nat :=
  if 2 ^ 64 - 1 - b < a then .error .errOverflow else .ok (a + b)

/--
The checks `Verify` calls and does not itself define, as the answers they give on a transaction
whose stake outputs have type `Out`: `BaseTx.Verify(ctx, c)`, `verify.All` on the validator and the
rewards owner, each output's `Verify`, each output's `Amount`, and `IsSortedTransferableOutputs`.
-/
structure DelegatorChecks (Out : Type) where
  baseTx : Option String
  validatorAndOwner : Option String
  output : Out → Option String
  amount : Out → UInt64
  isSorted : List Out → Bool

/-- An `UnsignedAddDelegatorTx`, with the fields `Verify` reads itself: the validator's weight, the stake, and the cache flag. -/
structure UnsignedAddDelegatorTx (Out : Type) where
  validatorWght : UInt64
  stake : List Out
  syntacticallyVerified : Bool

variable {Out : Type}

/-- The loop of `Verify` over the stake: check each output, then add its amount with `safemath.Add64`. -/
def DelegatorChecks.totalStakeWeight (checks : DelegatorChecks Out) : List Out → Nat → Except DelegatorError Nat
  | [], total => .ok total
  | out :: rest, total =>
    match checks.output out with
    | some err => .error (.check err)
    | none =>
      match add64 total (checks.amount out).toNat with
      | .error err => .error err
      | .ok newWeight => checks.totalStakeWeight rest newWeight

/--
`UnsignedAddDelegatorTx.Verify`: a nil transaction is an error and a verified one passes; otherwise
the delegated checks, the stake loop, the sort check, total against weight and weight against
`minStake` are made in turn, and only when all pass is the flag set.
-/
def UnsignedAddDelegatorTx.verify (checks : DelegatorChecks Out) (minStake : UInt64) :
    Option (UnsignedAddDelegatorTx Out) → Option (UnsignedAddDelegatorTx Out) × Option DelegatorError
  | none => (none, some .errNilTx)
  | some tx =>
    if tx.syntacticallyVerified then (some tx, none)
    else match checks.baseTx, checks.validatorAndOwner with
    | some err, _ => (some tx, some (.check err))
    | none, some err => (some tx, some (.check err))
    | none, none =>
      match checks.totalStakeWeight tx.stake 0 with
      | .error err => (some tx, some err)
      | .ok totalStakeWeight =>
        if !checks.isSorted tx.stake then (some tx, some .errOutputsNotSorted)
        else if totalStakeWeight ≠ tx.validatorWght.toNat then (some tx, some .errInvalidAmount)
        else if tx.validatorWght < minStake then (some tx, some .errWeightTooSmall)
        else (some { tx with syntacticallyVerified := true }, none)

/-- The exact sum of the amounts of a list of outputs, over the natural numbers. -/
def DelegatorChecks.stakeSum (checks : DelegatorChecks Out) (outs : List Out) : Nat := (outs.map fun out => (checks.amount out).toNat).sum

/-- `safemath.Add64` on a `u64` amount adds exactly when the sum fits in 64 bits, and fails otherwise. -/
theorem add64_eq_ok {a b total : Nat} (small : b ≤ 2 ^ 64 - 1) :
    add64 a b = .ok total ↔ a + b ≤ 2 ^ 64 - 1 ∧ total = a + b := by
  -- The guard is the 64-bit overflow test, written without underflow.
  unfold add64
  split_ifs with over
  · simp only [reduceCtorEq, false_iff, not_and]; omega
  · simp only [Except.ok.injEq]
    exact ⟨fun added => ⟨by omega, added.symm⟩, fun fits => fits.2.symm⟩

section Checks

variable (checks : DelegatorChecks Out)

/-- An amount is a `u64`. -/
theorem amount_le (out : Out) : (checks.amount out).toNat ≤ 2 ^ 64 - 1 :=
  Nat.le_sub_one_of_lt (checks.amount out).toNat_lt_size

/--
The loop ends with a total exactly when every output verifies and the exact sum of the amounts,
added to the start, fits in 64 bits; the total is then that exact sum.
-/
theorem totalStakeWeight_eq_ok (outs : List Out) {start : Nat} (small : start ≤ 2 ^ 64 - 1) (total : Nat) :
    checks.totalStakeWeight outs start = .ok total ↔
      (∀ out ∈ outs, checks.output out = none) ∧ start + checks.stakeSum outs ≤ 2 ^ 64 - 1 ∧
        total = start + checks.stakeSum outs := by
  -- The accumulator is the exact prefix sum for as long as it fits.
  induction outs generalizing start with
  | nil => simp [DelegatorChecks.totalStakeWeight, DelegatorChecks.stakeSum, eq_comm]; exact fun _ => small
  | cons out rest ih =>
    -- The accumulator stays the exact prefix sum, and a prefix that does not fit means the whole does not.
    have sum_cons : checks.stakeSum (out :: rest) = (checks.amount out).toNat + checks.stakeSum rest := by
      simp [DelegatorChecks.stakeSum]
    unfold DelegatorChecks.totalStakeWeight
    cases verified : checks.output out with
    | some err => simp only [reduceCtorEq, false_iff, List.forall_mem_cons, verified, false_and, not_false_eq_true]
    | none =>
      cases added : add64 start (checks.amount out).toNat with
      | error err =>
        have over : ¬start + (checks.amount out).toNat ≤ 2 ^ 64 - 1 := fun fits => by
          rw [(add64_eq_ok (amount_le checks out)).2 ⟨fits, rfl⟩] at added; cases added
        simp only [reduceCtorEq, false_iff, not_and, sum_cons]
        intro _ fits; omega
      | ok newWeight =>
        obtain ⟨fits, rfl⟩ := (add64_eq_ok (amount_le checks out)).1 added
        simp only [ih fits, sum_cons, List.forall_mem_cons, verified, true_and, add_assoc]

/-- The stake loop, run from zero, ends exactly when every output verifies and the exact sum fits, with that sum. -/
theorem totalStakeWeight_zero_eq_ok (outs : List Out) (total : Nat) :
    checks.totalStakeWeight outs 0 = .ok total ↔
      (∀ out ∈ outs, checks.output out = none) ∧ checks.stakeSum outs ≤ 2 ^ 64 - 1 ∧ total = checks.stakeSum outs := by
  simpa only [Nat.zero_add] using totalStakeWeight_eq_ok checks outs (Nat.zero_le _) total

/-- `Verify` on a transaction not yet verified passes exactly when every check does, with the exact stake sum equal to the weight. -/
theorem verify_eq_none_iff (minStake : UInt64) {tx : UnsignedAddDelegatorTx Out} (fresh : tx.syntacticallyVerified = false) :
    (UnsignedAddDelegatorTx.verify checks minStake (some tx)).2 = none ↔
      checks.baseTx = none ∧ checks.validatorAndOwner = none ∧ (∀ out ∈ tx.stake, checks.output out = none) ∧
        checks.isSorted tx.stake = true ∧ checks.stakeSum tx.stake = tx.validatorWght.toNat ∧
        minStake ≤ tx.validatorWght := by
  -- Each check in turn: the delegated ones, the stake loop, the sort, the sum and the minimum.
  simp only [UnsignedAddDelegatorTx.verify, fresh, Bool.false_eq_true, ↓reduceIte]
  rcases base : checks.baseTx with _ | err <;> rcases owner : checks.validatorAndOwner with _ | err' <;>
    simp only [reduceCtorEq, false_and, and_false, true_and, Option.some_ne_none, false_iff, not_false_eq_true]
  cases loop : checks.totalStakeWeight tx.stake 0 with
  | error err =>
    -- A stake summing to the weight fits in 64 bits, so the loop could not have failed.
    simp only [Option.some_ne_none, false_iff, not_and]
    intro verified _ exact _
    have := (totalStakeWeight_zero_eq_ok checks tx.stake _).2
      ⟨verified, exact ▸ Nat.le_sub_one_of_lt tx.validatorWght.toNat_lt_size, rfl⟩
    rw [loop] at this; cases this
  | ok total =>
    obtain ⟨verified, -, rfl⟩ := (totalStakeWeight_zero_eq_ok checks tx.stake total).1 loop
    simp only [iff_true_intro verified, true_and]
    clear verified loop
    split_ifs with sorted same small <;> simp_all [not_lt]

/-- `Verify` on a transaction not yet verified either passes and sets its flag, or fails and leaves it as it was. -/
theorem verify_fresh_cases (minStake : UInt64) {tx : UnsignedAddDelegatorTx Out} (fresh : tx.syntacticallyVerified = false) :
    UnsignedAddDelegatorTx.verify checks minStake (some tx) = (some { tx with syntacticallyVerified := true }, none) ∨
      ∃ err, UnsignedAddDelegatorTx.verify checks minStake (some tx) = (some tx, some err) := by
  -- Every branch but the last returns the transaction as it was, with an error.
  simp only [UnsignedAddDelegatorTx.verify, fresh, Bool.false_eq_true, ↓reduceIte]
  repeat' split
  all_goals first | exact .inl rfl | exact .inr ⟨_, rfl⟩

end Checks

/--
`Verify` on a transaction not yet verified, whatever the checks it calls answer and whatever
`minStake`: on success every stake output verifies, the exact sum of the stake's amounts is the
validator's weight, the weight is at least `minStake`, and the flag is set; on an error the
transaction is left as it was, flag unset; and a stake whose exact sum passes `2^64 - 1` is refused.
-/
theorem verify_stake_exact (checks : DelegatorChecks Out) (minStake : UInt64) (tx : UnsignedAddDelegatorTx Out)
    (fresh : tx.syntacticallyVerified = false) :
    ((UnsignedAddDelegatorTx.verify checks minStake (some tx)).2 = none →
      (∀ out ∈ tx.stake, checks.output out = none) ∧
        (tx.stake.map fun out => (checks.amount out).toNat).sum = tx.validatorWght.toNat ∧
        minStake ≤ tx.validatorWght ∧
        (UnsignedAddDelegatorTx.verify checks minStake (some tx)).1 = some { tx with syntacticallyVerified := true }) ∧
    ((UnsignedAddDelegatorTx.verify checks minStake (some tx)).2 ≠ none →
      (UnsignedAddDelegatorTx.verify checks minStake (some tx)).1 = some tx) ∧
    (2 ^ 64 - 1 < (tx.stake.map fun out => (checks.amount out).toNat).sum →
      (UnsignedAddDelegatorTx.verify checks minStake (some tx)).2 ≠ none) := by
  -- Success is the conjunction of the checks; the result is either the flagged or the unchanged transaction.
  have passes := verify_eq_none_iff checks minStake fresh
  refine ⟨fun ok => ?_, fun failed => ?_, fun over ok => ?_⟩
  · obtain ⟨-, -, verified, -, exact, enough⟩ := passes.1 ok
    rcases verify_fresh_cases checks minStake fresh with flagged | ⟨err, failed⟩
    · exact ⟨verified, exact, enough, by rw [flagged]⟩
    · rw [failed] at ok; cases ok
  · rcases verify_fresh_cases checks minStake fresh with flagged | ⟨err, failed'⟩
    · rw [flagged] at failed; exact absurd rfl failed
    · rw [failed']
  · have exact := (passes.1 ok).2.2.2.2.1
    have fits : tx.validatorWght.toNat < 2 ^ 64 := tx.validatorWght.toNat_lt_size
    exact absurd over (by rw [← DelegatorChecks.stakeSum, exact]; omega)

/-- Two stake outputs of `2^63` sum to `2^64`, which a 64-bit total would wrap to the weight `0`; the transaction is refused. -/
theorem verify_stake_exact_wrapped :
    let checks : DelegatorChecks UInt64 := ⟨none, none, fun _ => none, id, fun _ => true⟩
    let tx : UnsignedAddDelegatorTx UInt64 := ⟨0, [9223372036854775808, 9223372036854775808], false⟩
    tx.syntacticallyVerified = false ∧
    (((UnsignedAddDelegatorTx.verify checks 0 (some tx)).2 = none →
      (∀ out ∈ tx.stake, checks.output out = none) ∧
        (tx.stake.map fun out => (checks.amount out).toNat).sum = tx.validatorWght.toNat ∧
        0 ≤ tx.validatorWght ∧
        (UnsignedAddDelegatorTx.verify checks 0 (some tx)).1 = some { tx with syntacticallyVerified := true }) ∧
    ((UnsignedAddDelegatorTx.verify checks 0 (some tx)).2 ≠ none →
      (UnsignedAddDelegatorTx.verify checks 0 (some tx)).1 = some tx) ∧
    (2 ^ 64 - 1 < (tx.stake.map fun out => (checks.amount out).toNat).sum →
      (UnsignedAddDelegatorTx.verify checks 0 (some tx)).2 ≠ none)) := by
  intro checks tx
  exact ⟨rfl, verify_stake_exact checks 0 tx rfl⟩

end AvalancheGo
