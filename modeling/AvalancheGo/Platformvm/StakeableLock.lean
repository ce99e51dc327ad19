import Mathlib.Logic.Basic

/-! Stakeable locks: an output or input locked until a time, and the check that no lock is wrapped in another. -/

namespace AvalancheGo

/--
A `djtx.TransferableOut` or `djtx.TransferableIn` as the stakeable locks see it: a stakeable lock,
with its `Locktime`, around another one, or the output or input `leaf` of an extension.
-/
inductive Transferable (Leaf : Type)
  | stakeableLock (locktime : UInt64) (inner : Transferable Leaf)
  | leaf (leaf : Leaf)

/-- The errors of the stakeable locks' `Verify`. -/
inductive StakeableLockError
  /-- "invalid locktime" -/
  | errInvalidLocktime
  /-- "shouldn't nest stakeable locks" -/
  | nested
  /-- an error of the wrapped output's or input's own `Verify` -/
  | check (message : String)
deriving DecidableEq, Repr

variable {Leaf : Type}

/--
The body `StakeableLockOut.Verify` and `StakeableLockIn.Verify` share: a zero locktime is refused,
then a stakeable lock wrapped inside, and otherwise the wrapped output or input decides.
-/
def Transferable.verifyLock (verify : Leaf → Option String) (locktime : UInt64) :
    Transferable Leaf → Option StakeableLockError
  | .stakeableLock _ _ => if locktime = 0 then some .errInvalidLocktime else some .nested
  | .leaf wrapped => if locktime = 0 then some .errInvalidLocktime else (verify wrapped).map .check

/-- `StakeableLockOut.Verify`, with the wrapped output's `Verify`. -/
def stakeableLockOutVerify {Out : Type} (verify : Out → Option String) (locktime : UInt64)
    (transferableOut : Transferable Out) : Option StakeableLockError :=
  transferableOut.verifyLock verify locktime

/-- `StakeableLockIn.Verify`, with the wrapped input's `Verify`. -/
def stakeableLockInVerify {In : Type} (verify : In → Option String) (locktime : UInt64)
    (transferableIn : Transferable In) : Option StakeableLockError :=
  transferableIn.verifyLock verify locktime

/-- A stakeable lock passes exactly when its locktime is not zero and it wraps, unlocked, an output or input that passes. -/
theorem verifyLock_eq_none_iff (verify : Leaf → Option String) (locktime : UInt64) (inner : Transferable Leaf) :
    inner.verifyLock verify locktime = none ↔ locktime ≠ 0 ∧ ∃ leaf, inner = .leaf leaf ∧ verify leaf = none := by
  cases inner with
  | stakeableLock _ _ => by_cases zero : locktime = 0 <;> simp [Transferable.verifyLock, zero]
  | leaf wrapped => by_cases zero : locktime = 0 <;> simp [Transferable.verifyLock, zero]

end AvalancheGo
