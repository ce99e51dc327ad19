import Mathlib.Data.Nat.Digits

/-! Decimal text for unsigned integers: the parser and the formatter the JSON wrappers call. -/

namespace AvalancheGo

/-- `math.MaxUint64`. -/
def maxUint64 : Nat := 2 ^ 64 - 1

/-- Why `strconv.ParseUint` refused its input. -/
inductive NumError
  | errSyntax
  | errRange
deriving DecidableEq, Repr

/-- A byte is an ASCII decimal digit. -/
def isDigit (c : UInt8) : Bool := 48 ≤ c.toNat && c.toNat ≤ 57

/-- Modelled from the spec: the digit value `ParseUint` gives a byte, letters counting from ten. -/
def digitValue (c : UInt8) : Option Nat :=
  if 48 ≤ c.toNat ∧ c.toNat ≤ 57 then some (c.toNat - 48)
  else if 97 ≤ c.toNat ||| 32 ∧ c.toNat ||| 32 ≤ 122 then some ((c.toNat ||| 32) - 97 + 10)
  else none

/-- The cutoff of `ParseUint` in base ten: the least `n` with `n * 10` past `MaxUint64`. -/
def cutoff10 : Nat := maxUint64 / 10 + 1

/--
Modelled from the spec: the loop of `strconv.ParseUint` in base ten and 64 bits; a byte that is
no digit is a syntax error, and an accumulator about to pass `MaxUint64` a range error.
-/
def parseUintLoop : List UInt8 → Nat → Nat × Option NumError
  | [], n => (n, none)
  | c :: rest, n =>
    match digitValue c with
    | none => (0, some .errSyntax)
    | some d =>
      if 10 ≤ d then (0, some .errSyntax)
      else if cutoff10 ≤ n then (maxUint64, some .errRange)
      else
        let n := n * 10 % 2 ^ 64
        let n1 := (n + d) % 2 ^ 64
        if n1 < n ∨ maxUint64 < n1 then (maxUint64, some .errRange)
        else parseUintLoop rest n1

/-- Modelled from the spec: `strconv.ParseUint(s, 10, 0)` on a 64-bit platform. -/
def parseUint (s : List UInt8) : Nat × Option NumError :=
  if s = [] then (0, some .errSyntax) else parseUintLoop s 0

/-- Modelled from the spec: `strconv.FormatUint(v, 10)`, the decimal digits, most significant first. -/
def formatUint (v : Nat) : List UInt8 :=
  if v = 0 then [48] else (Nat.digits 10 v).reverse.map fun d => UInt8.ofNat (48 + d)

/-- The value of a string of digits read on from `n`, most significant first. -/
def digitsValue (n : Nat) (s : List UInt8) : Nat := s.foldl (fun n c => n * 10 + (c.toNat - 48)) n

/-- The value of a nonempty string of ASCII digits, and nothing for any other string. -/
def decimalValue (s : List UInt8) : Option Nat :=
  if s ≠ [] ∧ ∀ c ∈ s, isDigit c = true then some (digitsValue 0 s) else none

/-- A digit's value is below ten exactly when it is a decimal digit, and then it is the byte less `'0'`. -/
theorem digitValue_of_isDigit {c : UInt8} (digit : isDigit c = true) : digitValue c = some (c.toNat - 48) := by
  simp only [isDigit, Bool.and_eq_true, decide_eq_true_eq] at digit
  simp only [digitValue, digit, and_self, ↓reduceIte]

/-- A byte that is no decimal digit has no digit value below ten. -/
theorem ten_le_of_digitValue {c : UInt8} {d : Nat} (digit : isDigit c = false) (value : digitValue c = some d) :
    10 ≤ d := by
  simp only [isDigit, Bool.and_eq_false_iff, decide_eq_false_iff_not, not_le] at digit
  unfold digitValue at value
  split_ifs at value with dec <;> simp only [Option.some.injEq] at value <;> omega

/-- Reading no digits leaves the value as it is. -/
@[simp]
theorem digitsValue_nil (n : Nat) : digitsValue n [] = n := rfl

/-- Reading a string of digits reads its head, then the rest. -/
@[simp]
theorem digitsValue_cons (n : Nat) (c : UInt8) (rest : List UInt8) :
    digitsValue n (c :: rest) = digitsValue (n * 10 + (c.toNat - 48)) rest := rfl

/-- Reading two strings one after the other reads their concatenation. -/
theorem digitsValue_append (n : Nat) (s t : List UInt8) :
    digitsValue n (s ++ t) = digitsValue (digitsValue n s) t := List.foldl_append _ _ _ _

/-- Reading more digits never lowers the value. -/
theorem le_digitsValue (n : Nat) (s : List UInt8) : n ≤ digitsValue n s := by
  induction s generalizing n with
  | nil => exact le_rfl
  | cons c rest ih => exact le_trans (show n ≤ n * 10 + (c.toNat - 48) by omega) (ih _)

/--
One step of the loop on an accumulator below `2^64`: a digit moves it on while the value still
fits in 64 bits, and a range error stops it otherwise; any other byte is a syntax error.
-/
theorem parseUintLoop_cons (c : UInt8) (rest : List UInt8) {n : Nat} (small : n < 2 ^ 64) :
    parseUintLoop (c :: rest) n =
      if isDigit c then
        if n * 10 + (c.toNat - 48) < 2 ^ 64 then parseUintLoop rest (n * 10 + (c.toNat - 48))
        else (maxUint64, some .errRange)
      else (0, some .errSyntax) := by
  -- A digit is added after the cutoff check; any other byte is a syntax error.
  cases digit : isDigit c with
  | false =>
    -- Letters have values of ten and more, which base ten refuses.
    cases value : digitValue c with
    | none => simp only [parseUintLoop, value, Bool.false_eq_true, ↓reduceIte]
    | some d => simp only [parseUintLoop, value, ten_le_of_digitValue digit value, ↓reduceIte, Bool.false_eq_true]
  | true =>
    -- Below the cutoff the product cannot wrap; adding a digit wraps exactly past `2^64`.
    have below : c.toNat - 48 < 10 := by
      simp only [isDigit, Bool.and_eq_true, decide_eq_true_eq] at digit; omega
    simp only [parseUintLoop, digitValue_of_isDigit digit, if_true, cutoff10, maxUint64]
    rw [if_neg (by omega)]
    by_cases cut : (2 ^ 64 - 1) / 10 + 1 ≤ n
    · rw [if_pos cut, if_neg (by omega)]
    · rw [if_neg cut, Nat.mod_eq_of_lt (show n * 10 < 2 ^ 64 by omega)]
      by_cases fits : n * 10 + (c.toNat - 48) < 2 ^ 64
      · rw [Nat.mod_eq_of_lt fits, if_neg (by omega), if_pos fits]
      · rw [if_pos (Or.inl (by omega)), if_neg fits]

/-- The loop reads a string of digits whose value fits in 64 bits to that value, with no error. -/
theorem parseUintLoop_digits (s : List UInt8) (n : Nat) (digits : ∀ c ∈ s, isDigit c = true)
    (fits : digitsValue n s < 2 ^ 64) : parseUintLoop s n = (digitsValue n s, none) := by
  -- Digits that keep the value in range each add one decimal place.
  induction s generalizing n with
  | nil => rfl
  | cons c rest ih =>
    have step := le_digitsValue (n * 10 + (c.toNat - 48)) rest
    rw [digitsValue_cons] at fits ⊢
    rw [parseUintLoop_cons c rest (by omega), if_pos (digits c (.head _)), if_pos (by omega)]
    exact ih _ (fun c' mem => digits c' (.tail _ mem)) fits

/-- The loop succeeds only on a string of digits whose value fits in 64 bits. -/
theorem parseUintLoop_ok (s : List UInt8) {n : Nat} (small : n < 2 ^ 64)
    (ok : (parseUintLoop s n).2 = none) : (∀ c ∈ s, isDigit c = true) ∧ digitsValue n s < 2 ^ 64 := by
  -- A loop with no error saw only digits and never passed the range.
  induction s generalizing n with
  | nil => exact ⟨by simp, small⟩
  | cons c rest ih =>
    rw [parseUintLoop_cons c rest small] at ok
    split_ifs at ok with digit fits
    · obtain ⟨digits, bound⟩ := ih fits ok
      exact ⟨List.forall_mem_cons.2 ⟨digit, digits⟩, bound⟩

/-- The loop never returns more than `MaxUint64`. -/
theorem parseUintLoop_le (s : List UInt8) {n : Nat} (small : n ≤ maxUint64) :
    (parseUintLoop s n).1 ≤ maxUint64 := by
  -- Each step keeps the value within `MaxUint64`, clamping it on overflow.
  induction s generalizing n with
  | nil => exact small
  | cons c rest ih =>
    unfold maxUint64 at small ih ⊢
    rw [parseUintLoop_cons c rest (by omega)]
    split_ifs with digit fits
    · exact ih (by omega)
    · exact le_rfl
    · exact Nat.zero_le _

/-- `ParseUint` reads a nonempty string of digits whose value fits in 64 bits to that value. -/
theorem parseUint_decimal {s : List UInt8} {v : Nat} (value : decimalValue s = some v) (fits : v < 2 ^ 64) :
    parseUint s = (v, none) := by
  -- A decimal string in range is read by the loop to its value.
  unfold decimalValue at value
  split_ifs at value with digits
  cases value
  rw [parseUint, if_neg digits.1, parseUintLoop_digits s 0 digits.2 fits]

/-- `ParseUint` succeeds only on a nonempty string of digits whose value fits in 64 bits. -/
theorem parseUint_ok {s : List UInt8} (ok : (parseUint s).2 = none) :
    ∃ v, decimalValue s = some v ∧ v < 2 ^ 64 := by
  -- No error means a non-empty string of digits whose value fits.
  unfold parseUint at ok
  split_ifs at ok with empty
  obtain ⟨digits, fits⟩ := parseUintLoop_ok s (by norm_num) ok
  exact ⟨_, by rw [decimalValue, if_pos ⟨empty, digits⟩], fits⟩

/-- `ParseUint` never returns more than `MaxUint64`, error or not. -/
theorem parseUint_le (s : List UInt8) : (parseUint s).1 ≤ maxUint64 := by
  -- Every branch returns a value within `MaxUint64`.
  unfold parseUint
  split_ifs
  · exact Nat.zero_le _
  · exact parseUintLoop_le s (Nat.zero_le _)

/-- The text `FormatUint` writes is digits only, and never empty. -/
theorem formatUint_digits (v : Nat) : formatUint v ≠ [] ∧ ∀ c ∈ formatUint v, isDigit c = true := by
  -- Zero is the digit `0`; any other number writes its decimal digits.
  unfold formatUint
  split_ifs with zero
  · exact ⟨List.cons_ne_nil _ _, by simp only [List.mem_singleton, forall_eq]; rfl⟩
  · refine ⟨by simp [Nat.digits_eq_nil_iff_eq_zero, zero], ?_⟩
    simp only [List.mem_map, List.mem_reverse, forall_exists_index, and_imp]
    rintro c d mem rfl
    have := Nat.digits_lt_base (by norm_num) mem
    simp only [isDigit, UInt8.toNat, UInt8.ofNat, UInt8.toBitVec_ofNat, BitVec.toNat_ofNat, Bool.and_eq_true,
      decide_eq_true_eq]
    omega

/-- Digits written most significant first read back as `Nat.ofDigits`. -/
theorem digitsValue_reverse (digits : List Nat) (small : ∀ d ∈ digits, d < 10) :
    digitsValue 0 (digits.reverse.map fun d => UInt8.ofNat (48 + d)) = Nat.ofDigits 10 digits := by
  -- The digits are written most significant first, so reading them folds `ofDigits`.
  induction digits with
  | nil => rfl
  | cons d rest ih =>
    have head := small d (.head _)
    rw [List.reverse_cons, List.map_append, digitsValue_append, ih fun d mem => small d (.tail _ mem)]
    simp only [UInt8.ofNat, List.map_cons, List.map_nil, digitsValue_cons, UInt8.toNat, UInt8.toBitVec_ofNat,
      BitVec.toNat_ofNat, digitsValue_nil, Nat.ofDigits_cons]
    omega

/-- `ParseUint` reads back what `FormatUint` writes. -/
@[simp]
theorem decimalValue_formatUint (v : Nat) : decimalValue (formatUint v) = some v := by
  -- The digits written read back as the number they came from.
  rw [decimalValue, if_pos (formatUint_digits v)]
  unfold formatUint
  split_ifs with zero
  · subst zero; rfl
  · rw [digitsValue_reverse _ fun d mem => Nat.digits_lt_base (by norm_num) mem, Nat.ofDigits_digits]

end AvalancheGo
