import AvalancheGo.Json.ParseUint

/-! The JSON unsigned integers: decimal text in double quotes, refused when it overflows the type. -/

namespace AvalancheGo

/-- The bytes of the JSON literal `null`. -/
def nullBytes : List UInt8 := [110, 117, 108, 108]

/-- The byte `'"'`. -/
def quoteByte : UInt8 := 34

/-- The errors of the JSON integers: `ParseUint`'s own, or the value overflowing the type. -/
inductive JsonError
  | numError (err : NumError)
  /-- "value overflowed uint8" -/
  | errTooLarge8
  /-- "value overflowed uint16" -/
  | errTooLarge16
  /-- "value overflowed uint32" -/
  | errTooLarge32
deriving DecidableEq, Repr

/-- The quotes `UnmarshalJSON` removes: one enclosing pair, from a text of two bytes or more. -/
def stripQuotes (str : List UInt8) : List UInt8 :=
  if 2 ≤ str.length ∧ str.head? = some quoteByte ∧ str.getLast? = some quoteByte then (str.drop 1).dropLast
  else str

/-- `MarshalJSON`, the same at every width: the decimal digits of the value between double quotes. -/
def marshalUint (v : Nat) : List UInt8 := quoteByte :: formatUint v ++ [quoteByte]

/--
`UnmarshalJSON` of `Uint8`, `Uint16` and `Uint32`, at width `w` with the type's overflow error:
`null` leaves the target alone; otherwise the text, unquoted once, is parsed, a value above the
type's maximum is refused, and any other value is stored and `ParseUint`'s error returned.
-/
def unmarshalNarrow (w : Nat) (errTooLarge : JsonError) (u : BitVec w) (b : List UInt8) :
    BitVec w × Option JsonError :=
  if b = nullBytes then (u, none)
  else
    let parsed := parseUint (stripQuotes b)
    if 2 ^ w - 1 < parsed.1 then (u, some errTooLarge) else (BitVec.ofNat w parsed.1, parsed.2.map .numError)

/-- `Uint8.MarshalJSON`. -/
def Uint8.marshalJSON (u : BitVec 8) : List UInt8 := marshalUint u.toNat

/-- `Uint8.UnmarshalJSON`. -/
def Uint8.unmarshalJSON : BitVec 8 → List UInt8 → BitVec 8 × Option JsonError :=
  unmarshalNarrow 8 .errTooLarge8

/-- `Uint16.MarshalJSON`. -/
def Uint16.marshalJSON (u : BitVec 16) : List UInt8 := marshalUint u.toNat

/-- `Uint16.UnmarshalJSON`. -/
def Uint16.unmarshalJSON : BitVec 16 → List UInt8 → BitVec 16 × Option JsonError :=
  unmarshalNarrow 16 .errTooLarge16

/-- `Uint32.MarshalJSON`. -/
def Uint32.marshalJSON (u : BitVec 32) : List UInt8 := marshalUint u.toNat

/-- `Uint32.UnmarshalJSON`. -/
def Uint32.unmarshalJSON : BitVec 32 → List UInt8 → BitVec 32 × Option JsonError :=
  unmarshalNarrow 32 .errTooLarge32

/-- `Uint64.MarshalJSON`. -/
def Uint64.marshalJSON (u : BitVec 64) : List UInt8 := marshalUint u.toNat

/-- `Uint64.UnmarshalJSON`: as the narrower ones, but with no overflow check of its own. -/
def Uint64.unmarshalJSON (u : BitVec 64) (b : List UInt8) : BitVec 64 × Option JsonError :=
  if b = nullBytes then (u, none)
  else
    let parsed := parseUint (stripQuotes b)
    (BitVec.ofNat 64 parsed.1, parsed.2.map .numError)

/--
The check `Uint64` lacks would never fire: `ParseUint` returns no more than `MaxUint64`, so
`Uint64.UnmarshalJSON` is the narrow unmarshaller at width 64, whatever its overflow error.
-/
theorem Uint64.unmarshalJSON_eq_narrow (errTooLarge : JsonError) :
    Uint64.unmarshalJSON = unmarshalNarrow 64 errTooLarge := by
  -- The 64-bit range check never fires, so this is the narrow reader at width 64.
  funext u b
  unfold Uint64.unmarshalJSON unmarshalNarrow
  split_ifs with null
  · rfl
  · dsimp only
    rw [if_neg (show ¬2 ^ 64 - 1 < (parseUint (stripQuotes b)).1 from not_lt.2 (parseUint_le _))]

/-- `b` is the decimal text of `v`, bare or in one pair of double quotes. -/
def IsDecimalText (b : List UInt8) (v : Nat) : Prop :=
  ∃ d, (b = d ∨ b = quoteByte :: d ++ [quoteByte]) ∧ decimalValue d = some v

/-- A text is left alone, or it is the text it is stripped to in one pair of quotes. -/
theorem stripQuotes_cases (b : List UInt8) :
    stripQuotes b = b ∨ b = quoteByte :: stripQuotes b ++ [quoteByte] := by
  -- Either the bytes are quoted and lose the quotes, or they stay as they are.
  unfold stripQuotes
  split_ifs with quoted
  · right
    obtain ⟨long, first, last⟩ := quoted
    match b, long, first, last with
    | x :: rest, long, first, last =>
      have nonempty : rest ≠ [] := by rintro rfl; simp at long
      simp only [List.head?_cons, Option.some.injEq] at first
      rw [List.getLast?_eq_getLast _ (List.cons_ne_nil _ _), List.getLast_cons nonempty,
        Option.some.injEq] at last
      simp only [List.drop_one, List.tail_cons, first, List.cons.injEq, true_and]
      conv_lhs => rw [← List.dropLast_append_getLast nonempty, last]
      rfl
  · left; rfl

/-- Stripping the quotes of a quoted text gives the text between them. -/
theorem stripQuotes_quoted (d : List UInt8) : stripQuotes (quoteByte :: d ++ [quoteByte]) = d := by
  rw [stripQuotes, if_pos ⟨by simp, rfl, List.getLast?_concat _⟩]
  simp

/-- A decimal text is exactly one that reads, once unquoted, as digits. -/
theorem isDecimalText_iff (b : List UInt8) (v : Nat) :
    IsDecimalText b v ↔ decimalValue (stripQuotes b) = some v := by
  -- Decimal text is what the reader sees once the quotes are stripped.
  constructor
  · rintro ⟨d, rfl | rfl, value⟩
    · -- Bare digits start with a digit, never a quote, so nothing is stripped.
      unfold decimalValue at value
      split_ifs at value with digits
      obtain ⟨c, rest, rfl⟩ := List.exists_cons_of_ne_nil digits.1
      have head := digits.2 c (.head _)
      have unquoted : c ≠ quoteByte := by rintro rfl; exact absurd head (by decide)
      rw [stripQuotes, if_neg (by simp [unquoted]), decimalValue, if_pos digits, value]
    · rwa [stripQuotes_quoted]
  · intro value
    rcases stripQuotes_cases b with bare | quoted
    · exact ⟨b, .inl rfl, bare ▸ value⟩
    · exact ⟨_, .inr quoted, value⟩

/-- `null` is no decimal text. -/
theorem not_isDecimalText_null (v : Nat) : ¬IsDecimalText nullBytes v := by
  rw [isDecimalText_iff, show decimalValue (stripQuotes nullBytes) = none by decide]
  simp

/-- What `MarshalJSON` writes is the decimal text of the value. -/
theorem isDecimalText_marshalUint (v : Nat) : IsDecimalText (marshalUint v) v :=
  ⟨formatUint v, .inr rfl, decimalValue_formatUint v⟩

/--
An unmarshaller at width `w` read against its marshaller: it succeeds exactly on `null`, leaving
the target alone, and on the decimal texts of values that fit, storing exactly that value; and it
reads back every value the marshaller writes.
-/
structure ExactDecimal (w : Nat) (marshal : BitVec w → List UInt8)
    (unmarshal : BitVec w → List UInt8 → BitVec w × Option JsonError) : Prop where
  ok_iff : ∀ u b, (unmarshal u b).2 = none ↔ b = nullBytes ∨ ∃ v, IsDecimalText b v ∧ v < 2 ^ w
  null : ∀ u, unmarshal u nullBytes = (u, none)
  decimal : ∀ u b v, IsDecimalText b v → v < 2 ^ w → (unmarshal u b).2 = none ∧ (unmarshal u b).1.toNat = v
  round_trip : ∀ u v, unmarshal u (marshal v) = (v, none)

/-- Only `null` and the decimal texts of values that fit unmarshal with no error. -/
theorem unmarshalNarrow_ok {w : Nat} (errTooLarge : JsonError) (u : BitVec w) (b : List UInt8) (ok : (unmarshalNarrow w errTooLarge u b).2 = none) :
    b = nullBytes ∨ ∃ v, IsDecimalText b v ∧ v < 2 ^ w := by
  -- With no error the bytes were `null` or a decimal that fits.
  unfold unmarshalNarrow at ok
  dsimp only at ok
  split_ifs at ok with null over
  · exact .inl null
  · -- Past the overflow check, success is `ParseUint`'s success.
    obtain ⟨v, value, wide⟩ := parseUint_ok (Option.map_eq_none'.1 ok)
    rw [parseUint_decimal value wide] at over
    exact .inr ⟨v, (isDecimalText_iff b v).2 value, by have := Nat.two_pow_pos w; omega⟩

section Narrow

variable {w : Nat} (small : w ≤ 64) (errTooLarge : JsonError)
include small

/-- A decimal text of a value that fits is stored as that value, with no error. -/
theorem unmarshalNarrow_decimal (u : BitVec w) {b : List UInt8} {v : Nat} (text : IsDecimalText b v)
    (fits : v < 2 ^ w) : unmarshalNarrow w errTooLarge u b = (BitVec.ofNat w v, none) := by
  -- A decimal that fits passes both range checks.
  have wide : v < 2 ^ 64 := lt_of_lt_of_le fits (Nat.pow_le_pow_right (by norm_num) small)
  have parsed := parseUint_decimal ((isDecimalText_iff b v).1 text) wide
  rw [unmarshalNarrow, if_neg (fun null : b = nullBytes => not_isDecimalText_null v (null ▸ text))]
  simp only [parsed, if_neg (show ¬2 ^ w - 1 < v by omega), Option.map_none']

/-- The narrow unmarshaller reads decimal text exactly, at any width up to 64. -/
theorem exactDecimal_unmarshalNarrow :
    ExactDecimal w (fun v => marshalUint v.toNat) (unmarshalNarrow w errTooLarge) where
  ok_iff u b := by
    refine ⟨unmarshalNarrow_ok errTooLarge u b, ?_⟩
    rintro (rfl | ⟨v, text, fits⟩)
    · simp [unmarshalNarrow]
    · rw [unmarshalNarrow_decimal small errTooLarge u text fits]
  null u := by simp [unmarshalNarrow]
  decimal u b v text fits := by
    rw [unmarshalNarrow_decimal small errTooLarge u text fits]
    exact ⟨rfl, by simp [Nat.mod_eq_of_lt fits]⟩
  round_trip u v := by
    rw [unmarshalNarrow_decimal small errTooLarge u (isDecimalText_marshalUint _) v.isLt]
    simp

end Narrow

/--
For each width 8, 16, 32 and 64, `UnmarshalJSON` succeeds exactly on `null`, leaving the target
alone, and on decimal digits, bare or in one pair of quotes, whose value fits the type, and then
stores exactly that value; it reads back whatever `MarshalJSON` writes.
-/
theorem uint_json_exact :
    ExactDecimal 8 Uint8.marshalJSON Uint8.unmarshalJSON ∧
    ExactDecimal 16 Uint16.marshalJSON Uint16.unmarshalJSON ∧
    ExactDecimal 32 Uint32.marshalJSON Uint32.unmarshalJSON ∧
    ExactDecimal 64 Uint64.marshalJSON Uint64.unmarshalJSON := by
  -- `Uint64` lacks the overflow check, and behaves as if it had one.
  refine ⟨exactDecimal_unmarshalNarrow (by norm_num) _, exactDecimal_unmarshalNarrow (by norm_num) _,
    exactDecimal_unmarshalNarrow (by norm_num) _, ?_⟩
  rw [Uint64.unmarshalJSON_eq_narrow .errTooLarge32]
  exact exactDecimal_unmarshalNarrow le_rfl _

end AvalancheGo
