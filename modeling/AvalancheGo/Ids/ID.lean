import Mathlib.Data.List.Basic

/-! Thirty-two byte identifiers, the nil-able slices they travel in, and reading one back from bytes. -/

namespace AvalancheGo

/-- Width of a hash, and so of an identifier, in bytes (`hashing.HashLen`). -/
def hashLen : Nat := 32

/-- An `ids.ID`: thirty-two bytes, compared by those bytes. -/
structure ID where
  bytes : List UInt8
  length_bytes : bytes.length = hashLen
deriving DecidableEq

/-- Two identifiers with the same bytes are the same identifier. -/
theorem ID.bytes_injective : Function.Injective ID.bytes := by
  -- The length field is a proof, so the bytes are all the data there is.
  rintro ⟨a, _⟩ ⟨b, _⟩ same
  cases same
  rfl

/-- The zero identifier `ids.Empty`. -/
def ID.empty : ID := ⟨List.replicate hashLen 0, List.length_replicate _ _⟩

/-- Why `ids.ToID` refused its bytes. -/
inductive IDError
  | wrongLength
deriving DecidableEq, Repr

/-- Modelled from the spec: `ids.ToID`, bytes are an identifier exactly when there are thirty-two of them. -/
def toID (bytes : List UInt8) : Except IDError ID :=
  if h : bytes.length = hashLen then .ok ⟨bytes, h⟩ else .error .wrongLength

/-- An identifier's own bytes read back as that identifier. -/
@[simp] theorem toID_bytes (id : ID) : toID id.bytes = .ok id := by
  -- The length check passes on the field that records it.
  simp [toID, id.length_bytes]

/-- Identifiers laid end to end take thirty-two bytes each. -/
@[simp] theorem length_flatMap_bytes (frontier : List ID) :
    (frontier.flatMap ID.bytes).length = hashLen * frontier.length := by
  induction frontier with
  | nil => rfl
  | cons id rest ih => simp [id.length_bytes, ih, Nat.mul_succ, Nat.add_comm]

/-- Identifiers laid end to end are told apart by their bytes. -/
theorem flatMap_bytes_injective : Function.Injective fun frontier : List ID => frontier.flatMap ID.bytes := by
  -- Each identifier is the next thirty-two bytes, so the heads and then the tails agree.
  intro l₁
  induction l₁ with
  | nil =>
    intro l₂ same
    have sizes := congrArg List.length same
    simp only [List.flatMap_nil, List.length_nil, length_flatMap_bytes, hashLen] at sizes
    exact (List.length_eq_zero.1 (by omega)).symm
  | cons id rest ih =>
    rintro (_ | ⟨id', rest'⟩) same
    · have sizes := congrArg List.length same
      simp only [List.flatMap_cons, List.flatMap_nil, List.length_append, id.length_bytes, List.length_nil,
        hashLen] at sizes
      omega
    · simp only [List.flatMap_cons] at same
      obtain ⟨head, tail⟩ := List.append_inj same (by rw [id.length_bytes, id'.length_bytes])
      rw [ID.bytes_injective head, ih tail]

/-- Width of a short identifier, an address or a node's identifier, in bytes. -/
def shortIDLen : Nat := 20

/-- An `ids.ShortID`: twenty bytes. -/
structure ShortID where
  bytes : List UInt8
  length_bytes : bytes.length = shortIDLen
deriving DecidableEq

/-- Modelled from the spec: `ids.ToShortID`, bytes are a short identifier exactly when there are twenty of them. -/
def toShortID (bytes : List UInt8) : Except IDError ShortID :=
  if h : bytes.length = shortIDLen then .ok ⟨bytes, h⟩ else .error .wrongLength

/-- A Go slice: `none` is the nil slice, which ranges and measures as the empty one. -/
abbrev Slice (α : Type) := Option (List α)

/-- The elements a slice ranges over; nil has none. -/
def Slice.toList {α : Type} (s : Slice α) : List α := s.getD []

/-- The nil slice ranges over nothing. -/
@[simp] theorem Slice.toList_none {α : Type} : Slice.toList (none : Slice α) = [] := rfl

/-- A non-nil slice ranges over its elements. -/
@[simp] theorem Slice.toList_some {α : Type} (l : List α) : Slice.toList (some l) = l := rfl

end AvalancheGo
