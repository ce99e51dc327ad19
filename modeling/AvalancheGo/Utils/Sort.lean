import Mathlib.Data.List.Lex
import Mathlib.Data.List.Sort
import Mathlib.Data.List.Chain

/-! Byte order, the sort the code calls, and that sorting by a key forgets the order it was given. -/

namespace AvalancheGo

/-- Modelled from the spec: `bytes.Compare`, lexicographic on bytes, a proper prefix first. -/
def compareBytes : List UInt8 → List UInt8 → Int
  | [], [] => 0
  | [], _ :: _ => -1
  | _ :: _, [] => 1
  | a :: as, b :: bs => if a < b then -1 else if b < a then 1 else compareBytes as bs

/-- Modelled from the spec: `utils.IsSortedAndUnique`, each element `Less` than the next. -/
def isSortedAndUnique {α : Type} (less : α → α → Bool) : List α → Bool
  | a :: b :: rest => less a b && isSortedAndUnique less (b :: rest)
  | _ => true

/-- The check holds exactly when each element is `Less` than the next. -/
theorem isSortedAndUnique_iff {α : Type} (less : α → α → Bool) (l : List α) :
    isSortedAndUnique less l = true ↔ l.Chain' (fun a b => less a b = true) := by
  -- Each adjacent pair in turn, as the check walks them.
  induction l with
  | nil => simp only [isSortedAndUnique, List.chain'_nil]
  | cons a rest ih =>
    cases rest with
    | nil => simp only [isSortedAndUnique, List.chain'_singleton]
    | cons b rest => rw [isSortedAndUnique, Bool.and_eq_true, ih, List.chain'_cons]

/--
Modelled from the spec: `sort.Sort`, which leaves a permutation of the slice in which no
element is `Less` than one before it; insertion sort is one such sort.
-/
def sortBy {α : Type} (less : α → α → Bool) (l : List α) : List α :=
  l.insertionSort (fun a b => less b a = false)

/-- The sort permutes its input. -/
theorem sortBy_perm {α : Type} (less : α → α → Bool) (l : List α) : (sortBy less l).Perm l :=
  List.perm_insertionSort _ l

/-- Two nonempty lists compare by their heads, then by their tails. -/
theorem lex_cons_iff {a b : Nat} {as bs : List Nat} :
    List.Lex (· < ·) (a :: as) (b :: bs) ↔ a < b ∨ a = b ∧ List.Lex (· < ·) as bs := by
  -- The heads decide, or they tie and the tails do.
  constructor
  · intro lex
    cases lex with
    | cons tail => exact .inr ⟨rfl, tail⟩
    | rel head => exact .inl head
  · rintro (head | ⟨rfl, tail⟩)
    · exact .rel head
    · exact .cons tail

/-- Bytes compare as the numbers they hold. -/
theorem uint8_lt_iff (a b : UInt8) : a < b ↔ a.toNat < b.toNat := UInt8.lt_def.trans BitVec.lt_def

/-- `bytes.Compare` answers `-1` exactly on the lexicographic order and `0` exactly on equality. -/
theorem compareBytes_spec (a b : List UInt8) :
    (compareBytes a b = -1 ↔ a.map UInt8.toNat < b.map UInt8.toNat) ∧ (compareBytes a b = 0 ↔ a = b) := by
  -- The first differing byte decides, and equal heads pass the question to the tails.
  induction a generalizing b with
  | nil =>
    cases b <;> simp only [compareBytes, Int.reduceNeg, Int.reduceEq, Int.neg_eq_zero, reduceCtorEq, List.map_nil,
      List.map_cons, lt_self_iff_false, List.nil_lt_cons, List.nil_eq, and_self]
  | cons x xs ih =>
    cases b with
    | nil =>
      simp only [compareBytes, Int.reduceNeg, Int.reduceEq, reduceCtorEq, List.map_cons, List.map_nil, false_iff,
        not_lt, List.nil_le, and_self]
    | cons y ys =>
      show _ ∧ _
      simp only [compareBytes, List.map_cons]
      rw [show (x.toNat :: xs.map UInt8.toNat) < y.toNat :: ys.map UInt8.toNat ↔ _ from lex_cons_iff]
      by_cases lt : x < y
      · have := (uint8_lt_iff x y).1 lt
        simp only [lt, ↓reduceIte, this, true_or, Int.neg_eq_zero, Int.reduceNeg, Int.reduceEq, List.cons.injEq,
          UInt8.ne_of_lt lt, false_and, and_self]
      · by_cases gt : y < x
        · have := (uint8_lt_iff y x).1 gt
          simp only [lt, gt, ↓reduceIte, Int.reduceNeg, Int.reduceEq, reduceCtorEq, false_iff, not_lt, this.le,
            show x.toNat ≠ y.toNat by omega, (UInt8.ne_of_lt gt).symm, false_and, or_false, List.cons.injEq, and_self]
        · have same : x = y := UInt8.toNat.inj (by rw [uint8_lt_iff] at lt gt; omega)
          subst same
          simpa only [lt, ↓reduceIte, lt_self_iff_false, true_and, false_or, List.cons.injEq] using ih ys

/-- Bytes are determined by the numbers they hold. -/
theorem map_toNat_injective : Function.Injective (List.map UInt8.toNat) :=
  List.map_injective_iff.2 fun _ _ => UInt8.toNat.inj

/-- Inserting and then mapping is mapping and then inserting, when the map keeps the order. -/
theorem orderedInsert_map {α γ : Type} (less : α → α → Bool) (less' : γ → γ → Bool) (f : α → γ)
    (keeps : ∀ a b, less a b = less' (f a) (f b)) (a : α) (l : List α) :
    (l.orderedInsert (fun a b => less b a = false) a).map f =
      (l.map f).orderedInsert (fun a b => less' b a = false) (f a) := by
  -- Insertion compares as the images do, one element at a time.
  induction l with
  | nil => rfl
  | cons b rest ih =>
    simp only [List.orderedInsert]
    by_cases before : less b a = false
    · rw [if_pos before, if_pos (by rwa [← keeps])]; rfl
    · rw [if_neg before, if_neg (by rwa [← keeps]), List.map_cons, ih]

/-- Sorting and then mapping is mapping and then sorting, when the map keeps the order. -/
theorem sortBy_map {α γ : Type} (less : α → α → Bool) (less' : γ → γ → Bool) (f : α → γ)
    (keeps : ∀ a b, less a b = less' (f a) (f b)) (l : List α) :
    (sortBy less l).map f = sortBy less' (l.map f) := by
  -- Sorting is repeated insertion, which commutes with the map.
  induction l with
  | nil => rfl
  | cons a rest ih =>
    simp only [sortBy, List.insertionSort, List.map_cons] at ih ⊢
    rw [orderedInsert_map less less' f keeps, ih]
section KeyOrder

variable {α β : Type} [LinearOrder β] {less : α → α → Bool} (key : α → β)
  (less_iff : ∀ a b, less a b = true ↔ key a < key b)
include less_iff

/-- The sort leaves the keys in nondecreasing order. -/
theorem sortBy_sorted (l : List α) : ((sortBy less l).map key).Sorted (· ≤ ·) := by
  -- The sort's own relation is "the key does not go down", a total preorder.
  have weak : ∀ a b, less b a = false ↔ key a ≤ key b := fun a b => by
    rw [← not_lt, ← less_iff]; simp
  haveI : IsTotal α (fun a b => less b a = false) :=
    ⟨fun a b => by simp only [weak]; exact le_total _ _⟩
  haveI : IsTrans α (fun a b => less b a = false) :=
    ⟨fun a b c => by simp only [weak]; exact le_trans⟩
  exact List.pairwise_map.2 ((List.sorted_insertionSort _ l).imp fun {a b} => (weak a b).1)

/-- Sorting two orders of a list whose keys are distinct gives one list. -/
theorem sortBy_eq_of_perm_of_nodup {l₁ l₂ : List α} (perm : l₁.Perm l₂) (distinct : (l₁.map key).Nodup) :
    sortBy less l₁ = sortBy less l₂ := by
  -- Distinct keys in nondecreasing order increase strictly, and a strict order has one sorted arrangement.
  haveI : IsAntisymm α (fun a b => key a < key b) := ⟨fun _ _ lt gt => absurd (lt.trans gt) (lt_irrefl _)⟩
  have strict : ∀ l, l.Perm l₁ → (sortBy less l).Sorted (fun a b => key a < key b) := fun l same => by
    have keys := ((sortBy_perm less l).trans same).map key
    exact List.pairwise_map.1 (((sortBy_sorted key less_iff l).and (keys.nodup_iff.2 distinct)).imp
      fun ⟨le, ne⟩ => lt_of_le_of_ne le ne)
  exact List.eq_of_perm_of_sorted
    (((sortBy_perm less l₁).trans perm).trans (sortBy_perm less l₂).symm)
    (strict l₁ (List.Perm.refl _)) (strict l₂ perm.symm)

/-- Sorting two orders of a list by an injective key gives one list. -/
theorem sortBy_eq_of_perm_of_injective (injective : Function.Injective key) {l₁ l₂ : List α}
    (perm : l₁.Perm l₂) : sortBy less l₁ = sortBy less l₂ := by
  -- Equal keys mean equal elements, so the nondecreasing order is antisymmetric.
  haveI : IsAntisymm α (fun a b => key a ≤ key b) := ⟨fun _ _ le ge => injective (le_antisymm le ge)⟩
  exact List.eq_of_perm_of_sorted
    (((sortBy_perm less l₁).trans perm).trans (sortBy_perm less l₂).symm)
    (List.pairwise_map.1 (sortBy_sorted key less_iff l₁)) (List.pairwise_map.1 (sortBy_sorted key less_iff l₂))

end KeyOrder

/-- `bytes.Compare(a, b) == -1` is the order of the bytes as lists of numbers. -/
theorem compareBytes_lt_iff (a b : List UInt8) :
    decide (compareBytes a b = -1) = true ↔ a.map UInt8.toNat < b.map UInt8.toNat := by
  rw [decide_eq_true_iff, (compareBytes_spec a b).1]

end AvalancheGo
