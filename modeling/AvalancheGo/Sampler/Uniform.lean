import Mathlib.Algebra.Group.Int
import Mathlib.Data.Set.Function
import Mathlib.Logic.Function.Basic
import Mathlib.Data.List.Nodup

/-! Uniform sampling without replacement: a lazy Fisher–Yates shuffle over a default map. -/

namespace AvalancheGo

/-- `math.MaxInt64`. -/
def maxInt64 : Nat := 2 ^ 63 - 1

/-- The sampler's failures: `errOutOfRange`, and the panic of `rand.Int63n` on a bound below one. -/
inductive SamplerError
  | errOutOfRange
  | int63nPanic
deriving DecidableEq, Repr

/-- `uint64` subtraction, wrapping below zero. -/
def sub64 (a b : Nat) : Nat := (a + 2 ^ 64 - b) % 2 ^ 64

/-- `int64(x)` of a `uint64` `x`: its two's-complement reading. -/
def toInt64 (x : Nat) : Int := if x < 2 ^ 63 then x else (x : Int) - 2 ^ 64

/--
`rand.Int63n(n)`: a panic unless `n > 0`, else the source's 63-bit value taken below `n`, as
`v % n` (the mask `v & (n - 1)` for a power of two is the same), `value` being the one the
rejection loop accepts.
-/
def int63n (n : Int) (value : Nat) : Except SamplerError Nat :=
  if n ≤ 0 then .error .int63nPanic else .ok (value % n.toNat)

/-- A `defaultMap`, a `map[uint64]uint64`. -/
abbrev DefaultMap := Nat → Option Nat

/-- `defaultMap.get`: the value under `key`, or `defaultVal` when there is none. -/
def DefaultMap.get (m : DefaultMap) (key defaultVal : Nat) : Nat := (m key).getD defaultVal

/-- A `uniformReplacer`: the length of the array `[0, length)` it samples, at most `MaxInt64`. -/
structure UniformReplacer where
  length : Nat
  length_le : length ≤ maxInt64

/-- `Initialize`: a length above `MaxInt64` is refused. -/
def UniformReplacer.init (length : Nat) : Except SamplerError UniformReplacer :=
  if h : length ≤ maxInt64 then .ok ⟨length, h⟩ else .error .errOutOfRange

/-- Iteration `i` of `Sample`: draw a slot in `[i, length)`, return what it holds, move slot `i` into it. -/
def sampleStep (length : Nat) (rand : Nat → Nat) (i : Nat) (drawn : DefaultMap) :
    Except SamplerError (Nat × DefaultMap) := do
  let d ← int63n (toInt64 (sub64 length i)) (rand i)
  let draw := (d + i) % 2 ^ 64
  pure (drawn.get draw draw, Function.update drawn draw (some (drawn.get i i)))

/-- The loop of `Sample` from iteration `i`, for `n` more iterations, collecting each result. -/
def sampleLoop (length : Nat) (rand : Nat → Nat) :
    Nat → Nat → DefaultMap → List Nat → Except SamplerError (List Nat)
  | 0, _, _, results => .ok results
  | n + 1, i, drawn, results => do
    let (ret, drawn) ← sampleStep length rand i drawn
    sampleLoop length rand n (i + 1) drawn (results ++ [ret])

/--
`Sample`: a count outside `[0, length]` is refused; otherwise `count` iterations run from an
empty map, the `i`-th call of `rand.Int63n` returning `rand i`.
-/
def UniformReplacer.sample (s : UniformReplacer) (count : Int) (rand : Nat → Nat) :
    Except SamplerError (List Nat) :=
  if count < 0 ∨ s.length < count.toNat then .error .errOutOfRange
  else sampleLoop s.length rand count.toNat 0 (fun _ => none) []

/-- A slot reads the value just moved into it, and every other slot reads as before. -/
@[simp] theorem DefaultMap.get_update (m : DefaultMap) (key value j : Nat) :
    DefaultMap.get (Function.update m key (some value)) j j = if j = key then value else m.get j j := by
  by_cases same : j = key
  · subst same; simp [DefaultMap.get]
  · simp [DefaultMap.get, same]

/-- Below `length`, the bound handed to `rand.Int63n` is the number of slots left, at least one. -/
theorem toInt64_sub64 {length i : Nat} (bounded : length ≤ maxInt64) (within : i < length) :
    toInt64 (sub64 length i) = ((length - i : Nat) : Int) ∧ 0 < length - i := by
  -- No subtraction wraps, and what is left is below 2^63.
  have small : (length + 2 ^ 64 - i) % 2 ^ 64 = length - i := by
    unfold maxInt64 at bounded; omega
  refine ⟨?_, by omega⟩
  unfold toInt64 sub64 maxInt64 at *
  rw [small, if_pos (by omega)]

/-- Below `length`, an iteration draws a slot among those left, never panicking, whatever the source returns. -/
theorem sampleStep_eq {length i : Nat} (rand : Nat → Nat) (drawn : DefaultMap)
    (bounded : length ≤ maxInt64) (within : i < length) :
    sampleStep length rand i drawn =
      .ok (drawn.get ((rand i % (length - i) + i) % 2 ^ 64) ((rand i % (length - i) + i) % 2 ^ 64),
        Function.update drawn ((rand i % (length - i) + i) % 2 ^ 64) (some (drawn.get i i))) := by
  -- The bound is the number of slots left, so `rand.Int63n` returns the source's value below it.
  obtain ⟨bound, positive⟩ := toInt64_sub64 bounded within
  have : ¬ ((length - i : Nat) : Int) ≤ 0 := by omega
  simp [sampleStep, int63n, bound, this, bind, Except.bind, pure, Except.pure]

/--
The lazy array after `i` iterations: its slots in `[i, length)` hold, each once, exactly the
values below `length` not yet returned, and the values returned are distinct and below `length`.
-/
structure Fresh (length i : Nat) (drawn : DefaultMap) (results : List Nat) : Prop where
  lt : ∀ j, i ≤ j → j < length → drawn.get j j < length
  not_mem : ∀ j, i ≤ j → j < length → drawn.get j j ∉ results
  inj : ∀ j j', i ≤ j → j < length → i ≤ j' → j' < length → drawn.get j j = drawn.get j' j' → j = j'
  covers : ∀ v < length, v ∉ results → ∃ j, i ≤ j ∧ j < length ∧ drawn.get j j = v
  nodup : results.Nodup
  bounded : ∀ v ∈ results, v < length

namespace Fresh

/-- Before the first iteration every slot holds its own index and nothing is returned. -/
theorem start (length : Nat) : Fresh length 0 (fun _ => none) [] where
  lt j _ below := by simpa [DefaultMap.get] using below
  not_mem _ _ _ := List.not_mem_nil _
  inj j j' _ _ _ _ same := by simpa [DefaultMap.get] using same
  covers v below _ := ⟨v, Nat.zero_le v, below, rfl⟩
  nodup := List.nodup_nil
  bounded _ mem := absurd mem (List.not_mem_nil _)

variable {length i slot : Nat} {drawn : DefaultMap} {results : List Nat}

/-- Returning the value of a slot in `[i, length)` and moving slot `i` into it keeps the array fresh. -/
theorem step (fresh : Fresh length i drawn results) (low : i ≤ slot) (high : slot < length) :
    Fresh length (i + 1) (Function.update drawn slot (some (drawn.get i i)))
      (results ++ [drawn.get slot slot]) where
  lt j low' high' := by
    rw [DefaultMap.get_update]
    split
    · exact fresh.lt i le_rfl (by omega)
    · exact fresh.lt j (by omega) high'
  not_mem j low' high' := by
    -- The value moved in differs from the one returned, since the two slots differ.
    rw [DefaultMap.get_update]
    split
    · rename_i moved
      have apart : drawn.get i i ≠ drawn.get slot slot := fun same =>
        absurd (fresh.inj i slot le_rfl (by omega) low high same) (by omega)
      simpa [apart] using fresh.not_mem i le_rfl (by omega)
    · rename_i stays
      have apart : drawn.get j j ≠ drawn.get slot slot := fun same =>
        stays (fresh.inj j slot (by omega) high' low high same)
      simpa [apart] using fresh.not_mem j (by omega) high'
  inj j j' low₁ high₁ low₂ high₂ same := by
    simp only [DefaultMap.get_update] at same
    split at same <;> split at same
    · omega
    · exact absurd (fresh.inj i j' le_rfl (by omega) (by omega) high₂ same) (by omega)
    · exact absurd (fresh.inj j i (by omega) high₁ le_rfl (by omega) same) (by omega)
    · exact fresh.inj j j' (by omega) high₁ (by omega) high₂ same
  covers v below missing := by
    -- A value still missing sat in some slot other than the one just returned.
    simp only [List.mem_append, List.mem_singleton, not_or] at missing
    obtain ⟨j, low', high', held⟩ := fresh.covers v below missing.1
    have other : j ≠ slot := by rintro rfl; exact missing.2 held.symm
    by_cases first : j = i
    · subst first
      exact ⟨slot, by omega, high, by simp [held]⟩
    · exact ⟨j, by omega, high', by simp [other, held]⟩
  nodup := by
    rw [List.nodup_append]
    exact ⟨fresh.nodup, List.nodup_singleton _, by simpa using fresh.not_mem slot low high⟩
  bounded v mem := by
    simp only [List.mem_append, List.mem_singleton] at mem
    rcases mem with old | rfl
    · exact fresh.bounded v old
    · exact fresh.lt slot low high

end Fresh

/-- The loop reads the source only at the iterations it runs. -/
theorem sampleLoop_congr (rand rand' : Nat → Nat) :
    ∀ n i drawn results, (∀ k < n, rand (i + k) = rand' (i + k)) →
      sampleLoop length rand n i drawn results = sampleLoop length rand' n i drawn results := by
  -- Each iteration reads the source at its own index only.
  intro n
  induction n with
  | zero => intros; rfl
  | succ n ih =>
    intro i drawn results agree
    have first : rand i = rand' i := by simpa using agree 0 (by omega)
    simp only [sampleLoop, sampleStep, first]
    congr 1; funext step
    exact ih _ _ _ fun k below => by simpa [Nat.add_right_comm, Nat.add_assoc] using agree (k + 1) (by omega)

/-- Draws that each fall among the slots left keep every iteration's slot below `length`. -/
def DrawsFit (length : Nat) (rand : Nat → Nat) (i n : Nat) : Prop :=
  ∀ k < n, rand (i + k) < length - (i + k)

namespace DrawsFit

variable {length i n : Nat} {rand : Nat → Nat}

/-- The first of fitting draws lies among the slots left. -/
theorem head (draws : DrawsFit length rand i (n + 1)) : rand i < length - i := by
  simpa using draws 0 (by omega)

/-- The draws after the first still fit, one iteration on. -/
theorem tail (draws : DrawsFit length rand i (n + 1)) : DrawsFit length rand (i + 1) n :=
  fun k lt => by simpa [Nat.add_right_comm, Nat.add_assoc] using draws (k + 1) (by omega)

/-- A fitting first draw followed by draws that fit from the next iteration on fit. -/
theorem cons {r : Nat} (first : r < length - i) (draws : DrawsFit length rand (i + 1) n) :
    DrawsFit length (Function.update rand i r) i (n + 1) := by
  -- The first draw is the one put in; the rest are those that fit.
  intro k lt
  cases k with
  | zero => simpa using first
  | succ k =>
    simpa [show i + (k + 1) ≠ i by omega, Nat.add_right_comm, Nat.add_assoc] using draws k (by omega)

end DrawsFit

section Loop

variable {length : Nat} (bounded : length ≤ maxInt64)
include bounded

/-- Below `length`, one more iteration returns the value of the drawn slot and continues. -/
theorem sampleLoop_succ (rand : Nat → Nat) (n : Nat) {i : Nat} (drawn : DefaultMap)
    (results : List Nat) (within : i < length) :
    sampleLoop length rand (n + 1) i drawn results =
      sampleLoop length rand n (i + 1)
        (Function.update drawn ((rand i % (length - i) + i) % 2 ^ 64) (some (drawn.get i i)))
        (results ++ [drawn.get ((rand i % (length - i) + i) % 2 ^ 64)
          ((rand i % (length - i) + i) % 2 ^ 64)]) := by
  simp [sampleLoop, sampleStep_eq rand drawn bounded within, bind, Except.bind]

/-- While iterations stay below `length`, the loop never panics and appends one result each. -/
theorem sampleLoop_ok (rand : Nat → Nat) :
    ∀ n i drawn results, i + n ≤ length →
      ∃ tail, sampleLoop length rand n i drawn results = .ok (results ++ tail) ∧ tail.length = n := by
  -- Below `length` each iteration succeeds and appends one value.
  intro n
  induction n with
  | zero => exact fun _ _ results _ => ⟨[], by simp [sampleLoop]⟩
  | succ n ih =>
    intro i drawn results fits
    rw [sampleLoop_succ bounded rand n drawn results (by omega)]
    obtain ⟨tail, ran, counted⟩ := ih (i + 1) _ (results ++ [_]) (by omega)
    exact ⟨_ :: tail, by rw [ran, List.append_assoc, List.singleton_append], by simp [counted]⟩

/-- A draw among the slots left picks slot `rand i + i`, with no wrapping. -/
theorem sampleLoop_succ_of_lt (rand : Nat → Nat) (n : Nat) {i : Nat} (drawn : DefaultMap)
    (results : List Nat) (draw : rand i < length - i) :
    sampleLoop length rand (n + 1) i drawn results =
      sampleLoop length rand n (i + 1) (Function.update drawn (rand i + i) (some (drawn.get i i)))
        (results ++ [drawn.get (rand i + i) (rand i + i)]) := by
  have slot : (rand i % (length - i) + i) % 2 ^ 64 = rand i + i := by
    rw [Nat.mod_eq_of_lt draw]; unfold maxInt64 at bounded; omega
  rw [sampleLoop_succ bounded rand n drawn results (by omega), slot]

/-- From a fresh array, fitting draws return distinct values below `length`, one per iteration. -/
theorem sampleLoop_fresh {rand : Nat → Nat} :
    ∀ n i drawn results, i + n ≤ length → Fresh length i drawn results → DrawsFit length rand i n →
      ∃ out, sampleLoop length rand n i drawn results = .ok out ∧ out.Nodup ∧ ∀ v ∈ out, v < length := by
  -- Each fitting draw keeps the array fresh, and a fresh array's results are distinct and in range.
  intro n
  induction n with
  | zero => exact fun _ _ results _ fresh _ => ⟨results, rfl, fresh.nodup, fresh.bounded⟩
  | succ n ih =>
    intro i drawn results fits fresh draws
    have below := draws.head
    rw [sampleLoop_succ_of_lt bounded rand n drawn results below]
    exact ih _ _ _ (by omega) (fresh.step (by omega) (by omega)) draws.tail

/-- From a fresh array, fitting draws are determined by the values the loop returns. -/
theorem sampleLoop_injective {rand rand' : Nat → Nat} :
    ∀ n i drawn results, i + n ≤ length → Fresh length i drawn results →
      DrawsFit length rand i n → DrawsFit length rand' i n →
      sampleLoop length rand n i drawn results = sampleLoop length rand' n i drawn results →
      ∀ k < n, rand (i + k) = rand' (i + k) := by
  -- The first values returned pin down the first draw, and the rest follow by induction.
  intro n
  induction n with
  | zero => exact fun _ _ _ _ _ _ _ _ k lt => absurd lt (Nat.not_lt_zero k)
  | succ n ih =>
    intro i drawn results fits fresh draws draws' same
    have below := draws.head
    have below' := draws'.head
    rw [sampleLoop_succ_of_lt bounded rand n drawn results below,
      sampleLoop_succ_of_lt bounded rand' n drawn results below'] at same
    -- The first values returned agree, and the array holds each value in one slot only.
    have first : rand i = rand' i := by
      obtain ⟨tail, ran, -⟩ := sampleLoop_ok bounded rand n (i + 1)
        (Function.update drawn (rand i + i) (some (drawn.get i i)))
        (results ++ [drawn.get (rand i + i) (rand i + i)]) (by omega)
      obtain ⟨tail', ran', -⟩ := sampleLoop_ok bounded rand' n (i + 1)
        (Function.update drawn (rand' i + i) (some (drawn.get i i)))
        (results ++ [drawn.get (rand' i + i) (rand' i + i)]) (by omega)
      rw [ran, ran'] at same
      have returned : drawn.get (rand i + i) (rand i + i) = drawn.get (rand' i + i) (rand' i + i) :=
        (by simpa using same : _ ∧ tail = tail').1
      have := fresh.inj _ _ (by omega) (by omega) (by omega) (by omega) returned
      omega
    intro k lt
    cases k with
    | zero => exact first
    | succ k =>
      -- With the same first draw the two runs continue from the same array.
      rw [first] at same
      have rest := ih (i + 1) _ _ (by omega) (fresh.step (show i ≤ rand' i + i by omega) (by omega))
        draws.tail draws'.tail same k (by omega)
      simpa [Nat.add_right_comm, Nat.add_assoc] using rest

/-- From a fresh array, every continuation by distinct values below `length` is returned by some fitting draws. -/
theorem sampleLoop_reaches :
    ∀ (tail : List Nat) i drawn results, i + tail.length ≤ length → Fresh length i drawn results →
      (results ++ tail).Nodup → (∀ v ∈ tail, v < length) →
      ∃ rand, DrawsFit length rand i tail.length ∧
        sampleLoop length rand tail.length i drawn results = .ok (results ++ tail) := by
  -- At each step, draw the slot that holds the next value wanted.
  intro tail
  induction tail with
  | nil =>
    exact fun _ _ results _ _ _ _ =>
      ⟨fun _ => 0, fun k lt => absurd lt (Nat.not_lt_zero k), by simp [sampleLoop]⟩
  | cons v tail ih =>
    intro i drawn results fits fresh distinct below
    simp only [List.length_cons] at fits
    -- The next value is still missing, so some slot left holds it: draw that slot.
    have missing : v ∉ results := fun mem =>
      List.disjoint_of_nodup_append distinct mem (List.mem_cons_self v tail)
    obtain ⟨j, low, high, held⟩ := fresh.covers v (below v (List.mem_cons_self v tail)) missing
    obtain ⟨rand, draws, ran⟩ := ih (i + 1) _ _ (by omega) (fresh.step low high)
      (by simpa [held] using distinct) (fun w mem => below w (List.mem_cons_of_mem v mem))
    have first : j - i < length - i := by omega
    refine ⟨Function.update rand i (j - i), DrawsFit.cons first draws, ?_⟩
    rw [List.length_cons, sampleLoop_succ_of_lt bounded _ _ _ _ (by simpa using first)]
    simp only [Function.update_same, Nat.sub_add_cancel low]
    rw [sampleLoop_congr _ rand _ _ _ _ fun k _ => by simp [show i + 1 + k ≠ i by omega]]
    simpa [held] using ran

end Loop

/-- Draw sequences for `n` iterations over `length` slots: the `k`-th draw lies below the bound the `k`-th iteration hands `rand.Int63n`. -/
def validDraws (length n : Nat) : Set (List Nat) :=
  {ds | ds.length = n ∧ ∀ k < n, (ds.getD k 0 : Int) < toInt64 (sub64 length k)}

/-- The `n`-tuples of pairwise distinct values below `length`. -/
def distinctTuples (length n : Nat) : Set (List Nat) :=
  {r | r.length = n ∧ r.Nodup ∧ ∀ v ∈ r, v < length}

/-- The source whose `k`-th call returns the `k`-th draw of a sequence. -/
def drawsFrom (ds : List Nat) : Nat → Nat := fun k => ds.getD k 0

namespace UniformReplacer

/-- A count in `[0, length]` runs the loop that many times from an empty map. -/
theorem sample_eq (s : UniformReplacer) (n : Nat) (fits : n ≤ s.length) (rand : Nat → Nat) :
    s.sample n rand = sampleLoop s.length rand n 0 (fun _ => none) [] := by
  have : ¬ (n : Int) < 0 := by omega
  simp [sample, this, Nat.not_lt.mpr fits]

/-- `Sample` refuses exactly the counts outside `[0, length]`, and never panics. -/
theorem sample_error (s : UniformReplacer) (count : Int) (rand : Nat → Nat) :
    (s.sample count rand = .error .errOutOfRange ↔ count < 0 ∨ (s.length : Int) < count) ∧
      s.sample count rand ≠ .error .int63nPanic := by
  -- Outside the range the count is refused; inside it the loop runs to the end.
  by_cases outside : count < 0 ∨ s.length < count.toNat
  · have : count < 0 ∨ (s.length : Int) < count := by omega
    simp [sample, outside, this]
  · -- Inside the range the loop runs to the end.
    obtain ⟨tail, ran, -⟩ := sampleLoop_ok s.length_le rand count.toNat 0 (fun _ => none) []
      (by omega)
    have : ¬ (count < 0 ∨ (s.length : Int) < count) := by omega
    simp [sample, outside, this, ran]

/-- Sampling `n ≤ length` values maps fitting draw sequences one to one onto distinct `n`-tuples. -/
theorem sample_bijOn (s : UniformReplacer) (n : Nat) (fits : n ≤ s.length) :
    Set.BijOn (fun ds => s.sample n (drawsFrom ds)) (validDraws s.length n)
      (Except.ok '' distinctTuples s.length n) := by
  -- Each iteration's bound is the number of slots left, so draws below it fit.
  have bound : ∀ k < n, toInt64 (sub64 s.length k) = ((s.length - k : Nat) : Int) :=
    fun k lt => (toInt64_sub64 s.length_le (by omega)).1
  have fitting : ∀ ds ∈ validDraws s.length n, DrawsFit s.length (drawsFrom ds) 0 n :=
    fun ds valid k lt => by have := valid.2 k lt; rw [bound k lt] at this; simp only [drawsFrom, Nat.zero_add]; omega
  refine ⟨fun ds valid => ?_, fun ds valid ds' valid' same => ?_, fun r tuple => ?_⟩
  · -- Fitting draws return `n` distinct values below `length`.
    obtain ⟨tail, ran, counted⟩ := sampleLoop_ok s.length_le (drawsFrom ds) n 0 (fun _ => none) []
      (by omega)
    obtain ⟨out, ran', distinct, below⟩ := sampleLoop_fresh s.length_le n 0 (fun _ => none) []
      (by omega) (Fresh.start s.length) (fitting ds valid)
    rw [ran] at ran'
    cases ran'
    exact ⟨tail, ⟨counted, by simpa using distinct, by simpa using below⟩,
      by simp [sample_eq s n fits, ran]⟩
  · -- Equal results force equal draws, one iteration at a time.
    simp only [sample_eq s n fits] at same
    have agree := sampleLoop_injective s.length_le n 0 (fun _ => none) [] (by omega)
      (Fresh.start s.length) (fitting ds valid) (fitting ds' valid') same
    apply List.ext_getElem (valid.1.trans valid'.1.symm)
    intro k below below'
    have := agree k (by rw [← valid.1]; exact below)
    simpa [drawsFrom, List.getElem?_eq_getElem below, List.getElem?_eq_getElem below'] using this
  · -- Every distinct tuple is reached by some fitting draws; list them.
    obtain ⟨r, ⟨counted, distinct, below⟩, rfl⟩ := tuple
    obtain ⟨rand, draws, ran⟩ := sampleLoop_reaches s.length_le r 0 (fun _ => none) []
      (by omega) (Fresh.start s.length) (by simpa using distinct) below
    refine ⟨(List.range n).map rand, ⟨by simp, fun k lt => ?_⟩, ?_⟩
    · have := draws k (by omega)
      rw [Nat.zero_add] at this
      rw [bound k lt]; simp [lt]; omega
    · simp only [sample_eq s n fits]
      rw [sampleLoop_congr _ rand _ _ _ _ fun k lt => by simp [drawsFrom,
        show k < n by omega]]
      simpa [counted] using ran

end UniformReplacer

/--
For every length `Initialize` admits, `Sample` refuses exactly the counts outside `[0, length]`
and never panics; for a count in range, the `k`-th call of `rand.Int63n` is handed the number
of slots left, `length - k`, at least one, and the sequences of values those calls return map
one to one onto the tuples of distinct values below `length`: sampling without replacement.
-/
theorem sample_uniform_without_replacement (s : UniformReplacer) :
    (∀ count rand, s.sample count rand = .error .errOutOfRange ↔
      count < 0 ∨ (s.length : Int) < count) ∧
    (∀ count rand, s.sample count rand ≠ .error .int63nPanic) ∧
    ∀ n ≤ s.length,
      (∀ k < n, toInt64 (sub64 s.length k) = ((s.length - k : Nat) : Int) ∧ 1 ≤ toInt64 (sub64 s.length k)) ∧
      Set.BijOn (fun ds => s.sample n (drawsFrom ds)) (validDraws s.length n)
        (Except.ok '' distinctTuples s.length n) :=
  ⟨fun count rand => (s.sample_error count rand).1, fun count rand => (s.sample_error count rand).2,
    fun n fits => ⟨fun k lt => by
      -- Below `length` no subtraction wraps, and what is left is at least one slot.
      obtain ⟨bound, positive⟩ := toInt64_sub64 s.length_le (show k < s.length by omega)
      exact ⟨bound, by omega⟩, s.sample_bijOn n fits⟩⟩

example : (⟨3, by decide⟩ : UniformReplacer).sample 2 (drawsFrom [2, 0]) = .ok [2, 1] := rfl

end AvalancheGo
