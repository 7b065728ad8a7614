import Mathlib.Tactic.Linarith
import Mathlib.Algebra.BigOperators.Group.List

/-!
# Fixed-width histograms

`SimpleHistogram` counts int64 samples in `(max - min) / width` interior buckets of equal
width, with an underflow bucket below `min` and an overflow bucket from `max`. `Add` picks
the bucket by integer division; `GetHistogram` prints each bucket's range from the bucket
index. The two computations agree at every bucket boundary.

The constructor's checks, and the int64 arithmetic it and `Add` perform, are a `Shape` the
caller must supply; a histogram carries its shape and its bucket count, so no other
histogram can be built. Bucket counts are unbounded naturals.
-/

namespace CastTelemetry

/-- The values an int64 holds. -/
def InInt64 (x : Int) : Prop := -2 ^ 63 ≤ x ∧ x < 2 ^ 63

instance : DecidablePred InInt64 := fun _ => inferInstanceAs (Decidable (_ ∧ _))

/-- An unsigned 64-bit result read back into an int64, as `GetHistogram` does when it
computes a lower bound from a `size_t` index. -/
def wrapInt64 (x : Int) : Int := (x + 2 ^ 63) % 2 ^ 64 - 2 ^ 63

/-- Reading back an unsigned result changes nothing when the true value fits. -/
theorem wrapInt64_of_inInt64 {x : Int} (fits : InInt64 x) : wrapInt64 x = x := by
  unfold wrapInt64 InInt64 at *
  omega

/-- The shapes a histogram can have: a positive width dividing a nonempty range, with the
bounds and their difference in int64. The constructor's two checks are the first three. -/
structure Shape (min max width : Int) : Prop where
  width_pos : 0 < width
  min_lt_max : min < max
  divides : (max - min) % width = 0
  min_range : InInt64 min
  max_range : InInt64 max
  span_range : max - min < 2 ^ 63

/-- A histogram: its bounds, its width, one count per bucket, its shape, and the number of
buckets that shape fixes. -/
@[ext] structure SimpleHistogram where
  min : Int
  max : Int
  width : Int
  buckets : List Nat
  shape : Shape min max width
  bucket_count : buckets.length = ((max - min) / width).toNat + 2

/-- How a bucket is printed: below the minimum, an inclusive range, or from the maximum. -/
inductive BucketLabel where
  | below (min : Int)
  | between (lower upper : Int)
  | atLeast (max : Int)
  deriving DecidableEq, Repr

/-- The `StringPrintf` formats of `GetHistogram`. -/
def BucketLabel.render : BucketLabel → String
  | .below min => s!"< {min}"
  | .between lower upper => s!"{lower} - {upper}"
  | .atLeast max => s!">= {max}"

namespace SimpleHistogram

/-- The constructor: `buckets_((max - min) / width + 2)`, all zero. -/
def new (min max width : Int) (shape : Shape min max width) : SimpleHistogram where
  min := min
  max := max
  width := width
  buckets := List.replicate ((max - min).tdiv width + 2).toNat 0
  shape := shape
  bucket_count := by
    rw [List.length_replicate, Int.tdiv_eq_ediv (by linarith [shape.min_lt_max])
      shape.width_pos.le]
    have : 0 ≤ (max - min) / width :=
      Int.ediv_nonneg (by linarith [shape.min_lt_max]) shape.width_pos.le
    omega

/-- `Add`: the front bucket below `min`, the back bucket from `max`, otherwise bucket
`1 + (sample - min) / width`. -/
def add (histogram : SimpleHistogram) (sample : Int) : SimpleHistogram :=
  { histogram with
    buckets :=
      if sample < histogram.min then histogram.buckets.modify (· + 1) 0
      else if histogram.max ≤ sample then
        histogram.buckets.modify (· + 1) (histogram.buckets.length - 1)
      else histogram.buckets.modify (· + 1) (1 + (sample - histogram.min).tdiv histogram.width).toNat
    bucket_count := by split_ifs <;> simp [histogram.bucket_count] }

/-- `Reset`: every count back to zero, the shape kept. -/
def reset (histogram : SimpleHistogram) : SimpleHistogram :=
  { histogram with
    buckets := List.replicate histogram.buckets.length 0
    bucket_count := by simp [histogram.bucket_count] }

/-- `GetHistogram`: each bucket's label and count in index order. Interior bucket `i` starts
at `min + (i - 1) * width`, computed in unsigned 64-bit arithmetic. -/
def getHistogram (histogram : SimpleHistogram) : List (BucketLabel × Nat) :=
  (.below histogram.min, histogram.buckets.getD 0 0) ::
    ((List.range (histogram.buckets.length - 2)).map fun (index : Nat) =>
      let lower := wrapInt64 (histogram.min + (index : Int) * histogram.width)
      (.between lower (lower + histogram.width - 1), histogram.buckets.getD (index + 1) 0)) ++
    [(.atLeast histogram.max, histogram.buckets.getD (histogram.buckets.length - 1) 0)]

/-- A call on a histogram. -/
inductive Op where
  | add (sample : Int)
  | reset
  deriving DecidableEq, Repr

/-- Apply calls in order. -/
def run (histogram : SimpleHistogram) (ops : List Op) : SimpleHistogram :=
  ops.foldl (fun current op => match op with
    | .add sample => current.add sample
    | .reset => current.reset) histogram

end SimpleHistogram

namespace SimpleHistogram

/-- The bucket a sample belongs to by the printed labels: the first below `min`, the last
from `max`, otherwise the interior bucket whose range holds it. -/
def labelIndex (min max width sample : Int) : Nat :=
  if sample < min then 0
  else if max ≤ sample then ((max - min) / width).toNat + 1
  else ((sample - min) / width).toNat + 1

/-- The histogram the labels promise for a list of samples: each printed range with the
number of samples it holds. -/
def expectedHistogram (min max width : Int) (samples : List Int) : List (BucketLabel × Nat) :=
  (.below min, samples.countP (· < min)) ::
    ((List.range ((max - min) / width).toNat).map fun (index : Nat) =>
      (.between (min + index * width) (min + index * width + width - 1),
        samples.countP fun sample =>
          min + index * width ≤ sample ∧ sample ≤ min + index * width + width - 1)) ++
    [(.atLeast max, samples.countP (max ≤ ·))]

/-- Incrementing one existing count adds one to the total. -/
theorem sum_modify_succ (counts : List Nat) (index : Nat) (inside : index < counts.length) :
    (counts.modify (· + 1) index).sum = counts.sum + 1 := by
  induction counts generalizing index with
  | nil => simp at inside
  | cons count rest inductionHypothesis =>
    cases index with
    | zero => simp only [List.modify_zero_cons, List.sum_cons]; omega
    | succ index =>
      simp only [List.length_cons, Nat.add_lt_add_iff_right] at inside
      simp only [List.modify_succ_cons, List.sum_cons, inductionHypothesis index inside]; omega

/-- The first bucket holds exactly the samples below `min`. -/
theorem labelIndex_eq_zero (min max width sample : Int) :
    labelIndex min max width sample = 0 ↔ sample < min := by
  unfold labelIndex; split_ifs <;> simp_all

/-- The invariant of a run: each bucket counts the samples its labels assign to it, and the
counts add up to the number of samples. -/
structure Counts (min max width : Int) (histogram : SimpleHistogram) (samples : List Int) : Prop where
  same : histogram.min = min ∧ histogram.max = max ∧ histogram.width = width
  count : ∀ index, histogram.buckets.getD index 0 =
    samples.countP fun sample => labelIndex min max width sample = index
  total : histogram.buckets.sum = samples.length

section Laws

variable {min max width : Int} (shape : Shape min max width)
include shape

/-- The interior buckets tile the range. -/
theorem span_eq : (max - min) / width * width = max - min :=
  Int.ediv_mul_cancel (Int.dvd_of_emod_eq_zero shape.divides)

/-- The index `Add` computes for a sample in `[min, max)`: its subtraction stays in int64,
and the bucket is interior (the `DCHECK_LT` holds). -/
theorem add_index {sample : Int} (above : min ≤ sample) (below : sample < max) :
    InInt64 (sample - min) ∧
      (1 + (sample - min).tdiv width).toNat = ((sample - min) / width).toNat + 1 ∧
      ((sample - min) / width).toNat < ((max - min) / width).toNat := by
  have positive := shape.width_pos
  have tiled := span_eq shape
  have quotient : (sample - min).tdiv width = (sample - min) / width :=
    Int.tdiv_eq_ediv (by omega) positive.le
  have nonneg : 0 ≤ (sample - min) / width := Int.ediv_nonneg (by omega) positive.le
  have bounded : (sample - min) / width < (max - min) / width :=
    (Int.ediv_lt_iff_lt_mul positive).mpr (by rw [tiled]; omega)
  exact ⟨⟨by omega, by have := shape.span_range; omega⟩, by omega, by omega⟩

/-- `Add` increments exactly the bucket the labels assign to the sample. -/
theorem add_buckets (histogram : SimpleHistogram) (same : histogram.min = min ∧
      histogram.max = max ∧ histogram.width = width) (sample : Int) :
    (histogram.add sample).buckets =
      histogram.buckets.modify (· + 1) (labelIndex min max width sample) := by
  obtain ⟨rfl, rfl, rfl⟩ := same
  unfold add labelIndex
  dsimp only
  split_ifs with low high
  · rfl
  · rw [histogram.bucket_count]; rfl
  · rw [(add_index shape (not_lt.mp low) (not_le.mp high)).2.1]

/-- Every sample has a bucket. -/
theorem labelIndex_lt (sample : Int) :
    labelIndex min max width sample < ((max - min) / width).toNat + 2 := by
  unfold labelIndex
  split_ifs with low high
  · omega
  · omega
  · have := (add_index shape (not_lt.mp low) (not_le.mp high)).2.2; omega

/-- The last bucket holds exactly the samples from `max`. -/
theorem labelIndex_eq_last (sample : Int) :
    labelIndex min max width sample = ((max - min) / width).toNat + 1 ↔ max ≤ sample := by
  have ordered := shape.min_lt_max
  unfold labelIndex
  split_ifs with low high
  · exact ⟨False.elim, fun _ => by omega⟩
  · simp [high]
  · have := (add_index shape (not_lt.mp low) (not_le.mp high)).2.2
    exact ⟨fun same => by omega, fun reached => absurd reached high⟩

/-- Interior bucket `index + 1` starts `index` widths above `min` and ends inside the range. -/
theorem tile_bounds {index : Nat} (inside : index < ((max - min) / width).toNat) :
    0 ≤ (index : Int) * width ∧ (index : Int) * width + width ≤ max - min := by
  have positive := shape.width_pos
  have lastTile : ((index : Int) + 1) * width ≤ (max - min) / width * width :=
    Int.mul_le_mul_of_nonneg_right (by omega) positive.le
  rw [Int.add_mul, Int.one_mul, span_eq shape] at lastTile
  exact ⟨Int.mul_nonneg (by omega) positive.le, lastTile⟩

/-- Interior bucket `index + 1` holds exactly the samples in the range its label prints. -/
theorem labelIndex_eq_succ {index : Nat} (inside : index < ((max - min) / width).toNat)
    (sample : Int) :
    labelIndex min max width sample = index + 1 ↔
      min + index * width ≤ sample ∧ sample ≤ min + index * width + width - 1 := by
  have positive := shape.width_pos
  obtain ⟨spread, lastTile⟩ := tile_bounds shape inside
  unfold labelIndex
  split_ifs with low high
  · exact ⟨False.elim, fun ⟨atLeast, _⟩ => by omega⟩
  · exact ⟨fun same => by omega, fun ⟨_, atMost⟩ => by omega⟩
  · set quotient := (sample - min) / width with quotientDef
    have nonneg : 0 ≤ quotient := Int.ediv_nonneg (by omega) positive.le
    have lower : (index : Int) ≤ quotient ↔ index * width ≤ sample - min :=
      Int.le_ediv_iff_mul_le positive
    have upper : quotient < index + 1 ↔ sample - min < (index + 1) * width :=
      Int.ediv_lt_iff_lt_mul positive
    rw [Int.add_mul, Int.one_mul] at upper
    constructor
    · intro same
      have exact : quotient = index := by omega
      exact ⟨by have := lower.mp (by omega); omega, by have := upper.mp (by omega); omega⟩
    · rintro ⟨atLeast, atMost⟩
      have := lower.mpr (by omega)
      have := upper.mpr (by omega)
      omega

omit shape in
/-- A fresh or reset histogram counts no samples. -/
theorem counts_zero (histogram : SimpleHistogram)
    (same : histogram.min = min ∧ histogram.max = max ∧ histogram.width = width)
    (zero : ∀ count ∈ histogram.buckets, count = 0) : Counts min max width histogram [] := by
  refine ⟨same, fun index => ?_, ?_⟩
  · simp only [List.countP_nil, List.getD_eq_getElem?_getD]
    cases lookup : histogram.buckets[index]? with
    | none => rfl
    | some count => exact zero count (List.getElem?_mem lookup)
  · simp [List.sum_eq_zero zero]

/-- `Add` keeps the invariant with the sample appended. -/
theorem counts_add {histogram : SimpleHistogram} {samples : List Int}
    (counted : Counts min max width histogram samples) (sample : Int) :
    Counts min max width (histogram.add sample) (samples ++ [sample]) := by
  have inside : labelIndex min max width sample < histogram.buckets.length := by
    rw [histogram.bucket_count, counted.same.1, counted.same.2.1, counted.same.2.2]
    exact labelIndex_lt shape sample
  refine ⟨counted.same, fun index => ?_, ?_⟩
  · rw [add_buckets shape histogram counted.same, List.countP_append, ← counted.count index]
    simp only [List.getD_eq_getElem?_getD, List.getElem?_modify, List.countP_singleton]
    cases lookup : histogram.buckets[index]? with
    | none =>
      have : histogram.buckets.length ≤ index := List.getElem?_eq_none_iff.mp lookup
      simp [show labelIndex min max width sample ≠ index by omega]
    | some count => simp; split_ifs <;> simp_all
  · rw [add_buckets shape histogram counted.same, sum_modify_succ _ _ inside, counted.total]
    simp

/-- Under the invariant, `GetHistogram` prints exactly the histogram the labels promise:
every lower bound is exact and every bucket holds the samples in its printed range. -/
theorem getHistogram_counts {histogram : SimpleHistogram} {samples : List Int}
    (counted : Counts min max width histogram samples) :
    histogram.getHistogram = expectedHistogram min max width samples := by
  obtain ⟨⟨sameMin, sameMax, sameWidth⟩, count, -⟩ := counted
  have length := histogram.bucket_count
  rw [sameMin, sameMax, sameWidth] at length
  unfold getHistogram expectedHistogram
  rw [length, sameMin, sameMax, sameWidth, show ((max - min) / width).toNat + 2 - 2 =
    ((max - min) / width).toNat by omega, show ((max - min) / width).toNat + 2 - 1 =
    ((max - min) / width).toNat + 1 by omega, count, count]
  have below : (samples.countP fun sample => labelIndex min max width sample = 0) =
      samples.countP (· < min) :=
    List.countP_congr fun sample _ => by simpa using labelIndex_eq_zero min max width sample
  have above : (samples.countP fun sample =>
      labelIndex min max width sample = ((max - min) / width).toNat + 1) =
      samples.countP (max ≤ ·) :=
    List.countP_congr fun sample _ => by simpa using labelIndex_eq_last shape sample
  rw [below, above, List.map_congr_left]
  intro index member
  have inside := List.mem_range.mp member
  obtain ⟨spread, lastTile⟩ := tile_bounds shape inside
  have fits : InInt64 (min + index * width) := by
    have := shape.width_pos; have := shape.min_range; have := shape.max_range
    unfold InInt64 at *; omega
  simp only [wrapInt64_of_inInt64 fits, count]
  congr 1
  exact List.countP_congr fun sample _ => by simpa using labelIndex_eq_succ shape inside sample

end Laws

/-- A fresh histogram counts no samples. -/
theorem counts_new {min max width : Int} (shape : Shape min max width) :
    Counts min max width (new min max width shape) [] :=
  counts_zero _ ⟨rfl, rfl, rfl⟩ fun _ member => List.eq_of_mem_replicate member

end SimpleHistogram

/-- The shape of every latency histogram of the subscriber: 0 to 800 ms in 20 ms buckets. -/
theorem latencyShape : Shape 0 800 20 :=
  ⟨by decide, by decide, by decide, by decide, by decide, by decide⟩

end CastTelemetry
