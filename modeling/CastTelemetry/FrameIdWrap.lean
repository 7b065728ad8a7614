import Mathlib.Tactic.SplitIfs
import Mathlib.Order.MinMax

/-!
# Expanding 8-bit wire frame ids

`FrameIdWrapHelper` turns the 8-bit frame id carried on the wire into a 32-bit id. It keeps
a stored wrap count and one of three zones of the wire space: up to 63, up to 191, and from
192. A high sample seen from the low zone is a straggler from before the last wrap and is
given the previous count; a low sample seen from the high zone is the wrap itself.

The helper is exact whenever every true id lies within 64 of the largest id seen before it
(and of zero). The zone then always names the low byte of that running maximum, and the
stored count its quotient by 256 modulo 2^32. The first call's `0xff` start sentinel is the
case of a true id of -1. Words are `BitVec`, so the uint32 count, its decrement and the
shift by 8 wrap as in the source.
-/

namespace CastTelemetry.FrameIdWrap

/-- The zone of the wire space the helper believes the stream to be in. -/
inductive Range where
  | lowRange
  | middleRange
  | highRange
  deriving DecidableEq, Repr

/-- Highest wire value of the low zone. -/
def kLowRangeThreshold : BitVec 8 := 63

/-- Lowest wire value of the high zone. -/
def kHighRangeThreshold : BitVec 8 := 192

/-- The id returned for a first wire value of `0xff`. -/
def kStartFrameId : BitVec 32 := 0xffffffff

/-- The helper's three fields, as the source declares them. -/
structure FrameIdWrapHelper where
  first : Bool
  frameIdWrapCount : BitVec 32
  range : Range
  deriving DecidableEq, Repr

namespace FrameIdWrapHelper

/-- The constructor: first call pending, no wrap yet, low zone. -/
def new : FrameIdWrapHelper := ⟨true, 0, .lowRange⟩

/-- The `switch (range_)` of `MapTo32bitsFrameId`: the wrap count used for this sample and
the helper after it. Only the high-to-low transition changes the stored count. -/
def switchRange (helper : FrameIdWrapHelper) (overTheWireFrameId : BitVec 8) :
    BitVec 32 × FrameIdWrapHelper :=
  match helper.range with
  | .lowRange =>
    (if kHighRangeThreshold ≤ overTheWireFrameId then helper.frameIdWrapCount - 1
      else helper.frameIdWrapCount,
     if kLowRangeThreshold < overTheWireFrameId ∧ overTheWireFrameId < kHighRangeThreshold then
       { helper with range := .middleRange }
     else helper)
  | .middleRange =>
    (helper.frameIdWrapCount,
     if kHighRangeThreshold ≤ overTheWireFrameId then { helper with range := .highRange }
     else helper)
  | .highRange =>
    if overTheWireFrameId ≤ kLowRangeThreshold then
      (helper.frameIdWrapCount + 1,
       { helper with range := .lowRange, frameIdWrapCount := helper.frameIdWrapCount + 1 })
    else (helper.frameIdWrapCount, helper)

/-- `MapTo32bitsFrameId`: the 32-bit id for one wire value, and the helper after the call. -/
def mapTo32bitsFrameId (helper : FrameIdWrapHelper) (overTheWireFrameId : BitVec 8) :
    BitVec 32 × FrameIdWrapHelper :=
  if helper.first && overTheWireFrameId == 0xff then (kStartFrameId, { helper with first := false })
  else
    let switched := switchRange { helper with first := false } overTheWireFrameId
    ((switched.1 <<< 8) + overTheWireFrameId.setWidth 32, switched.2)

/-- Feed wire values to the helper in order and collect the ids it returns. -/
def mapTo32bitsFrameIds : FrameIdWrapHelper → List (BitVec 8) → List (BitVec 32)
  | _, [] => []
  | helper, overTheWireFrameId :: rest =>
    (helper.mapTo32bitsFrameId overTheWireFrameId).1 ::
      mapTo32bitsFrameIds (helper.mapTo32bitsFrameId overTheWireFrameId).2 rest

end FrameIdWrapHelper

open FrameIdWrapHelper

/-- Every true id lies within 64 of the running maximum of zero and the ids before it. -/
def WithinReach : Int → List Int → Prop
  | _, [] => True
  | peak, x :: rest => peak - 64 ≤ x ∧ x ≤ peak + 64 ∧ WithinReach (max peak x) rest

instance WithinReach.decidable : (peak : Int) → (xs : List Int) → Decidable (WithinReach peak xs)
  | _, [] => isTrue trivial
  | peak, x :: rest =>
    haveI := WithinReach.decidable (max peak x) rest
    inferInstanceAs (Decidable (_ ∧ _ ∧ _))

/-- The zone of a low byte under the helper's two thresholds. -/
def zone (low : Int) : Range :=
  if low ≤ 63 then .lowRange else if low < 192 then .middleRange else .highRange

/-- The helper after its first call, when `peak` is the largest true id seen so far: the
zone of the peak's low byte and the peak's quotient by 256 as the stored count. -/
def tracking (peak : Int) : FrameIdWrapHelper :=
  ⟨false, BitVec.ofInt 32 (peak / 256), zone (peak % 256)⟩

/-- The invariant of a run: apart from the first-call flag the helper is `tracking peak`, and
a helper not yet called tracks zero. -/
structure Tracks (peak : Int) (helper : FrameIdWrapHelper) : Prop where
  nonneg : 0 ≤ peak
  settled : { helper with first := false } = tracking peak
  fresh : helper.first = true → peak = 0

/-- Low bytes up to 63 are the low zone. -/
theorem zone_low {low : Int} (inside : low ≤ 63) : zone low = .lowRange := by
  simp [zone, inside]

/-- Low bytes from 64 to 191 are the middle zone. -/
theorem zone_middle {low : Int} (above : 63 < low) (below : low < 192) :
    zone low = .middleRange := by
  simp [zone, below, not_le.mpr above]

/-- Low bytes from 192 are the high zone. -/
theorem zone_high {low : Int} (inside : 192 ≤ low) : zone low = .highRange := by
  simp [zone, not_lt.mpr inside, show ¬low ≤ 63 by omega]

/-- The wire value of a true id is its residue modulo 256. -/
theorem wire_toNat (x : Int) : (BitVec.ofInt 8 x).toNat = (x % 256).toNat := by
  simp [BitVec.toNat_ofInt]

/-- The four threshold tests and the start test of the source, read on the residue. -/
theorem low_lt_wire (x : Int) : kLowRangeThreshold < BitVec.ofInt 8 x ↔ 63 < x % 256 := by
  rw [BitVec.lt_def, wire_toNat]
  simp only [kLowRangeThreshold, BitVec.ofNat_eq_ofNat, BitVec.toNat_ofNat, Nat.reducePow,
    Nat.reduceMod]
  omega

theorem wire_le_low (x : Int) : BitVec.ofInt 8 x ≤ kLowRangeThreshold ↔ x % 256 ≤ 63 := by
  rw [BitVec.le_def, wire_toNat]
  simp only [kLowRangeThreshold, BitVec.ofNat_eq_ofNat, BitVec.toNat_ofNat, Nat.reducePow,
    Nat.reduceMod]
  omega

theorem high_le_wire (x : Int) : kHighRangeThreshold ≤ BitVec.ofInt 8 x ↔ 192 ≤ x % 256 := by
  rw [BitVec.le_def, wire_toNat]
  simp only [kHighRangeThreshold, BitVec.ofNat_eq_ofNat, BitVec.toNat_ofNat, Nat.reducePow,
    Nat.reduceMod]
  omega

theorem wire_lt_high (x : Int) : BitVec.ofInt 8 x < kHighRangeThreshold ↔ x % 256 < 192 := by
  rw [BitVec.lt_def, wire_toNat]
  simp only [kHighRangeThreshold, BitVec.ofNat_eq_ofNat, BitVec.toNat_ofNat, Nat.reducePow,
    Nat.reduceMod]
  omega

theorem wire_eq_start (x : Int) : BitVec.ofInt 8 x = 0xff ↔ x % 256 = 255 := by
  constructor
  · intro same
    have := congrArg BitVec.toNat same
    rw [wire_toNat] at this
    simp at this
    omega
  · intro residue
    apply BitVec.eq_of_toNat_eq
    rw [wire_toNat, residue]
    rfl

/-- Shifting a count by 8 and adding a byte is exact modulo 2^32. -/
theorem shift_add_ofInt (q v : Int) (nonneg : 0 ≤ v) :
    (BitVec.ofInt 32 q <<< 8) + BitVec.ofNat 32 v.toNat = BitVec.ofInt 32 (256 * q + v) := by
  rw [BitVec.ofInt_add, BitVec.ofInt_mul, BitVec.shiftLeft_eq_mul_twoPow, BitVec.mul_comm,
    ← BitVec.ofInt_natCast, Int.toNat_of_nonneg nonneg]
  rfl

/-- The uint32 decrement of a stale sample's count is exact modulo 2^32. -/
theorem ofInt_sub_one (q : Int) : BitVec.ofInt 32 q - 1 = BitVec.ofInt 32 (q - 1) := by
  rw [Int.sub_eq_add_neg, BitVec.ofInt_add, BitVec.sub_toAdd]
  rfl

/-- The uint32 increment at a wrap is exact modulo 2^32. -/
theorem ofInt_add_one (q : Int) : BitVec.ofInt 32 q + 1 = BitVec.ofInt 32 (q + 1) := by
  rw [BitVec.ofInt_add]
  rfl

/-- The shape every branch of the switch ends in: a count for the sample and a tracking
helper, each given by its arithmetic. -/
theorem tracked_pair {x count stored peak : Int} {range : Range}
    (block : count = x / 256) (quotient : stored = peak / 256) (zoned : range = zone (peak % 256)) :
    ((BitVec.ofInt 32 count, ⟨false, BitVec.ofInt 32 stored, range⟩) : BitVec 32 × _) =
      (BitVec.ofInt 32 (x / 256), tracking peak) := by
  subst block quotient zoned; rfl

/-- The switch from a low peak: a high wire value lies in the previous block. -/
theorem switchRange_lowRange {peak x : Int} (lowPeak : peak % 256 ≤ 63)
    (above : peak - 64 ≤ x) (below : x ≤ peak + 64) :
    switchRange (tracking peak) (BitVec.ofInt 8 x) =
      (BitVec.ofInt 32 (x / 256), tracking (max peak x)) := by
  simp only [switchRange, tracking, zone_low lowPeak, high_le_wire, low_lt_wire, wire_lt_high,
    ofInt_sub_one]
  by_cases stale : 192 ≤ x % 256
  · rw [if_pos stale, if_neg (by omega)]
    exact tracked_pair (by omega) (by omega) (zone_low (by omega)).symm
  · rw [if_neg stale]
    by_cases rising : 63 < x % 256 ∧ x % 256 < 192
    · rw [if_pos rising]
      exact tracked_pair (by omega) (by omega) (zone_middle (by omega) (by omega)).symm
    · rw [if_neg rising]
      exact tracked_pair (by omega) (by omega) (zone_low (by omega)).symm

/-- The switch from a middle peak: every wire value lies in the peak's block. -/
theorem switchRange_middleRange {peak x : Int} (abovePeak : 63 < peak % 256)
    (belowPeak : peak % 256 < 192) (above : peak - 64 ≤ x) (below : x ≤ peak + 64) :
    switchRange (tracking peak) (BitVec.ofInt 8 x) =
      (BitVec.ofInt 32 (x / 256), tracking (max peak x)) := by
  simp only [switchRange, tracking, zone_middle abovePeak belowPeak, high_le_wire]
  by_cases rising : 192 ≤ x % 256
  · rw [if_pos rising]
    exact tracked_pair (by omega) (by omega) (zone_high (by omega)).symm
  · rw [if_neg rising]
    exact tracked_pair (by omega) (by omega) (zone_middle (by omega) (by omega)).symm

/-- The switch from a high peak: a low wire value is the wrap into the next block. -/
theorem switchRange_highRange {peak x : Int} (highPeak : 192 ≤ peak % 256)
    (above : peak - 64 ≤ x) (below : x ≤ peak + 64) :
    switchRange (tracking peak) (BitVec.ofInt 8 x) =
      (BitVec.ofInt 32 (x / 256), tracking (max peak x)) := by
  simp only [switchRange, tracking, zone_high highPeak, wire_le_low, ofInt_add_one]
  by_cases wrapped : x % 256 ≤ 63
  · rw [if_pos wrapped]
    exact tracked_pair (by omega) (by omega) (zone_low (by omega)).symm
  · rw [if_neg wrapped]
    exact tracked_pair (by omega) (by omega) (zone_high (by omega)).symm

/-- From a tracking helper, the switch picks the 256-block of the true id, and the helper
after it tracks the new running maximum. -/
theorem switchRange_tracking {peak x : Int} (above : peak - 64 ≤ x) (below : x ≤ peak + 64) :
    switchRange (tracking peak) (BitVec.ofInt 8 x) =
      (BitVec.ofInt 32 (x / 256), tracking (max peak x)) := by
  by_cases lowPeak : peak % 256 ≤ 63
  · exact switchRange_lowRange lowPeak above below
  by_cases highPeak : 192 ≤ peak % 256
  · exact switchRange_highRange highPeak above below
  · exact switchRange_middleRange (by omega) (by omega) above below

/-- One call within the window returns the true id modulo 2^32 and keeps the invariant for
the new running maximum. The start sentinel is the true id -1 at a peak of zero. -/
theorem mapTo32bitsFrameId_tracks {peak x : Int} {helper : FrameIdWrapHelper}
    (tracked : Tracks peak helper) (above : peak - 64 ≤ x) (below : x ≤ peak + 64) :
    (helper.mapTo32bitsFrameId (BitVec.ofInt 8 x)).1 = BitVec.ofInt 32 x ∧
      Tracks (max peak x) (helper.mapTo32bitsFrameId (BitVec.ofInt 8 x)).2 := by
  obtain ⟨nonneg, settled, fresh⟩ := tracked
  unfold mapTo32bitsFrameId
  by_cases start : helper.first = true ∧ x % 256 = 255
  · have atStart : x = -1 := by have := fresh start.1; omega
    have peakZero : peak = 0 := fresh start.1
    subst atStart peakZero
    simp only [start.1, (wire_eq_start (-1)).mpr start.2, Bool.true_and, beq_self_eq_true,
      if_true]
    exact ⟨rfl, ⟨le_refl _, settled, fun stillFirst => absurd stillFirst (by simp)⟩⟩
  · have notStart : ¬(helper.first && BitVec.ofInt 8 x == 0xff) = true := by
      rw [Bool.and_eq_true, beq_iff_eq, wire_eq_start]
      exact start
    have byte : (BitVec.ofInt 8 x).setWidth 32 = BitVec.ofNat 32 (x % 256).toNat := by
      apply BitVec.eq_of_toNat_eq
      simp only [BitVec.toNat_setWidth, wire_toNat, BitVec.toNat_ofNat]
    simp only [if_neg notStart, settled, switchRange_tracking above below, byte,
      shift_add_ofInt _ _ (Int.emod_nonneg x (by decide : (256 : Int) ≠ 0))]
    refine ⟨congrArg _ (by omega), le_max_of_le_left nonneg, rfl, fun neverFirst => ?_⟩
    simp [tracking] at neverFirst

/-- A run within the window returns every true id modulo 2^32. -/
theorem mapTo32bitsFrameIds_tracks (xs : List Int) :
    ∀ {peak : Int} {helper : FrameIdWrapHelper}, Tracks peak helper → WithinReach peak xs →
      mapTo32bitsFrameIds helper (xs.map (BitVec.ofInt 8)) = xs.map (BitVec.ofInt 32) := by
  induction xs with
  | nil => intros; rfl
  | cons x rest inductionHypothesis =>
    intro peak helper tracked ⟨above, below, reach⟩
    obtain ⟨returned, next⟩ := mapTo32bitsFrameId_tracks tracked above below
    simp only [List.map_cons, mapTo32bitsFrameIds, returned, inductionHypothesis next reach]

/-- Frame-id expansion is wrap-safe: from a fresh helper, every sequence of true ids each
within 64 of the running maximum of zero and the earlier ids comes back as its ids modulo
2^32, from their residues modulo 256. -/
theorem mapTo32bitsFrameIds_wrap_safe (xs : List Int) (reach : WithinReach 0 xs) :
    mapTo32bitsFrameIds FrameIdWrapHelper.new (xs.map (BitVec.ofInt 8)) =
      xs.map (BitVec.ofInt 32) :=
  mapTo32bitsFrameIds_tracks xs ⟨le_refl 0, rfl, fun _ => rfl⟩ reach

/-- The wire run `0xff, 0, 50, ..., 250, 10, 60`: the true ids from -1 through one wrap. -/
theorem mapTo32bitsFrameIds_spec_run :
    WithinReach 0 [-1, 0, 50, 100, 150, 200, 250, 266, 316] ∧
      mapTo32bitsFrameIds FrameIdWrapHelper.new
          ([-1, 0, 50, 100, 150, 200, 250, 266, 316].map (BitVec.ofInt 8)) =
        [-1, 0, 50, 100, 150, 200, 250, 266, 316].map (BitVec.ofInt 32) :=
  ⟨by decide, mapTo32bitsFrameIds_wrap_safe _ (by decide)⟩

end CastTelemetry.FrameIdWrap

namespace CastTelemetry

/-- `GetVideoRtpTimestamp`: the 90 kHz RTP clock at `timeTicks` (microseconds since the null
`TimeTicks`), as whole milliseconds, truncated toward zero as `InMilliseconds` does, times 90,
cast to uint32. The int64 product cannot overflow for an int64 count of microseconds. -/
def getVideoRtpTimestamp (timeTicks : Int) : BitVec 32 :=
  BitVec.ofInt 32 (timeTicks.tdiv 1000 * 90)

/-- The uint32 difference of two video RTP timestamps measures the time between them at 90
ticks per whole millisecond, across any wrap of the uint32 clock, for any two times after
the null `TimeTicks` whose millisecond counts are less than 2^32 / 90 apart (about 13 hours);
the bound is written out as 4294967296 = 2^32. -/
theorem getVideoRtpTimestamp_elapsed {earlier later : Int} (nonneg : 0 ≤ earlier)
    (ordered : earlier ≤ later) (window : 90 * (later / 1000 - earlier / 1000) < 4294967296) :
    (getVideoRtpTimestamp later - getVideoRtpTimestamp earlier).toNat =
      (90 * (later / 1000 - earlier / 1000)).toNat := by
  have positive : (0 : Int) ≤ 1000 := by decide
  have elapsed : later / 1000 * 90 = 90 * (later / 1000 - earlier / 1000) + earlier / 1000 * 90 := by
    omega
  rw [getVideoRtpTimestamp, getVideoRtpTimestamp, Int.tdiv_eq_ediv nonneg positive,
    Int.tdiv_eq_ediv (nonneg.trans ordered) positive, elapsed, BitVec.ofInt_add,
    BitVec.add_sub_cancel, BitVec.toNat_ofInt, Int.emod_eq_of_lt (by omega) (by omega)]

/-- Two milliseconds across the wrap of the uint32 clock, from 4294967220 to 104: the
difference is still 180 ticks. -/
theorem getVideoRtpTimestamp_elapsed_across_wrap :
    (getVideoRtpTimestamp 47721860000 - getVideoRtpTimestamp 47721858000).toNat =
      (90 * (47721860000 / 1000 - 47721858000 / 1000) : Int).toNat :=
  getVideoRtpTimestamp_elapsed (by decide) (by decide) (by decide)

end CastTelemetry
