import Noire.Lib.Percentile
import Noire.Telemetry
import Mathlib.Data.Vector.Defs

namespace Noire

open Lib (percentile percentileRank)

/-!
# Timing percentiles

The histogram of model and callback durations, and the percentiles read off its snapshot.

* `TimingHistogram` — the counters that `observe` adds to, and their snapshot;
* `Observed` — what the counters say of the durations observed;
* `percentileNs_bucket` — a percentile is the upper edge of the first bucket that its rank reaches;
* `PercentileBounds` — percentiles that bound those of the durations, by at most a bucket;
* `percentileBounds_iff` — they do as long as no duration lies beyond the last bucket's edge.

The last bucket also counts what lies beyond it, so that the search always ends in a bucket and
never falls through to the largest duration.

The counters are read as numbers of durations below each edge.  The search for a percentile walks
along the buckets and adds up, and its specification is by induction on the buckets that are left,
with what has been added up so far.  The bounds follow from two inequalities, that at least as
many durations as the rank are below the edge found, and that fewer are below the one before.
-/

/-- Number of timing buckets. -/
def timingBuckets : ℕ := 32

/-- `AtomicU64::fetch_add`, which wraps around. -/
def fetchAdd (counter value : ℕ) : ℕ := (counter + value) % 2 ^ 64

/-- `TimingHistogram`: the counters of one kind of operation. -/
structure TimingHistogram where
  samples : ℕ := 0
  totalNs : ℕ := 0
  maximumNs : ℕ := 0
  buckets : Vector ℕ timingBuckets := Vector.replicate timingBuckets 0

/-- The bucket that a duration is counted in; the last one takes all larger durations. -/
def timingBucket (nanos : ℕ) : ℕ := min (nanos / timingBucketWidthNs) (timingBuckets - 1)

theorem timingBucket_lt (nanos : ℕ) : timingBucket nanos < timingBuckets :=
  Nat.lt_of_le_of_lt (Nat.min_le_right ..) (by decide)

namespace TimingHistogram

/-- `observe`: counts a duration, given in nanoseconds. -/
def observe (t : TimingHistogram) (elapsed : ℕ) : TimingHistogram :=
  let nanos := min elapsed u64Max
  let bucket := timingBucket nanos
  have hbucket : bucket < timingBuckets := timingBucket_lt nanos
  { samples := fetchAdd t.samples 1
    totalNs := fetchAdd t.totalNs nanos
    maximumNs := max t.maximumNs nanos
    buckets := t.buckets.set bucket (fetchAdd t.buckets[bucket] 1) }

/-- `snapshot`: a copy of the counters. -/
def snapshot (t : TimingHistogram) : TimingHistogramSnapshot where
  samples := t.samples
  totalNs := t.totalNs
  maximumNs := t.maximumNs
  buckets := t.buckets.toList

/-- The histogram of a sequence of durations. -/
def observeAll (durations : List ℕ) : TimingHistogram := durations.foldl observe {}

/-- What the counters say of the durations: how many there are, in all and in each bucket. -/
structure Observed (t : TimingHistogram) (durations : List ℕ) : Prop where
  samples : t.samples = durations.length
  buckets : ∀ (i : ℕ) (hi : i < timingBuckets),
    t.buckets[i] = durations.countP fun d => timingBucket (min d u64Max) = i

/-- **A duration is counted once**, as long as the counters do not wrap around. -/
theorem Observed.observe {t : TimingHistogram} {durations : List ℕ} (h : t.Observed durations)
    (hfew : durations.length < 2 ^ 57) (elapsed : ℕ) :
    (t.observe elapsed).Observed (durations ++ [elapsed]) := by
  have hadd : ∀ counter, counter ≤ durations.length → fetchAdd counter 1 = counter + 1 :=
    fun counter hcounter => Nat.mod_eq_of_lt (by omega)
  constructor
  · show fetchAdd t.samples 1 = _
    rw [h.samples, hadd _ (Nat.le_refl _), List.length_append, List.length_singleton]
  · intro i hi
    show (t.buckets.set _ _ (timingBucket_lt _))[i] = _
    rw [Vector.getElem_set, List.countP_append, List.countP_singleton, h.buckets i hi,
      h.buckets _ (timingBucket_lt _), hadd _ List.countP_le_length]
    by_cases hsame : timingBucket (min elapsed u64Max) = i
    · rw [if_pos hsame, if_pos (by simpa using hsame), hsame]
    · rw [if_neg hsame, if_neg (by simpa using hsame), Nat.add_zero]

/-- The histogram of a sequence counts it. -/
theorem observeAll_observed {durations : List ℕ} (hfew : durations.length < 2 ^ 57) :
    (observeAll durations).Observed durations := by
  induction durations using List.reverseRecOn with
  | nil =>
    refine ⟨rfl, fun i hi => ?_⟩
    show (Vector.replicate timingBuckets 0)[i] = _
    rw [Vector.getElem_replicate]
    rfl
  | append_singleton durations elapsed ih =>
    rw [List.length_append, List.length_singleton] at hfew
    unfold observeAll
    rw [List.foldl_append]
    exact (ih (by omega)).observe (by omega) elapsed

/-- The first buckets together count the durations below the next one. -/
theorem Observed.sum_take {t : TimingHistogram} {durations : List ℕ} (h : t.Observed durations)
    {i : ℕ} (hi : i ≤ timingBuckets) :
    (t.buckets.toList.take i).sum =
      durations.countP fun d => timingBucket (min d u64Max) < i := by
  induction i with
  | zero => simp
  | succ i ih =>
    have hlt : i < t.buckets.toList.length := by
      rw [Vector.length_toList]
      exact hi
    rw [List.take_succ_eq_append_getElem hlt, List.sum_append, List.sum_singleton,
      ih (Nat.le_of_succ_le hi), Vector.getElem_toList, h.buckets i hi]
    clear ih hlt h
    induction durations with
    | nil => rfl
    | cons d rest ih =>
      simp only [List.countP_cons, decide_eq_true_eq]
      split <;> split <;> split <;> omega

end TimingHistogram

/-! ## The bucket of a percentile

The code sums bucket by bucket until the rank is reached.  As the sum never saturates here, this
is the first bucket up to which enough durations lie.
-/

/-- **Where the search ends.** Either in the first bucket at which the cumulative count reaches
    the rank, or after all of them, below the rank. -/
theorem percentileBucket_spec (rank index cumulative : ℕ) (counts : List ℕ)
    (hfit : cumulative + counts.sum ≤ u64Max) :
    (∃ i < counts.length, percentileBucket rank index cumulative counts = some (index + i) ∧
      max rank 1 ≤ cumulative + (counts.take (i + 1)).sum ∧
      ∀ j < i, cumulative + (counts.take (j + 1)).sum < max rank 1) ∨
    (percentileBucket rank index cumulative counts = none ∧
      (counts ≠ [] → cumulative + counts.sum < max rank 1)) := by
  -- The search goes from bucket to bucket, and the sum never saturates.
  induction counts generalizing index cumulative with
  | nil => exact .inr ⟨rfl, fun h => absurd rfl h⟩
  | cons count counts ih =>
    rw [List.sum_cons] at hfit
    have hadd : saturatingAdd u64Max cumulative count = cumulative + count :=
      Nat.min_eq_left (by omega)
    unfold percentileBucket
    rw [hadd]
    by_cases hreached : max rank 1 ≤ cumulative + count
    · rw [if_pos hreached]
      exact .inl ⟨0, Nat.succ_pos _, rfl, by simpa using hreached,
        fun j hj => absurd hj (Nat.not_lt_zero j)⟩
    rw [if_neg hreached]
    rcases ih (index + 1) (cumulative + count) (by omega) with
      ⟨i, hi, hfound, hrank, hbefore⟩ | ⟨hnone, hbelow⟩
    · refine .inl ⟨i + 1, Nat.succ_lt_succ hi, by rw [hfound]; congr 1; omega, ?_, ?_⟩
      · rw [List.take_succ_cons, List.sum_cons, ← Nat.add_assoc]
        exact hrank
      · intro j hj
        rw [List.take_succ_cons, List.sum_cons, ← Nat.add_assoc]
        cases j with
        -- The bucket at hand was passed over, since the rank is beyond it.
        | zero =>
          rw [List.take_zero, List.sum_nil, Nat.add_zero]
          exact not_le.mp hreached
        | succ j => exact hbefore j (Nat.lt_of_succ_lt_succ hj)
    · refine .inr ⟨hnone, fun _ => ?_⟩
      rw [List.sum_cons, ← Nat.add_assoc]
      cases counts with
      | nil =>
        rw [List.sum_nil, Nat.add_zero]
        exact not_le.mp hreached
      | cons next counts => exact hbelow (List.cons_ne_nil _ _)

namespace TimingHistogram

/-- The rank that `percentile_ns` looks for is the nearest rank. -/
theorem rank_eq {count percent : ℕ} (hfew : count < 2 ^ 57) (hpercent : percent ≤ 100) :
    max (saturatingAdd u64Max (saturatingMul u64Max count (min percent 100)) 99 / 100) 1 =
      percentileRank count percent := by
  have hmul : count * percent ≤ count * 100 := Nat.mul_le_mul_left count hpercent
  have hmax : u64Max = 18446744073709551615 := rfl
  unfold percentileRank saturatingAdd saturatingMul
  rw [Nat.min_eq_left hpercent, Nat.ceilDiv_eq_add_pred_div, Nat.max_comm]
  congr 2
  omega

/-- **The bucket of a percentile**: the first one up to which there are as many durations as the
    rank, and the percentile is that bucket's upper edge. -/
theorem percentileNs_bucket {durations : List ℕ} (hfew : durations.length < 2 ^ 57)
    (hsome : durations ≠ []) {percent : ℕ} (hpercent : percent ≤ 100) :
    ∃ i < timingBuckets,
      (observeAll durations).snapshot.percentileNs percent = (i + 1) * timingBucketWidthNs ∧
      percentileRank durations.length percent ≤
        durations.countP (fun d => timingBucket (min d u64Max) < i + 1) ∧
      ∀ j < i, durations.countP (fun d => timingBucket (min d u64Max) < j + 1) <
        percentileRank durations.length percent := by
  have hpos : 0 < durations.length := List.length_pos_iff.mpr hsome
  have hobserved := observeAll_observed hfew
  generalize observeAll durations = t at hobserved ⊢
  have hlength : t.buckets.toList.length = timingBuckets := Vector.length_toList
  have hall : durations.countP (fun d => timingBucket (min d u64Max) < timingBuckets) =
      durations.length :=
    List.countP_eq_length.mpr fun d _ => decide_eq_true (timingBucket_lt _)
  have hsum : t.buckets.toList.sum = durations.length := by
    rw [← hall, ← hobserved.sum_take (Nat.le_refl _), List.take_of_length_le (by rw [hlength])]
  -- The rank is a count of durations, one of them at least.
  have hrank := rank_eq hfew hpercent
  have hle := Lib.percentileRank_le hpos hpercent
  unfold TimingHistogramSnapshot.percentileNs
  rw [if_neg (by rw [show t.snapshot.samples = _ from hobserved.samples]; omega),
    show t.snapshot.samples = _ from hobserved.samples]
  dsimp only
  rcases percentileBucket_spec (saturatingAdd u64Max
      (saturatingMul u64Max durations.length (min percent 100)) 99 / 100) 0 0 t.snapshot.buckets
      (by
        rw [Nat.zero_add, show t.snapshot.buckets.sum = _ from hsum]
        exact Nat.le_of_lt (Nat.lt_trans hfew (by decide))) with
    ⟨i, hi, hfound, hreached, hbefore⟩ | ⟨-, hbelow⟩
  · have hi : i < timingBuckets := hlength ▸ hi
    have hbuckets : timingBuckets = 32 := rfl
    refine ⟨i, hi, ?_, ?_, fun j hj => ?_⟩
    · rw [hfound, Nat.zero_add]
      show min ((i + 1) * timingBucketWidthNs) u64Max = _
      have hmul : (i + 1) * timingBucketWidthNs ≤ timingBuckets * timingBucketWidthNs :=
        Nat.mul_le_mul_right _ hi
      exact Nat.min_eq_left (hmul.trans (by decide))
    · rw [hrank, Nat.zero_add] at hreached
      rw [← hobserved.sum_take hi]
      exact hreached
    · have hj' := hbefore j hj
      rw [hrank, Nat.zero_add] at hj'
      rw [← hobserved.sum_take (by omega)]
      exact hj'
  · -- The buckets count every duration, so that the last one reaches any rank.
    have hnil : t.snapshot.buckets ≠ [] := fun hnil => by
      have : t.buckets.toList.length = 0 := congrArg List.length hnil
      rw [hlength] at this
      cases this
    have hbelow := hbelow hnil
    rw [hrank, Nat.zero_add, show t.snapshot.buckets.sum = _ from hsum] at hbelow
    omega

/-! ## The bounds

A duration beyond the last edge is counted in the last bucket, whose edge does not bound it; that
is the only way in which a percentile is too small.
-/

/-- Percentiles that bound those of the durations from above. -/
structure PercentileBounds (durations : List ℕ) (snapshot : TimingHistogramSnapshot) : Prop where
  /-- A percentile is at least the nearest-rank percentile of the durations. -/
  upper : ∀ percent ≤ 100, ∀ nanos ∈ percentile durations percent,
    nanos ≤ snapshot.percentileNs percent
  /-- It exceeds one below the last bucket by at most a bucket. -/
  tight : ∀ percent ≤ 100, ∀ nanos ∈ percentile durations percent,
    nanos < (timingBuckets - 1) * timingBucketWidthNs →
      snapshot.percentileNs percent ≤ nanos + timingBucketWidthNs
  mono : ∀ percent percent', percent ≤ percent' → percent' ≤ 100 →
    snapshot.percentileNs percent ≤ snapshot.percentileNs percent'
  empty : ∀ percent ≤ 100, snapshot.percentileNs percent = 0 ↔ durations = []

/-- The bucket of a duration in the range of the histogram is found by its upper edge. -/
theorem le_edge_of_timingBucket_lt {nanos : ℕ} (h : nanos ≤ timingBuckets * timingBucketWidthNs)
    {i : ℕ} (hbucket : timingBucket (min nanos u64Max) < i + 1) :
    nanos ≤ (i + 1) * timingBucketWidthNs := by
  have hmax : 1600000 ≤ u64Max := by decide
  have h : nanos ≤ 1600000 := h
  have hbucket : min (min nanos u64Max / 50000) 31 < i + 1 := hbucket
  show nanos ≤ (i + 1) * 50000
  omega

/-- A duration below a bucket is counted below it. -/
theorem timingBucket_lt_of_lt_edge {nanos i : ℕ} (h : nanos < i * timingBucketWidthNs) :
    timingBucket (min nanos u64Max) < i := by
  have h : nanos < i * 50000 := h
  show min (min nanos u64Max / 50000) 31 < i
  omega

section Snapshot

variable {durations : List ℕ} (hfew : durations.length < 2 ^ 57)

include hfew

/-- **Within the range, an upper bound.** -/
theorem percentileNs_upper (hrange : ∀ d ∈ durations, d ≤ timingBuckets * timingBucketWidthNs)
    {percent : ℕ} (hpercent : percent ≤ 100) {nanos : ℕ}
    (hnanos : percentile durations percent = some nanos) :
    nanos ≤ (observeAll durations).snapshot.percentileNs percent := by
  have hsome : durations ≠ [] := fun hnil => by
    subst hnil
    cases hnanos
  obtain ⟨i, -, hvalue, hreached, -⟩ := percentileNs_bucket hfew hsome hpercent
  rw [hvalue, Lib.percentile_le_iff hnanos]
  refine hreached.trans (List.countP_mono_left fun d hd hbucket => ?_)
  exact decide_eq_true (le_edge_of_timingBucket_lt (hrange d hd) (of_decide_eq_true hbucket))

/-- **Never more than a bucket above** what lies below the last bucket, whatever is observed. -/
theorem percentileNs_tight {percent : ℕ} (hpercent : percent ≤ 100) {nanos : ℕ}
    (hnanos : percentile durations percent = some nanos) :
    (observeAll durations).snapshot.percentileNs percent ≤ nanos + timingBucketWidthNs := by
  have hsome : durations ≠ [] := fun hnil => by
    subst hnil
    cases hnanos
  obtain ⟨i, -, hvalue, -, hbefore⟩ := percentileNs_bucket hfew hsome hpercent
  rw [hvalue, Nat.succ_mul]
  refine Nat.add_le_add_right (not_lt.mp fun hbelow => ?_) _
  -- The durations up to the percentile would all be counted before the bucket.
  cases i with
  | zero => exact absurd hbelow (by rw [Nat.zero_mul]; exact Nat.not_lt_zero _)
  | succ i =>
    have hrank := (Lib.percentile_le_iff hnanos nanos).mp le_rfl
    refine absurd (hbefore i (Nat.lt_succ_self i)) (not_lt.mpr (hrank.trans ?_))
    refine List.countP_mono_left fun d _ hd => decide_eq_true ?_
    exact timingBucket_lt_of_lt_edge (Nat.lt_of_le_of_lt (of_decide_eq_true hd) hbelow)

/-- **Nondecreasing in the percentile.** -/
theorem percentileNs_mono {percent percent' : ℕ} (h : percent ≤ percent')
    (hpercent' : percent' ≤ 100) :
    (observeAll durations).snapshot.percentileNs percent ≤
      (observeAll durations).snapshot.percentileNs percent' := by
  by_cases hsome : durations = []
  · subst hsome
    exact Nat.le_refl _
  obtain ⟨i, -, hvalue, -, hbefore⟩ := percentileNs_bucket hfew hsome (h.trans hpercent')
  obtain ⟨j, -, hvalue', hreached', -⟩ := percentileNs_bucket hfew hsome hpercent'
  rw [hvalue, hvalue']
  refine Nat.mul_le_mul_right _ (Nat.succ_le_succ (not_lt.mp fun hlt => ?_))
  have hrank := Lib.percentileRank_mono durations.length h
  have hbelow := hbefore j hlt
  omega

/-- **Zero exactly when nothing was observed.** -/
theorem percentileNs_eq_zero_iff {percent : ℕ} (hpercent : percent ≤ 100) :
    (observeAll durations).snapshot.percentileNs percent = 0 ↔ durations = [] := by
  constructor
  · intro hzero
    by_contra hsome
    obtain ⟨i, -, hvalue, -⟩ := percentileNs_bucket hfew hsome hpercent
    rw [hvalue] at hzero
    exact absurd (Nat.mul_eq_zero.mp hzero) (not_or.mpr ⟨Nat.succ_ne_zero i, by decide⟩)
  · rintro rfl
    rfl

/-- The largest duration is the hundredth percentile, and no percentile is beyond the last
    bucket's edge. -/
theorem range_of_upper (hupper : ∀ nanos ∈ percentile durations 100,
    nanos ≤ (observeAll durations).snapshot.percentileNs 100) :
    ∀ d ∈ durations, d ≤ timingBuckets * timingBucketWidthNs := by
  intro d hd
  have hsome : durations ≠ [] := List.ne_nil_of_mem hd
  obtain ⟨nanos, hnanos⟩ := Lib.exists_percentile hsome (Nat.le_refl 100)
  have hlargest := (Lib.percentile_le_iff hnanos nanos).mp le_rfl
  rw [Lib.percentileRank_hundred (List.length_pos_iff.mpr hsome)] at hlargest
  have hle := List.countP_eq_length.mp (Nat.le_antisymm List.countP_le_length hlargest) d hd
  obtain ⟨i, hi, hvalue, -⟩ := percentileNs_bucket hfew hsome (Nat.le_refl 100)
  have hbound := hupper nanos hnanos
  rw [hvalue] at hbound
  exact (of_decide_eq_true hle).trans (hbound.trans (Nat.mul_le_mul_right _ hi))

/-- **Bounds up to the last bucket's edge.** The percentiles of a snapshot bound those of the
    durations exactly when no duration lies beyond the last bucket's edge. -/
theorem percentileBounds_iff : PercentileBounds durations (observeAll durations).snapshot ↔
    ∀ d ∈ durations, d ≤ timingBuckets * timingBucketWidthNs := by
  constructor
  · exact fun h => range_of_upper hfew (h.upper 100 (Nat.le_refl _))
  · exact fun hrange =>
      { upper := fun percent hpercent nanos hnanos =>
          percentileNs_upper hfew hrange hpercent hnanos
        tight := fun percent hpercent nanos hnanos _ => percentileNs_tight hfew hpercent hnanos
        mono := fun percent percent' h hpercent' => percentileNs_mono hfew h hpercent'
        empty := fun percent hpercent => percentileNs_eq_zero_iff hfew hpercent }

end Snapshot

/-- Two durations within the range. -/
theorem percentileBounds_iff_two :
    [60000, 1600000].length < 2 ^ 57 ∧
      PercentileBounds [60000, 1600000] (observeAll [60000, 1600000]).snapshot :=
  ⟨by decide, (percentileBounds_iff (by decide)).mpr (by decide)⟩

/-- **A stalled model.** One duration of ten seconds, which every percentile puts at no more than
    the 1.6 milliseconds of the last bucket's edge. -/
theorem percentileBounds_stalled :
    ¬ ∀ durations : List ℕ, durations.length < 2 ^ 57 →
      PercentileBounds durations (observeAll durations).snapshot := by
  intro hall
  have hbounds := hall [10000000000] (by decide)
  exact absurd (hbounds.upper 95 (by decide) 10000000000 (by decide)) (by decide)

end TimingHistogram

end Noire
