import MiGate.Db.TrafficAnalytics
import MiGate.Go.Fractions

namespace MiGate.Db

open Go Relational

/-! The samples a window of time selects.  The bounds are compared with the stored texts. -/

/-- The `WHERE` clause of `ListTrafficSamplesWindow`. -/
def inSampleWindow (scopeType : String) (since until_ : Int) (sample : TrafficSample) : Bool :=
  sample.scopeType = analyticsScopeType scopeType &&
    !(rfc3339Nano sample.sampledAt < rfc3339Nano since) &&
    (isZero until_ || !(rfc3339Nano until_ < rfc3339Nano sample.sampledAt))

/-- `ORDER BY sampled_at ASC, engine ASC, scope_key ASC`. -/
def sampleOrder (left right : TrafficSample) : Bool :=
  rfc3339Nano left.sampledAt < rfc3339Nano right.sampledAt ||
    (rfc3339Nano left.sampledAt = rfc3339Nano right.sampledAt && (left.engine < right.engine ||
      (left.engine = right.engine && left.scopeKey ≤ right.scopeKey)))

/-- A positive limit keeps the last samples of the window. -/
def listTrafficSamplesWindow (scopeType : String) (since until_ limit : Int) (store : Store) : List TrafficSample :=
  let selected := store.trafficSamples.rows.filter (inSampleWindow scopeType since until_)
  if 0 < limit then
    ((selected.mergeSort fun left right => sampleOrder right left).take limit.toNat).mergeSort sampleOrder
  else selected.mergeSort sampleOrder

def listTrafficSamples (scopeType : String) (since limit : Int) (store : Store) : List TrafficSample :=
  let limit := if limit ≤ 0 ∨ 2000 < limit then 2000 else limit
  listTrafficSamplesWindow scopeType since zeroInstant limit store

/-! ### Times within a window -/

def BeforeEnd (until_ instant : Int) : Prop :=
  isZero until_ = true ∨ instant ≤ until_

/-- One of two times is the other with its fraction of a second cut short. -/
def Swapped (left right : Int) : Prop :=
  CutShort left right ∨ CutShort right left

def SwappedEnd (until_ instant : Int) : Prop :=
  isZero until_ = false ∧ Swapped until_ instant

instance (until_ instant : Int) : Decidable (BeforeEnd until_ instant) :=
  inferInstanceAs (Decidable (_ ∨ _))

instance (left right : Int) : Decidable (Swapped left right) :=
  inferInstanceAs (Decidable (_ ∨ _))

instance (until_ instant : Int) : Decidable (SwappedEnd until_ instant) :=
  inferInstanceAs (Decidable (_ ∧ _))

/-- A time whose text a window misreads: it is swapped with one bound and the other lets it
through, or it is swapped with both and they agree on it. -/
def Misread (since until_ instant : Int) : Prop :=
  Swapped instant since ∧ BeforeEnd until_ instant ∧ ¬SwappedEnd until_ instant ∨
    SwappedEnd until_ instant ∧ since ≤ instant ∧ ¬Swapped instant since ∨
    Swapped instant since ∧ SwappedEnd until_ instant ∧ (since ≤ instant ↔ BeforeEnd until_ instant)

instance (since until_ instant : Int) : Decidable (Misread since until_ instant) :=
  inferInstanceAs (Decidable (_ ∨ _))

section

variable {left right since until_ instant limit : Int} {store : Store} {sample : TrafficSample} {scopeType : String}

theorem text_lt_iff (leftYears : InYears left) (rightYears : InYears right) :
    rfc3339Nano left < rfc3339Nano right ↔ (left < right ↔ ¬Swapped left right) := by
  have order := rfc3339Nano_order_iff leftYears rightYears
  rw [← not_or] at order
  rw [Swapped, ← order]
  by_cases earlier : left < right <;> simp [earlier]

/-- The selection by text is the selection by time exactly for the times the window does not misread. -/
theorem inSampleWindow_iff (years : InYears sample.sampledAt) (sinceYears : InYears since) (untilYears : InYears until_)
    (scope : sample.scopeType = analyticsScopeType scopeType) :
    (inSampleWindow scopeType since until_ sample = true ↔ since ≤ sample.sampledAt ∧ BeforeEnd until_ sample.sampledAt) ↔
      ¬Misread since until_ sample.sampledAt := by
  simp only [inSampleWindow, scope, decide_true, Bool.true_and, Bool.and_eq_true, Bool.not_eq_true', decide_eq_false_iff_not,
    Bool.or_eq_true, Misread, BeforeEnd, SwappedEnd, ← Int.not_lt, text_lt_iff years sinceYears, text_lt_iff untilYears years]
  by_cases early : sample.sampledAt < since <;> by_cases earlySwapped : Swapped sample.sampledAt since <;>
    by_cases late : until_ < sample.sampledAt <;> by_cases lateSwapped : Swapped until_ sample.sampledAt <;>
    cases isZero until_ <;> simp [early, earlySwapped, late, lateSwapped]

/-- A limit that is not reached leaves the window as it is. -/
theorem mem_listTrafficSamplesWindow (uncut : limit ≤ 0 ∨ store.trafficSamples.rows.length ≤ limit) :
    sample ∈ listTrafficSamplesWindow scopeType since until_ limit store ↔
      sample ∈ store.trafficSamples.rows ∧ inSampleWindow scopeType since until_ sample = true := by
  rw [← List.mem_filter, listTrafficSamplesWindow]
  split
  · rename_i limited
    have fewer := List.length_filter_le (inSampleWindow scopeType since until_) store.trafficSamples.rows
    have whole : (store.trafficSamples.rows.filter (inSampleWindow scopeType since until_)).length ≤ limit.toNat := by
      omega
    rw [List.mem_mergeSort, List.take_of_length_le (by rwa [List.length_mergeSort]), List.mem_mergeSort]
  · rw [List.mem_mergeSort]

/-- Texts are ordered as the times they render, and a window returns exactly the samples
inside it, unless a fraction of a second is another one cut short. -/
theorem text_order_iff (leftYears : InYears left) (rightYears : InYears right) (sinceYears : InYears since)
    (untilYears : InYears until_) (years : ∀ sample ∈ store.trafficSamples.rows, InYears sample.sampledAt)
    (uncut : limit ≤ 0 ∨ store.trafficSamples.rows.length ≤ limit) :
    ((rfc3339Nano left < rfc3339Nano right ↔ left < right) ↔ ¬CutShort left right ∧ ¬CutShort right left) ∧
      ((∀ sample, sample ∈ listTrafficSamplesWindow scopeType since until_ limit store ↔
          sample ∈ store.trafficSamples.rows ∧ sample.scopeType = analyticsScopeType scopeType ∧
            since ≤ sample.sampledAt ∧ BeforeEnd until_ sample.sampledAt) ↔
        ∀ sample ∈ store.trafficSamples.rows, sample.scopeType = analyticsScopeType scopeType →
          ¬Misread since until_ sample.sampledAt) ∧
      ∀ bucketSeconds, ((∀ sample ∈ store.trafficSamples.rows,
          inAnalyticsWindow ⟨scopeType, since, until_, bucketSeconds⟩ sample = true ↔
            sample.scopeType = analyticsScopeType scopeType ∧
              since ≤ sample.sampledAt ∧ BeforeEnd until_ sample.sampledAt) ↔
        ∀ sample ∈ store.trafficSamples.rows, sample.scopeType = analyticsScopeType scopeType →
          ¬Misread since until_ sample.sampledAt) := by
  have inScope : ∀ sample, inSampleWindow scopeType since until_ sample = true →
      sample.scopeType = analyticsScopeType scopeType := by
    intro sample selected
    simp only [inSampleWindow, Bool.and_eq_true, decide_eq_true_eq] at selected
    exact selected.1.1
  have selection : (∀ sample ∈ store.trafficSamples.rows, inSampleWindow scopeType since until_ sample = true ↔
        sample.scopeType = analyticsScopeType scopeType ∧ since ≤ sample.sampledAt ∧ BeforeEnd until_ sample.sampledAt) ↔
      ∀ sample ∈ store.trafficSamples.rows, sample.scopeType = analyticsScopeType scopeType →
        ¬Misread since until_ sample.sampledAt := by
    refine forall_congr' fun sample => forall_congr' fun member => ?_
    by_cases scope : sample.scopeType = analyticsScopeType scopeType
    · rw [← inSampleWindow_iff (years sample member) sinceYears untilYears scope]
      simp only [scope, true_and, forall_const]
    · have out : inSampleWindow scopeType since until_ sample ≠ true := fun selected => scope (inScope sample selected)
      simp only [out, scope, false_and, false_implies, Bool.false_eq_true]
  refine ⟨rfc3339Nano_order_iff leftYears rightYears, ?_, fun _ => selection⟩
  rw [← selection]
  refine forall_congr' fun sample => ?_
  rw [mem_listTrafficSamplesWindow uncut]
  tauto

end

/-! ### A bound half a second late -/

/-- The fifth of May 2024, two in the afternoon and five seconds. -/
def exampleSecond : Int := 1714917605 * second

def exampleSampled : TrafficSample :=
  { (default : TrafficSample) with
    sampledAt := exampleSecond, engine := "xray", scopeType := "client", scopeKey := "c_1", deltaUp := 100, status := "ok" }

def exampleSampledStore : Store :=
  { Store.empty with trafficSamples := Table.empty.upsert exampleSampled }

/-- The text `…05.5Z` stands before `…05Z`, and a window that begins half a second after the
sample returns it. -/
theorem half_second_misread :
    let since := exampleSecond + second / 2
    rfc3339Nano since < rfc3339Nano exampleSecond ∧ exampleSecond < since ∧
      exampleSampled ∈ listTrafficSamplesWindow "client" since (exampleSecond + hour) 0 exampleSampledStore ∧
      exampleSampled.sampledAt < since := by
  intro since
  rw [mem_listTrafficSamplesWindow (.inl (Int.le_refl _))]
  with_unfolding_all decide

/-- A window that begins on a whole second misses nothing. -/
theorem whole_second_ordered : (InYears exampleSecond ∧ InYears (exampleSecond + hour)) ∧
    ∀ sample, sample ∈ listTrafficSamplesWindow "client" exampleSecond (exampleSecond + hour) 0 exampleSampledStore ↔
      sample ∈ exampleSampledStore.trafficSamples.rows ∧ sample.scopeType = analyticsScopeType "client" ∧
        exampleSecond ≤ sample.sampledAt ∧ BeforeEnd (exampleSecond + hour) sample.sampledAt := by
  have inYears : InYears exampleSecond ∧ InYears (exampleSecond + hour) := by decide
  refine ⟨inYears, (text_order_iff inYears.1 inYears.2 inYears.1 inYears.2 ?_ (.inl (Int.le_refl 0))).2.1.mpr ?_⟩
  · decide
  · with_unfolding_all decide

end MiGate.Db
