/-
  CivilTime.Proofs.FinerCounts — milliseconds and nanoseconds since the epoch.

  (1) The count of milliseconds is that of nanoseconds, rounded down (`timestampMillis_eq`). Outside leap seconds so is
  the count of seconds, and what it leaves is the nanosecond; then the count of nanoseconds alone tells which
  date and time it is (`timestampNanos_eq_iff`) and which of two comes first (`compare_eq_timestampNanos`). A
  leap second shares its count with the second after it.

  (2) A zone with one state makes a moment of each count whose second is in the calendar: the one moment with this
  count of nanoseconds that is not in a leap second (`momentOfNanos_eq_ok_iff`). A count of milliseconds is taken
  for one of nanoseconds (`momentOfMillis_eq`).

  Main statement: `countsFiner_of_onlyState`.
-/

import CivilTime.Proofs.Timeline

namespace CivilTime

open CivilDateTime (InCalendar)

/-! ## (1) Counts of a date and time -/

namespace CivilDateTime

variable {x : CivilDateTime} {n : Int}

/-- Milliseconds are nanoseconds rounded down, in a leap second as well. -/
theorem timestampMillis_eq (x : CivilDateTime) : x.timestampMillis = x.timestampNanos / 1000000 := by
  unfold timestampMillis timestampNanos
  omega

/-- The nanosecond of a time that is not in a leap second is less than a second. -/
theorem nanosecond_bounds (whole : ¬ x.time.IsLeapSecond) :
    0 ≤ x.time.nanosecond ∧ x.time.nanosecond < 1000000000 :=
  ⟨x.time.nano_nonneg, Int.not_le.mp whole⟩

/-- Outside leap seconds a count of nanoseconds is a second and a part of it. -/
theorem timestampNanos_eq_iff (whole : ¬ x.time.IsLeapSecond) : x.timestampNanos = n ↔
    x.timestamp = n / 1000000000 ∧ x.time.nanosecond = n % 1000000000 := by
  have bounds := nanosecond_bounds whole
  unfold timestampNanos
  constructor
  · rintro rfl
    constructor <;> omega
  · rintro ⟨second, nano⟩
    omega

/-- Outside leap seconds dates and times follow one another as their counts of nanoseconds do. -/
theorem compare_eq_timestampNanos {a b : CivilDateTime} (ha : ¬ a.time.IsLeapSecond) (hb : ¬ b.time.IsLeapSecond) :
    a.compare b = compare a.timestampNanos b.timestampNanos := by
  have boundsA := nanosecond_bounds ha
  have boundsB := nanosecond_bounds hb
  rw [compare_eq]
  symm
  refine compare_eq_cons (fun le => ?_) (fun le => ?_) fun sameSecond => compare_eq_singleton ?_
  all_goals
    unfold timestampNanos at *
    omega

/-- The count of a moment in a leap second is one of the second after it. -/
theorem timestampNanos_div_mod_of_leapSecond (leap : x.time.IsLeapSecond) :
    x.timestampNanos / 1000000000 = x.timestamp + 1 ∧
      x.timestampNanos % 1000000000 = x.time.nanosecond - 1000000000 := by
  have lt := x.time.nano_lt
  unfold ClockTime.IsLeapSecond at leap
  unfold timestampNanos
  omega

end CivilDateTime

/-! ## (2) Moments of counts -/

namespace Zone

variable {w : World} {z : Zone} {secs nanos n : Int}

/-- A count of milliseconds is taken for one of nanoseconds. -/
theorem momentOfMillis_eq (w : World) (z : Zone) (n : Int) :
    z.momentOfMillis w n = z.momentOfNanos w (n * 1000000) := by
  have second : n * 1000000 / 1000000000 = n / 1000 := by omega
  have nano : n * 1000000 % 1000000000 = n % 1000 * 1000000 := by omega
  unfold momentOfMillis momentOfNanos
  rw [second, nano]

section OnlyState

variable {s : ZoneState} (only : z.onlyState? = some s)

include only

theorem momentOfTimestamp_of_onlyState (w : World) (secs nanos : Int) :
    z.momentOfTimestamp w secs nanos = do return ⟨← .of (CivilDateTime.ofTimestamp secs nanos), s⟩ := by
  simp only [momentOfTimestamp, momentOfUtc, stateOfUtc_of_onlyState only, pure_bind]

theorem momentOfTimestamp_eq_ok_iff {m : ZonedDateTime} : (z.momentOfTimestamp w secs nanos).result = .ok m ↔
    m.state = s ∧ m.utc.timestamp = secs ∧ m.utc.time.nanosecond = nanos := by
  rw [momentOfTimestamp_of_onlyState only, Traced.result_bind_eq_ok]
  simp only [Traced.of_result_eq_ok, Traced.pure_result, Except.ok.injEq, CivilDateTime.ofTimestamp_eq_ok_iff]
  constructor
  · rintro ⟨x, fields, rfl⟩
    exact ⟨rfl, fields⟩
  · rintro ⟨rfl, fields⟩
    exact ⟨m.utc, fields, rfl⟩

theorem exists_momentOfTimestamp_iff : (∃ m, (z.momentOfTimestamp w secs nanos).result = .ok m) ↔
    (0 ≤ nanos ∧ nanos < 2000000000) ∧ InCalendar secs := by
  rw [← CivilDateTime.exists_ofTimestamp_iff]
  simp only [momentOfTimestamp_eq_ok_iff only, CivilDateTime.ofTimestamp_eq_ok_iff]
  constructor
  · rintro ⟨m, -, fields⟩
    exact ⟨m.utc, fields⟩
  · rintro ⟨x, fields⟩
    exact ⟨⟨x, s⟩, rfl, fields⟩

/-- Of a count of nanoseconds the zone makes the one moment that has the count and is not in a leap second. -/
theorem momentOfNanos_eq_ok_iff {m : ZonedDateTime} : (z.momentOfNanos w n).result = .ok m ↔
    m.state = s ∧ ¬ m.utc.time.IsLeapSecond ∧ m.utc.timestampNanos = n := by
  refine (momentOfTimestamp_eq_ok_iff only).trans (and_congr_right fun _ => ?_)
  constructor
  · rintro ⟨second, nano⟩
    have whole : ¬ m.utc.time.IsLeapSecond := by
      unfold ClockTime.IsLeapSecond
      omega
    exact ⟨whole, (CivilDateTime.timestampNanos_eq_iff whole).mpr ⟨second, nano⟩⟩
  · rintro ⟨whole, count⟩
    exact (CivilDateTime.timestampNanos_eq_iff whole).mp count

theorem exists_momentOfNanos_iff : (∃ m, (z.momentOfNanos w n).result = .ok m) ↔ InCalendar (n / 1000000000) := by
  refine (exists_momentOfTimestamp_iff only).trans (and_iff_right ?_)
  omega

theorem momentOfNanos_of_outside (outside : ¬ InCalendar (n / 1000000000)) :
    (z.momentOfNanos w n).result = .error (.failure .invalidDateTime) := by
  unfold momentOfNanos
  rw [momentOfTimestamp_of_onlyState only, CivilDateTime.ofTimestamp_of_outside (by omega) outside]
  rfl

theorem compare_momentOfNanos {a b : ZonedDateTime} {m : Int} (ha : (z.momentOfNanos w m).result = .ok a)
    (hb : (z.momentOfNanos w n).result = .ok b) : a.utc.compare b.utc = compare m n := by
  obtain ⟨-, wholeA, rfl⟩ := (momentOfNanos_eq_ok_iff only).mp ha
  obtain ⟨-, wholeB, rfl⟩ := (momentOfNanos_eq_ok_iff only).mp hb
  exact CivilDateTime.compare_eq_timestampNanos wholeA wholeB

/-- The count of a leap second leads into the second after it. -/
theorem exists_momentOfNanos_of_leapSecond {x : CivilDateTime} (leap : x.time.IsLeapSecond)
    (inside : InCalendar (x.timestamp + 1)) :
    ∃ m, (z.momentOfNanos w x.timestampNanos).result = .ok m ∧ m.state = s ∧
      m.utc.timestamp = x.timestamp + 1 ∧ m.utc.time.nanosecond = x.time.nanosecond - 1000000000 := by
  obtain ⟨second, nano⟩ := CivilDateTime.timestampNanos_div_mod_of_leapSecond leap
  rw [← second] at inside
  obtain ⟨m, run⟩ := (exists_momentOfNanos_iff only).mpr inside
  have fields := (momentOfTimestamp_eq_ok_iff only).mp run
  rw [second, nano] at fields
  exact ⟨m, run, fields⟩

end OnlyState

/-- Since the epoch the clock is read as a count of nanoseconds in UTC. -/
theorem result_now (since : 0 ≤ n) : (now w n).result = (utc.momentOfNanos w n).result := by
  unfold now
  rw [Traced.result_bind_of_ok rfl, if_neg (Int.not_lt.mpr since)]

theorem now_eq_clockBeforeEpoch_iff (w : World) (n : Int) :
    (now w n).result = .error (.failure .clockBeforeEpoch) ↔ n < 0 := by
  constructor
  · intro run
    apply Int.not_le.mp
    intro since
    rw [result_now since] at run
    -- A count fails only as a moment outside the calendar.
    by_cases inside : InCalendar (n / 1000000000)
    · obtain ⟨m, found⟩ := (exists_momentOfNanos_iff (z := utc) (w := w) rfl).mpr inside
      cases run.symm.trans found
    · cases run.symm.trans (momentOfNanos_of_outside rfl inside)
  · intro before
    unfold now
    rw [Traced.result_bind_of_ok rfl, if_pos before]
    rfl

end Zone

/-! ## Counting finer than seconds -/

structure IsMomentOfNanos (s : ZoneState) (n : Int) (out : Except Fault ZonedDateTime) : Prop where
  exists_iff : (∃ m, out = .ok m) ↔ InCalendar (n / 1000000000)
  outside : ¬ InCalendar (n / 1000000000) → out = .error (.failure .invalidDateTime)
  state : ∀ m, out = .ok m → m.state = s
  noLeapSecond : ∀ m, out = .ok m → ¬ m.utc.time.IsLeapSecond
  timestampNanos : ∀ m, out = .ok m → m.utc.timestampNanos = n
  timestampMillis : ∀ m, out = .ok m → m.utc.timestampMillis = n / 1000000
  timestamp : ∀ m, out = .ok m → m.utc.timestamp = n / 1000000000

structure IsMomentOfMillis (s : ZoneState) (n : Int) (out : Except Fault ZonedDateTime) : Prop where
  exists_iff : (∃ m, out = .ok m) ↔ -62135596800000 ≤ n ∧ n ≤ 253402300799999
  outside : ¬ (-62135596800000 ≤ n ∧ n ≤ 253402300799999) → out = .error (.failure .invalidDateTime)
  state : ∀ m, out = .ok m → m.state = s
  noLeapSecond : ∀ m, out = .ok m → ¬ m.utc.time.IsLeapSecond
  timestampMillis : ∀ m, out = .ok m → m.utc.timestampMillis = n
  timestamp : ∀ m, out = .ok m → m.utc.timestamp = n / 1000

/-- A moment of so many nanoseconds is one of milliseconds when there are whole milliseconds of them. -/
theorem IsMomentOfNanos.ofMillis {s : ZoneState} {n : Int} {out : Except Fault ZonedDateTime}
    (h : IsMomentOfNanos s (n * 1000000) out) : IsMomentOfMillis s n out := by
  have second : n * 1000000 / 1000000000 = n / 1000 := by omega
  have milli : n * 1000000 / 1000000 = n := by omega
  have inside : InCalendar (n / 1000) ↔ -62135596800000 ≤ n ∧ n ≤ 253402300799999 := by
    unfold InCalendar
    omega
  constructor
  case exists_iff => rw [h.exists_iff, second, inside]
  case outside =>
    intro beyond
    apply h.outside
    rwa [second, inside]
  case state => exact h.state
  case noLeapSecond => exact h.noLeapSecond
  case timestampMillis =>
    intro m run
    rw [h.timestampMillis m run, milli]
  case timestamp =>
    intro m run
    rw [h.timestamp m run, second]

theorem Zone.isMomentOfNanos {z : Zone} {s : ZoneState} (only : z.onlyState? = some s) (w : World) (n : Int) :
    IsMomentOfNanos s n (z.momentOfNanos w n).result where
  exists_iff := exists_momentOfNanos_iff only
  outside := momentOfNanos_of_outside only
  state _ run := ((momentOfNanos_eq_ok_iff only).mp run).1
  noLeapSecond _ run := ((momentOfNanos_eq_ok_iff only).mp run).2.1
  timestampNanos _ run := ((momentOfNanos_eq_ok_iff only).mp run).2.2
  timestampMillis m run := by
    obtain ⟨-, -, count⟩ := (momentOfNanos_eq_ok_iff only).mp run
    rw [CivilDateTime.timestampMillis_eq, count]
  timestamp _ run := ((momentOfTimestamp_eq_ok_iff only).mp run).2.1

/-- A zone in the one state `s` takes counts of milliseconds and of nanoseconds to moments that have them, in order; so
is the clock read. A leap second becomes the second after it. -/
structure CountsFiner (w : World) (z : Zone) (s : ZoneState) : Prop where
  millis : ∀ n, IsMomentOfMillis s n (z.momentOfMillis w n).result
  nanos : ∀ n, IsMomentOfNanos s n (z.momentOfNanos w n).result
  millis_eq_nanos : ∀ n, z.momentOfMillis w n = z.momentOfNanos w (n * 1000000)
  compare_millis : ∀ m n a b, (z.momentOfMillis w m).result = .ok a → (z.momentOfMillis w n).result = .ok b →
    a.utc.compare b.utc = compare m n
  compare_nanos : ∀ m n a b, (z.momentOfNanos w m).result = .ok a → (z.momentOfNanos w n).result = .ok b →
    a.utc.compare b.utc = compare m n
  now : ∀ n, 0 ≤ n → (Zone.now w n).result = (Zone.utc.momentOfNanos w n).result
  beforeEpoch : ∀ n, (Zone.now w n).result = .error (.failure .clockBeforeEpoch) ↔ n < 0
  leapSecond : ∀ x : ZonedDateTime, x.utc.time.IsLeapSecond → InCalendar (x.utc.timestamp + 1) →
    ∃ m, (z.momentOfNanos w x.utc.timestampNanos).result = .ok m ∧ m.state = s ∧
      m.utc.timestamp = x.utc.timestamp + 1 ∧ m.utc.time.nanosecond = x.utc.time.nanosecond - 1000000000
  lastLeapSecond : ∀ x : ZonedDateTime, x.utc.time.IsLeapSecond → ¬ InCalendar (x.utc.timestamp + 1) →
    (z.momentOfNanos w x.utc.timestampNanos).result = .error (.failure .invalidDateTime)

theorem countsFiner_of_onlyState (w : World) (z : Zone) (s : ZoneState) (only : z.onlyState? = some s) :
    CountsFiner w z s := by
  constructor
  case millis =>
    intro n
    rw [z.momentOfMillis_eq]
    exact (z.isMomentOfNanos only w _).ofMillis
  case nanos => exact z.isMomentOfNanos only w
  case millis_eq_nanos => exact z.momentOfMillis_eq w
  case compare_millis =>
    intro m n a b ha hb
    rw [Zone.momentOfMillis_eq] at ha hb
    rw [Zone.compare_momentOfNanos only ha hb]
    apply compare_eq_of_lt_iff <;> omega
  case compare_nanos =>
    intro m n a b ha hb
    exact Zone.compare_momentOfNanos only ha hb
  case now =>
    intro n since
    exact Zone.result_now since
  case beforeEpoch => exact Zone.now_eq_clockBeforeEpoch_iff w
  case leapSecond =>
    intro x leap inside
    exact Zone.exists_momentOfNanos_of_leapSecond only leap inside
  case lastLeapSecond =>
    intro x leap beyond
    apply Zone.momentOfNanos_of_outside only
    rwa [(CivilDateTime.timestampNanos_div_mod_of_leapSecond leap).1]

/-- Three and a half hours behind UTC. -/
def newfoundland : Offset := ⟨-12600, by decide, by decide⟩

def utcWorld : World := ⟨.fixed "UTC" 0, [], .constant none none none none⟩

theorem countsFiner_newfoundland :
    (Zone.fixed newfoundland).onlyState? = some (.fixed newfoundland) ∧
      CountsFiner utcWorld (.fixed newfoundland) (.fixed newfoundland) :=
  ⟨rfl, countsFiner_of_onlyState utcWorld (.fixed newfoundland) (.fixed newfoundland) rfl⟩

end CivilTime
