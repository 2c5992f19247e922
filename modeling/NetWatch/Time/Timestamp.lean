/-
NetWatch.Time.Timestamp — moments in universal time, to the nanosecond.

A timestamp is a second, counted from 1970-01-01T00:00:00Z, and the nanoseconds
since that second began. A second may be followed by a leap second: it has the
same number and nanoseconds from 10⁹ on. Where the parts of a moment are set one
by one (`with_nanosecond`), nothing asks the second before it to be the last of
a minute. Moments lie in the years −262143 to 262142.

The store keeps whole milliseconds, rounded down (`to_millis`); a number of
milliseconds outside the range of years stands for 1970-01-01T00:00:00Z
(`from_millis`).
-/
import NetWatch.Time.Date

namespace NetWatch

/-- A moment in universal time (`DateTime<Utc>`). -/
structure Timestamp where
  seconds : Int
  nanos : Nat
  nanos_lt : nanos < 2000000000
  first_le : -8334601228800 ≤ seconds
  le_last : seconds ≤ 8210266876799
  deriving DecidableEq, Repr

/-- A span of time in nanoseconds, forwards or backwards (`Duration`). Neither direction goes
further than 9223372036854775807 milliseconds. -/
structure Duration where
  nanos : Int
  first_le : -9223372036854775807000000 ≤ nanos
  le_last : nanos ≤ 9223372036854775807000000
  deriving DecidableEq, Repr

namespace Duration

/-- A span of so many nanoseconds, if it is not too long. -/
def ofNanos? (n : Int) : Option Duration :=
  if h : -9223372036854775807000000 ≤ n ∧ n ≤ 9223372036854775807000000 then
    some ⟨n, h.1, h.2⟩
  else none

/-- A span of whole seconds, if it is not too long. -/
def ofSeconds? (s : Int) : Option Duration :=
  ofNanos? (1000000000 * s)

/-- A span of whole days. -/
def ofDays (d : UInt32) : Duration where
  nanos := 86400000000000 * d.toNat
  first_le := by omega
  le_last := by have := d.toNat_lt; omega

/-- The whole seconds of a span, rounded towards zero. -/
def seconds (d : Duration) : Int :=
  d.nanos.tdiv 1000000000

/-- The nanoseconds beyond the whole seconds, with the sign of the span. -/
def subsecNanos (d : Duration) : Int :=
  d.nanos.tmod 1000000000

/-- The same span in the other direction. -/
def neg (d : Duration) : Duration where
  nanos := -d.nanos
  first_le := by have := d.le_last; omega
  le_last := by have := d.first_le; omega

end Duration

namespace Timestamp

/-- 1970-01-01T00:00:00Z. -/
def epoch : Timestamp where
  seconds := 0
  nanos := 0
  nanos_lt := by omega
  first_le := by omega
  le_last := by omega

instance : Inhabited Timestamp := ⟨epoch⟩

/-- The moment at a second and so many nanoseconds, if there is one. -/
def ofParts? (seconds : Int) (nanos : Nat) : Option Timestamp :=
  if h : nanos < 2000000000 ∧ -8334601228800 ≤ seconds ∧ seconds ≤ 8210266876799 then
    some ⟨seconds, nanos, h.1, h.2.1, h.2.2⟩
  else none

/-- Whether the moment lies in a leap second, at the end of a minute or not. -/
def isLeap (t : Timestamp) : Bool :=
  1000000000 ≤ t.nanos

instance : LE Timestamp :=
  ⟨fun a b => a.seconds < b.seconds ∨ (a.seconds = b.seconds ∧ a.nanos ≤ b.nanos)⟩

instance (a b : Timestamp) : Decidable (a ≤ b) :=
  inferInstanceAs (Decidable (_ ∨ _))

/-- The number of the day that the moment lies in. -/
def dayNumber (t : Timestamp) : Int :=
  t.seconds / 86400

/-- Seconds since midnight; a leap second counts with the second before it. -/
def secondOfDay (t : Timestamp) : Int :=
  t.seconds % 86400

def date (t : Timestamp) : Date :=
  .ofDayNumber t.dayNumber

/-! ## Milliseconds -/

/-- Milliseconds since 1970, rounded down (`to_millis`). -/
def toMillis (t : Timestamp) : Int :=
  1000 * t.seconds + t.nanos / 1000000

/-- The moment at a number of milliseconds, if it lies in the range of years. -/
def ofMillis? (m : Int) : Option Timestamp :=
  ofParts? (m / 1000) (1000000 * (m % 1000).toNat)

/-- The moment at a number of milliseconds (`from_millis`); 1970-01-01T00:00:00Z for one out of
range. -/
def ofMillis (m : Int) : Timestamp :=
  (ofMillis? m).getD epoch

/-! ## Moving by a span -/

/-- The moment so many nanoseconds after 1970, leap seconds aside. -/
def ofNanos? (n : Int) : Option Timestamp :=
  ofParts? (n / 1000000000) (n % 1000000000).toNat

/-- The moment after a span. A leap second is left backwards through its own
end and forwards through its beginning; a span that stays inside it moves its
nanoseconds. -/
def add? (t : Timestamp) (d : Duration) : Option Timestamp :=
  let here := 1000000000 * t.seconds + t.nanos
  if t.isLeap then
    if 0 < d.seconds ∨ (0 < d.subsecNanos ∧ 2000000000 - d.subsecNanos ≤ (t.nanos : Int)) then
      ofNanos? (here - 1000000000 + d.nanos)
    else if d.seconds < 0 then ofNanos? (here + d.nanos)
    else ofParts? t.seconds (t.nanos + d.subsecNanos).toNat
  else ofNanos? (here + d.nanos)

/-- The moment before a span. -/
def sub? (t : Timestamp) (d : Duration) : Option Timestamp :=
  t.add? d.neg

/-! ## Laws -/

theorem ofParts?_eq_some (t : Timestamp) : ofParts? t.seconds t.nanos = some t := by
  have h : t.nanos < 2000000000 ∧ -8334601228800 ≤ t.seconds ∧ t.seconds ≤ 8210266876799 :=
    ⟨t.nanos_lt, t.first_le, t.le_last⟩
  exact dif_pos h

theorem seconds_of_ofParts? {s : Int} {n : Nat} {t : Timestamp} (h : ofParts? s n = some t) :
    t.seconds = s ∧ t.nanos = n := by
  unfold ofParts? at h
  split at h
  · cases h
    exact ⟨rfl, rfl⟩
  · cases h

end Timestamp

end NetWatch
