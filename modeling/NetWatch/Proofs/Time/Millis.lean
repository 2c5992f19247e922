/-
NetWatch.Proofs.Time.Millis — timestamps that are kept as whole milliseconds (`to_millis`,
`from_millis`).

The number of milliseconds of a moment is rounded down. Reading it back gives
the moment rounded down (`Timestamp.ofMillis_toMillis`), unless it lies in a
leap second, which the number cannot tell from the second after it. Moments
that are whole milliseconds are in the order of their numbers.

Behind both stand the nanoseconds since 1970 (`Timestamp.instant`), of which the
number is the quotient by a million (`Timestamp.toMillis_eq_ediv`). Going back
by a span takes its nanoseconds off them (`Timestamp.instant_sub?`).
-/
import NetWatch.Time.Timestamp

namespace NetWatch.Timestamp

/-- The moment rounded down to the millisecond. -/
def floorMillis (t : Timestamp) : Timestamp where
  seconds := t.seconds
  nanos := 1000000 * (t.nanos / 1000000)
  nanos_lt := by have := t.nanos_lt; omega
  first_le := t.first_le
  le_last := t.le_last

@[simp]
theorem toMillis_floorMillis (t : Timestamp) : t.floorMillis.toMillis = t.toMillis := by
  simp [toMillis, floorMillis]

/-- **A moment is read back rounded down**, leap seconds aside. -/
theorem ofMillis_toMillis {t : Timestamp} (h : t.isLeap = false) :
    ofMillis t.toMillis = t.floorMillis := by
  have hnanos : t.nanos < 1000000000 := by simpa [isLeap] using h
  have hseconds : t.toMillis / 1000 = t.floorMillis.seconds := by
    unfold toMillis floorMillis
    dsimp only
    omega
  have hrest : 1000000 * (t.toMillis % 1000).toNat = t.floorMillis.nanos := by
    unfold toMillis floorMillis
    dsimp only
    omega
  unfold ofMillis ofMillis?
  rw [hseconds, hrest, ofParts?_eq_some]
  rfl

/-- The parts of a moment that is read back as it is. -/
theorem parts_of_ofMillis {t : Timestamp} (h : ofMillis t.toMillis = t) :
    t.seconds = t.toMillis / 1000 ∧ t.nanos = 1000000 * (t.toMillis % 1000).toNat := by
  unfold ofMillis at h
  cases hread : ofMillis? t.toMillis with
  | none =>
    rw [hread] at h
    obtain rfl : epoch = t := h
    decide
  | some u =>
    rw [hread] at h
    obtain rfl : u = t := h
    exact seconds_of_ofParts? hread

/-- A moment is read back as it is if it is a whole number of milliseconds. -/
theorem ofMillis_toMillis_eq_self_iff {t : Timestamp} :
    ofMillis t.toMillis = t ↔ t.isLeap = false ∧ t.nanos % 1000000 = 0 := by
  constructor
  · intro h
    obtain ⟨-, hnanos⟩ := parts_of_ofMillis h
    have hleap : t.nanos < 1000000000 := by omega
    exact ⟨by simpa [isLeap] using hleap, by omega⟩
  · rintro ⟨hleap, hwhole⟩
    rw [ofMillis_toMillis hleap]
    have hnanos : 1000000 * (t.nanos / 1000000) = t.nanos := by omega
    unfold floorMillis
    simp only [hnanos]

/-- Moments that are read back as they are come in the order of their milliseconds. -/
theorem le_of_toMillis_le {t u : Timestamp} (ht : ofMillis t.toMillis = t)
    (hu : ofMillis u.toMillis = u) (h : t.toMillis ≤ u.toMillis) : t ≤ u := by
  obtain ⟨hts, htn⟩ := parts_of_ofMillis ht
  obtain ⟨hus, hun⟩ := parts_of_ofMillis hu
  show t.seconds < u.seconds ∨ (t.seconds = u.seconds ∧ t.nanos ≤ u.nanos)
  omega

/-- Rounding down to the millisecond leaves moments in the order of their milliseconds. -/
theorem ofMillis_le_iff {t u : Timestamp} (ht : t.isLeap = false) (hu : u.isLeap = false) :
    ofMillis t.toMillis ≤ ofMillis u.toMillis ↔ t.toMillis ≤ u.toMillis := by
  have htn : t.nanos < 1000000000 := by simpa [isLeap] using ht
  have hun : u.nanos < 1000000000 := by simpa [isLeap] using hu
  rw [ofMillis_toMillis ht, ofMillis_toMillis hu]
  show t.seconds < u.seconds ∨ (t.seconds = u.seconds ∧
    1000000 * (t.nanos / 1000000) ≤ 1000000 * (u.nanos / 1000000)) ↔ _
  unfold toMillis
  omega

/-- A later moment has no fewer milliseconds, unless the earlier one lies in a leap second, whose
milliseconds are counted again. -/
theorem toMillis_le_of_le {t u : Timestamp} (h : t ≤ u) (ht : t.isLeap = false) :
    t.toMillis ≤ u.toMillis := by
  have hnanos : t.nanos < 1000000000 := by simpa [isLeap] using ht
  have h : t.seconds < u.seconds ∨ (t.seconds = u.seconds ∧ t.nanos ≤ u.nanos) := h
  unfold toMillis
  omega

/-! ## Instants -/

/-- Nanoseconds since 1970; those of a leap second are counted once more in the second after it. -/
def instant (t : Timestamp) : Int :=
  1000000000 * t.seconds + t.nanos

/-- **Milliseconds are nanoseconds rounded towards the past.** -/
theorem toMillis_eq_ediv (t : Timestamp) : t.toMillis = t.instant / 1000000 := by
  unfold toMillis instant
  omega

theorem instant_of_ofNanos? {n : Int} {u : Timestamp} (h : ofNanos? n = some u) :
    u.instant = n := by
  obtain ⟨hseconds, hnanos⟩ := seconds_of_ofParts? h
  unfold instant
  rw [hseconds, hnanos]
  omega

/-- **Going back by a span** takes its nanoseconds away. Going forwards out of a leap second, that
is back by a span below zero, does not: the leap second has no nanoseconds of its own. -/
theorem instant_sub? {t u : Timestamp} {d : Duration} (h : t.sub? d = some u)
    (hd : 0 ≤ d.nanos ∨ t.isLeap = false) : u.instant = t.instant - d.nanos := by
  unfold sub? add? Duration.neg Duration.seconds Duration.subsecNanos at h
  dsimp only at h
  split at h
  · rename_i hleap
    have hnanos : 1000000000 ≤ t.nanos := by simpa [isLeap] using hleap
    have hspan : 0 ≤ d.nanos := hd.resolve_right (by simp [hleap])
    rw [Int.neg_tdiv, Int.neg_tmod, Int.tdiv_eq_ediv_of_nonneg hspan,
      Int.tmod_eq_emod_of_nonneg hspan, if_neg (by omega)] at h
    split at h
    · rw [instant_of_ofNanos? h]
      unfold instant
      omega
    · obtain ⟨hseconds, hrest⟩ := seconds_of_ofParts? h
      unfold instant
      rw [hseconds, hrest]
      omega
  · rw [instant_of_ofNanos? h]
    unfold instant
    omega

end NetWatch.Timestamp
