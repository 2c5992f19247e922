/-
NetWatch.Proofs.Time.Order — milliseconds keep the order of time (`to_millis`, `from_millis`).

Leap seconds aside, moments are ordered as their nanoseconds since 1970
(`Timestamp.le_iff_instant_le`), and the milliseconds of a moment are these
nanoseconds divided by a million and rounded towards the past, before 1970 as
well (`Timestamp.toMillis_eq_ediv`). So a moment that is read back from its
milliseconds has moved towards the past by less than one of them
(`Timestamp.instant_sub_floorMillis`).

Any number of milliseconds can be read. Where it falls into a year that moments
have, by the calendar (`Timestamp.InYears`), the moment read has that number;
the reader looks at seconds only, whose bounds are the beginning of the first
year and the end of the last (`Timestamp.inYears_iff`). Every other number is
read as 1970-01-01T00:00:00Z.
-/
import NetWatch.Proofs.Time.Calendar
import NetWatch.Proofs.Time.Millis

namespace NetWatch.Timestamp

variable {t u : Timestamp} {m : Int}

/-! ## Instants -/

/-- **Moments are ordered as their nanoseconds**, leap seconds aside. -/
theorem le_iff_instant_le (ht : t.isLeap = false) (hu : u.isLeap = false) :
    t ≤ u ↔ t.instant ≤ u.instant := by
  have htn : t.nanos < 1000000000 := by simpa [isLeap] using ht
  have hun : u.nanos < 1000000000 := by simpa [isLeap] using hu
  show t.seconds < u.seconds ∨ (t.seconds = u.seconds ∧ t.nanos ≤ u.nanos) ↔ _
  unfold instant
  omega

@[simp]
theorem instant_floorMillis (t : Timestamp) : t.floorMillis.instant = 1000000 * t.toMillis := by
  unfold floorMillis toMillis instant
  dsimp only
  omega

@[simp]
theorem isLeap_floorMillis (t : Timestamp) : t.floorMillis.isLeap = t.isLeap := by
  have hnanos : 1000000000 ≤ 1000000 * (t.nanos / 1000000) ↔ 1000000000 ≤ t.nanos := by omega
  exact decide_eq_decide.2 hnanos

/-- Rounding down to the millisecond takes off what the division leaves over. -/
theorem instant_sub_floorMillis (t : Timestamp) :
    t.instant - t.floorMillis.instant = t.instant % 1000000 := by
  rw [instant_floorMillis, toMillis_eq_ediv]
  have hparts := Int.mul_ediv_add_emod t.instant 1000000
  omega

theorem floorMillis_le (h : t.isLeap = false) : t.floorMillis ≤ t := by
  rw [le_iff_instant_le (by simpa using h) h]
  have hrest := Int.emod_nonneg t.instant (b := 1000000) (by decide)
  have hsub := instant_sub_floorMillis t
  omega

/-! ## The years of the calendar -/

/-- Whether a number of milliseconds since 1970 falls into a year that moments have. -/
def InYears (m : Int) : Prop :=
  -262143 ≤ Date.yearOf (m / 86400000) ∧ Date.yearOf (m / 86400000) ≤ 262142

instance (m : Int) : Decidable (InYears m) :=
  inferInstanceAs (Decidable (_ ∧ _))

/-- The first and the last millisecond of the years that moments have. -/
theorem inYears_iff : InYears m ↔ -8334601228800000 ≤ m ∧ m ≤ 8210266876799999 := by
  unfold InYears
  rw [Date.yearOf_within_iff]
  omega

/-- **There is no moment** at a number of milliseconds that falls into no year of theirs, and at
no other. -/
theorem ofMillis?_eq_none_iff : ofMillis? m = none ↔ ¬ InYears m := by
  rw [inYears_iff]
  unfold ofMillis? ofParts?
  split
  · rename_i hparts
    simp only [reduceCtorEq, false_iff, Decidable.not_not]
    omega
  · rename_i hparts
    simp only [true_iff]
    omega

theorem toMillis_of_ofMillis? (h : ofMillis? m = some t) : t.toMillis = m := by
  obtain ⟨hseconds, hnanos⟩ := seconds_of_ofParts? h
  unfold toMillis
  rw [hseconds, hnanos]
  omega

theorem toMillis_ofMillis (h : InYears m) : (ofMillis m).toMillis = m := by
  cases hread : ofMillis? m with
  | none => exact absurd h (ofMillis?_eq_none_iff.1 hread)
  | some t =>
    rw [ofMillis, hread]
    exact toMillis_of_ofMillis? hread

theorem ofMillis_of_not_inYears (h : ¬ InYears m) : ofMillis m = epoch := by
  rw [ofMillis, ofMillis?_eq_none_iff.2 h]
  rfl

/-! ## Both ways -/

/-- **Milliseconds keep the order of time.** A moment that lies in no leap second has no more
milliseconds than a later one, and is read back from them as itself or as a moment less than a
millisecond before it. A number of milliseconds is read as a moment that has this number if it
falls into a year that moments have, and as 1970-01-01T00:00:00Z if it does not. -/
theorem millis_keep_order :
    (∀ t u : Timestamp, t.isLeap = false → t ≤ u → t.toMillis ≤ u.toMillis) ∧
      (∀ t : Timestamp, t.isLeap = false →
        ofMillis t.toMillis ≤ t ∧ t.instant - (ofMillis t.toMillis).instant < 1000000) ∧
      ∀ m : Int, (InYears m → (ofMillis m).toMillis = m) ∧
        (¬ InYears m → ofMillis m = epoch) := by
  refine ⟨fun t u ht h => toMillis_le_of_le h ht, fun t ht => ?_,
    fun m => ⟨toMillis_ofMillis, ofMillis_of_not_inYears⟩⟩
  rw [ofMillis_toMillis ht, instant_sub_floorMillis]
  exact ⟨floorMillis_le ht, Int.emod_lt_of_pos _ (by decide)⟩

/-- The last nanosecond before 1970 and the last of all years, and the milliseconds on both sides of
either end of the years. -/
theorem millis_keep_order_at_ends :
    let eve : Timestamp := ⟨-1, 999999999, by decide, by decide, by decide⟩
    let last : Timestamp := ⟨8210266876799, 999999999, by decide, by decide, by decide⟩
    (eve ≤ last ∧ eve.toMillis ≤ last.toMillis) ∧
      (∀ t ∈ [eve, last], t.isLeap = false ∧
        ofMillis t.toMillis ≤ t ∧ t.instant - (ofMillis t.toMillis).instant < 1000000) ∧
      (∀ m ∈ [-8334601228800000, 8210266876799999], InYears m ∧ (ofMillis m).toMillis = m) ∧
      ∀ m ∈ [-8334601228800001, 8210266876800000], ¬ InYears m ∧ ofMillis m = epoch := by
  intro eve last
  obtain ⟨horder, hback, hread⟩ := millis_keep_order
  have hle : eve ≤ last := by decide
  have hwhole : ∀ t ∈ [eve, last], t.isLeap = false := by decide
  refine ⟨⟨hle, horder eve last (hwhole eve List.mem_cons_self) hle⟩,
    fun t ht => ⟨hwhole t ht, hback t (hwhole t ht)⟩, ?_, ?_⟩
  · have hin : ∀ m ∈ [-8334601228800000, 8210266876799999], InYears m := by decide
    exact fun m hm => ⟨hin m hm, (hread m).1 (hin m hm)⟩
  · have hout : ∀ m ∈ [-8334601228800001, 8210266876800000], ¬ InYears m := by decide
    exact fun m hm => ⟨hout m hm, (hread m).2 (hout m hm)⟩

end NetWatch.Timestamp
