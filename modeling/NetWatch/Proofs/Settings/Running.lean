/-
NetWatch.Proofs.Settings.Running — how far settings that are accepted can be run with.

Accepted settings (`Config::validate`) are exactly those within bounds
(`Settings.validate_eq_ok_iff`), and bounds are what most parts of the service
need: periods that are not empty, at least one failure to an alert, at least one
worker, spans that can be taken from the clock. So these parts come to be from
them and do their work (`Settings.setup_of_validate`).

Two numbers are left without a bound that their users need. Settings may ask for
more workers than a batch can have permits, and then no batch begins
(`Settings.not_begun_of_validate`). The number of connections is not looked at
at all: settings that allow for none are accepted, and then the store cannot be
reached (`Settings.not_connected_of_validate`), and so are settings that allow
for more than there can be.
-/
import NetWatch.Setup

namespace NetWatch

/-! ## Bounds -/

/-- Whether settings are within the bounds that they are held to. -/
structure Settings.InBounds (s : Settings) : Prop where
  workers : 1 ≤ s.monitor.maxWorkers.toNat
  threshold : 1 ≤ s.monitor.consecutiveFailures.toNat
  checks : 1 ≤ s.monitor.checkIntervalSecs.toNat ∧
    s.monitor.checkIntervalSecs.toNat ≤ maximalInterval
  cleanups : 1 ≤ s.monitor.maintenanceIntervalSecs.toNat ∧
    s.monitor.maintenanceIntervalSecs.toNat ≤ maximalInterval
  correlation : s.monitor.correlationWindowSecs.toNat ≤ maximalCorrelation
  retention : 1 ≤ s.monitor.retentionDays.toNat ∧ s.monitor.retentionDays.toNat ≤ maximalRetention

theorem checkRange_eq_ok_iff {name : String} {value low high : Nat} :
    checkRange name value low high = .ok () ↔ low ≤ value ∧ value ≤ high := by
  unfold checkRange
  split
  · simp
    omega
  · simp
    omega

/-- A check that was passed goes on to the next. -/
theorem then_eq_ok_iff {ε : Type} {x y : Except ε Unit} :
    (x >>= fun _ => y) = .ok () ↔ x = .ok () ∧ y = .ok () := by
  cases x with
  | error e => simp [bind, Except.bind]
  | ok u => simp [bind, Except.bind]

/-- **Settings are accepted exactly if they are within bounds.** -/
theorem Settings.validate_eq_ok_iff {s : Settings} : s.validate = .ok () ↔ s.InBounds := by
  have hworkers : s.monitor.maxWorkers = 0 ↔ s.monitor.maxWorkers.toNat = 0 :=
    UInt64.toNat_inj.symm
  have hthreshold :
      s.monitor.consecutiveFailures = 0 ↔ s.monitor.consecutiveFailures.toNat = 0 :=
    UInt32.toNat_inj.symm
  unfold validate
  dsimp only
  constructor
  · intro h
    split at h
    · cases h
    · rename_i hw
      split at h
      · cases h
      · rename_i ht
        simp only [then_eq_ok_iff, checkRange_eq_ok_iff] at h
        obtain ⟨hchecks, hcleanups, hcorrelation, hretention⟩ := h
        rw [hworkers] at hw
        rw [hthreshold] at ht
        exact ⟨by omega, by omega, hchecks, hcleanups, hcorrelation.2, hretention⟩
  · intro h
    have hw := h.workers
    have ht := h.threshold
    rw [if_neg (by rw [hworkers]; omega), if_neg (by rw [hthreshold]; omega)]
    simp only [then_eq_ok_iff, checkRange_eq_ok_iff]
    exact ⟨h.checks, h.cleanups, ⟨Nat.zero_le _, h.correlation⟩, h.retention⟩

/-! ## Spans -/

namespace Timestamp

/-- A moment of the year 0 or later is not before that year. -/
theorem le_seconds_of_year {t : Timestamp} (h : 0 ≤ t.date.year) : -62168000000 ≤ t.seconds := by
  have hyear : 0 ≤ Date.yearOf t.dayNumber := h
  have hspans := (Date.yearOf_spans t.dayNumber).1
  have hmean := (Date.yearStart_near_mean (Date.yearOf t.dayNumber)).1
  have hday : t.dayNumber = t.seconds / 86400 := rfl
  omega

/-- Nanoseconds since 1970 that lie in the calendar are a moment. -/
theorem isSome_ofNanos? {n : Int} (hfirst : -8334601228800000000000 ≤ n)
    (hlast : n < 8210266876800000000000) : (ofNanos? n).isSome = true := by
  unfold ofNanos? ofParts?
  rw [dif_pos (by omega)]
  rfl

/-- Whole seconds of up to a hundred years lie between the beginning of the
calendar and any moment since the year 0. -/
theorem isSome_sub? {t : Timestamp} (hyear : 0 ≤ t.date.year) {d : Duration} {seconds : Nat}
    (hd : d.nanos = 1000000000 * seconds) (hle : seconds ≤ 3153600000) :
    (t.sub? d).isSome = true := by
  have hfirst := le_seconds_of_year hyear
  have hlast := t.le_last
  have hnanos := t.nanos_lt
  have hback : d.neg.nanos = 1000000000 * (-seconds : Int) := by
    show -d.nanos = _
    omega
  have hwhole : d.neg.seconds = -seconds := by
    unfold Duration.seconds
    rw [hback, Int.mul_tdiv_cancel_left _ (by decide)]
  have hfraction : d.neg.subsecNanos = 0 := by
    unfold Duration.subsecNanos
    rw [hback, Int.mul_tmod_right]
  unfold sub? add?
  simp only [hwhole, hfraction, hback]
  split
  · rename_i hleap
    rw [if_neg (by omega)]
    split
    · exact isSome_ofNanos? (by omega) (by omega)
    · have hsame : ofParts? t.seconds ((t.nanos : Int) + 0).toNat = some t := by
        simpa using ofParts?_eq_some t
      rw [hsame]
      rfl
  · rename_i hplain
    have hlt : t.nanos < 1000000000 := by simpa [isLeap] using hplain
    exact isSome_ofNanos? (by omega) (by omega)

end Timestamp

/-! ## The parts of the service -/

/-- Whether the parts are those that settings ask for, no number having changed
on the way. -/
structure Setup.IsAskedBy (u : Setup) (s : Settings) : Prop where
  checks : u.checks.period = s.monitor.checkIntervalSecs.toNat
  cleanups : u.cleanups.period = s.monitor.maintenanceIntervalSecs.toNat
  threshold : u.rules.threshold = s.monitor.consecutiveFailures
  workers : u.scheduler = .idle s.monitor.maxWorkers.toNat
  correlation : ∃ window ∈ u.rules.correlation,
    window.nanos = 1000000000 * s.monitor.correlationWindowSecs.toNat
  retention : u.retention.nanos = 86400000000000 * s.monitor.retentionDays.toNat

/-- Whether the parts can do their work at a moment: something is to come again, an
alert takes a failure, there is a worker, and the moments from which on alerts of
a parent and old data count lie in the calendar. -/
structure Setup.RunsAt (u : Setup) (now : Timestamp) : Prop where
  checks : 0 < u.checks.period
  cleanups : 0 < u.cleanups.period
  threshold : 1 ≤ u.rules.threshold
  workers : 1 ≤ u.scheduler.workers
  correlation : ∃ window ∈ u.rules.correlation, (now.sub? window).isSome = true
  retention : (now.sub? u.retention).isSome = true

/-- The batch that begins with the first interval after the start, if one begins. -/
def Scheduler.firstBatch? (s : Scheduler) (enabled : List Check) : Option Batch :=
  (s.start.task.bind (·.move? (.tick enabled))).bind (·.batch)

/-- **A batch begins** just if its permits can be kept together. -/
theorem Scheduler.firstBatch?_idle {workers : Nat} {enabled : List Check} (hpos : 1 ≤ workers)
    (h : enabled ≠ []) : (idle workers).firstBatch? enabled = Batch.ofChecks? workers enabled := by
  have hworkers : max workers 1 = workers := Nat.max_eq_left hpos
  cases hbatch : Batch.ofChecks? workers enabled with
  | none => simp [firstBatch?, idle, start, Schedule.start, Schedule.move?, hworkers, h, hbatch]
  | some b =>
    obtain ⟨-, ⟨⟩⟩ := Option.ite_none_right_eq_some.1 hbatch
    simp [firstBatch?, idle, start, Schedule.start, Schedule.move?, hworkers, h, hbatch]
    rfl

theorem AlertRules.create_of_pos {threshold : UInt32} (h : 1 ≤ threshold)
    (correlation : Option Duration) (maintenance : Bool) :
    create threshold correlation maintenance = ⟨threshold, correlation, maintenance, h⟩ :=
  dif_pos h

theorem Ticker.every?_of_pos {seconds : Nat} (h : 0 < seconds) :
    every? seconds = some ⟨seconds, h⟩ :=
  dif_pos h

namespace Settings

variable {s : Settings}

/-- A window of seven days or less is taken as it is. -/
theorem InBounds.correlationWindow? (h : s.InBounds) : ∃ window,
    s.monitor.correlationWindow? = some window ∧
      window.nanos = 1000000000 * s.monitor.correlationWindowSecs.toNat := by
  have hle : s.monitor.correlationWindowSecs.toNat ≤ 604800 := h.correlation
  have hint : s.monitor.correlationWindowSecs.toInt64.toInt =
      s.monitor.correlationWindowSecs.toNat := by
    rw [← Int64.toInt_toBitVec, UInt64.toBitVec_toInt64, BitVec.toInt_eq_toNat_of_lt,
      UInt64.toNat_toBitVec]
    rw [UInt64.toNat_toBitVec]
    omega
  unfold MonitorSettings.correlationWindow? Duration.ofSeconds? Duration.ofNanos?
  rw [hint, dif_pos (by omega)]
  exact ⟨_, rfl, rfl⟩

/-- **The parts that accepted settings ask for can all be made.** -/
theorem InBounds.exists_setup (h : s.InBounds) : ∃ u, s.setup? = some u ∧ u.IsAskedBy s := by
  have hthreshold : 1 ≤ s.monitor.consecutiveFailures := h.threshold
  obtain ⟨window, hwindow, hlength⟩ := h.correlationWindow?
  unfold setup? MonitorSettings.rules?
  rw [hwindow, Ticker.every?_of_pos h.checks.1, Ticker.every?_of_pos h.cleanups.1,
    Option.map_some, AlertRules.create_of_pos hthreshold]
  exact ⟨_, rfl, rfl, rfl, rfl, rfl, ⟨window, rfl, hlength⟩, rfl⟩

/-- Parts that settings within bounds ask for do their work. -/
theorem InBounds.runsAt (h : s.InBounds) {u : Setup} (hu : u.IsAskedBy s)
    {now : Timestamp} (hyear : 0 ≤ now.date.year) : u.RunsAt now := by
  have hwindow : s.monitor.correlationWindowSecs.toNat ≤ 604800 := h.correlation
  have hdays : s.monitor.retentionDays.toNat ≤ 36500 := h.retention.2
  have hkept : u.retention.nanos =
      1000000000 * (86400 * s.monitor.retentionDays.toNat : Nat) := by
    rw [hu.retention]
    omega
  obtain ⟨window, hmem, hlength⟩ := hu.correlation
  refine ⟨u.checks.period_pos, u.cleanups.period_pos, u.rules.threshold_pos, ?_, ?_, ?_⟩
  · rw [hu.workers]
    exact h.workers
  · exact ⟨window, hmem, Timestamp.isSome_sub? hyear hlength (by omega)⟩
  · exact Timestamp.isSome_sub? hyear hkept (by omega)

/-- A connection can be had just if settings allow for one and for no more than there can be. -/
theorem exists_hasOne_iff {room : Nat} : (∃ p, s.pool? room = some p ∧ p.hasOne = true) ↔
    1 ≤ s.database.maxConnections.toNat ∧
      s.database.maxConnections.toNat ≤ room ∧
      s.database.maxConnections.toNat ≤ maximalPermits := by
  rw [← Pool.isSome_ofSize?_iff, Option.isSome_iff_exists]
  constructor
  · rintro ⟨p, hp, hone⟩
    exact ⟨(Pool.hasOne_of_ofSize? hp).1 hone, p, hp⟩
  · rintro ⟨hpos, p, hp⟩
    exact ⟨p, hp, (Pool.hasOne_of_ofSize? hp).2 hpos⟩

/-- **How far accepted settings can be run with**, as far as the clock shows a year from 0 to 9999.
The parts of the service come to be as they are asked for and can do their work; but a batch of
checks begins only if permits for all workers can be kept together, a pool of connections is there
only if there can be so many, and a connection can be had only if there is to be one. None of this
is asked of accepted settings: whatever they say of the data, and of the workers but that there is
one, is accepted. -/
theorem setup_of_validate (h : s.validate = .ok ()) {now : Timestamp}
    (hyear : 0 ≤ now.date.year ∧ now.date.year ≤ 9999) :
    (∃ u, s.setup? = some u ∧ u.IsAskedBy s ∧ u.RunsAt now ∧
      ∀ enabled ≠ [], ((u.scheduler.firstBatch? enabled).isSome = true ↔
        s.monitor.maxWorkers.toNat ≤ maximalPermits)) ∧
    (∀ room, ((s.pool? room).isSome = true ↔ s.database.maxConnections.toNat ≤ room ∧
        s.database.maxConnections.toNat ≤ maximalPermits) ∧
      ((∃ p, s.pool? room = some p ∧ p.hasOne = true) ↔ 1 ≤ s.database.maxConnections.toNat ∧
        s.database.maxConnections.toNat ≤ room ∧
        s.database.maxConnections.toNat ≤ maximalPermits)) ∧
    ∀ database workers, workers ≠ 0 →
      ({ s with
        database := database
        monitor := { s.monitor with maxWorkers := workers } } : Settings).validate = .ok () := by
  have hbounds := validate_eq_ok_iff.1 h
  obtain ⟨u, hu, hasked⟩ := hbounds.exists_setup
  refine ⟨⟨u, hu, hasked, hbounds.runsAt hasked hyear.1, fun enabled henabled => ?_⟩,
    fun room => ⟨Pool.isSome_ofSize?_iff, exists_hasOne_iff⟩, fun database workers hworkers => ?_⟩
  · rw [hasked.workers, Scheduler.firstBatch?_idle hbounds.workers henabled]
    exact Batch.isSome_ofChecks?_iff
  · have hpos : 1 ≤ workers.toNat := by
      have hne : workers.toNat ≠ 0 := fun hzero => hworkers (UInt64.toNat_inj.1 hzero)
      omega
    exact validate_eq_ok_iff.2 { hbounds with workers := hpos }

/-- The longest spans, taken from the first moment of the year 0. -/
theorem setup_of_validate_of_longest :
    ∃ (s : Settings) (now : Timestamp), s.validate = .ok () ∧
      (0 ≤ now.date.year ∧ now.date.year ≤ 9999) ∧
      (s.monitor.correlationWindowSecs, s.monitor.retentionDays) = (604800, 36500) ∧
      (∃ u, s.setup? = some u ∧ u.IsAskedBy s ∧ u.RunsAt now ∧
        ∀ enabled ≠ [], (u.scheduler.firstBatch? enabled).isSome = true) ∧
      ∃ p, s.pool? 10 = some p ∧ p.hasOne = true := by
  let s : Settings := { Settings.usual with
    monitor :=
      { MonitorSettings.usual with correlationWindowSecs := 604800, retentionDays := 36500 } }
  let now : Timestamp := .ofMillis (-62167219200000)
  have hvalid : s.validate = .ok () := rfl
  have hyear : 0 ≤ now.date.year ∧ now.date.year ≤ 9999 := by decide
  obtain ⟨⟨u, hu, hasked, hruns, hbegins⟩, hpool, -⟩ := setup_of_validate hvalid hyear
  exact ⟨s, now, hvalid, hyear, rfl,
    ⟨u, hu, hasked, hruns, fun enabled henabled => (hbegins enabled henabled).2 (by decide)⟩,
    (hpool 10).2.2 (by decide)⟩

/-- **Not all accepted settings can be run with**: with no connections the store
cannot be reached, however much room there is. -/
theorem not_connected_of_validate :
    ¬∀ (s : Settings) (now : Timestamp), s.validate = .ok () →
      0 ≤ now.date.year ∧ now.date.year ≤ 9999 →
      ∃ u, s.setup? = some u ∧ u.RunsAt now ∧
        ∃ room p, s.pool? room = some p ∧ p.hasOne = true := by
  intro h
  let s : Settings := { Settings.usual with
    database := { DatabaseSettings.usual with maxConnections := 0 } }
  obtain ⟨-, -, -, room, hconnected⟩ := h s .epoch rfl (by decide)
  exact absurd (exists_hasOne_iff.1 hconnected).1 (by decide)

/-- With more workers than there can be permits, no batch begins. -/
theorem not_begun_of_validate : ∃ s : Settings, s.validate = .ok () ∧
    ∃ u, s.setup? = some u ∧ ∀ enabled ≠ [], u.scheduler.firstBatch? enabled = none := by
  let s : Settings := { Settings.usual with
    monitor := { MonitorSettings.usual with maxWorkers := 2305843009213693952 } }
  have hbounds : s.InBounds := validate_eq_ok_iff.1 rfl
  obtain ⟨u, hu, hasked⟩ := hbounds.exists_setup
  refine ⟨s, rfl, u, hu, fun enabled henabled => ?_⟩
  rw [hasked.workers, Scheduler.firstBatch?_idle hbounds.workers henabled]
  exact if_neg (by decide)

end Settings

end NetWatch
