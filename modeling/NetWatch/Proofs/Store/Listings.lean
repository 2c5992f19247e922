/-
NetWatch.Proofs.Store.Listings — what is listed of the alerts and the results (`list_alerts`,
`list_results`).

A listing shows the newest of the rows that match, as many as its limit allows
(`Store.NewestOf`). This is one lemma about rows that are sorted and then cut
off (`Store.newestOf_limited`), whatever table they are from and whatever they
have to match; the rest is what each query asks for.

The rows of a store that queries made from the empty one can all be listed, and
none is there twice (`Store.Listable.after`).
-/
import NetWatch.Proofs.Store.Integrity

namespace NetWatch

namespace Store

/-! ## The newest of some rows -/

section Newest

variable {α κ : Type} {key : α → κ} {time : α → Int} {limit : UInt64} {rows : List α}

/-- How many of some rows a limit allows. Zero stands for a hundred; a number of 2⁶³ or more sets
no limit. -/
def allowed (limit : UInt64) (n : Nat) : Nat :=
  if limit = 0 then min 100 n
  else if limit.toNat < 9223372036854775808 then min limit.toNat n
  else n

theorem length_limited (limit : UInt64) (rows : List α) :
    (limited limit rows).length = allowed limit rows.length := by
  unfold limited allowed
  dsimp only
  by_cases hzero : limit = 0
  · subst hzero
    exact List.length_take
  · rw [if_neg hzero, if_neg hzero]
    by_cases hlimit : limit.toNat < 9223372036854775808
    · rw [if_pos hlimit, if_pos hlimit, List.length_take]
    · rw [if_neg hlimit, if_neg hlimit]

/-- What a limit allows comes before what it does not. -/
theorem exists_limited_append (limit : UInt64) (rows : List α) :
    ∃ omitted, limited limit rows ++ omitted = rows := by
  unfold limited
  dsimp only
  generalize (if limit = 0 then usualLimit else limit).toNat = n
  split
  · exact ⟨rows.drop n, List.take_append_drop n rows⟩
  · exact ⟨[], List.append_nil rows⟩

theorem limited_of_le (hlimit : 9223372036854775808 ≤ limit.toNat) (rows : List α) :
    limited limit rows = rows := by
  have hzero : limit ≠ 0 := by
    rintro rfl
    exact absurd hlimit (by decide)
  unfold limited
  dsimp only
  rw [if_neg hzero, if_neg (Nat.not_lt.mpr hlimit)]

/-- Some rows are the newest among all that match, listed from the newest on, as many as a limit
allows and none of them twice. -/
structure NewestOf (key : α → κ) (time : α → Int) (limit : UInt64) (matching : α → Prop)
    [DecidablePred matching] (all rows : List α) : Prop where
  asked : ∀ r ∈ rows, r ∈ all ∧ matching r
  distinct : (rows.map key).Nodup
  sorted : rows.Pairwise fun r r' => time r' ≤ time r
  length : rows.length = allowed limit (all.countP (matching ·))
  newest : ∀ r ∈ rows, ∀ r' ∈ all, matching r' → r' ∉ rows → time r' ≤ time r

/-- **What is left of sorted rows** once they are cut off are the newest. -/
theorem newestOf_limited {all : List α} {matching : α → Prop} [DecidablePred matching]
    (h : (all.map key).Nodup) (limit : UInt64) :
    NewestOf key time limit matching all
      (limited limit (newestFirst time (all.filter (matching ·)))) := by
  have hmem : ∀ r, r ∈ newestFirst time (all.filter (matching ·)) ↔ r ∈ all ∧ matching r :=
    fun r => by simp [mem_newestFirst]
  have hperm := newestFirst_perm time (all.filter (matching ·))
  have hsorted := pairwise_newestFirst time (all.filter (matching ·))
  have hlength := length_limited limit (newestFirst time (all.filter (matching ·)))
  have hdistinct := (hperm.map key).nodup_iff.mpr (nodup_map_filter h (matching ·))
  rw [hperm.length_eq, ← List.countP_eq_length_filter] at hlength
  obtain ⟨omitted, hall⟩ :=
    exists_limited_append limit (newestFirst time (all.filter (matching ·)))
  generalize limited limit (newestFirst time (all.filter (matching ·))) = rows at hall hlength ⊢
  rw [← hall] at hmem hsorted hdistinct
  rw [List.map_append] at hdistinct
  obtain ⟨hrows, -, hcut⟩ := List.pairwise_append.mp hsorted
  refine ⟨fun r hr => (hmem r).mp (List.mem_append_left omitted hr),
    hdistinct.of_append_left, hrows, hlength, fun r hr r' hr' hmatch hout => ?_⟩
  obtain hin | homitted := List.mem_append.mp ((hmem r').mpr ⟨hr', hmatch⟩)
  · exact absurd hin hout
  · exact hcut r hr r' homitted

end Newest

/-! ## Stores that can be listed -/

/-- Every alert can be read, and the names of alerts and the numbers of results are distinct. -/
structure Listable (s : Store) : Prop where
  readable : ∀ r ∈ s.alerts, r.Readable
  alerts : (s.alerts.map (·.id)).Nodup
  results : (s.results.map (·.id)).Nodup
  numbered : ∀ r ∈ s.results, r.id ≤ s.lastResult

theorem listable_empty : Store.empty.Listable := by
  constructor <;> first | exact List.nodup_nil | nofun

namespace Listable

variable {s : Store}

/-- A query leaves the numbers of results distinct; a new one is greater than all others. -/
theorem results_answer (h : s.Listable) (q : Query) :
    ((s.answer q).2.results.map (·.id)).Nodup ∧
      ∀ r ∈ (s.answer q).2.results, r.id ≤ (s.answer q).2.lastResult := by
  cases q with
  | insertResult r =>
    obtain ⟨e, hfails⟩ | hkept := answer_insertResult s r
    · rw [hfails]
      exact ⟨h.results, h.numbered⟩
    · rw [hkept]
      exact ⟨nodup_map_concat h.results fun r' hr' => (Nat.lt_succ_of_le (h.numbered r' hr')).ne,
        of_mem_append (fun r' hr' => Nat.le_succ_of_le (h.numbered r' hr')) (Nat.le_refl _)⟩
  | deleteResultsBefore cutoff =>
    exact ⟨nodup_map_filter h.results _, fun r hr => h.numbered r (List.mem_filter.mp hr).1⟩
  | _ =>
    rw [((answer_agrees s _).results (by simp [Query.writes])).1,
      ((answer_agrees s _).results (by simp [Query.writes])).2]
    exact ⟨h.results, h.numbered⟩

theorem answer (h : s.Listable) (q : Query) : (s.answer q).2.Listable := by
  obtain ⟨hresults, hnumbered⟩ := h.results_answer q
  refine ⟨?_, ?_, hresults, hnumbered⟩ <;> rw [alerts_answer]
  · exact q.readable_alertsAfter h.readable
  · exact Query.nodup_alertsAfter h.alerts q

/-- **Whatever is asked of a store that can be listed**, it can be listed afterwards. -/
theorem after (h : s.Listable) (qs : List Query) : (s.after qs).Listable := by
  induction qs generalizing s with
  | nil => exact h
  | cons q qs ih => exact ih (h.answer q)

end Listable

end Store

/-! ## What a filter asks for -/

/-- Whether an alert is one that a filter asks for. -/
structure AlertFilter.Admits (f : AlertFilter) (r : AlertRow) : Prop where
  deviceId : ∀ d ∈ f.deviceId, r.deviceId = d
  severity : ∀ v ∈ f.severity, r.severity = v.name
  active : f.activeOnly = true → r.resolvedAt = none
  suppressed : ∀ b ∈ f.suppressed, r.suppressed = b

/-- **The conditions of a query** are those of its filter that are set, and no others. -/
theorem Store.passes_iff {f : AlertFilter} {r : AlertRow} : passes f r = true ↔ f.Admits r := by
  have hactive : (!f.activeOnly || r.isActive) = true ↔
      (f.activeOnly = true → r.resolvedAt = none) := by
    cases f.activeOnly <;> simp [AlertRow.isActive]
  unfold passes
  simp only [Bool.and_eq_true, hactive, Option.all_eq_true, beq_iff_eq]
  constructor
  · rintro ⟨⟨⟨hdevice, hseverity⟩, hopen⟩, hsuppressed⟩
    exact ⟨fun d hd => (hdevice d hd).symm, fun v hv => (hseverity v hv).symm, hopen,
      fun b hb => (hsuppressed b hb).symm⟩
  · intro h
    exact ⟨⟨⟨fun d hd => (h.deviceId d hd).symm, fun v hv => (h.severity v hv).symm⟩, h.active⟩,
      fun b hb => (h.suppressed b hb).symm⟩

instance (f : AlertFilter) : DecidablePred f.Admits :=
  fun _ => decidable_of_iff _ Store.passes_iff

theorem Store.passes_eq (f : AlertFilter) : passes f = fun r => decide (f.Admits r) := by
  funext r
  rw [Bool.eq_iff_iff, passes_iff, decide_eq_true_iff]

/-! ## What is answered -/

namespace Store

open AlertRow (isOpenFor)

/-- A reply shows rows, one alert for each of them and in their order. -/
def Lists (reply : Except StoreError (List Alert)) (rows : List AlertRow) : Prop :=
  ∃ as, reply = .ok as ∧ List.Forall₂ AlertRow.Shows rows as

/-- The open alerts, the newest first. -/
def newestActive (s : Store) : List AlertRow :=
  newestFirst AlertRow.triggeredAt (s.alerts.filter AlertRow.isActive)

variable {s : Store}

theorem mem_newestActive {r : AlertRow} :
    r ∈ s.newestActive ↔ r ∈ s.alerts ∧ r.resolvedAt = none := by
  simp [newestActive, mem_newestFirst, AlertRow.isActive]

theorem lists_alerts (h : s.Listable) (f : AlertFilter) :
    Lists (s.answer (.alerts f)).1
      (limited f.limit (newestFirst AlertRow.triggeredAt (s.alerts.filter (f.Admits ·)))) := by
  have hread : ∀ r ∈ limited f.limit (newestFirst AlertRow.triggeredAt
      (s.alerts.filter (f.Admits ·))), r.Readable := fun r hr =>
    h.readable r ((newestOf_limited h.alerts f.limit).asked r hr).1
  obtain ⟨as, has, hshown⟩ := exists_readAlerts_eq_ok hread
  refine ⟨as, ?_, hshown⟩
  show (readReply (.alerts f) s (readAlerts (limited f.limit
    (newestFirst AlertRow.triggeredAt (s.alerts.filter (passes f)))))).1 = _
  rw [passes_eq, has]
  rfl

theorem lists_activeAlerts_none (h : ∀ r ∈ s.alerts, r.Readable) :
    Lists (s.answer (.activeAlerts none)).1 s.newestActive := by
  obtain ⟨as, has, hshown⟩ := exists_readAlerts_eq_ok fun r hr => h r (mem_newestActive.mp hr).1
  refine ⟨as, ?_, hshown⟩
  show (readReply (.activeAlerts none) s (readAlerts s.newestActive)).1 = _
  rw [has]
  rfl

theorem lists_activeAlerts_some (h : s.Listable) (d : String) :
    ∃ rows, Lists (s.answer (.activeAlerts (some d))).1 rows ∧
      rows.Perm (s.newestActive.filter (·.deviceId = d)) := by
  have hperm : (newestFirst AlertRow.triggeredAt
      (s.alerts.filter fun r => (d == r.deviceId) && r.isActive)).Perm
      (s.newestActive.filter (·.deviceId = d)) := by
    refine (newestFirst_perm _ _).trans (.trans (.of_eq ?_) ((newestFirst_perm _ _).filter _).symm)
    rw [List.filter_filter]
    refine List.filter_congr fun r _ => congrArg (· && r.isActive) ?_
    rw [Bool.eq_iff_iff, beq_iff_eq, decide_eq_true_iff]
    exact eq_comm
  obtain ⟨as, has, hshown⟩ := exists_readAlerts_eq_ok fun r hr =>
    h.readable r (mem_newestActive.mp (List.mem_filter.mp (hperm.mem_iff.mp hr)).1).1
  refine ⟨_, ⟨as, ?_, hshown⟩, hperm⟩
  show (readReply (.activeAlerts (some d)) s (readAlerts (newestFirst AlertRow.triggeredAt
    (s.alerts.filter fun r => (d == r.deviceId) && r.isActive)))).1 = _
  rw [has]
  rfl

/-- The alert that is looked up for a check is as new as any open alert of it. -/
theorem activeAlert_of_newest (h : s.Listable) (c : String) :
    ((s.answer (.activeAlert c)).1 = .ok none ∧ ∀ r ∈ s.newestActive, r.checkId ≠ c) ∨
      ∃ r ∈ s.newestActive, ∃ a, r.Shows a ∧ (s.answer (.activeAlert c)).1 = .ok (some a) ∧
        r.checkId = c ∧ ∀ r' ∈ s.newestActive, r'.checkId = c → r'.triggeredAt ≤ r.triggeredAt := by
  have hopen : ∀ r ∈ s.newestActive, r.checkId = c → r ∈ s.alerts ∧ r.isOpenFor c = true := by
    intro r hr hc
    obtain ⟨hr, hactive⟩ := mem_newestActive.mp hr
    exact ⟨hr, by simp [isOpenFor, hc, AlertRow.isActive, hactive]⟩
  rw [answer_activeAlert]
  cases hrow : s.openRow? c with
  | none =>
    have hnone := List.filter_eq_nil_iff.mp (openRow?_eq_none.mp hrow)
    exact .inl ⟨rfl, fun r hr hc => hnone r (hopen r hr hc).1 (hopen r hr hc).2⟩
  | some r =>
    obtain ⟨⟨hr, hr'⟩, hnewest⟩ := of_openRow? hrow
    obtain ⟨hc, hactive⟩ : r.checkId = c ∧ r.resolvedAt = none := by
      simpa [isOpenFor, AlertRow.isActive] using hr'
    obtain ⟨a, ha⟩ := (h.readable r hr).exists_toAlert
    refine .inr ⟨r, mem_newestActive.mpr ⟨hr, hactive⟩, a, ha, ?_, hc, fun r' hr' hc' =>
      hnewest r' (hopen r' hr' hc').1 (hopen r' hr' hc').2⟩
    dsimp only
    rw [ha]

/-- **Listings show the newest rows that match, and agree with each other.** All that a filter sets
is heeded and nothing else, for alerts as for the results of a device, up to the limit. The open
alerts are the same whether they are asked for as such or by a filter without a limit; those of a
device are those among them; and the open alert of a check is one among them that is as new as any
other of that check. -/
theorem listings_agree (h : s.Listable) :
    (∀ f : AlertFilter, ∃ rows, Lists (s.answer (.alerts f)).1 rows ∧
      NewestOf AlertRow.id AlertRow.triggeredAt f.limit f.Admits s.alerts rows) ∧
    (∀ d limit, ∃ rows, (s.answer (.results d limit)).1 = .ok (rows.map ResultRow.toResult) ∧
      NewestOf ResultRow.id ResultRow.checkedAt limit (·.deviceId = d) s.results rows) ∧
    ∃ active, Lists (s.answer (.activeAlerts none)).1 active ∧
      (∀ limit : UInt64, 9223372036854775808 ≤ limit.toNat → ∃ rows,
        Lists (s.answer (.alerts ⟨none, none, true, none, limit⟩)).1 rows ∧ rows.Perm active) ∧
      (∀ d, ∃ rows, Lists (s.answer (.activeAlerts (some d))).1 rows ∧
        rows.Perm (active.filter (·.deviceId = d))) ∧
      ∀ c, ((s.answer (.activeAlert c)).1 = .ok none ∧ ∀ r ∈ active, r.checkId ≠ c) ∨
        ∃ r ∈ active, ∃ a, r.Shows a ∧ (s.answer (.activeAlert c)).1 = .ok (some a) ∧
          r.checkId = c ∧ ∀ r' ∈ active, r'.checkId = c → r'.triggeredAt ≤ r.triggeredAt := by
  refine ⟨fun f => ⟨_, lists_alerts h f, newestOf_limited h.alerts f.limit⟩,
    fun d limit => ⟨_, ?_, newestOf_limited h.results limit⟩, s.newestActive,
    lists_activeAlerts_none h.readable, fun limit hlimit => ⟨_, lists_alerts h _, ?_⟩,
    lists_activeAlerts_some h, activeAlert_of_newest h⟩
  · rfl
  · rw [limited_of_le hlimit]
    refine (newestFirst_perm _ _).trans (.trans (.of_eq ?_) (newestFirst_perm _ _).symm)
    refine List.filter_congr fun r _ => ?_
    rw [← congrFun (passes_eq _) r]
    exact Bool.and_true _

/-- Three alerts of two devices, one of them resolved, are listed with a limit and without. -/
theorem listings_agree_of_three_alerts :
    let alert (id deviceId : String) (second : Int) : Alert :=
      ⟨id, "check-1", deviceId, .warning, "timeout", .ofMillis (1000 * second), none, none, 3,
        false, none⟩
    let s := empty.after [.insertAlert (alert "alert-1" "device-1" 1),
      .insertAlert (alert "alert-2" "device-2" 2), .insertAlert (alert "alert-3" "device-1" 3),
      .resolveAlert "alert-2" (.ofMillis 4000)]
    s.Listable ∧
      (∃ rows, Lists (s.answer (.alerts ⟨none, some .warning, false, none, 2⟩)).1 rows ∧
        rows.length = 2) ∧
      ∃ active, Lists (s.answer (.activeAlerts none)).1 active ∧ ∃ rows,
        Lists (s.answer (.alerts ⟨none, none, true, none, 9223372036854775808⟩)).1 rows ∧
          rows.Perm active := by
  intro alert s
  have hs : s.Listable := listable_empty.after _
  obtain ⟨halerts, -, active, hactive, hlimitless, -⟩ := listings_agree hs
  obtain ⟨rows, hrows, hnewest⟩ := halerts ⟨none, some .warning, false, none, 2⟩
  refine ⟨hs, ⟨rows, hrows, hnewest.length.trans ?_⟩, active, hactive, hlimitless _ (by decide)⟩
  decide

end Store

end NetWatch
