/-
NetWatch.Proofs.Store.Integrity — what holds of the tables whatever is asked of the store.

Every table that has names for keys has each name once, dependencies belong to
checks that are there, and the target of every check suits its protocol
(`Store.Intact`). One query keeps all of this (`Store.Intact.answer`), also one
that fails: it leaves the store exactly as it was (`Store.answer_of_error`).
So it holds after any number of queries (`Store.integrity`), among which the
numbers of results never go back.
-/
import NetWatch.Execution
import NetWatch.Proofs.Store.Reachable

namespace NetWatch

/-! ## The tables and how they belong together -/

/-- The keys of the tables are distinct, no dependency is left without its check, and every
check that is kept could be entered. -/
structure Store.Intact (s : Store) : Prop where
  checks : (s.checks.map (·.id)).Nodup
  alerts : (s.alerts.map (·.id)).Nodup
  devices : (s.devices.map (·.id)).Nodup
  windows : (s.windows.map (·.id)).Nodup
  channels : (s.channels.map (·.id)).Nodup
  dependencies : (s.dependencies.map fun r => (r.checkId, r.deviceId)).Nodup
  parents : ∀ r ∈ s.dependencies, r.checkId ∈ s.checks.map (·.id)
  targets : ∀ r ∈ s.checks, Target.validate r.checkType r.target = .ok ()

/-- What would be refused is not written, so what is written is valid. -/
theorem Query.validate_of_insertCheck {c : Check} (h : (insertCheck c).refusal? = none) :
    Target.validate c.checkType c.target = .ok () := by
  cases hvalid : Target.validate c.checkType c.target with
  | ok _ => rfl
  | error e => simp [refusal?, refusal?.refusalOf, hvalid] at h

theorem Query.validate_of_updateCheck {c : Check} (h : (updateCheck c).refusal? = none) :
    Target.validate c.checkType c.target = .ok () :=
  validate_of_insertCheck h

/-- What a query that is not refused enters or writes over has a target that suits. -/
theorem Query.validate_of_checkRowEdit? {q : Query} {d : Edit CheckRow} (hq : q.refusal? = none)
    (hd : q.checkRowEdit? = some d) :
    d.Keeps fun r => Target.validate r.checkType r.target = .ok () := by
  cases q with
  | insertCheck c =>
    cases hd
    exact validate_of_insertCheck hq
  | updateCheck c =>
    cases hd
    exact fun _ _ => validate_of_updateCheck hq
  | enableCheck id enabled time =>
    cases hd
    exact fun _ hr => hr
  | deleteCheck id =>
    cases hd
    exact trivial
  | _ => cases hd

namespace Store

variable {s : Store} {q : Query}

namespace Intact

theorem dependencies_execute (h : s.Intact) (q : Query) :
    ((s.execute q).2.dependencies.map fun r => (r.checkId, r.deviceId)).Nodup := by
  cases q with
  | deleteCheck id =>
    show ((s.deleteCheck id).dependencies.map _).Nodup
    unfold deleteCheck
    split
    · exact nodup_map_filter h.dependencies _
    · exact h.dependencies
  | addDependency c d t =>
    show ((written (.addDependency c d t) s () (s.addDependency c d t)).2.dependencies.map _).Nodup
    unfold addDependency
    split
    · exact h.dependencies
    · rename_i hfree
      split
      · exact nodup_map_concat h.dependencies (by simpa [isDependency] using hfree)
      · exact h.dependencies
  | removeDependency c d => exact nodup_map_filter h.dependencies _
  | _ =>
    rw [(execute_agrees s _).dependencies (by simp [Query.writes])]
    exact h.dependencies

/-- **No dependency is left behind**: those of a check go with it, and none is entered without. -/
theorem parents_execute (h : s.Intact) (q : Query) :
    ∀ r ∈ (s.execute q).2.dependencies, r.checkId ∈ (s.execute q).2.checks.map (·.id) := by
  cases q with
  | deleteCheck id =>
    show ∀ r ∈ (s.deleteCheck id).dependencies, r.checkId ∈ (s.deleteCheck id).checks.map (·.id)
    unfold deleteCheck
    split
    · intro r hr
      obtain ⟨hr, hne⟩ := List.mem_filter.mp hr
      have hstays : id ≠ r.checkId := fun heq => by simp [heq] at hne
      exact Edit.mem_map_onList (d := .remove id) trivial (h.parents r hr) fun k' hremove => by
        cases hremove
        exact hstays
    · exact h.parents
  | addDependency c d t =>
    show ∀ r ∈ (written (.addDependency c d t) s () (s.addDependency c d t)).2.dependencies,
      r.checkId ∈ (written (.addDependency c d t) s () (s.addDependency c d t)).2.checks.map (·.id)
    unfold addDependency
    split
    · exact h.parents
    · split
      · rename_i hparent
        refine of_mem_append h.parents ?_
        simpa using hparent
      · exact h.parents
  | removeDependency c d => exact fun r hr => h.parents r (List.mem_filter.mp hr).1
  | _ =>
    rw [(execute_agrees s _).dependencies (by simp [Query.writes]), checks_execute]
    exact fun r hr => mem_map_edited (fun _ => Query.keepsNames_of_checkRowEdit?)
      (h.parents r hr) (by simp [Query.checkRowEdit?])

/-- Every check that is kept was accepted, or written over by one that was. -/
theorem targets_execute (h : s.Intact) (hq : q.refusal? = none) :
    ∀ r ∈ (s.execute q).2.checks, Target.validate r.checkType r.target = .ok () := by
  rw [checks_execute]
  exact of_mem_edited (fun _ => Query.validate_of_checkRowEdit? hq) h.targets

/-- **A query leaves the tables intact**, whether it succeeds or not. -/
theorem answer (h : s.Intact) (q : Query) : (s.answer q).2.Intact := by
  cases hq : q.refusal? with
  | some e =>
    unfold Store.answer
    rw [hq]
    exact h
  | none =>
    have halerts := Query.nodup_alertsAfter h.alerts q
    rw [← alerts_execute] at halerts
    rw [answer_eq_execute s hq]
    refine ⟨?_, halerts, nodup_devices_execute h.devices q, ?_, ?_, h.dependencies_execute q,
      h.parents_execute q, h.targets_execute hq⟩
    · rw [checks_execute]
      exact nodup_edited (fun _ => Query.keepsNames_of_checkRowEdit?) h.checks
    · rw [windows_execute]
      exact nodup_edited (fun _ => Query.keepsNames_of_windowRowEdit?) h.windows
    · rw [channels_execute]
      exact nodup_edited (fun _ => Query.keepsNames_of_channelRowEdit?) h.channels

end Intact

theorem intact_empty : Store.empty.Intact := by
  constructor <;> first | exact List.nodup_nil | nofun

/-! ## Queries that fail -/

theorem written_snd_of_error {answer : q.Answer} {r : Except StoreFault Store} {e : StoreError}
    (h : (written q s answer r).1 = .error e) : (written q s answer r).2 = s := by
  cases r with
  | ok s' => cases h
  | error fault => rfl

/-- **A query that fails leaves every table as it was.** -/
theorem answer_of_error {e : StoreError} (h : (s.answer q).1 = .error e) :
    (s.answer q).2 = s := by
  by_cases hlookup : q.isLookup = true
  · exact answer_snd_of_isLookup s hlookup
  cases hq : q.refusal? with
  | some e =>
    unfold answer
    rw [hq]
  | none =>
    rw [answer_eq_execute s hq] at h ⊢
    cases q with
    | insertCheck _ | insertResult _ | insertAlert _ | addDependency _ _ _ | insertWindow _
    | insertChannel _ => exact written_snd_of_error h
    | updateCheck _ | enableCheck _ _ _ | deleteCheck _ | deleteResultsBefore _ | resolveAlert _ _
    | acknowledgeAlert _ _ | deleteAlertsBefore _ | upsertDevice _ | touchDevice _ _
    | removeDependency _ _ | updateWindow _ | deleteWindow _ | updateChannel _
    | deleteChannel _ => cases h
    | _ => exact absurd rfl hlookup

end Store

/-! ## Checks that are kept -/

/-- The texts of a row are shown as they are kept. -/
structure CheckRow.IsPlain (r : CheckRow) : Prop where
  id : PlainText r.id
  deviceId : PlainText r.deviceId
  checkType : PlainText r.checkType
  target : PlainText r.target

theorem Check.isPlain_toRow {c : Check} (h : ∀ s ∈ [c.id, c.deviceId, c.checkType, c.target],
    PlainText s) : c.toRow.IsPlain := by
  constructor <;> exact h _ (by simp [Check.toRow])

/-- A query with plain texts leaves rows of checks plain. -/
theorem Query.isPlain_of_checkRowEdit? {q : Query} {d : Edit CheckRow} (hq : q.IsPlain)
    (hd : q.checkRowEdit? = some d) : d.Keeps CheckRow.IsPlain := by
  cases q with
  | insertCheck c =>
    cases hd
    exact Check.isPlain_toRow hq
  | updateCheck c =>
    cases hd
    have hc := Check.isPlain_toRow hq
    exact fun _ _ => ⟨hc.id, hc.deviceId, hc.checkType, hc.target⟩
  | enableCheck id enabled time =>
    cases hd
    exact fun _ hr => ⟨hr.id, hr.deviceId, hr.checkType, hr.target⟩
  | deleteCheck id =>
    cases hd
    exact trivial
  | _ => cases hd

/-- In a reachable store every check is shown as it is kept. -/
theorem Store.Reachable.isPlain_checks {s : Store} (h : s.Reachable) :
    ∀ r ∈ s.checks, r.IsPlain := by
  induction h with
  | empty => nofun
  | @answer s _ q hq ih =>
    unfold Store.answer
    split
    · exact ih
    · rw [checks_execute]
      exact of_mem_edited (fun _ => Query.isPlain_of_checkRowEdit? hq) ih

/-- All protocols that checks are probed with. -/
def ProbeKind.all : List ProbeKind :=
  [.icmp, .tcp, .http]

/-- A check whose target was accepted is served if all protocols are. -/
theorem Execution.exists_outcomeOf {check : Check}
    (h : Target.validate check.checkType check.target = .ok ()) :
    ∃ kind, ∀ report, outcomeOf ProbeKind.all report check = report kind := by
  unfold Target.validate at h
  split at h
  · cases h
  · split at h
    · cases h
    · rename_i kind hkind
      have hserved : ProbeKind.all.contains kind = true := by cases kind <;> decide
      have hprobe : probeOf? ProbeKind.all check = some kind := by
        unfold probeOf?
        rw [hkind]
        exact if_pos hserved
      refine ⟨kind, fun report => ?_⟩
      unfold outcomeOf
      rw [hprobe]

/-! ## Many queries -/

/-- The number in the reply to a query that keeps a result. -/
def Query.number? : (q : Query) → q.Reply → Option Nat
  | .insertResult _, .ok n => some n
  | _, _ => none

namespace Store

variable {s : Store} {q : Query}

/-- The store after queries, one after the other. -/
def after (s : Store) (qs : List Query) : Store :=
  qs.foldl (fun s q => (s.answer q).2) s

theorem after_append (s : Store) (qs qs' : List Query) :
    s.after (qs ++ qs') = (s.after qs).after qs' :=
  List.foldl_append

/-- The numbers that are answered for the results that queries keep, one after the other. -/
def numbers (s : Store) : List Query → List Nat
  | [] => []
  | q :: qs => (q.number? (s.answer q).1).toList ++ numbers (s.answer q).2 qs

theorem Reachable.after (h : s.Reachable) {qs : List Query} (hqs : ∀ q ∈ qs, q.IsPlain) :
    (s.after qs).Reachable := by
  induction qs generalizing s with
  | nil => exact h
  | cons q qs ih =>
    exact ih (h.answer (hqs q List.mem_cons_self)) fun q' hq' => hqs q' (List.mem_cons_of_mem q hq')

theorem Intact.after (h : s.Intact) (qs : List Query) : (s.after qs).Intact := by
  induction qs generalizing s with
  | nil => exact h
  | cons q qs ih => exact ih (h.answer q)

/-- A result is kept under the number after the newest, or not at all. -/
theorem answer_insertResult (s : Store) (r : CheckResult) :
    (∃ e, s.answer (.insertResult r) = (.error e, s)) ∨
      s.answer (.insertResult r) = (.ok (s.lastResult + 1),
        { s with
          results := s.results ++ [r.toRow (s.lastResult + 1)]
          lastResult := s.lastResult + 1 }) := by
  show (∃ e, written (.insertResult r) s (s.lastResult + 1) (s.insertResult r) = _) ∨
    written (.insertResult r) s (s.lastResult + 1) (s.insertResult r) = _
  unfold insertResult
  split
  · exact .inl ⟨_, rfl⟩
  · split
    · exact .inl ⟨_, rfl⟩
    · exact .inr rfl

/-- The number of a result is the one after the newest, which it is from then on. -/
theorem lastResult_of_number? {n : Nat} (h : q.number? (s.answer q).1 = some n) :
    n = s.lastResult + 1 ∧ (s.answer q).2.lastResult = n := by
  cases q with
  | insertResult r =>
    obtain ⟨e, hfails⟩ | hkept := answer_insertResult s r
    · rw [hfails] at h
      cases h
    · rw [hkept] at h ⊢
      cases h
      exact ⟨rfl, rfl⟩
  | _ => cases h

/-- The newest number never goes back, whatever is deleted. -/
theorem lastResult_le (s : Store) (q : Query) : s.lastResult ≤ (s.answer q).2.lastResult := by
  cases q with
  | insertResult r =>
    obtain ⟨e, hfails⟩ | hkept := answer_insertResult s r
    · rw [hfails]
    · rw [hkept]
      exact Nat.le_succ _
  | deleteResultsBefore cutoff => exact Nat.le_refl _
  | _ => exact ((answer_agrees s _).results (by simp [Query.writes])).2.ge

/-- **The numbers of results increase**, from the newest on. -/
theorem pairwise_numbers (s : Store) (qs : List Query) :
    (∀ n ∈ s.numbers qs, s.lastResult < n) ∧ (s.numbers qs).Pairwise (· < ·) := by
  induction qs generalizing s with
  | nil => exact ⟨nofun, .nil⟩
  | cons q qs ih =>
    obtain ⟨hlater, hsorted⟩ := ih (s.answer q).2
    unfold numbers
    cases hq : q.number? (s.answer q).1 with
    | none =>
      exact ⟨fun n hn => Nat.lt_of_le_of_lt (lastResult_le s q) (hlater n hn), hsorted⟩
    | some n =>
      obtain ⟨rfl, hlast⟩ := lastResult_of_number? hq
      rw [hlast] at hlater
      refine ⟨fun n hn => ?_, List.pairwise_cons.mpr ⟨hlater, hsorted⟩⟩
      obtain rfl | hn := List.mem_cons.mp hn
      · exact Nat.lt_succ_self _
      · exact Nat.lt_of_succ_lt (hlater n hn)

/-- **Whatever is asked of a new store** in plain texts: its tables are intact, every check in it is
served by a probe if all protocols are, the numbers of results have only gone up, and whatever is
asked next and fails changes nothing. -/
theorem integrity {qs : List Query} (hqs : ∀ q ∈ qs, q.IsPlain) :
    (empty.after qs).Intact ∧
      (∀ r ∈ (empty.after qs).checks,
        Target.validate r.toCheck.checkType r.toCheck.target = .ok () ∧
          ∃ kind, ∀ report, Execution.outcomeOf ProbeKind.all report r.toCheck = report kind) ∧
      (empty.numbers qs).Pairwise (· < ·) ∧
      ∀ q e, ((empty.after qs).answer q).1 = .error e →
        ((empty.after qs).answer q).2 = empty.after qs := by
  have hintact : (empty.after qs).Intact := intact_empty.after qs
  refine ⟨hintact, fun r hr => ?_, (pairwise_numbers empty qs).2, fun q e h => answer_of_error h⟩
  have hplain : r.IsPlain := (Reachable.empty.after hqs).isPlain_checks r hr
  have hvalid : Target.validate r.toCheck.checkType r.toCheck.target = .ok () := by
    unfold CheckRow.toCheck
    rw [shownText_eq_self hplain.checkType, shownText_eq_self hplain.target]
    exact hintact.targets r hr
  exact ⟨hvalid, Execution.exists_outcomeOf hvalid⟩

/-- A check is entered twice, a dependency with and without a check, and results around a purge. -/
theorem integrity_of_one_check :
    let check : Check := .create "c1" "d1" "icmp" "10.0.0.1" .epoch
    let result : CheckResult := .failed check "timeout" .epoch
    let qs : List Query := [.insertCheck check, .insertCheck check, .addDependency "c1" "d2" .epoch,
      .addDependency "c2" "d2" .epoch, .insertResult result, .deleteResultsBefore (.ofMillis 1000),
      .insertResult result, .deleteCheck "c1"]
    (∀ q ∈ qs, q.IsPlain) ∧ (empty.after qs).Intact ∧ (empty.numbers qs).Pairwise (· < ·) := by
  intro check result qs
  have hqs : ∀ q ∈ qs, q.IsPlain := by decide
  exact ⟨hqs, (integrity hqs).1, (integrity hqs).2.2.1⟩

end Store

end NetWatch
