/-
NetWatch.Proofs.Alerting.Protocol — the order in which a call of the alerter does things
(`process_result`).

A call starts with the look-up of the open alert of its check. A failure that
is due and finds none goes on to look for a reason to keep the new alert quiet,
enters the alert and tells of it. A success that finds one resolves it and
tells of that. Nothing else is written or told, and a write that fails ends
the call.

The order is a protocol over the stages of a call (`Follows`), and the script
of every call keeps to it (`Task.follows_script`). Whoever runs such scripts,
interleaved with whatever else happens to the store, needs to know no more
about them than that.
-/
import NetWatch.Proofs.Script.Looking

namespace NetWatch

open Script Alerting

/-- A call of the alerter: the check, what came of it, and what the alerter
knows once it has counted that. -/
structure Task where
  rules : AlertRules
  streaks : Streaks
  check : Check
  result : CheckResult
  /-- The name that an alert raised by the call is given. -/
  id : String

namespace Task

/-- What the call does. -/
def script (t : Task) : Script (Option Alert) :=
  react t.rules t.streaks t.check t.result t.id

/-- How often the check has failed in a row, this result included. -/
def streak (t : Task) : UInt32 :=
  t.streaks.count t.check.id

/-- The alert that the call raises, if it raises one. -/
def alert (t : Task) (now : Timestamp) (why : Option Suppression) : Alert :=
  newAlert t.rules t.check t.result t.streak t.id now why

/-- Whether the call is to raise an alert if its check has none open. -/
def isDue (t : Task) : Bool :=
  !t.result.success && t.rules.threshold ≤ t.streak

end Task

/-- The topic under which an alert is told of when it is raised. -/
def Alert.openingTopic (a : Alert) : String :=
  if a.suppressed then Topic.alertSuppressed else Topic.alertTriggered

/-- The event that tells of an alert when it is raised. -/
def Alert.opening (a : Alert) (now : Timestamp) : Event :=
  .create a.openingTopic (.alert a) now

/-- The event that tells of an alert when it is resolved. -/
def Alert.ending (a : Alert) (resolved now : Timestamp) : Event :=
  .create Topic.alertResolved (.alert { a with resolvedAt := some resolved }) now

/-! ## Stages -/

/-- How far a call has come. -/
inductive Stage where
  /-- Nothing has been asked yet. -/
  | begun
  /-- The check had no open alert when it was asked for; one is to be raised. -/
  | vacant
  /-- The alert is entered and nobody was told yet. -/
  | raised (a : Alert)
  /-- The open alert of the check, which is to be resolved. -/
  | found (a : Alert)
  /-- The alert is resolved and nobody was told yet. -/
  | closed (a : Alert) (time : Timestamp)
  /-- Nothing is left to do. -/
  | over

/-- Whether a call may end at a stage. -/
def Stage.isSettled : Stage → Bool
  | .begun | .vacant | .over => true
  | .raised _ | .found _ | .closed _ _ => false

/-- The stage after the look-up of the open alert. -/
def Task.afterLookup (t : Task) : Except StoreError (Option Alert) → Stage
  | .error _ => .over
  | .ok none => if t.isDue then .vacant else .over
  | .ok (some a) => if t.result.success then .found a else .over

namespace Task

variable {t : Task} {r : Except StoreError (Option Alert)}

/-- Only a call that is due and told that no alert is open goes on to enter one. -/
theorem of_afterLookup_eq_vacant (h : t.afterLookup r = .vacant) :
    r = .ok none ∧ t.isDue = true := by
  unfold afterLookup at h
  split at h
  · cases h
  · split at h
    · rename_i hdue
      exact ⟨rfl, hdue⟩
    · cases h
  · split at h <;> cases h

/-- Only a success that is told of an open alert goes on to resolve it. -/
theorem of_afterLookup_eq_found {a : Alert} (h : t.afterLookup r = .found a) :
    r = .ok (some a) ∧ t.result.success = true := by
  unfold afterLookup at h
  split at h
  · cases h
  · split at h <;> cases h
  · split at h
    · rename_i hpassed
      cases h
      exact ⟨rfl, hpassed⟩
    · cases h

end Task

/-- What a call may do from a stage on. -/
inductive Follows (t : Task) : Stage → Script (Option Alert) → Prop where
  | done {stage : Stage} (a : Option Alert) (h : stage.isSettled = true) :
    Follows t stage (.done a)
  | abort {stage : Stage} (h : stage.isSettled = true) : Follows t stage .abort
  | clock {stage : Stage} {next : Timestamp → Script (Option Alert)}
    (h : ∀ now, Follows t stage (next now)) : Follows t stage (.clock next)
  | lookup {next : (Query.activeAlert t.check.id).Reply → Script (Option Alert)}
    (h : ∀ r, Follows t (t.afterLookup r) (next r)) :
    Follows t .begun (.ask (.activeAlert t.check.id) next)
  | look {q : Query} {next : q.Reply → Script (Option Alert)} (hq : q.isLookup = true)
    (h : ∀ r, Follows t .vacant (next r)) : Follows t .vacant (.ask q next)
  | enter {now : Timestamp} {why : Option Suppression}
    {next : (Query.insertAlert (t.alert now why)).Reply → Script (Option Alert)}
    (hfail : ∀ e, Follows t .over (next (.error e)))
    (hok : Follows t (.raised (t.alert now why)) (next (.ok ()))) :
    Follows t .vacant (.ask (.insertAlert (t.alert now why)) next)
  | resolve {a : Alert} {time : Timestamp}
    {next : (Query.resolveAlert a.id time).Reply → Script (Option Alert)}
    (hfail : ∀ e, Follows t .over (next (.error e)))
    (hok : Follows t (.closed a time) (next (.ok ()))) :
    Follows t (.found a) (.ask (.resolveAlert a.id time) next)
  | tellOpening {a : Alert} {now : Timestamp} {next : Script (Option Alert)}
    (h : Follows t .over next) : Follows t (.raised a) (.publish (a.opening now) next)
  | tellEnding {a : Alert} {time now : Timestamp} {next : Script (Option Alert)}
    (h : Follows t .over next) : Follows t (.closed a time) (.publish (a.ending time now) next)

namespace Follows

/-- Whatever a call is told in reply, it goes on within the protocol. -/
theorem exists_of_ask {t : Task} {stage : Stage} {q : Query}
    {next : q.Reply → Script (Option Alert)} (h : Follows t stage (.ask q next)) (r : q.Reply) :
    ∃ stage', Follows t stage' (next r) := by
  cases h with
  | lookup h => exact ⟨_, h r⟩
  | look hq h => exact ⟨_, h r⟩
  | enter hfail hok =>
    cases r with
    | error e => exact ⟨_, hfail e⟩
    | ok _ => exact ⟨_, hok⟩
  | resolve hfail hok =>
    cases r with
    | error e => exact ⟨_, hfail e⟩
    | ok _ => exact ⟨_, hok⟩

end Follows

namespace Task

/-- Looking things up before an alert is entered is within the protocol. -/
theorem follows_bind {t : Task} {α : Type} {s : Script α} {f : α → Script (Option Alert)}
    (hs : OnlyLooks s) (hf : ∀ a, Follows t .vacant (f a)) : Follows t .vacant (s >>= f) := by
  induction s with
  | done a => exact hf a
  | abort => exact .abort rfl
  | ask q next ih => exact .look hs.1 fun r => ih r (hs.2 r)
  | clock next ih => exact .clock fun now => ih now (hs now)
  | publish e next ih => exact hs.elim
  | send r next ih => exact hs.elim

/-- Entering an alert and telling of it is within the protocol. -/
theorem follows_raise (t : Task) :
    Follows t .vacant (raise t.rules t.check t.result t.streak t.id) := by
  unfold raise
  rw [now_bind]
  refine .clock fun now => follows_bind (onlyLooks_suppression t.rules t.check) fun why => ?_
  rw [query_bind]
  refine @Follows.enter t now why _ (fun e => .done none rfl) ?_
  exact .clock fun later => .tellOpening (.done (some (t.alert now why)) rfl)

theorem follows_onFailure {t : Task} (hfailed : t.result.success = false) :
    Follows t .begun (onFailure t.rules t.check t.result t.streak t.id) := by
  unfold onFailure
  split
  · exact .done none rfl
  · rename_i hdue
    have hdue : t.isDue = true := by simpa [isDue, hfailed] using hdue
    refine .lookup fun r => ?_
    rcases r with e | _ | a
    · exact .done none rfl
    · simp only [afterLookup, hdue, if_true]
      exact t.follows_raise
    · simp only [afterLookup, hfailed]
      exact .done none rfl

theorem follows_onSuccess {t : Task} (hpassed : t.result.success = true) :
    Follows t .begun (onSuccess t.check >>= fun _ => pure none) := by
  have hdue : t.isDue = false := by simp [isDue, hpassed]
  refine .lookup fun r => ?_
  rcases r with e | _ | a
  · exact .done none rfl
  · simp only [afterLookup, hdue]
    exact .done none rfl
  · simp only [afterLookup, hpassed, if_true]
    refine .clock fun now => .resolve (fun e => .done none rfl) ?_
    exact .clock fun later => .tellEnding (.done none rfl)

/-- **Every call keeps to the protocol.** -/
theorem follows_script (t : Task) : Follows t .begun t.script := by
  unfold script react
  split
  · rename_i hpassed
    exact follows_onSuccess hpassed
  · rename_i hfailed
    exact follows_onFailure (by simpa using hfailed)

end Task

end NetWatch
