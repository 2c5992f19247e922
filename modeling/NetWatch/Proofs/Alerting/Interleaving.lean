/-
NetWatch.Proofs.Alerting.Interleaving — calls of the alerter among everything else that happens
to the store (`process_result` and the methods of `Store`).

Any number of workers call the alerter. The streaks are behind a lock, which a
call holds from first to last; the calls that wait for it get it in any order.
What a call does is taken one step at a time: a query, a look at the clock, an
event. Between two steps anybody may ask the store anything but to enter an
alert. A query of a call may fail without effect instead of being answered.
When no call is in progress the alerter may be replaced by one that has counted
nothing yet.

A name that an alert may be given is plain and has not been in use before:
neither for an alert that was there at the start nor for an earlier call.

`Run` collects what happens on the way. What is known of the call in progress is
carried along a run if its queries keep it, and is there whenever something is
told (`Carried.told`). A call that nobody disturbs does what
`Monitor.process` says (`Site.afterCall_eq_process`), so these runs contain those
in which results are processed one after the other.
-/
import NetWatch.Execution
import NetWatch.Proofs.Alerting.Protocol
import NetWatch.Proofs.Store.AlertTable
import NetWatch.Proofs.Store.PlainText

namespace NetWatch

/-- The alerter, those who call it, and the store. -/
structure Site where
  rules : AlertRules
  streaks : Streaks
  store : Store
  /-- The calls that wait for the lock. -/
  waiting : List (Check × CheckResult)
  /-- The call that holds the lock, and what it has still to do. -/
  holder : Option (Task × Script (Option Alert))
  /-- The names that have been in use. -/
  spent : List String

/-- What can happen. -/
inductive Act where
  | called (check : Check) (result : CheckResult)
  /-- A call gets the lock and counts its result. -/
  | entered (t : Task)
  /-- A call asks the store and is told the reply. -/
  | asked (t : Task) (q : Query) (reply : q.Reply)
  | looked (t : Task) (now : Timestamp)
  | told (t : Task) (e : Event)
  | left (t : Task)
  /-- Somebody else asks the store. -/
  | other (q : Query)
  | restarted (rules : AlertRules)

namespace Site

/-- A site where no call is in progress yet. -/
def opened (rules : AlertRules) (streaks : Streaks) (store : Store) : Site :=
  ⟨rules, streaks, store, [], none, store.alerts.map fun r => shownText r.id⟩

/-- What a call that gets the lock sets out to do. -/
def task (s : Site) (check : Check) (result : CheckResult) (id : String) : Task :=
  ⟨s.rules, s.streaks.record check.id result.success, check, result, id⟩

end Site

/-- One step at a site. -/
inductive Step : Site → Act → Site → Prop where
  | call (s : Site) (check : Check) (result : CheckResult) :
    Step s (.called check result) { s with waiting := (check, result) :: s.waiting }
  | enter {s : Site} {before after : List (Check × CheckResult)} {check : Check}
    {result : CheckResult} {id : String} (hfree : s.holder = none)
    (hwaits : s.waiting = before ++ (check, result) :: after)
    (hnew : id ∉ s.spent) (hplain : PlainText id) :
    Step s (.entered (s.task check result id))
      { s with
        streaks := (s.task check result id).streaks
        waiting := before ++ after
        holder := some (s.task check result id, (s.task check result id).script)
        spent := id :: s.spent }
  | answer {s : Site} {t : Task} {q : Query} {next : q.Reply → Script (Option Alert)}
    (h : s.holder = some (t, .ask q next)) :
    Step s (.asked t q (s.store.answer q).1)
      { s with store := (s.store.answer q).2, holder := some (t, next (s.store.answer q).1) }
  | fail {s : Site} {t : Task} {q : Query} {next : q.Reply → Script (Option Alert)}
    (h : s.holder = some (t, .ask q next)) (e : StoreError) :
    Step s (.asked t q (.error e)) { s with holder := some (t, next (.error e)) }
  | look {s : Site} {t : Task} {next : Timestamp → Script (Option Alert)}
    (h : s.holder = some (t, .clock next)) (now : Timestamp) :
    Step s (.looked t now) { s with holder := some (t, next now) }
  | tell {s : Site} {t : Task} {e : Event} {next : Script (Option Alert)}
    (h : s.holder = some (t, .publish e next)) :
    Step s (.told t e) { s with holder := some (t, next) }
  | leave {s : Site} {t : Task} {a : Option Alert} (h : s.holder = some (t, .done a)) :
    Step s (.left t) { s with holder := none }
  /-- A call that stops for good lets the lock go. -/
  | stop {s : Site} {t : Task} (h : s.holder = some (t, .abort)) :
    Step s (.left t) { s with holder := none }
  | other (s : Site) {q : Query} (hq : q.entersAlert = false) :
    Step s (.other q) { s with store := (s.store.answer q).2 }
  | restart {s : Site} (hfree : s.holder = none) (hwaits : s.waiting = []) (rules : AlertRules) :
    Step s (.restarted rules) { s with rules := rules, streaks := .empty }

/-- What may have happened since a site was opened, and the site after it. -/
inductive Run (s₀ : Site) : List Act → Site → Prop where
  | start : Run s₀ [] s₀
  | step {acts : List Act} {act : Act} {s s' : Site} (hrun : Run s₀ acts s)
    (hstep : Step s act s') : Run s₀ (acts ++ [act]) s'

namespace Run

theorem trans {s₀ s s' : Site} {acts acts' : List Act} (h : Run s₀ acts s)
    (h' : Run s acts' s') : Run s₀ (acts ++ acts') s' := by
  induction h' with
  | start => simpa using h
  | step _ hstep ih =>
    rw [← List.append_assoc]
    exact .step ih hstep

theorem single {s s' : Site} {act : Act} (h : Step s act s') : Run s [act] s' :=
  .step .start h

end Run

/-! ## What was seen -/

/-- The event that was told, if one was. -/
def Act.event? : Act → Option Event
  | .told _ e => some e
  | _ => none

/-- The events that were told, in order. -/
def toldIn (acts : List Act) : List Event :=
  acts.filterMap Act.event?

@[simp] theorem toldIn_append (acts acts' : List Act) :
    toldIn (acts ++ acts') = toldIn acts ++ toldIn acts' :=
  List.filterMap_append

/-! ## The call that holds the lock -/

/-- Whoever holds the lock keeps to the protocol, at a stage of which something
is known. -/
def Site.Holds (s : Site) (known : Task → Stage → Prop) : Prop :=
  ∀ t rest, s.holder = some (t, rest) → ∃ stage, Follows t stage rest ∧ known t stage

namespace Site.Holds

theorem of_holder_eq_none {s : Site} {known : Task → Stage → Prop} (h : s.holder = none) :
    s.Holds known := by
  intro t rest hrest
  rw [h] at hrest
  cases hrest

theorem of_follows {s : Site} {known : Task → Stage → Prop} {t : Task} {stage : Stage}
    {rest : Script (Option Alert)} (hs : s.holder = some (t, rest))
    (hfollows : Follows t stage rest) (hknown : known t stage) : s.Holds known := by
  intro t' rest' hrest
  rw [hs] at hrest
  cases hrest
  exact ⟨stage, hfollows, hknown⟩

end Site.Holds

/-- What is known of a call by its stage and by what happened, and is carried along: nothing need be
known of a call that begins or has nothing left to do, and its queries keep what is known. -/
structure Carried (known : List Act → Task → Stage → Prop) : Prop where
  mono : ∀ {acts t stage} (act : Act), known acts t stage → known (acts ++ [act]) t stage
  begun : ∀ {acts t}, known acts t .begun
  settled : ∀ {acts t}, known acts t .over
  ask : ∀ {acts t stage q} {next : q.Reply → Script (Option Alert)} (r : q.Reply),
    Follows t stage (.ask q next) → known acts t stage →
      ∃ stage', Follows t stage' (next r) ∧ known (acts ++ [.asked t q r]) t stage'

namespace Carried

variable {known : List Act → Task → Stage → Prop} {acts : List Act} {act : Act} {s₀ s s' : Site}

theorem step (hknown : Carried known) (h : s.Holds (known acts)) (hstep : Step s act s') :
    s'.Holds (known (acts ++ [act])) := by
  have hstay (hs : s'.holder = s.holder) : s'.Holds (known (acts ++ [act])) := by
    intro t rest hrest
    obtain ⟨stage, hfollows, hstage⟩ := h t rest (hs ▸ hrest)
    exact ⟨stage, hfollows, hknown.mono act hstage⟩
  cases hstep with
  | call _ _ | other _ | restart _ _ _ => exact hstay rfl
  | enter _ _ _ _ => exact .of_follows rfl (Task.follows_script _) hknown.begun
  | answer hs | fail hs _ =>
    obtain ⟨stage, hfollows, hstage⟩ := h _ _ hs
    obtain ⟨stage', hfollows', hstage'⟩ := hknown.ask _ hfollows hstage
    exact .of_follows rfl hfollows' hstage'
  | look hs now =>
    obtain ⟨stage, hfollows, hstage⟩ := h _ _ hs
    cases hfollows with
    | clock hnext => exact .of_follows rfl (hnext now) (hknown.mono _ hstage)
  | tell hs =>
    obtain ⟨stage, hfollows, -⟩ := h _ _ hs
    cases hfollows with
    | tellOpening hnext | tellEnding hnext => exact .of_follows rfl hnext hknown.settled
  | leave _ | stop _ => exact .of_holder_eq_none rfl

/-- **What queries keep of a call is known all along.** -/
theorem run (hknown : Carried known) (hfree : s₀.holder = none) (hrun : Run s₀ acts s) :
    s.Holds (known acts) := by
  induction hrun with
  | start => exact .of_holder_eq_none hfree
  | step _ hstep ih => exact hknown.step ih hstep

/-- **Whatever is told** is told by a call of which something is known at that point. -/
theorem told (hknown : Carried known) (hfree : s₀.holder = none) (hrun : Run s₀ acts s) {e : Event}
    (he : e ∈ toldIn acts) : ∃ (t : Task) (stage : Stage) (next : Script (Option Alert)),
      Follows t stage (.publish e next) ∧ known acts t stage := by
  induction hrun with
  | start => cases he
  | @step acts act s s' hrun hstep ih =>
    rw [toldIn_append, List.mem_append] at he
    rcases he with he | he
    · obtain ⟨t, stage, next, hfollows, hstage⟩ := ih he
      exact ⟨t, stage, next, hfollows, hknown.mono act hstage⟩
    · cases hstep with
      | @tell t e' next hs =>
        obtain rfl : e = e' := by simpa [toldIn, Act.event?] using he
        obtain ⟨stage, hfollows, hstage⟩ := hknown.run hfree hrun t _ hs
        exact ⟨t, stage, next, hfollows, hknown.mono _ hstage⟩
      | _ => simp [toldIn, Act.event?] at he

end Carried

/-! ## Calls that nobody disturbs -/

/-- What happens from some point of a call on if nobody disturbs it. -/
def Task.actsAlone (t : Task) (w : World) : Script (Option Alert) → Store → List Act
  | .done _, _ => [.left t]
  | .abort, _ => [.left t]
  | .ask q next, s =>
    .asked t q (s.answer q).1 :: t.actsAlone w (next (s.answer q).1) (s.answer q).2
  | .clock next, s => .looked t w.now :: t.actsAlone w (next w.now) s
  | .publish e next, s => .told t e :: t.actsAlone w next s
  | .send r next, s => t.actsAlone w (next (w.network r)) s

/-- A call that is in progress calls nobody, and reads the time that it is. -/
theorem Task.of_mem_actsAlone (t : Task) (w : World) {act : Act} (rest : Script (Option Alert))
    {st : Store} (h : act ∈ t.actsAlone w rest st) :
    (∀ check result, act ≠ .called check result) ∧
      ∀ t' now, act = .looked t' now → now = w.now := by
  induction rest generalizing st with
  | done a | abort =>
    rw [actsAlone, List.mem_singleton] at h
    subst h
    exact ⟨by rintro _ _ ⟨⟩, by rintro _ _ ⟨⟩⟩
  | ask q next ih =>
    rcases List.mem_cons.1 h with rfl | h
    · exact ⟨by rintro _ _ ⟨⟩, by rintro _ _ ⟨⟩⟩
    · exact ih _ h
  | clock next ih =>
    rcases List.mem_cons.1 h with rfl | h
    · refine ⟨by rintro _ _ ⟨⟩, ?_⟩
      rintro _ _ ⟨⟩
      rfl
    · exact ih _ h
  | publish e next ih =>
    rcases List.mem_cons.1 h with rfl | h
    · exact ⟨by rintro _ _ ⟨⟩, by rintro _ _ ⟨⟩⟩
    · exact ih h
  | send r next ih => exact ih _ h

/-- A call whose store answers soundly can go on to its end by itself, and then
leaves the store and tells the events that running its script does. -/
theorem Run.undisturbed {w : World} (hw : w.backend = .sound) {t : Task}
    (rest : Script (Option Alert)) {stage : Stage} (hfollows : Follows t stage rest) {s : Site}
    (hs : s.holder = some (t, rest)) :
    Run s (t.actsAlone w rest s.store)
        { s with store := (rest.run w s.store).store, holder := none } ∧
      toldIn (t.actsAlone w rest s.store) = (rest.run w s.store).events := by
  induction rest generalizing stage s with
  | done a => exact ⟨.single (.leave hs), rfl⟩
  | abort => exact ⟨.single (.stop hs), rfl⟩
  | ask q next ih =>
    obtain ⟨stage', hnext⟩ := hfollows.exists_of_ask (s.store.answer q).1
    obtain ⟨hrun, htold⟩ := ih (s.store.answer q).1 hnext (s := { s with
      store := (s.store.answer q).2, holder := some (t, next (s.store.answer q).1) }) rfl
    simp only [Script.run, hw, Backend.sound]
    exact ⟨(Run.single (.answer hs)).trans hrun, htold⟩
  | clock next ih =>
    cases hfollows with
    | clock h =>
      obtain ⟨hrun, htold⟩ := ih w.now (h w.now)
        (s := { s with holder := some (t, next w.now) }) rfl
      exact ⟨(Run.single (.look hs w.now)).trans hrun, htold⟩
  | publish e next ih =>
    have hnext : Follows t .over next := by
      cases hfollows <;> assumption
    obtain ⟨hrun, htold⟩ := ih hnext (s := { s with holder := some (t, next) }) rfl
    refine ⟨(Run.single (.tell hs)).trans hrun, ?_⟩
    show e :: toldIn (t.actsAlone w next s.store) = e :: (next.run w s.store).events
    rw [htold]
  | send r next ih => cases hfollows

namespace Site

/-- What happens when a call comes and nobody disturbs it. -/
def actsOfCall (s : Site) (w : World) (check : Check) (result : CheckResult) (id : String) :
    List Act :=
  let t := s.task check result id
  [.called check result, .entered t] ++ t.actsAlone w t.script s.store

theorem of_mem_actsOfCall {s : Site} {w : World} {check : Check} {result : CheckResult}
    {id : String} {act : Act} (h : act ∈ s.actsOfCall w check result id) :
    (∀ check' result', act = .called check' result' → check' = check) ∧
      ∀ t now, act = .looked t now → now = w.now := by
  rcases List.mem_append.1 h with h | h
  · simp only [List.mem_cons, List.not_mem_nil, or_false] at h
    rcases h with rfl | rfl
    · refine ⟨?_, by rintro _ _ ⟨⟩⟩
      rintro _ _ ⟨⟩
      rfl
    · exact ⟨by rintro _ _ ⟨⟩, by rintro _ _ ⟨⟩⟩
  · obtain ⟨hcalls, hlooks⟩ := Task.of_mem_actsAlone _ w _ h
    exact ⟨fun check' result' heq => absurd heq (hcalls check' result'), hlooks⟩

/-- The site after a call that nobody disturbed. -/
def afterCall (s : Site) (w : World) (check : Check) (result : CheckResult) (id : String) : Site :=
  let t := s.task check result id
  { s with
    streaks := t.streaks
    store := (t.script.run w s.store).store
    spent := id :: s.spent }

end Site

/-- A call may come and go with nobody disturbing it. -/
theorem Run.call {w : World} (hw : w.backend = .sound) {s : Site} (check : Check)
    (result : CheckResult) {id : String} (hfree : s.holder = none) (hnew : id ∉ s.spent)
    (hplain : PlainText id) :
    Run s (s.actsOfCall w check result id) (s.afterCall w check result id) := by
  let t := s.task check result id
  obtain ⟨hrun, -⟩ := Run.undisturbed hw t.script t.follows_script (s := { s with
    streaks := t.streaks
    holder := some (t, t.script)
    spent := id :: s.spent }) rfl
  rw [← hfree] at hrun
  let s₁ : Site := { s with waiting := (check, result) :: s.waiting }
  have hcalled : Run s [.called check result] s₁ := Run.single (.call s check result)
  have hwaits : s₁.waiting = [] ++ (check, result) :: s.waiting := rfl
  have hentered := Run.single (.enter (s := s₁) hfree hwaits hnew hplain)
  exact (hcalled.trans hentered).trans hrun

namespace Site

/-- What happens when results of a check come one after the other, each with the name of an alert,
and nobody disturbs the calls. -/
def actsOfCalls (s : Site) (w : World) (check : Check) : List (CheckResult × String) → List Act
  | [] => []
  | (result, id) :: rest =>
    s.actsOfCall w check result id ++ (s.afterCall w check result id).actsOfCalls w check rest

/-- The site after such calls. -/
def afterCalls (s : Site) (w : World) (check : Check) (calls : List (CheckResult × String)) :
    Site :=
  calls.foldl (fun s call => s.afterCall w check call.1 call.2) s

theorem of_mem_actsOfCalls {w : World} {check : Check} {act : Act}
    {calls : List (CheckResult × String)} {s : Site} (h : act ∈ s.actsOfCalls w check calls) :
    (∀ check' result', act = .called check' result' → check' = check) ∧
      ∀ t now, act = .looked t now → now = w.now := by
  induction calls generalizing s with
  | nil => cases h
  | cons call rest ih => exact (List.mem_append.1 h).elim of_mem_actsOfCall ih

end Site

/-- Calls may come and go one after the other with nobody disturbing them. -/
theorem Run.calls {w : World} (hw : w.backend = .sound) (check : Check)
    (calls : List (CheckResult × String)) {s : Site} (hfree : s.holder = none)
    (hnew : ∀ call ∈ calls, call.2 ∉ s.spent) (hnames : (calls.map Prod.snd).Nodup)
    (hplain : ∀ call ∈ calls, PlainText call.2) :
    Run s (s.actsOfCalls w check calls) (s.afterCalls w check calls) := by
  induction calls generalizing s with
  | nil => exact .start
  | cons call rest ih =>
    obtain ⟨hname, hrest⟩ := List.nodup_cons.1 hnames
    have hfirst := Run.call hw check call.1 hfree (hnew call List.mem_cons_self)
      (hplain call List.mem_cons_self)
    refine hfirst.trans (ih hfree (fun other hother => ?_) hrest fun other hother =>
      hplain other (List.mem_cons_of_mem _ hother))
    intro hmem
    rcases List.mem_cons.1 hmem with heq | hmem
    · exact hname (heq ▸ List.mem_map_of_mem hother)
    · exact hnew other (List.mem_cons_of_mem _ hother) hmem

/-- **A call that nobody disturbs does what processing its result does.** -/
theorem Site.afterCall_eq_process {w : World} (hw : w.backend = .sound) (s : Site)
    (check : Check) (result : CheckResult) (names : Names) :
    let step := (Monitor.mk s.rules s.streaks s.store names).process w check result
    (s.afterCall w check result names.next).streaks = step.monitor.streaks ∧
      (s.afterCall w check result names.next).store = step.monitor.store ∧
      toldIn (s.actsOfCall w check result names.next) = step.trace.events := by
  let t := s.task check result names.next
  exact ⟨rfl, rfl, (Run.undisturbed hw t.script t.follows_script
    (s := { s with holder := some (t, t.script) }) rfl).2⟩

end NetWatch
