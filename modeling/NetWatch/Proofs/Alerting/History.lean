/-
NetWatch.Proofs.Alerting.History — how the history of an alert goes on.

The history of an alert that the alerter enters has chapters: raised and not
told yet, going on, found open by a success, resolved and not told yet, ended
(`Chapter`). Others may resolve or purge its row at any time; they can never
open it again, so an alert whose end was told is not found a second time.

The books of a run hold the chapter of every alert that was entered, the stage
of the call in progress, and the names that are still free (`Books`). Most acts
change none of that (`Books.stay`, `Books.carry`); what the others change is
said by one lemma each.

A query of a call may fail. An alert whose resolution fails goes on, and may be
found open once more; that is the one case where a success finds an alert open
and nothing is told.
-/
import NetWatch.Proofs.Alerting.OneOpenAlert

namespace NetWatch

/-! ## What a run says about an alert -/

/-- Whether an event is about the alert of a name. -/
def Event.isAbout (id : String) (e : Event) : Bool :=
  match e.payload with
  | .alert a => a.id == id
  | .metrics _ => false
  | .deviceDiscovered _ => false

/-- The events about the alert of a name, in order. -/
def toldAbout (id : String) (acts : List Act) : List Event :=
  (toldIn acts).filter (Event.isAbout id)

/-- The alert that was entered, if one was. -/
def Act.entered? : Act → Option Alert
  | .asked _ (.insertAlert a) (.ok _) => some a
  | _ => none

/-- The alert that a success looked up as the open one of its check, if one was. -/
def Act.found? : Act → Option Alert
  | .asked t (.activeAlert _) (.ok (some a)) => if t.result.success then some a else none
  | _ => none

/-- The name of the alert that was to be resolved, if the query failed. -/
def Act.unresolved? : Act → Option String
  | .asked _ (.resolveAlert id _) (.error _) => some id
  | _ => none

/-- The alerter entered an alert. -/
def Entered (acts : List Act) (a : Alert) : Prop :=
  a ∈ acts.filterMap Act.entered?

/-- A success found the alert of a name open. -/
def FoundOpen (acts : List Act) (id : String) : Prop :=
  ∃ a ∈ acts.filterMap Act.found?, a.id = id

/-- The alert of a name was to be resolved, and the query failed. -/
def ResolveFailed (acts : List Act) (id : String) : Prop :=
  id ∈ acts.filterMap Act.unresolved?

/-- It was told that the alert of a name is resolved. -/
def ToldResolved (acts : List Act) (id : String) : Prop :=
  ∃ e ∈ toldAbout id acts, e.topic = Topic.alertResolved

/-! ## One more act -/

theorem toldAbout_snoc (id : String) (acts : List Act) (act : Act) :
    toldAbout id (acts ++ [act]) =
      toldAbout id acts ++ (act.event?.toList.filter (Event.isAbout id)) := by
  unfold toldAbout
  rw [toldIn_append, List.filter_append]
  congr 2

theorem mem_filterMap_snoc {α β : Type} {f : α → Option β} {xs : List α} {x : α} {b : β} :
    b ∈ (xs ++ [x]).filterMap f ↔ b ∈ xs.filterMap f ∨ f x = some b := by
  rw [List.filterMap_append, List.mem_append]
  refine or_congr_right ?_
  simp

theorem entered_snoc {acts : List Act} {act : Act} {a : Alert} :
    Entered (acts ++ [act]) a ↔ Entered acts a ∨ act.entered? = some a :=
  mem_filterMap_snoc

theorem foundOpen_snoc {acts : List Act} {act : Act} {id : String} :
    FoundOpen (acts ++ [act]) id ↔
      FoundOpen acts id ∨ ∃ a, act.found? = some a ∧ a.id = id := by
  unfold FoundOpen
  simp only [mem_filterMap_snoc, or_and_right, exists_or]

theorem resolveFailed_snoc {acts : List Act} {act : Act} {id : String} :
    ResolveFailed (acts ++ [act]) id ↔ ResolveFailed acts id ∨ act.unresolved? = some id :=
  mem_filterMap_snoc

theorem FoundOpen.mono {acts : List Act} {id : String} (h : FoundOpen acts id) (act : Act) :
    FoundOpen (acts ++ [act]) id :=
  foundOpen_snoc.2 (.inl h)

theorem ResolveFailed.mono {acts : List Act} {id : String} (h : ResolveFailed acts id)
    (act : Act) : ResolveFailed (acts ++ [act]) id :=
  resolveFailed_snoc.2 (.inl h)

/-- A query that is not to enter an alert enters none. -/
theorem Act.entered?_asked {q : Query} (hq : q.entersAlert = false) (t : Task) (r : q.Reply) :
    (Act.asked t q r).entered? = none := by
  cases q <;> first | rfl | cases hq

theorem entered_snoc_of_none {acts : List Act} {act : Act} (h : act.entered? = none) {a : Alert} :
    Entered (acts ++ [act]) a ↔ Entered acts a := by
  rw [entered_snoc, h]
  simp

theorem foundOpen_snoc_of_none {acts : List Act} {act : Act} (h : act.found? = none)
    {id : String} : FoundOpen (acts ++ [act]) id ↔ FoundOpen acts id := by
  rw [foundOpen_snoc, h]
  simp

theorem toldAbout_snoc_of_none {acts : List Act} {act : Act} (h : act.event? = none)
    (id : String) : toldAbout id (acts ++ [act]) = toldAbout id acts := by
  simp [toldAbout_snoc, h]

/-- An act that tells nothing, enters nothing and is no look-up by which a
success finds an alert. -/
structure Act.Quiet (act : Act) : Prop where
  tells : act.event? = none
  enters : act.entered? = none
  finds : act.found? = none

namespace Act.Quiet

variable {acts : List Act} {act : Act}

theorem toldAbout_eq (h : act.Quiet) (id : String) :
    toldAbout id (acts ++ [act]) = toldAbout id acts :=
  toldAbout_snoc_of_none h.tells id

theorem entered_iff (h : act.Quiet) {a : Alert} : Entered (acts ++ [act]) a ↔ Entered acts a :=
  entered_snoc_of_none h.enters

theorem foundOpen_iff (h : act.Quiet) {id : String} :
    FoundOpen (acts ++ [act]) id ↔ FoundOpen acts id :=
  foundOpen_snoc_of_none h.finds

end Act.Quiet

/-- An act that enters nothing, and that tells of no alert and finds none but that
of a name. -/
structure Act.BearsOn (act : Act) (name : String) : Prop where
  tells : ∀ e, act.event? = some e → ∀ id, e.isAbout id = true → id = name
  enters : act.entered? = none
  finds : ∀ a, act.found? = some a → a.id = name

namespace Act.BearsOn

variable {acts : List Act} {act : Act} {name id : String}

theorem of_quiet (h : act.Quiet) (name : String) : act.BearsOn name where
  tells e he := by rw [h.tells] at he; cases he
  enters := h.enters
  finds a ha := by rw [h.finds] at ha; cases ha

theorem toldAbout_eq (h : act.BearsOn name) (hne : id ≠ name) :
    toldAbout id (acts ++ [act]) = toldAbout id acts := by
  have hnone : act.event?.toList.filter (Event.isAbout id) = [] := by
    rw [List.filter_eq_nil_iff]
    intro e he habout
    exact hne (h.tells e (Option.mem_toList.1 he) id habout)
  rw [toldAbout_snoc, hnone, List.append_nil]

theorem entered_iff (h : act.BearsOn name) {a : Alert} :
    Entered (acts ++ [act]) a ↔ Entered acts a :=
  entered_snoc_of_none h.enters

theorem foundOpen_iff (h : act.BearsOn name) (hne : id ≠ name) :
    FoundOpen (acts ++ [act]) id ↔ FoundOpen acts id := by
  rw [foundOpen_snoc]
  constructor
  · rintro (hfound | ⟨a, ha, rfl⟩)
    · exact hfound
    · exact absurd (h.finds a ha) hne
  · exact .inl

end Act.BearsOn

/-! ## Chapters -/

/-- The alert that a call is busy with, once there is one. -/
def Stage.subject? : Stage → Option Alert
  | .begun | .vacant | .over => none
  | .raised a | .found a | .closed a _ => some a

/-- Whether a call is busy with the alert of a name. -/
def Stage.Concerns (stage : Stage) (id : String) : Prop :=
  ∃ a, stage.subject? = some a ∧ a.id = id

theorem Stage.not_concerns_over (id : String) : ¬Stage.over.Concerns id := by
  rintro ⟨a, ⟨⟩, -⟩

/-- No row of a name is open. -/
def Site.NoneActive (s : Site) (id : String) : Prop :=
  ∀ r ∈ s.store.alerts, r.id = id → r.isActive = false

/-- How far the history of an alert has come that the alerter entered. -/
inductive Chapter (stage : Stage) (s : Site) (acts : List Act) (a : Alert) : Prop where
  /-- It is raised and not told of yet. -/
  | untold (hstage : stage = .raised a) (htold : toldAbout a.id acts = [])
    (hfound : ¬FoundOpen acts a.id)
  /-- It goes on; if a success ever found it, it could not be resolved. -/
  | going {now : Timestamp} (hstage : ¬stage.Concerns a.id)
    (htold : toldAbout a.id acts = [a.opening now])
    (hfound : FoundOpen acts a.id → ResolveFailed acts a.id)
  /-- A success found it and is to resolve it. -/
  | found {now : Timestamp} {b : Alert} (hstage : stage = .found b) (hb : b.id = a.id)
    (htold : toldAbout a.id acts = [a.opening now]) (hfound : FoundOpen acts a.id)
  /-- A success resolved it, which is not told yet. -/
  | closed {now time : Timestamp} {b : Alert} (hstage : stage = .closed b time) (hb : b.id = a.id)
    (htold : toldAbout a.id acts = [a.opening now]) (hfound : FoundOpen acts a.id)
    (hclosed : s.NoneActive a.id)
  /-- It is resolved, and all is told. -/
  | ended {now time later : Timestamp} {b : Alert} (hstage : ¬stage.Concerns a.id)
    (hb : b.id = a.id) (htold : toldAbout a.id acts = [a.opening now, b.ending time later])
    (hfound : FoundOpen acts a.id) (hclosed : s.NoneActive a.id)

/-- A name that no alert has been given. -/
structure Unused (s : Site) (acts : List Act) (id : String) : Prop where
  rows : ∀ r ∈ s.store.alerts, shownText r.id ≠ id
  entered : ∀ a, Entered acts a → a.id ≠ id
  told : toldAbout id acts = []
  found : ¬FoundOpen acts id

/-- The call in progress keeps to the protocol from a stage on. -/
structure Holding (stage : Stage) (s : Site) : Prop where
  idle : s.holder = none → stage = .over
  follows : ∀ t rest, s.holder = some (t, rest) → Follows t stage rest
  plain : ∀ t rest, s.holder = some (t, rest) → PlainText t.id
  /-- Only a failure goes on to enter an alert. -/
  failed : ∀ t rest, s.holder = some (t, rest) → stage = .vacant → t.result.success = false

/-- What holds of a run all the time, with the stage of the call in progress. -/
structure Books (stage : Stage) (s : Site) (acts : List Act) : Prop where
  holding : Holding stage s
  /-- A call that has not entered an alert yet has a name for one that is not in use. -/
  pending : ∀ t rest, s.holder = some (t, rest) → stage = .begun ∨ stage = .vacant →
    Unused s acts t.id ∧ t.id ∈ s.spent
  /-- The alert that a call is busy with was entered or found. -/
  subject : ∀ b, stage.subject? = some b → Entered acts b ∨ FoundOpen acts b.id
  unspent : ∀ id, id ∉ s.spent → Unused s acts id
  plain : ∀ a, Entered acts a → PlainText a.id
  /-- A row that shows the name of an entered alert is that of the alert. -/
  kept : ∀ a, Entered acts a → ∀ r ∈ s.store.alerts, shownText r.id = a.id → a.toRow.Later r
  chapter : ∀ a, Entered acts a → Chapter stage s acts a

namespace Holding

theorem of_none {s : Site} (h : s.holder = none) : Holding .over s where
  idle _ := rfl
  follows t rest hs := by rw [h] at hs; cases hs
  plain t rest hs := by rw [h] at hs; cases hs
  failed t rest hs := by rw [h] at hs; cases hs

theorem of_some {stage : Stage} {s : Site} {t : Task} {rest : Script (Option Alert)}
    (hs : s.holder = some (t, rest)) (hfollows : Follows t stage rest) (hplain : PlainText t.id)
    (hfailed : stage = .vacant → t.result.success = false) : Holding stage s where
  idle h := by rw [h] at hs; cases hs
  follows t' rest' h := by rw [hs] at h; cases h; exact hfollows
  plain t' rest' h := by rw [hs] at h; cases h; exact hplain
  failed t' rest' h := by rw [hs] at h; cases h; exact hfailed

end Holding

/-! ## Rows that are left -/

/-- Every row at the second site is one from the first, or what became of it. -/
def Site.Precedes (s s' : Site) : Prop :=
  ∀ r' ∈ s'.store.alerts, ∃ r ∈ s.store.alerts, r.Later r'

namespace Site.Precedes

variable {s s' : Site} {acts : List Act} {act : Act} {id : String}

theorem of_eq (h : s'.store.alerts = s.store.alerts) : s.Precedes s' := by
  intro r' hr'
  rw [h] at hr'
  exact ⟨r', hr', .refl r'⟩

theorem of_answer {q : Query} (hq : q.entersAlert = false)
    (h : s'.store = (s.store.answer q).2) : s.Precedes s' := by
  intro r' hr'
  rw [h, Store.alerts_answer] at hr'
  exact exists_earlier_of_mem_alertsAfter hq hr'

theorem noneActive (h : s.Precedes s') {id : String} (hnone : s.NoneActive id) :
    s'.NoneActive id := by
  intro r' hr' hid
  obtain ⟨r, hr, hlater⟩ := h r' hr'
  cases hactive : r'.isActive with
  | false => rfl
  | true =>
    rw [← hnone r hr (hlater.id_eq ▸ hid), hlater.isActive_of_isActive hactive]

theorem unused (h : s.Precedes s') (hid : Unused s acts id) (henters : act.entered? = none)
    (htold : toldAbout id (acts ++ [act]) = toldAbout id acts)
    (hfound : FoundOpen (acts ++ [act]) id → FoundOpen acts id) :
    Unused s' (acts ++ [act]) id where
  rows r' hr' := by
    obtain ⟨r, hr, hlater⟩ := h r' hr'
    rw [hlater.id_eq]
    exact hid.rows r hr
  entered a ha := hid.entered a ((entered_snoc_of_none henters).1 ha)
  told := htold.trans hid.told
  found h := hid.found (hfound h)

theorem kept (h : s.Precedes s') {a : Alert}
    (hkept : ∀ r ∈ s.store.alerts, shownText r.id = a.id → a.toRow.Later r) :
    ∀ r' ∈ s'.store.alerts, shownText r'.id = a.id → a.toRow.Later r' := by
  intro r' hr' hid
  obtain ⟨r, hr, hlater⟩ := h r' hr'
  rw [hlater.id_eq] at hid
  exact (hkept r hr hid).trans hlater

end Site.Precedes

namespace Chapter

variable {stage stage' : Stage} {s s' : Site} {acts : List Act} {act : Act} {a : Alert}

/-- An act that does not concern an alert leaves its history where it was. -/
theorem carry (h : Chapter stage s acts a) (hstage : ¬stage.Concerns a.id)
    (hstage' : ¬stage'.Concerns a.id)
    (htold : toldAbout a.id (acts ++ [act]) = toldAbout a.id acts)
    (hfound : FoundOpen (acts ++ [act]) a.id → FoundOpen acts a.id)
    (hclosed : s.NoneActive a.id → s'.NoneActive a.id) : Chapter stage' s' (acts ++ [act]) a := by
  cases h with
  | untold hraised _ _ => exact absurd ⟨a, by rw [hraised]; rfl, rfl⟩ hstage
  | going _ ht hf => exact .going hstage' (htold.trans ht) fun h => (hf (hfound h)).mono act
  | @found _ b hs hb _ _ => exact absurd ⟨b, by rw [hs]; rfl, hb⟩ hstage
  | @closed _ _ b hs hb _ _ _ => exact absurd ⟨b, by rw [hs]; rfl, hb⟩ hstage
  | ended _ hb ht hf hc => exact .ended hstage' hb (htold.trans ht) (hf.mono act) (hclosed hc)

/-- A quiet act during which the call goes no further leaves every history where it was. -/
theorem stay (h : Chapter stage s acts a) (hact : act.Quiet)
    (hclosed : s.NoneActive a.id → s'.NoneActive a.id) : Chapter stage s' (acts ++ [act]) a := by
  have htold : toldAbout a.id (acts ++ [act]) = toldAbout a.id acts := hact.toldAbout_eq a.id
  cases h with
  | untold hs ht hf => exact .untold hs (htold.trans ht) fun h => hf (hact.foundOpen_iff.1 h)
  | going hs ht hf =>
    exact .going hs (htold.trans ht) fun h => (hf (hact.foundOpen_iff.1 h)).mono act
  | found hs hb ht hf => exact .found hs hb (htold.trans ht) (hf.mono act)
  | closed hs hb ht hf hc => exact .closed hs hb (htold.trans ht) (hf.mono act) (hclosed hc)
  | ended hs hb ht hf hc => exact .ended hs hb (htold.trans ht) (hf.mono act) (hclosed hc)

end Chapter

namespace Books

variable {stage stage' : Stage} {s s' : Site} {acts : List Act} {act : Act}

/-- What a quiet act leaves of the books: all of them, if the call in progress
and the history of each alert are accounted for. -/
theorem quiet (h : Books stage s acts) (hact : act.Quiet) (hrows : s.Precedes s')
    (hspent : s.spent ⊆ s'.spent) (hholding : Holding stage' s')
    (hpending : ∀ t rest, s'.holder = some (t, rest) → stage' = .begun ∨ stage' = .vacant →
      Unused s acts t.id ∧ t.id ∈ s'.spent)
    (hsubject : ∀ b, stage'.subject? = some b → stage.subject? = some b)
    (hchapter : ∀ a, Chapter stage s acts a → Chapter stage' s' (acts ++ [act]) a) :
    Books stage' s' (acts ++ [act]) where
  holding := hholding
  pending t rest hs hstage := (hpending t rest hs hstage).imp_left fun hunused =>
    hrows.unused hunused hact.enters (hact.toldAbout_eq t.id) hact.foundOpen_iff.1
  subject b hb := (h.subject b (hsubject b hb)).imp hact.entered_iff.2 hact.foundOpen_iff.2
  unspent id hid := hrows.unused (h.unspent id fun hmem => hid (hspent hmem)) hact.enters
    (hact.toldAbout_eq id) hact.foundOpen_iff.1
  plain a ha := h.plain a (hact.entered_iff.1 ha)
  kept a ha := hrows.kept (h.kept a (hact.entered_iff.1 ha))
  chapter a ha := hchapter a (h.chapter a (hact.entered_iff.1 ha))

/-- What an act leaves of the books that bears on the alert of one name only, which
the call in progress is busy with: all of them, if the history of that alert is
accounted for. -/
theorem concern {name : String} (h : Books stage s acts) (hact : act.BearsOn name)
    (hrows : s.Precedes s') (hspent : s'.spent = s.spent) (hholding : Holding stage' s')
    (hused : ¬Unused s acts name) (hbusy : stage' ≠ .begun ∧ stage' ≠ .vacant)
    (hstage : ∀ a, stage.subject? = some a → a.id = name)
    (hstage' : ∀ a, stage'.subject? = some a →
      a.id = name ∧ (Entered acts a ∨ FoundOpen (acts ++ [act]) a.id))
    (hchapter : ∀ a, Entered acts a → a.id = name → Chapter stage s acts a →
      Chapter stage' s' (acts ++ [act]) a) :
    Books stage' s' (acts ++ [act]) where
  holding := hholding
  pending _ _ _ hearly := (hearly.elim hbusy.1 hbusy.2).elim
  subject a ha := (hstage' a ha).2.imp_left hact.entered_iff.2
  unspent id hid := by
    rw [hspent] at hid
    have hunused := h.unspent id hid
    have hne : id ≠ name := by
      rintro rfl
      exact hused hunused
    exact hrows.unused hunused hact.enters (hact.toldAbout_eq hne) (hact.foundOpen_iff hne).1
  plain a ha := h.plain a (hact.entered_iff.1 ha)
  kept a ha := hrows.kept (h.kept a (hact.entered_iff.1 ha))
  chapter a ha := by
    have hentered := hact.entered_iff.1 ha
    by_cases hname : a.id = name
    · exact hchapter a hentered hname (h.chapter a hentered)
    · refine (h.chapter a hentered).carry ?_ ?_ (hact.toldAbout_eq hname)
        (hact.foundOpen_iff hname).1 hrows.noneActive
      · rintro ⟨b, hb, hid⟩
        exact hname (hid ▸ hstage b hb)
      · rintro ⟨b, hb, hid⟩
        exact hname (hid ▸ (hstage' b hb).1)

/-- The name of the alert that a call is busy with is in use. -/
theorem not_unused_of_subject (h : Books stage s acts) {a : Alert}
    (ha : stage.subject? = some a) : ¬Unused s acts a.id := by
  intro hunused
  rcases h.subject a ha with hentered | hfound
  · exact hunused.entered a hentered rfl
  · exact hunused.found hfound

/-- A quiet act during which the call goes no further. -/
theorem stay (h : Books stage s acts) (hact : act.Quiet) (hrows : s.Precedes s')
    (hspent : s'.spent = s.spent) (hholding : Holding stage s')
    (htask : ∀ t rest, s'.holder = some (t, rest) → ∃ rest', s.holder = some (t, rest')) :
    Books stage s' (acts ++ [act]) := by
  refine h.quiet hact hrows (by rw [hspent]; exact fun _ => id) hholding ?_ (fun _ => id)
    fun a ha => ha.stay hact hrows.noneActive
  intro t rest hs hstage
  obtain ⟨rest', hs'⟩ := htask t rest hs
  rw [hspent]
  exact h.pending t rest' hs' hstage

/-- A quiet act between two stages at which the call is busy with no alert. -/
theorem carry (h : Books stage s acts) (hact : act.Quiet) (hrows : s.Precedes s')
    (hspent : s.spent ⊆ s'.spent) (hstage : stage.subject? = none)
    (hstage' : stage'.subject? = none) (hholding : Holding stage' s')
    (hpending : ∀ t rest, s'.holder = some (t, rest) → stage' = .begun ∨ stage' = .vacant →
      Unused s acts t.id ∧ t.id ∈ s'.spent) :
    Books stage' s' (acts ++ [act]) := by
  refine h.quiet hact hrows hspent hholding hpending (by simp [hstage']) fun a ha => ?_
  exact ha.carry (by simp [Stage.Concerns, hstage]) (by simp [Stage.Concerns, hstage'])
    (hact.toldAbout_eq a.id) hact.foundOpen_iff.1 hrows.noneActive

end Books

/-! ## The calls' own acts -/

namespace Act.Quiet

theorem of_failed (t : Task) (q : Query) (e : StoreError) :
    (Act.asked t q (.error e)).Quiet := by
  cases q <;> exact ⟨rfl, rfl, rfl⟩

theorem of_resolve (t : Task) (id : String) (time : Timestamp)
    (r : (Query.resolveAlert id time).Reply) : (Act.asked t (.resolveAlert id time) r).Quiet :=
  ⟨rfl, rfl, rfl⟩

/-- What a failure looks up finds nothing for a success. -/
theorem of_look {t : Task} (ht : t.result.success = false) {q : Query} (hq : q.isLookup = true)
    (r : q.Reply) : (Act.asked t q r).Quiet := by
  cases q with
  | activeAlert c =>
    refine ⟨rfl, rfl, ?_⟩
    rcases r with e | _ | a
    · rfl
    · rfl
    · simp [Act.found?, ht]
  | _ => first | exact ⟨rfl, rfl, rfl⟩ | cases hq

/-- A look-up that does not lead on to an alert to resolve. -/
theorem of_lookup {t : Task} {checkId : String} {r : (Query.activeAlert checkId).Reply}
    (h : (t.afterLookup r).subject? = none) : (Act.asked t (.activeAlert checkId) r).Quiet := by
  refine ⟨rfl, rfl, ?_⟩
  rcases r with e | _ | a
  · rfl
  · rfl
  · cases hpassed : t.result.success with
    | false => simp [Act.found?, hpassed]
    | true => simp [Task.afterLookup, hpassed, Stage.subject?] at h

end Act.Quiet

namespace Books

variable {stage : Stage} {s s' : Site} {acts : List Act} {t : Task} {a : Alert}

/-- A success finds the open alert of its check. -/
theorem find {checkId : String} (h : Books .begun s acts) (hpassed : t.result.success = true)
    (hreply : (s.store.answer (.activeAlert checkId)).1 = .ok (some a))
    (hstore : s'.store = s.store) (hspent : s'.spent = s.spent)
    (hholding : Holding (.found a) s') :
    Books (.found a) s' (acts ++ [.asked t (.activeAlert checkId) (.ok (some a))]) := by
  obtain ⟨r, hr, hopen, hshown⟩ := Store.exists_isOpenFor_of_answer hreply
  have hid : shownText r.id = a.id := AlertRow.id_of_toAlert_eq_ok hshown
  have hactive : r.isActive = true := (Bool.and_eq_true_iff.1 hopen).2
  have hfound? : Act.found? (.asked t (.activeAlert checkId) (.ok (some a))) = some a := by
    simp [Act.found?, hpassed]
  have hfound : FoundOpen (acts ++ [.asked t (.activeAlert checkId) (.ok (some a))]) a.id :=
    foundOpen_snoc.2 (.inr ⟨a, hfound?, rfl⟩)
  have hact : Act.BearsOn (.asked t (.activeAlert checkId) (.ok (some a))) a.id := by
    refine ⟨(fun e he => by cases he), rfl, fun b hb => ?_⟩
    rw [hfound?] at hb
    cases hb
    rfl
  refine h.concern hact (.of_eq (congrArg Store.alerts hstore)) hspent hholding
    (fun hunused => hunused.rows r hr hid) ⟨nofun, nofun⟩ (fun b hb => by cases hb) ?_
    fun b hentered hb hchapter => ?_
  · rintro b ⟨⟩
    exact ⟨rfl, .inr hfound⟩
  have htold : toldAbout b.id (acts ++ [.asked t (.activeAlert checkId) (.ok (some a))]) =
      toldAbout b.id acts := toldAbout_snoc_of_none rfl b.id
  cases hchapter with
  | untold hstage _ _ => cases hstage
  | going _ ht _ => exact .found rfl hb.symm (htold.trans ht) (hb ▸ hfound)
  | found hstage _ _ _ => cases hstage
  | closed hstage _ _ _ _ => cases hstage
  | ended _ _ _ _ hclosed =>
    -- The row that was found is open, so the history of its alert had not ended.
    rw [hclosed r hr (h.kept b hentered r hr (hid.trans hb.symm)).id_eq] at hactive
    cases hactive

/-- The alert that was found is resolved. -/
theorem resolve {time : Timestamp} (h : Books (.found a) s acts)
    (r : (Query.resolveAlert a.id time).Reply)
    (hstore : s'.store = (s.store.answer (.resolveAlert a.id time)).2)
    (hspent : s'.spent = s.spent) (hholding : Holding (.closed a time) s') :
    Books (.closed a time) s' (acts ++ [.asked t (.resolveAlert a.id time) r]) := by
  have hquiet := Act.Quiet.of_resolve t a.id time r
  have hclosed : s'.NoneActive a.id := by
    intro r' hr' hid
    rw [hstore, Store.alerts_answer] at hr'
    exact isActive_eq_false_of_mem_resolved hr' hid
  refine h.concern (.of_quiet hquiet a.id) (.of_answer (q := .resolveAlert a.id time) rfl hstore)
    hspent hholding (h.not_unused_of_subject rfl) ⟨nofun, nofun⟩ ?_ ?_ fun b _ hb hchapter => ?_
  · rintro c ⟨⟩
    rfl
  · rintro c ⟨⟩
    exact ⟨rfl, (h.subject a rfl).imp_right fun hfound => hfound.mono _⟩
  have hconcerned : (Stage.found a).Concerns b.id := ⟨a, rfl, hb.symm⟩
  cases hchapter with
  | untold hstage _ _ => cases hstage
  | going hstage _ _ => exact absurd hconcerned hstage
  | found hstage heq ht hf =>
    cases hstage
    exact .closed rfl heq ((hquiet.toldAbout_eq b.id).trans ht) (hf.mono _) (heq ▸ hclosed)
  | closed hstage _ _ _ _ => cases hstage
  | ended hstage _ _ _ _ => exact absurd hconcerned hstage

/-- The alert that was found cannot be resolved, and goes on. -/
theorem resolveFailed {time : Timestamp} {e : StoreError} (h : Books (.found a) s acts)
    (hrows : s.Precedes s') (hspent : s'.spent = s.spent) (hholding : Holding .over s') :
    Books .over s' (acts ++ [.asked t (.resolveAlert a.id time) (.error e)]) := by
  have hquiet := Act.Quiet.of_failed t (.resolveAlert a.id time) e
  refine h.concern (.of_quiet hquiet a.id) hrows hspent hholding (h.not_unused_of_subject rfl)
    ⟨nofun, nofun⟩ ?_ (fun b hb => by cases hb) fun b _ hb hchapter => ?_
  · rintro c ⟨⟩
    rfl
  have hconcerned : (Stage.found a).Concerns b.id := ⟨a, rfl, hb.symm⟩
  cases hchapter with
  | untold hstage _ _ => cases hstage
  | going hstage _ _ => exact absurd hconcerned hstage
  | found hstage heq ht _ =>
    cases hstage
    refine .going (Stage.not_concerns_over b.id) ((hquiet.toldAbout_eq b.id).trans ht) fun _ => ?_
    exact resolveFailed_snoc.2 (.inr (congrArg some heq))
  | closed hstage _ _ _ _ => cases hstage
  | ended hstage _ _ _ _ => exact absurd hconcerned hstage

/-- A call enters an alert under its own name. -/
theorem enter (h : Books .vacant s acts) {rest : Script (Option Alert)}
    (hs : s.holder = some (t, rest)) (hid : a.id = t.id)
    (hstore : s'.store = (s.store.answer (.insertAlert a)).2)
    (hspent : s'.spent = s.spent) (hholding : Holding (.raised a) s') :
    Books (.raised a) s' (acts ++ [.asked t (.insertAlert a) (.ok ())]) := by
  obtain ⟨hunused, hmem⟩ := h.pending t rest hs (.inr rfl)
  have hplain : shownText a.id = a.id := by
    rw [hid]
    exact shownText_eq_self (h.holding.plain t rest hs)
  have hrow : ∀ r' ∈ s'.store.alerts, r' ∈ s.store.alerts ∨ r' = a.toRow := by
    intro r' hr'
    rw [hstore, Store.alerts_answer, Query.alertsAfter] at hr'
    split at hr'
    · exact .inl hr'
    · exact (List.mem_append.1 hr').imp_right List.mem_singleton.1
  have htold : ∀ id, toldAbout id (acts ++ [.asked t (.insertAlert a) (.ok ())]) =
      toldAbout id acts := toldAbout_snoc_of_none rfl
  have hfoundOpen : ∀ id, FoundOpen (acts ++ [.asked t (.insertAlert a) (.ok ())]) id →
      FoundOpen acts id := fun id => (foundOpen_snoc_of_none rfl).1
  have hentered : ∀ b, Entered (acts ++ [.asked t (.insertAlert a) (.ok ())]) b →
      Entered acts b ∨ b = a := fun b hb =>
    (entered_snoc.1 hb).imp_right fun heq => (Option.some.inj heq).symm
  refine ⟨hholding, ?_, ?_, ?_, ?_, ?_, ?_⟩
  · rintro t' rest' hs (hstage | hstage) <;> cases hstage
  · rintro b ⟨⟩
    exact .inl (entered_snoc.2 (.inr rfl))
  · intro id hnot
    rw [hspent] at hnot
    have hother := h.unspent id hnot
    have hne : a.id ≠ id := fun heq => hnot (heq ▸ hid ▸ hmem)
    refine ⟨fun r' hr' => ?_, fun b hb => ?_, (htold id).trans hother.told,
      fun hfound => hother.found (hfoundOpen id hfound)⟩
    · rcases hrow r' hr' with hr' | rfl
      · exact hother.rows r' hr'
      · exact fun heq => hne (hplain.symm.trans heq)
    · rcases hentered b hb with hb | rfl
      · exact hother.entered b hb
      · exact hne
  · intro b hb
    rcases hentered b hb with hb | rfl
    · exact h.plain b hb
    · rw [hid]
      exact h.holding.plain t rest hs
  · intro b hb r' hr' hshown
    rcases hentered b hb with hb | rfl
    · rcases hrow r' hr' with hr' | rfl
      · exact h.kept b hb r' hr' hshown
      · exact absurd ((hid.symm.trans hplain.symm).trans hshown).symm (hunused.entered b hb)
    · rcases hrow r' hr' with hr' | rfl
      · exact absurd (hshown.trans hid) (hunused.rows r' hr')
      · exact .refl _
  · intro b hb
    rcases hentered b hb with hb | rfl
    · have hne : b.id ≠ t.id := hunused.entered b hb
      refine (h.chapter b hb).carry (by simp [Stage.Concerns, Stage.subject?]) ?_ (htold b.id)
        (hfoundOpen b.id) fun hnone r' hr' heq => ?_
      · rintro ⟨c, ⟨⟩, hc⟩
        exact hne (hc.symm.trans hid)
      · rcases hrow r' hr' with hr' | rfl
        · exact hnone r' hr' heq
        · exact absurd (heq.symm.trans hid) hne
    · rw [← hid] at hunused
      exact .untold rfl ((htold b.id).trans hunused.told)
        fun hfound => hunused.found (hfoundOpen b.id hfound)

/-- An event is told of the alert that the call is busy with, which ends the call's work. -/
theorem tell {stage : Stage} {e : Event} (h : Books stage s acts)
    (hsubject : stage.subject? = some a) (habout : ∀ id, e.isAbout id = (a.id == id))
    (hstore : s'.store = s.store) (hspent : s'.spent = s.spent) (hholding : Holding .over s')
    (hchapter : ∀ b, a.id = b.id →
      toldAbout b.id (acts ++ [.told t e]) = toldAbout b.id acts ++ [e] →
      Chapter stage s acts b → Chapter .over s' (acts ++ [.told t e]) b) :
    Books .over s' (acts ++ [.told t e]) := by
  have hact : (Act.told t e).BearsOn a.id := by
    refine ⟨?_, rfl, fun b hb => by cases hb⟩
    rintro _ ⟨⟩ id hid
    rw [habout] at hid
    exact (beq_iff_eq.1 hid).symm
  refine h.concern hact (.of_eq (congrArg Store.alerts hstore)) hspent hholding
    (h.not_unused_of_subject hsubject) ⟨nofun, nofun⟩ ?_ (fun b hb => by cases hb) fun b _ hb => ?_
  · intro b hb
    rw [hsubject] at hb
    cases hb
    rfl
  · exact hchapter b hb.symm (by simp [toldAbout_snoc, Act.event?, habout, hb])

/-- It is told that an alert was raised. -/
theorem tellOpening {now : Timestamp} (h : Books (.raised a) s acts)
    (hstore : s'.store = s.store) (hspent : s'.spent = s.spent) (hholding : Holding .over s') :
    Books .over s' (acts ++ [.told t (a.opening now)]) := by
  refine h.tell rfl (fun _ => rfl) hstore hspent hholding fun b heq htold hb => ?_
  cases hb with
  | untold hstage ht hf =>
    cases hstage
    rw [ht, List.nil_append] at htold
    exact .going (Stage.not_concerns_over _) htold fun hfound =>
      absurd ((foundOpen_snoc_of_none rfl).1 hfound) hf
  | going hstage _ _ => exact absurd ⟨a, rfl, heq⟩ hstage
  | found hstage _ _ _ => cases hstage
  | closed hstage _ _ _ _ => cases hstage
  | ended hstage _ _ _ _ => exact absurd ⟨a, rfl, heq⟩ hstage

/-- It is told that an alert was resolved. -/
theorem tellEnding {time now : Timestamp} (h : Books (.closed a time) s acts)
    (hstore : s'.store = s.store) (hspent : s'.spent = s.spent) (hholding : Holding .over s') :
    Books .over s' (acts ++ [.told t (a.ending time now)]) := by
  refine h.tell rfl (fun _ => rfl) hstore hspent hholding fun b heq htold hb => ?_
  cases hb with
  | untold hstage _ _ => cases hstage
  | going hstage _ _ => exact absurd ⟨a, rfl, heq⟩ hstage
  | found hstage _ _ _ => cases hstage
  | closed hstage hid ht hf hc =>
    cases hstage
    rw [ht] at htold
    refine .ended (Stage.not_concerns_over b.id) heq htold (hf.mono _) ?_
    unfold Site.NoneActive
    rw [hstore]
    exact hc
  | ended hstage _ _ _ _ => exact absurd ⟨a, rfl, heq⟩ hstage

end Books

end NetWatch
