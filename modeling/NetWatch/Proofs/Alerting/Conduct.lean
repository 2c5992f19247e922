/-
NetWatch.Proofs.Alerting.Conduct — all that a call of the alerter can do (`process_result`).

Every query of a call may fail, and what the others are answered is up to the
store. There are nine ways that a call can go (`Task.Conduct`), and every call
goes one of them, whatever it is told (`Task.conduct_of_plays`). Whoever wants to
know what a call does goes through them and need not look at its script.

For a new alert up to four things are looked up, one after the other, until one
of them is a reason to keep it quiet (`Alerting.Weighs`). A look-up that fails is
none, and the next one is made all the same (`Alerting.Weighs.undeterred`).
-/
import NetWatch.Proofs.Script.Moves
import NetWatch.Proofs.Alerting.Suppression

namespace NetWatch

open Script Alerting

/-- Whether a move looks at the clock, or at anything but the open alert of a check. -/
def Move.isAside : Move → Bool
  | .asked (.activeAlert _) _ => false
  | m => m.isLook

theorem Move.isLook_of_isAside {m : Move} (h : m.isAside = true) : m.isLook = true := by
  unfold isAside at h
  split at h
  · rfl
  · exact h

namespace Alerting

variable {rules : AlertRules} {check : Check} {moves : List Move}

/-! ## What is looked up for a new alert -/

/-- The look-up of the maintenance windows, and whether the device is covered. -/
inductive SeesMaintenance (rules : AlertRules) (check : Check) : List Move → Bool → Prop
  | unasked (h : rules.maintenance = false) : SeesMaintenance rules check [] false
  | failed (h : rules.maintenance = true) (now : Timestamp) (e : StoreError) :
    SeesMaintenance rules check [.looked now, .asked .enabledWindows (.error e)] false
  | read (h : rules.maintenance = true) (now : Timestamp) (windows : List Window) :
    SeesMaintenance rules check [.looked now, .asked .enabledWindows (.ok windows)]
      (Maintenance.covered windows now check.deviceId)

/-- The look-up of what the check depends on, and the device with an open alert if there is one. -/
inductive SeesDependency (check : Check) : List Move → Option String → Prop
  | failed (e : StoreError) :
    SeesDependency check [.asked (.blockingDevice check.id) (.error e)] none
  | read (device : Option String) :
    SeesDependency check [.asked (.blockingDevice check.id) (.ok device)] device

/-- The look-ups of the device and of the alerts of its parent, and the parent if it explains the
trouble; the call stops for good if there is no moment from which on the alerts would count. -/
inductive SeesParent (rules : AlertRules) (check : Check) :
    List Move → Option (Option String) → Prop
  | unasked (h : rules.correlation = none) : SeesParent rules check [] (some none)
  | lost {window : Duration} (h : rules.correlation = some window) (e : StoreError) :
    SeesParent rules check [.asked (.device check.deviceId) (.error e)] (some none)
  | unknown {window : Duration} (h : rules.correlation = some window) :
    SeesParent rules check [.asked (.device check.deviceId) (.ok none)] (some none)
  | parentless {window : Duration} (h : rules.correlation = some window) {device : Device}
    (hparent : device.parentId = none) :
    SeesParent rules check [.asked (.device check.deviceId) (.ok (some device))] (some none)
  | stopped {window : Duration} (h : rules.correlation = some window) {device : Device}
    {parent : String} (hparent : device.parentId = some parent) {now : Timestamp}
    (hnever : now.sub? window = none) :
    SeesParent rules check [.asked (.device check.deviceId) (.ok (some device)), .looked now] none
  | failed {window : Duration} (h : rules.correlation = some window) {device : Device}
    {parent : String} (hparent : device.parentId = some parent) {now since : Timestamp}
    (hsince : now.sub? window = some since) (e : StoreError) :
    SeesParent rules check [.asked (.device check.deviceId) (.ok (some device)), .looked now,
      .asked (.activeAlertsSince parent since) (.error e)] (some none)
  | read {window : Duration} (h : rules.correlation = some window) {device : Device}
    {parent : String} (hparent : device.parentId = some parent) {now since : Timestamp}
    (hsince : now.sub? window = some since) (alerts : List Alert) :
    SeesParent rules check [.asked (.device check.deviceId) (.ok (some device)), .looked now,
      .asked (.activeAlertsSince parent since) (.ok alerts)]
      (some (if alerts = [] then none else some parent))

/-- The look-ups that are made for a new alert, one after the other until one of them is a reason to
keep it quiet, and that reason; the call may stop for good at the last of them. -/
inductive Weighs (rules : AlertRules) (check : Check) :
    List Move → Option (Option Suppression) → Prop
  | maintenance {first : List Move} (hfirst : SeesMaintenance rules check first true) :
    Weighs rules check first (some (some .maintenance))
  | dependency {first second : List Move} (hfirst : SeesMaintenance rules check first false)
    {device : String} (hsecond : SeesDependency check second (some device)) :
    Weighs rules check (first ++ second) (some (some (.dependency device)))
  | parent {first second third : List Move} (hfirst : SeesMaintenance rules check first false)
    (hsecond : SeesDependency check second none) {parent : Option (Option String)}
    (hthird : SeesParent rules check third parent) :
    Weighs rules check (first ++ (second ++ third)) (parent.map (Option.map .parent))

/-! ### Every look-up goes this way -/

theorem seesMaintenance_of_plays {result : Option Bool}
    (h : (underMaintenance rules check).Plays moves result) :
    ∃ covered, result = some covered ∧ SeesMaintenance rules check moves covered := by
  unfold underMaintenance at h
  cases hlooked : rules.maintenance with
  | false =>
    rw [hlooked, if_neg (by decide)] at h
    obtain ⟨rfl, rfl⟩ := h
    exact ⟨false, rfl, .unasked hlooked⟩
  | true =>
    rw [hlooked, if_pos rfl] at h
    obtain ⟨now, _, rfl, reply, _, rfl, h⟩ := h
    cases reply with
    | error e =>
      obtain ⟨rfl, rfl⟩ := h
      exact ⟨false, rfl, .failed hlooked now e⟩
    | ok windows =>
      obtain ⟨rfl, rfl⟩ := h
      exact ⟨_, rfl, .read hlooked now windows⟩

theorem seesDependency_of_plays {result : Option (Option String)}
    (h : (blockedBy check).Plays moves result) :
    ∃ device, result = some device ∧ SeesDependency check moves device := by
  obtain ⟨reply, _, rfl, h⟩ := h
  cases reply with
  | error e =>
    obtain ⟨rfl, rfl⟩ := h
    exact ⟨none, rfl, .failed e⟩
  | ok device =>
    obtain ⟨rfl, rfl⟩ := h
    exact ⟨device, rfl, .read device⟩

theorem seesParent_of_plays {result : Option (Option String)}
    (h : (explainedBy rules check).Plays moves result) : SeesParent rules check moves result := by
  unfold explainedBy at h
  cases hwindow : rules.correlation with
  | none =>
    rw [hwindow] at h
    obtain ⟨rfl, rfl⟩ := h
    exact .unasked hwindow
  | some window =>
    rw [hwindow] at h
    obtain ⟨reply, _, rfl, h⟩ := h
    rcases reply with e | _ | ⟨id, hostname, _ | parent, lastSeen⟩
    · obtain ⟨rfl, rfl⟩ := h
      exact .lost hwindow e
    · obtain ⟨rfl, rfl⟩ := h
      exact .unknown hwindow
    · obtain ⟨rfl, rfl⟩ := h
      exact .parentless hwindow rfl
    · obtain ⟨now, _, rfl, h⟩ := h
      dsimp only at h
      cases hsince : now.sub? window with
      | none =>
        rw [hsince] at h
        obtain ⟨rfl, rfl⟩ := h
        exact .stopped hwindow rfl hsince
      | some since =>
        rw [hsince] at h
        obtain ⟨reply, _, rfl, h⟩ := h
        rcases reply with e | _ | ⟨a, rest⟩
        · obtain ⟨rfl, rfl⟩ := h
          exact .failed hwindow rfl hsince e
        · obtain ⟨rfl, rfl⟩ := h
          exact .read hwindow rfl hsince []
        · obtain ⟨rfl, rfl⟩ := h
          exact .read hwindow rfl hsince (a :: rest)

/-- **The look-ups for a new alert** go this way, whatever they are answered. -/
theorem weighs_of_plays {result : Option (Option Suppression)}
    (h : (suppression rules check).Plays moves result) : Weighs rules check moves result := by
  have hgoes : ∀ moves, ¬(underMaintenance rules check).Plays moves none := by
    intro moves hstopped
    obtain ⟨_, hnever, -⟩ := seesMaintenance_of_plays hstopped
    cases hnever
  have hgoesOn : ∀ moves, ¬(blockedBy check).Plays moves none := by
    intro moves hstopped
    obtain ⟨_, hnever, -⟩ := seesDependency_of_plays hstopped
    cases hnever
  unfold suppression at h
  obtain ⟨covered, first, last, rfl, hfirst, h⟩ := Plays.exists_of_bind hgoes h
  obtain ⟨_, ⟨⟩, hmaintenance⟩ := seesMaintenance_of_plays hfirst
  cases covered with
  | true =>
    obtain ⟨rfl, rfl⟩ := h
    rw [List.append_nil]
    exact .maintenance hmaintenance
  | false =>
    rw [if_neg (by decide)] at h
    obtain ⟨device, second, last, rfl, hsecond, h⟩ := Plays.exists_of_bind hgoesOn h
    obtain ⟨_, ⟨⟩, hdependency⟩ := seesDependency_of_plays hsecond
    cases device with
    | some device =>
      obtain ⟨rfl, rfl⟩ := h
      rw [List.append_nil]
      exact .dependency hmaintenance hdependency
    | none =>
      rcases Plays.of_bind h with ⟨parent, third, last, rfl, hthird, h⟩ | ⟨rfl, hstopped⟩
      · have hwhy : last = [] ∧ result = some (parent.map .parent) := by
          cases parent <;> exact h
        obtain ⟨rfl, rfl⟩ := hwhy
        rw [List.append_nil]
        exact .parent hmaintenance hdependency (seesParent_of_plays hthird)
      · exact .parent hmaintenance hdependency (seesParent_of_plays hstopped)

/-! ### What is asked on the way -/

theorem SeesMaintenance.of_mem {covered : Bool} (h : SeesMaintenance rules check moves covered)
    {m : Move} (hm : m ∈ moves) :
    (∃ now, m = .looked now) ∨ ∃ reply, m = .asked .enabledWindows reply := by
  cases h with
  | unasked _ => cases hm
  | failed _ _ _ | read _ _ _ =>
    obtain rfl | hm := List.mem_cons.1 hm
    · exact .inl ⟨_, rfl⟩
    · exact .inr ⟨_, List.mem_singleton.1 hm⟩

theorem SeesMaintenance.query_eq {covered : Bool} (h : SeesMaintenance rules check moves covered)
    {q : Query} {reply : q.Reply} (hm : .asked q reply ∈ moves) : q = .enabledWindows := by
  rcases h.of_mem hm with ⟨_, heq⟩ | ⟨_, heq⟩ <;> cases heq
  rfl

theorem SeesDependency.of_mem {device : Option String} (h : SeesDependency check moves device)
    {m : Move} (hm : m ∈ moves) : ∃ reply, m = .asked (.blockingDevice check.id) reply := by
  cases h with
  | failed _ | read _ => exact ⟨_, List.mem_singleton.1 hm⟩

theorem SeesDependency.query_eq {device : Option String} (h : SeesDependency check moves device)
    {q : Query} {reply : q.Reply} (hm : .asked q reply ∈ moves) : q = .blockingDevice check.id := by
  obtain ⟨_, heq⟩ := h.of_mem hm
  cases heq
  rfl

theorem SeesParent.of_mem {parent : Option (Option String)}
    (h : SeesParent rules check moves parent) {m : Move} (hm : m ∈ moves) :
    (∃ now, m = .looked now) ∨ (∃ reply, m = .asked (.device check.deviceId) reply) ∨
      ∃ parent since reply, m = .asked (.activeAlertsSince parent since) reply := by
  cases h with
  | unasked _ => cases hm
  | lost _ _ | unknown _ | parentless _ _ => exact .inr (.inl ⟨_, List.mem_singleton.1 hm⟩)
  | stopped _ _ _ =>
    obtain rfl | hm := List.mem_cons.1 hm
    · exact .inr (.inl ⟨_, rfl⟩)
    · exact .inl ⟨_, List.mem_singleton.1 hm⟩
  | failed _ _ _ _ | read _ _ _ _ =>
    obtain rfl | hm := List.mem_cons.1 hm
    · exact .inr (.inl ⟨_, rfl⟩)
    obtain rfl | hm := List.mem_cons.1 hm
    · exact .inl ⟨_, rfl⟩
    · exact .inr (.inr ⟨_, _, _, List.mem_singleton.1 hm⟩)

/-- For a new alert things are only looked up, and the open alert of a check is not among them. -/
theorem Weighs.isAside {why : Option (Option Suppression)} (h : Weighs rules check moves why)
    {m : Move} (hm : m ∈ moves) : m.isAside = true := by
  have hmaintenance {moves covered} (h : SeesMaintenance rules check moves covered)
      (hm : m ∈ moves) : m.isAside = true := by
    rcases h.of_mem hm with ⟨_, rfl⟩ | ⟨_, rfl⟩ <;> rfl
  have hdependency {moves device} (h : SeesDependency check moves device)
      (hm : m ∈ moves) : m.isAside = true := by
    obtain ⟨_, rfl⟩ := h.of_mem hm
    rfl
  cases h with
  | maintenance hfirst => exact hmaintenance hfirst hm
  | dependency hfirst hsecond =>
    exact (List.mem_append.1 hm).elim (hmaintenance hfirst) (hdependency hsecond)
  | parent hfirst hsecond hthird =>
    obtain hm | hm := List.mem_append.1 hm
    · exact hmaintenance hfirst hm
    obtain hm | hm := List.mem_append.1 hm
    · exact hdependency hsecond hm
    · rcases hthird.of_mem hm with ⟨_, rfl⟩ | ⟨_, rfl⟩ | ⟨_, _, _, rfl⟩ <;> rfl

/-! ### Look-ups that fail -/

/-- A look-up that fails is no reason to keep an alert quiet, and those after it are made all the
same. -/
structure Undeterred (rules : AlertRules) (check : Check) (moves : List Move)
    (why : Option Suppression) : Prop where
  windows : ∀ e, .asked .enabledWindows (.error e) ∈ moves →
    why ≠ some .maintenance ∧ ∃ reply, .asked (.blockingDevice check.id) reply ∈ moves
  dependencies : ∀ e, .asked (.blockingDevice check.id) (.error e) ∈ moves →
    (∀ device, why ≠ some (.dependency device)) ∧
      (rules.correlation ≠ none → ∃ reply, .asked (.device check.deviceId) reply ∈ moves)
  device : ∀ e, .asked (.device check.deviceId) (.error e) ∈ moves → why = none
  parent : ∀ parent since e, .asked (.activeAlertsSince parent since) (.error e) ∈ moves →
    why = none

theorem SeesDependency.asks {device : Option String} (h : SeesDependency check moves device) :
    ∃ reply, .asked (.blockingDevice check.id) reply ∈ moves := by
  cases h with
  | failed _ | read _ => exact ⟨_, .head _⟩

theorem SeesParent.asks {parent : Option (Option String)}
    (h : SeesParent rules check moves parent) (hlooked : rules.correlation ≠ none) :
    ∃ reply, .asked (.device check.deviceId) reply ∈ moves := by
  cases h with
  | unasked h => exact absurd h hlooked
  | _ => exact ⟨_, .head _⟩

theorem SeesMaintenance.eq_false_of_failed {covered : Bool}
    (h : SeesMaintenance rules check moves covered) {e : StoreError}
    (he : .asked .enabledWindows (.error e) ∈ moves) : covered = false := by
  cases h with
  | unasked _ | failed _ _ _ => rfl
  | read _ _ _ => simp at he

theorem SeesDependency.eq_none_of_failed {device : Option String}
    (h : SeesDependency check moves device) {e : StoreError}
    (he : .asked (.blockingDevice check.id) (.error e) ∈ moves) : device = none := by
  cases h with
  | failed _ => rfl
  | read _ => simp at he

theorem SeesParent.eq_none_of_failed {parent : Option String}
    (h : SeesParent rules check moves (some parent)) {q : Query} {e : StoreError}
    (he : .asked q (.error e) ∈ moves) : parent = none := by
  generalize hresult : some parent = result at h
  cases h with
  | stopped _ _ _ => cases hresult
  | read _ _ _ _ =>
    simp only [List.mem_cons, List.not_mem_nil, or_false] at he
    rcases he with he | he | he <;> cases he
  | _ => exact Option.some.inj hresult

/-- **No look-up that fails keeps an alert quiet**, or another look-up from being made. -/
theorem Weighs.undeterred {why : Option Suppression} (h : Weighs rules check moves (some why)) :
    Undeterred rules check moves why := by
  generalize hresult : some why = result at h
  cases h with
  | maintenance hfirst =>
    cases hresult
    exact {
      windows := fun e he => nomatch hfirst.eq_false_of_failed he
      dependencies := fun e he => nomatch hfirst.query_eq he
      device := fun e he => nomatch hfirst.query_eq he
      parent := fun _ _ e he => nomatch hfirst.query_eq he }
  | @dependency first second hfirst device hsecond =>
    cases hresult
    have hquery {q : Query} {reply : q.Reply} (hm : .asked q reply ∈ first ++ second) :
        q = .enabledWindows ∨ q = .blockingDevice check.id :=
      (List.mem_append.1 hm).imp hfirst.query_eq hsecond.query_eq
    exact {
      windows := fun e he =>
        ⟨nofun, hsecond.asks.imp fun _ => List.mem_append_right _⟩
      dependencies := fun e he => by
        obtain he | he := List.mem_append.1 he
        · cases hfirst.query_eq he
        · cases hsecond.eq_none_of_failed he
      device := fun e he => by rcases hquery he with heq | heq <;> cases heq
      parent := fun _ _ e he => by rcases hquery he with heq | heq <;> cases heq }
  | @parent first second third hfirst hsecond parent hthird =>
    obtain _ | parent := parent
    · cases hresult
    cases hresult
    have hthird_of_mem {q : Query} {reply : q.Reply}
        (hm : .asked q reply ∈ first ++ (second ++ third)) (hq : q ≠ .enabledWindows)
        (hq' : q ≠ .blockingDevice check.id) :
        .asked q reply ∈ third := by
      obtain hm | hm := List.mem_append.1 hm
      · exact absurd (hfirst.query_eq hm) hq
      · exact (List.mem_append.1 hm).resolve_left fun hm => hq' (hsecond.query_eq hm)
    exact {
      windows := fun e he =>
        ⟨by cases parent <;> nofun, hsecond.asks.imp fun _ hm =>
          List.mem_append_right _ (List.mem_append_left _ hm)⟩
      dependencies := fun e he =>
        ⟨by cases parent <;> nofun, fun hlooked => (hthird.asks hlooked).imp fun _ hm =>
          List.mem_append_right _ (List.mem_append_right _ hm)⟩
      device := fun e he => by
        rw [hthird.eq_none_of_failed (hthird_of_mem he nofun nofun)]
        rfl
      parent := fun _ _ e he => by
        rw [hthird.eq_none_of_failed (hthird_of_mem he nofun nofun)]
        rfl }

end Alerting

/-! ## Calls -/

namespace Task

/-- The ways that a call can go. -/
inductive Conduct (t : Task) : List Move → Prop
  /-- A failure below the threshold. -/
  | early (hfailed : t.result.success = false) (hearly : t.streak < t.rules.threshold) :
    Conduct t []
  /-- The open alert cannot be looked up. -/
  | lost (e : StoreError) : Conduct t [.asked (.activeAlert t.check.id) (.error e)]
  /-- A success while no alert is open. -/
  | calm (hpassed : t.result.success = true) :
    Conduct t [.asked (.activeAlert t.check.id) (.ok none)]
  /-- A failure while an alert is open. -/
  | known (hdue : t.isDue = true) (a : Alert) :
    Conduct t [.asked (.activeAlert t.check.id) (.ok (some a))]
  | unresolved (hpassed : t.result.success = true) (a : Alert) (now : Timestamp) (e : StoreError) :
    Conduct t [.asked (.activeAlert t.check.id) (.ok (some a)), .looked now,
      .asked (.resolveAlert a.id now) (.error e)]
  | resolved (hpassed : t.result.success = true) (a : Alert) (now later : Timestamp) :
    Conduct t [.asked (.activeAlert t.check.id) (.ok (some a)), .looked now,
      .asked (.resolveAlert a.id now) (.ok ()), .looked later, .told (a.ending now later)]
  /-- A failure that is due; the call stops for good before it enters an alert. -/
  | stopped (hdue : t.isDue = true) (now : Timestamp) {looks : List Move}
    (hlooks : Weighs t.rules t.check looks none) :
    Conduct t (.asked (.activeAlert t.check.id) (.ok none) :: .looked now :: looks)
  | unentered (hdue : t.isDue = true) (now : Timestamp) {looks : List Move}
    {why : Option Suppression} (hlooks : Weighs t.rules t.check looks (some why))
    (e : StoreError) :
    Conduct t (.asked (.activeAlert t.check.id) (.ok none) :: .looked now ::
      (looks ++ [.asked (.insertAlert (t.alert now why)) (.error e)]))
  | raised (hdue : t.isDue = true) (now : Timestamp) {looks : List Move}
    {why : Option Suppression} (hlooks : Weighs t.rules t.check looks (some why))
    (later : Timestamp) :
    Conduct t (.asked (.activeAlert t.check.id) (.ok none) :: .looked now ::
      (looks ++ [.asked (.insertAlert (t.alert now why)) (.ok ()), .looked later,
        .told ((t.alert now why).opening later)]))

variable {t : Task} {moves : List Move}

theorem conduct_of_plays_onSuccess {result : Option Unit} (hpassed : t.result.success = true)
    (h : (onSuccess t.check).Plays moves result) : t.Conduct moves := by
  unfold onSuccess at h
  obtain ⟨reply, _, rfl, h⟩ := h
  rcases reply with e | _ | a
  · obtain ⟨rfl, -⟩ := h
    exact .lost e
  · obtain ⟨rfl, -⟩ := h
    exact .calm hpassed
  · obtain ⟨now, _, rfl, reply, _, rfl, h⟩ := h
    cases reply with
    | error e =>
      obtain ⟨rfl, -⟩ := h
      exact .unresolved hpassed a now e
    | ok _ =>
      obtain ⟨later, _, rfl, _, rfl, rfl, -⟩ := h
      exact .resolved hpassed a now later

theorem conduct_of_plays_raise {result : Option (Option Alert)} (hdue : t.isDue = true)
    (h : (raise t.rules t.check t.result t.streak t.id).Plays moves result) :
    t.Conduct (.asked (.activeAlert t.check.id) (.ok none) :: moves) := by
  unfold raise at h
  rw [now_bind] at h
  obtain ⟨now, _, rfl, h⟩ := h
  rcases Plays.of_bind h with ⟨why, looks, _, rfl, hlooks, hentry⟩ | ⟨-, hstopped⟩
  · clear h
    obtain ⟨reply, _, rfl, hentry⟩ := hentry
    cases reply with
    | error e =>
      obtain ⟨rfl, -⟩ := hentry
      exact .unentered hdue now (weighs_of_plays hlooks) e
    | ok _ =>
      obtain ⟨later, _, rfl, _, rfl, rfl, -⟩ := hentry
      exact .raised hdue now (weighs_of_plays hlooks) later
  · exact .stopped hdue now (weighs_of_plays hstopped)

theorem conduct_of_plays_onFailure {result : Option (Option Alert)}
    (hfailed : t.result.success = false)
    (h : (onFailure t.rules t.check t.result t.streak t.id).Plays moves result) :
    t.Conduct moves := by
  unfold onFailure at h
  split at h
  · rename_i hearly
    obtain ⟨rfl, -⟩ := h
    exact .early hfailed hearly
  · rename_i hdue
    have hdue : t.isDue = true := by simpa [isDue, hfailed] using hdue
    obtain ⟨reply, _, rfl, h⟩ := h
    rcases reply with e | _ | a
    · obtain ⟨rfl, -⟩ := h
      exact .lost e
    · exact conduct_of_plays_raise hdue h
    · obtain ⟨rfl, -⟩ := h
      exact .known hdue a

/-- **Every call goes one of these ways**, whatever it is told. -/
theorem conduct_of_plays {result : Option (Option Alert)} (h : t.script.Plays moves result) :
    t.Conduct moves := by
  unfold script react at h
  split at h
  · rename_i hpassed
    rcases Plays.of_bind h with ⟨_, first, _, rfl, hfirst, rfl, -⟩ | ⟨-, hstopped⟩
    · rw [List.append_nil]
      exact conduct_of_plays_onSuccess hpassed hfirst
    · exact conduct_of_plays_onSuccess hpassed hstopped
  · rename_i hfailed
    exact conduct_of_plays_onFailure (by simpa using hfailed) h

/-- **A call that comes to its end** was not stopped by the look-ups for a new alert. -/
theorem not_weighs_none_of_plays {now : Timestamp} {looks : List Move} {raised : Option Alert}
    (hdue : t.isDue = true) (h : t.script.Plays
      (.asked (.activeAlert t.check.id) (.ok none) :: .looked now :: looks) (some raised)) :
    ¬Weighs t.rules t.check looks none := by
  obtain ⟨hfailed, hdue⟩ : t.result.success = false ∧ t.rules.threshold ≤ t.streak := by
    simpa [isDue] using hdue
  have hreached : ¬t.streaks.count t.check.id < t.rules.threshold := UInt32.not_lt.2 hdue
  unfold script at h
  rw [react_of_failed hfailed] at h
  unfold onFailure at h
  rw [if_neg hreached] at h
  obtain ⟨reply, _, hmoves, h⟩ := h
  cases hmoves
  unfold raise at h
  rw [now_bind] at h
  obtain ⟨_, _, hmoves, h⟩ := h
  cases hmoves
  rcases Plays.of_bind h with ⟨why, first, _, rfl, -, reply, rest, rfl, -⟩ | ⟨hnever, -⟩
  · -- the entry of the alert is no look-up
    intro hstopped
    cases hstopped.isAside (List.mem_append_right _ (.head _))
  · cases hnever

/-! ### What all of them have in common -/

/-- How a call ends that has looked at all it needs to: it writes once or not at all, and tells of
what it wrote, after it, and of nothing else. -/
inductive Ends (t : Task) : List Move → Prop
  | silent : Ends t []
  | unresolved (hpassed : t.result.success = true) (a : Alert) (now : Timestamp) (e : StoreError) :
    Ends t [.asked (.resolveAlert a.id now) (.error e)]
  | resolved (hpassed : t.result.success = true) (a : Alert) (now later : Timestamp) :
    Ends t [.asked (.resolveAlert a.id now) (.ok ()), .looked later, .told (a.ending now later)]
  | unentered (hdue : t.isDue = true) (now : Timestamp) (why : Option Suppression)
    (e : StoreError) : Ends t [.asked (.insertAlert (t.alert now why)) (.error e)]
  | raised (hdue : t.isDue = true) (now : Timestamp) (why : Option Suppression)
    (later : Timestamp) :
    Ends t [.asked (.insertAlert (t.alert now why)) (.ok ()), .looked later,
      .told ((t.alert now why).opening later)]

namespace Conduct

theorem isLook_of_weighs {now : Timestamp} {looks : List Move}
    {why : Option (Option Suppression)} (h : Weighs t.rules t.check looks why) :
    ∀ m ∈ .asked (.activeAlert t.check.id) (.ok none) :: .looked now :: looks,
      Move.isLook m = true := by
  intro m hm
  obtain rfl | hm := List.mem_cons.1 hm
  · rfl
  obtain rfl | hm := List.mem_cons.1 hm
  · rfl
  · exact Move.isLook_of_isAside (h.isAside hm)

/-- **A call looks first**, and then ends one way or another. -/
theorem exists_ends (h : t.Conduct moves) :
    ∃ looks last, moves = looks ++ last ∧ (∀ m ∈ looks, m.isLook = true) ∧ t.Ends last := by
  cases h with
  | early _ _ => exact ⟨[], [], rfl, List.forall_mem_nil _, .silent⟩
  | lost _ | calm _ | known _ _ =>
    refine ⟨_, [], (List.append_nil _).symm, fun m hm => ?_, .silent⟩
    rw [List.mem_singleton.1 hm]
    rfl
  | unresolved hpassed a now e =>
    exact ⟨[_, _], [_], rfl, by simp [Move.isLook, Query.isLookup], .unresolved hpassed a now e⟩
  | resolved hpassed a now later =>
    exact ⟨[_, _], [_, _, _], rfl, by simp [Move.isLook, Query.isLookup],
      .resolved hpassed a now later⟩
  | stopped hdue now hlooks =>
    exact ⟨_, [], (List.append_nil _).symm, isLook_of_weighs hlooks, .silent⟩
  | unentered hdue now hlooks e =>
    exact ⟨_ :: _ :: _, [_], rfl, isLook_of_weighs hlooks, .unentered hdue now _ e⟩
  | raised hdue now hlooks later =>
    exact ⟨_ :: _ :: _, [_, _, _], rfl, isLook_of_weighs hlooks, .raised hdue now _ later⟩

/-- **If the open alert cannot be looked up**, that is all. -/
theorem eq_of_lost (h : t.Conduct moves) {e : StoreError}
    (he : .asked (.activeAlert t.check.id) (.error e) ∈ moves) :
    moves = [.asked (.activeAlert t.check.id) (.error e)] := by
  have hnot {looks : List Move} {why : Option (Option Suppression)}
      (hlooks : Weighs t.rules t.check looks why) :
      .asked (.activeAlert t.check.id) (.error e) ∉ looks :=
    fun hm => nomatch hlooks.isAside hm
  cases h with
  | early _ _ => cases he
  | lost _ => rw [List.mem_singleton.1 he]
  | calm _ | known _ _ | unresolved _ _ _ _ | resolved _ _ _ _ => simp at he
  | stopped _ _ hlooks | unentered _ _ hlooks _ | raised _ _ hlooks _ => simp [hnot hlooks] at he

/-- **An alert is entered only after all reasons to keep it quiet were weighed.** -/
theorem weighs_of_entry (h : t.Conduct moves) {a : Alert} {reply : (Query.insertAlert a).Reply}
    (ha : .asked (.insertAlert a) reply ∈ moves) :
    ∃ now looks why rest, moves = .asked (.activeAlert t.check.id) (.ok none) :: .looked now ::
        (looks ++ .asked (.insertAlert a) reply :: rest) ∧
      a = t.alert now why ∧ Weighs t.rules t.check looks (some why) := by
  have hlast {now : Timestamp} {looks last : List Move} {why : Option (Option Suppression)}
      (hlooks : Weighs t.rules t.check looks why)
      (ha : .asked (.insertAlert a) reply ∈
        .asked (.activeAlert t.check.id) (.ok none) :: .looked now :: (looks ++ last)) :
      .asked (.insertAlert a) reply ∈ last := by
    simp only [List.mem_cons, List.mem_append] at ha
    rcases ha with heq | heq | hm | hm
    · cases heq
    · cases heq
    · exact nomatch hlooks.isAside hm
    · exact hm
  cases h with
  | early _ _ => cases ha
  | lost _ | calm _ | known _ _ | unresolved _ _ _ _ | resolved _ _ _ _ => simp at ha
  | stopped _ _ hlooks => exact nomatch isLook_of_weighs hlooks _ ha
  | unentered _ now hlooks e =>
    cases List.mem_singleton.1 (hlast hlooks ha)
    exact ⟨now, _, _, [], rfl, rfl, hlooks⟩
  | raised _ now hlooks later =>
    obtain ha | ha := List.mem_cons.1 (hlast hlooks ha)
    · cases ha
      exact ⟨now, _, _, _, rfl, rfl, hlooks⟩
    · simp at ha

end Conduct

end Task

end NetWatch
