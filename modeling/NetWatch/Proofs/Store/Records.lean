/-
NetWatch.Proofs.Store.Records — what queries are meant to do to checks, windows and channels.

A query that succeeds enters a record, lays one over another, or takes one out.
Which one follows from the query, and whether it succeeded from the reply; so
the replies to some queries tell what is kept afterwards
(`RecordKind.toldAll`). A store keeps what it was told if looking up and
listing say so (`RecordKind.KeptIn`).

`RecordTable.Serves.keptIn_after` reduces this to single queries: a table whose
rows show records keeps what the replies told, if each query does to the rows
what it is meant to do to the records (`RecordTable.Serves`).
-/
import NetWatch.Proofs.Store.Integrity
import NetWatch.Proofs.Time.Millis

namespace NetWatch

/-! ## Records as they are kept -/

namespace Query

/-- The texts that a query gives to a check, a window or a channel; the devices of a window
are written down in a way that keeps any text. -/
def columns : Query → List String
  | .insertCheck c | .updateCheck c => [c.id, c.deviceId, c.checkType, c.target]
  | .insertWindow w | .updateWindow w => [w.id, w.name, w.description, w.recurrence]
  | .insertChannel c | .updateChannel c => [c.id, c.name, c.channelType, c.config]
  | _ => []

/-- The times that a query gives to a check, a window or a channel. -/
def times : Query → List Timestamp
  | .insertCheck c | .updateCheck c => [c.createdAt, c.updatedAt]
  | .enableCheck _ _ time => [time]
  | .insertWindow w | .updateWindow w => [w.startTime, w.endTime, w.createdAt, w.updatedAt]
  | .insertChannel c | .updateChannel c => [c.createdAt, c.updatedAt]
  | _ => []

/-- Whether what a query gives can be kept, times to the millisecond. -/
structure IsKeepable (q : Query) : Prop where
  plain : ∀ s ∈ q.columns, PlainText s
  leapFree : ∀ t ∈ q.times, t.isLeap = false

instance (q : Query) : Decidable q.IsKeepable :=
  decidable_of_iff ((∀ s ∈ q.columns, PlainText s) ∧ ∀ t ∈ q.times, t.isLeap = false)
    ⟨fun h => ⟨h.1, h.2⟩, fun h => ⟨h.1, h.2⟩⟩

end Query

/-- A check with its times as they are kept. -/
def Check.kept (c : Check) : Check :=
  { c with createdAt := c.createdAt.floorMillis, updatedAt := c.updatedAt.floorMillis }

/-- A window with its times as they are kept. -/
def Window.kept (w : Window) : Window :=
  { w with
    startTime := w.startTime.floorMillis
    endTime := w.endTime.floorMillis
    createdAt := w.createdAt.floorMillis
    updatedAt := w.updatedAt.floorMillis }

/-- A channel with its times as they are kept. -/
def Channel.kept (c : Channel) : Channel :=
  { c with createdAt := c.createdAt.floorMillis, updatedAt := c.updatedAt.floorMillis }

/-! ## What queries are meant to do -/

namespace Query

/-- What a query does to the checks if it succeeds. -/
def checkEdit? : Query → Option (Edit Check)
  | .insertCheck c => some (.enter c.kept)
  | .updateCheck c => some (.amend c.id fun old => { c.kept with createdAt := old.createdAt })
  | .enableCheck id enabled time =>
    some (.amend id fun old => { old with enabled := enabled, updatedAt := time.floorMillis })
  | .deleteCheck id => some (.remove id)
  | _ => none

/-- What a query does to the windows if it succeeds. -/
def windowEdit? : Query → Option (Edit Window)
  | .insertWindow w => some (.enter w.kept)
  | .updateWindow w => some (.amend w.id fun old => { w.kept with createdAt := old.createdAt })
  | .deleteWindow id => some (.remove id)
  | _ => none

/-- What a query does to the channels if it succeeds. -/
def channelEdit? : Query → Option (Edit Channel)
  | .insertChannel c => some (.enter c.kept)
  | .updateChannel c => some (.amend c.id fun old => { c.kept with createdAt := old.createdAt })
  | .deleteChannel id => some (.remove id)
  | _ => none

end Query

/-- A kind of records: what they are called, what queries do to them, and how they are
looked up and listed. -/
structure RecordKind (α : Type) where
  id : α → String
  /-- What listings are sorted by. -/
  time : α → Timestamp
  enabled : α → Bool
  /-- What a query does to the records if it succeeds. -/
  edit? : Query → Option (Edit α)
  find : Store → String → Except StoreError (Option α)
  list : Store → Except StoreError (List α)
  listEnabled : Store → Except StoreError (List α)

namespace RecordKind

variable {α : Type}

def checks : RecordKind Check where
  id := Check.id
  time := Check.createdAt
  enabled := Check.enabled
  edit? := Query.checkEdit?
  find s id := (s.answer (.check id)).1
  list s := (s.answer .checks).1
  listEnabled s := (s.answer .enabledChecks).1

def windows : RecordKind Window where
  id := Window.id
  time := Window.startTime
  enabled := Window.enabled
  edit? := Query.windowEdit?
  find s id := (s.answer (.window id)).1
  list s := (s.answer .windows).1
  listEnabled s := (s.answer .enabledWindows).1

def channels : RecordKind Channel where
  id := Channel.id
  time := Channel.createdAt
  enabled := Channel.enabled
  edit? := Query.channelEdit?
  find s id := (s.answer (.channel id)).1
  list s := (s.answer .channels).1
  listEnabled s := (s.answer .enabledChannels).1

/-- The records after a query, as far as can be told from its reply: what succeeds does what
it is meant to do, and what fails does nothing. -/
def told (k : RecordKind α) (s : Store) (m : Register α) (q : Query) : Register α :=
  match (s.answer q).1, k.edit? q with
  | .ok _, some d => d.apply k.id m
  | _, _ => m

/-- The records after queries, as far as can be told from the replies. -/
def toldAll (k : RecordKind α) (s : Store) (m : Register α) : List Query → Register α
  | [] => m
  | q :: qs => k.toldAll (s.answer q).2 (k.told s m q) qs

/-- A store that keeps a register: it finds and lists what is in it. What is not refused can be
done unless it enters a name that is taken, and does nothing about a name that has no record. -/
structure KeptIn (k : RecordKind α) (m : Register α) (s : Store) : Prop where
  find : ∀ id, k.find s id = .ok (m id)
  list : ∃ as, k.list s = .ok as ∧ Register.Listing k.id k.time m (fun _ => true) as
  listEnabled : ∃ as, k.listEnabled s = .ok as ∧ Register.Listing k.id k.time m k.enabled as
  succeeds_iff : ∀ q d, k.edit? q = some d →
    ((∃ answer, (s.answer q).1 = .ok answer) ↔ q.refusal? = none ∧ d.Possible k.id m)
  misses : ∀ q d, k.edit? q = some d → d.Misses m → (s.answer q).2 = s

end RecordKind

/-! ## Tables that show records -/

/-- A table whose rows are made of records. -/
structure RecordTable (α ρ : Type) where
  rows : Store → List ρ
  key : ρ → String
  time : ρ → Int
  enabled : ρ → Bool
  /-- What a query does to the rows. -/
  rowEdit? : Query → Option (Edit ρ)
  toRow : α → ρ
  /-- Whether the row of a record shows the record. -/
  Whole : α → Prop

namespace RecordTable

variable {α ρ : Type}

/-- A table that serves a kind of records: queries do to its rows what they are meant to do to the
records, and from the rows of whole records the records are read. -/
structure Serves (t : RecordTable α ρ) (k : RecordKind α) : Prop where
  key_toRow : ∀ a, t.key (t.toRow a) = k.id a
  time_toRow : ∀ a, t.time (t.toRow a) = (k.time a).toMillis
  enabled_toRow : ∀ a, t.enabled (t.toRow a) = k.enabled a
  time_of_whole : ∀ {a}, t.Whole a → Timestamp.ofMillis (k.time a).toMillis = k.time a
  rows_empty : t.rows .empty = []
  rows_execute : ∀ s q, t.rows (s.execute q).2 = Store.edited t.key (t.rowEdit? q) (t.rows s)
  execute_iff : ∀ {s q d}, t.rowEdit? q = some d →
    ((∃ answer, (Store.execute s q).1 = .ok answer) ↔ d.Possible t.key (.ofList t.key (t.rows s)))
  execute_of_misses : ∀ {s q d}, t.rowEdit? q = some d →
    d.Misses (.ofList t.key (t.rows s)) → (Store.execute s q).2 = s
  rowEdit?_of_none : ∀ {q}, k.edit? q = none → t.rowEdit? q = none
  renders : ∀ {q d}, k.edit? q = some d → ∃ d', t.rowEdit? q = some d' ∧ d.Renders t.toRow d'
  keepsNames : ∀ {q d}, t.rowEdit? q = some d → d.KeepsNames t.key
  keepsWhole : ∀ {q d}, q.IsKeepable → k.edit? q = some d → d.Keeps t.Whole
  find : ∀ {s id a?}, (∀ a ∈ a?, t.Whole a) →
    (t.rows s).find? (t.key · == id) = Option.map t.toRow a? → k.find s id = .ok a?
  list : ∀ {s as}, (∀ a ∈ as, t.Whole a) →
    Store.oldestFirst t.time (t.rows s) = as.map t.toRow → k.list s = .ok as
  listEnabled : ∀ {s as}, (∀ a ∈ as, t.Whole a) →
    Store.oldestFirst t.time ((t.rows s).filter t.enabled) = as.map t.toRow →
      k.listEnabled s = .ok as

/-- The rows of a table are those of whole records, no two of one name. -/
structure Shows (t : RecordTable α ρ) (k : RecordKind α) (as : List α) (s : Store) : Prop where
  rows : t.rows s = as.map t.toRow
  whole : ∀ a ∈ as, t.Whole a
  distinct : (as.map k.id).Nodup

variable {t : RecordTable α ρ} {k : RecordKind α} {s : Store} {q : Query} {as : List α}

/-! ### Queries -/

/-- **One query** does to the records that are shown what its reply tells. -/
theorem Shows.answer (ht : t.Serves k) (h : t.Shows k as s) (hq : q.IsKeepable) :
    ∃ as', t.Shows k as' (s.answer q).2 ∧
      Register.ofList k.id as' = k.told s (.ofList k.id as) q := by
  unfold RecordKind.told
  cases hreply : (s.answer q).1 with
  | error e =>
    rw [Store.answer_of_error hreply]
    exact ⟨as, h, rfl⟩
  | ok answer =>
    have haccepted := Store.refusal?_of_ok hreply
    rw [Store.answer_eq_execute s haccepted] at hreply ⊢
    have hrows := ht.rows_execute s q
    cases hd : k.edit? q with
    | none =>
      rw [ht.rowEdit?_of_none hd] at hrows
      exact ⟨as, ⟨hrows.trans h.rows, h.whole, h.distinct⟩, rfl⟩
    | some d =>
      obtain ⟨d', hd', hrenders⟩ := ht.renders hd
      have hpossible : d.Possible k.id (.ofList k.id as) := by
        rw [← hrenders.possible_iff ht.key_toRow, ← h.rows]
        exact (ht.execute_iff hd').mp ⟨answer, hreply⟩
      have hnames := hrenders.keepsNames ht.key_toRow (ht.keepsNames hd')
      rw [hd', h.rows] at hrows
      refine ⟨d.onList k.id as, ⟨?_, ?_, ?_⟩, Register.ofList_onList hnames hpossible⟩
      · exact hrows.trans (hrenders.onList ht.key_toRow as)
      · exact Edit.of_mem_onList (ht.keepsWhole hq hd) h.whole
      · exact Edit.nodup_onList hnames h.distinct

/-- **Many queries** do to the records that are shown what their replies tell. -/
theorem Shows.after (ht : t.Serves k) {qs : List Query} (h : t.Shows k as s)
    (hqs : ∀ q ∈ qs, q.IsKeepable) :
    ∃ as', t.Shows k as' (s.after qs) ∧
      Register.ofList k.id as' = k.toldAll s (.ofList k.id as) qs := by
  induction qs generalizing s as with
  | nil => exact ⟨as, h, rfl⟩
  | cons q qs ih =>
    obtain ⟨as', h', htold⟩ := h.answer ht (hqs q List.mem_cons_self)
    rw [RecordKind.toldAll, ← htold]
    exact ih h' fun q' hq' => hqs q' (List.mem_cons_of_mem q hq')

/-! ### Looking up and listing -/

/-- The rows that pass, in the order of their times, are those of a listing. -/
theorem Shows.listing (ht : t.Serves k) (h : t.Shows k as s) (rowPasses : ρ → Bool)
    (passes : α → Bool) (hpasses : ∀ a, rowPasses (t.toRow a) = passes a) :
    ∃ as', Store.oldestFirst t.time ((t.rows s).filter rowPasses) = as'.map t.toRow ∧
      (∀ a ∈ as', t.Whole a) ∧ Register.Listing k.id k.time (.ofList k.id as) passes as' := by
  refine ⟨Store.oldestFirst (fun a => (k.time a).toMillis) (as.filter passes), ?_, ?_, ?_⟩
  · have hfilter : rowPasses ∘ t.toRow = passes := funext hpasses
    rw [h.rows, List.filter_map, hfilter, Store.oldestFirst_map ht.time_toRow]
  · exact fun a ha => h.whole a (List.mem_filter.mp (Store.mem_oldestFirst.mp ha)).1
  · refine Register.listing_oldestFirst h.distinct (fun a ha b hb => ?_) passes
    exact Timestamp.le_of_toMillis_le (ht.time_of_whole (h.whole a ha))
      (ht.time_of_whole (h.whole b hb))

theorem Shows.succeeds_iff (ht : t.Serves k) (h : t.Shows k as s) {d : Edit α}
    (hd : k.edit? q = some d) : (∃ answer, (s.answer q).1 = .ok answer) ↔
      q.refusal? = none ∧ d.Possible k.id (.ofList k.id as) := by
  obtain ⟨d', hd', hrenders⟩ := ht.renders hd
  rw [← hrenders.possible_iff ht.key_toRow, ← h.rows, ← ht.execute_iff hd']
  constructor
  · rintro ⟨answer, hok⟩
    have haccepted := Store.refusal?_of_ok hok
    rw [Store.answer_eq_execute s haccepted] at hok
    exact ⟨haccepted, answer, hok⟩
  · rintro ⟨haccepted, hok⟩
    rw [Store.answer_eq_execute s haccepted]
    exact hok

theorem Shows.misses (ht : t.Serves k) (h : t.Shows k as s) {d : Edit α}
    (hd : k.edit? q = some d) (hmisses : d.Misses (.ofList k.id as)) : (s.answer q).2 = s := by
  obtain ⟨d', hd', hrenders⟩ := ht.renders hd
  cases hq : q.refusal? with
  | some e => rw [Store.answer_of_refused s hq]
  | none =>
    rw [Store.answer_eq_execute s hq]
    refine ht.execute_of_misses hd' ?_
    rw [h.rows, hrenders.misses_iff ht.key_toRow]
    exact hmisses

/-- **A table that shows records keeps them.** -/
theorem Shows.keptIn (ht : t.Serves k) (h : t.Shows k as s) :
    k.KeptIn (.ofList k.id as) s where
  find id := by
    refine ht.find (fun a ha => h.whole a (List.mem_of_find?_eq_some ha)) ?_
    rw [h.rows]
    exact Register.ofList_map ht.key_toRow as id
  list := by
    obtain ⟨as', hrows, hwhole, hlisting⟩ :=
      h.listing ht (fun _ => true) (fun _ => true) fun _ => rfl
    rw [List.filter_true] at hrows
    exact ⟨as', ht.list hwhole hrows, hlisting⟩
  listEnabled := by
    obtain ⟨as', hrows, hwhole, hlisting⟩ := h.listing ht _ _ ht.enabled_toRow
    exact ⟨as', ht.listEnabled hwhole hrows, hlisting⟩
  succeeds_iff _ _ hd := h.succeeds_iff ht hd
  misses _ _ hd := h.misses ht hd

/-- **A table that serves a kind of records** keeps what the replies to queries told. -/
theorem Serves.keptIn_after (ht : t.Serves k) {qs : List Query}
    (hqs : ∀ q ∈ qs, q.IsKeepable) :
    k.KeptIn (k.toldAll .empty (fun _ => none) qs) (Store.empty.after qs) := by
  have hempty : t.Shows k [] .empty := ⟨ht.rows_empty, by simp, List.nodup_nil⟩
  obtain ⟨as, h, htold⟩ := hempty.after ht hqs
  have hnone : Register.ofList k.id [] = fun _ => none := rfl
  rw [← hnone, ← htold]
  exact h.keptIn ht

end RecordTable

end NetWatch
