/-
NetWatch.Proofs.Store.Devices — what is known of devices (`upsert_device`, `touch_device`).

Two queries write to the row of a device. One records what the device is called
and what it hangs off, and perhaps a sighting; the other notes a sighting and
nothing else. Either enters the device if it is new (`Register.ofList_upsert`).
Each column has its own last word: names and parents are those of the last
record, the sighting is the last that any query told of
(`Store.deviceRows_after`). So neither query undoes what the other wrote, and it
does not matter which of the two came first (`Store.device_after`).

What is shown of a row is not always what was written: a text ends before its
first U+0000, and a leap second is shown as part of the second after it
(`Store.not_device_after`).
-/
import NetWatch.Proofs.Store.Integrity
import NetWatch.Proofs.Time.Millis
import Mathlib.Data.List.Induction

namespace NetWatch

/-- **A record that is entered if its name is free and changed if it is not** is the only one that
becomes another. -/
theorem Register.ofList_upsert {α : Type} (id : α → String) (as : List α) {k : String} {a : α}
    {f : α → α} (ha : id a = k) (hf : ∀ b, id b = k → id (f b) = k) :
    ofList id (if as.any (id · == k) then Store.change (id · == k) f as else as ++ [a]) =
      Function.update (ofList id as) k (some ((ofList id as k).elim a f)) := by
  subst ha
  cases hrow : ofList id as (id a) with
  | none =>
    have hfree : ∀ b ∈ as, id b ≠ id a := ofList_eq_none_iff.mp hrow
    have hnew : as.any (id · == id a) = false := by simpa using hfree
    have hkeeps : (Edit.enter a).KeepsNames id := trivial
    rw [hnew, if_neg (by decide), ← Store.entered_of_free hfree]
    exact ofList_onList hkeeps hrow
  | some b =>
    have hfound : as.find? (id · == id a) = some b := hrow
    have hknown : as.any (id · == id a) = true := by
      rw [List.any_eq_true]
      exact ⟨b, List.mem_of_find?_eq_some hfound, beq_iff_eq.mpr (key_of_find? hfound)⟩
    have hkeeps : (Edit.amend (id a) f).KeepsNames id := hf
    have hamended : ofList id ((Edit.amend (id a) f).onList id as) =
        (Edit.amend (id a) f).apply id (ofList id as) := ofList_onList hkeeps trivial
    rw [Edit.apply, hrow] at hamended
    rw [hknown, if_pos rfl]
    exact hamended

namespace Store

/-- The rows of devices by their names. -/
def deviceRows (s : Store) : Register DeviceRow :=
  .ofList (·.id) s.devices

theorem answer_device (s : Store) (id : String) :
    s.answer (.device id) = (.ok ((s.deviceRows id).map DeviceRow.toDevice), s) :=
  rfl

/-! ## One query -/

/-- **What is recorded of a device** is found afterwards; if it was not sighted, its last sighting
is the one that was known. -/
theorem deviceRows_upsertDevice (s : Store) (d : Device) :
    (s.upsertDevice d).deviceRows = Function.update s.deviceRows d.id (some { d.toRow with
      lastSeen := d.toRow.lastSeen <|> (s.deviceRows d.id).bind (·.lastSeen) }) := by
  let amended (r : DeviceRow) : DeviceRow :=
    { d.toRow with lastSeen := d.toRow.lastSeen <|> r.lastSeen }
  have hdevices : (s.upsertDevice d).devices = if s.devices.any (·.id == d.id) then
      change (·.id == d.id) amended s.devices else s.devices ++ [d.toRow] := by
    unfold upsertDevice
    dsimp only
    split <;> rfl
  have hrows := Register.ofList_upsert DeviceRow.id s.devices (k := d.id) (a := d.toRow)
    (f := amended) rfl fun _ _ => rfl
  rw [← hdevices] at hrows
  refine hrows.trans (congrArg (fun r => Function.update s.deviceRows d.id (some r)) ?_)
  show (s.deviceRows d.id).elim d.toRow amended = _
  cases s.deviceRows d.id with
  | none =>
    have hunsighted : (d.toRow.lastSeen <|> none) = d.toRow.lastSeen := by
      cases d.toRow.lastSeen <;> rfl
    show d.toRow = { d.toRow with lastSeen := d.toRow.lastSeen <|> none }
    rw [hunsighted]
  | some r => rfl

/-- **A sighting** is all that changes of a device that is known, and all that is known of one that
was not. -/
theorem deviceRows_touchDevice (s : Store) (id : String) (time : Timestamp) :
    (s.touchDevice id time).deviceRows = Function.update s.deviceRows id
      (some ⟨id, ((s.deviceRows id).map (·.hostname)).getD "",
        (s.deviceRows id).bind (·.parentId), some time.toMillis⟩) := by
  let sighted (r : DeviceRow) : DeviceRow := { r with lastSeen := some time.toMillis }
  have hdevices : (s.touchDevice id time).devices = if s.devices.any (·.id == id) then
      change (·.id == id) sighted s.devices
      else s.devices ++ [⟨id, "", none, some time.toMillis⟩] := by
    unfold touchDevice
    split <;> rfl
  have hrows := Register.ofList_upsert DeviceRow.id s.devices (k := id)
    (a := ⟨id, "", none, some time.toMillis⟩) (f := sighted) rfl fun _ hid => hid
  rw [← hdevices] at hrows
  refine hrows.trans (congrArg (fun r => Function.update s.deviceRows id (some r)) ?_)
  show (s.deviceRows id).elim ⟨id, "", none, some time.toMillis⟩ sighted = _
  cases hrow : s.deviceRows id with
  | none => rfl
  | some r =>
    obtain rfl : r.id = id := key_of_find? hrow
    rfl

end Store

/-! ## Many queries -/

namespace Query

/-- What a query records of a device. -/
def record? (id : String) : Query → Option Device
  | .upsertDevice d => if d.id = id then some d else none
  | _ => none

/-- When a query says that a device answered. -/
def sighting? (id : String) : Query → Option Timestamp
  | .upsertDevice d => if d.id = id then d.lastSeen else none
  | .touchDevice id' time => if id' = id then some time else none
  | _ => none

/-- What was recorded last of a device. -/
def lastRecord? (qs : List Query) (id : String) : Option Device :=
  qs.reverse.findSome? (record? id)

/-- When a device answered, as far as was told last. -/
def lastSighting? (qs : List Query) (id : String) : Option Timestamp :=
  qs.reverse.findSome? (sighting? id)

theorem lastRecord?_concat (qs : List Query) (q : Query) (id : String) :
    lastRecord? (qs ++ [q]) id = (q.record? id).or (lastRecord? qs id) := by
  rw [lastRecord?, List.reverse_concat, List.findSome?_cons]
  cases q.record? id <;> rfl

theorem lastSighting?_concat (qs : List Query) (q : Query) (id : String) :
    lastSighting? (qs ++ [q]) id = (q.sighting? id).or (lastSighting? qs id) := by
  rw [lastSighting?, List.reverse_concat, List.findSome?_cons]
  cases q.sighting? id <;> rfl

end Query

open Query (lastRecord? lastSighting?)

/-- The row of a device once it was recorded or sighted; what was not told is what it was. -/
def DeviceRow.told (id : String) (old : Option DeviceRow) :
    Option Device → Option Timestamp → Option DeviceRow
  | none, none => old
  | some d, sighting =>
    some ⟨id, d.hostname, d.parentId, sighting.map Timestamp.toMillis <|> old.bind (·.lastSeen)⟩
  | none, some time =>
    some ⟨id, (old.map (·.hostname)).getD "", old.bind (·.parentId), some time.toMillis⟩

/-- Of what is told twice the later counts. -/
theorem DeviceRow.told_told (id : String) (old : Option DeviceRow) (record record' : Option Device)
    (sighting sighting' : Option Timestamp) :
    told id (told id old record sighting) record' sighting' =
      told id old (record'.or record) (sighting'.or sighting) := by
  cases record <;> cases record' <;> cases sighting <;> cases sighting' <;> cases old <;> rfl

/-- What is shown of a device of which this is the last record and this the last sighting. -/
def Device.ofLast (id : String) : Option Device → Option Timestamp → Option Device
  | none, none => none
  | record, sighting =>
    some ⟨shownText id, (record.map fun d => shownText d.hostname).getD "",
      ((record.bind (·.parentId)).map shownText).filter (· ≠ ""),
      sighting.map fun time => .ofMillis time.toMillis⟩

theorem DeviceRow.toDevice_told (id : String) (record : Option Device)
    (sighting : Option Timestamp) :
    (told id none record sighting).map toDevice = Device.ofLast id record sighting := by
  cases record <;> cases sighting <;> rfl

namespace Store

/-- **What one query does to the row of a device.** -/
theorem deviceRows_answer (s : Store) (q : Query) (id : String) :
    (s.answer q).2.deviceRows id =
      DeviceRow.told id (s.deviceRows id) (q.record? id) (q.sighting? id) := by
  cases q with
  | upsertDevice d =>
    show (s.upsertDevice d).deviceRows id =
      DeviceRow.told id _ (if d.id = id then some d else none) (if d.id = id then _ else none)
    rw [deviceRows_upsertDevice, Function.update_apply]
    by_cases hid : d.id = id
    · subst hid
      simp only [if_true]
      rfl
    · rw [if_neg (Ne.symm hid), if_neg hid, if_neg hid]
      rfl
  | touchDevice id' time =>
    show (s.touchDevice id' time).deviceRows id =
      DeviceRow.told id _ none (if id' = id then some time else none)
    rw [deviceRows_touchDevice, Function.update_apply]
    by_cases hid : id' = id
    · subst hid
      rw [if_pos rfl, if_pos rfl]
      rfl
    · rw [if_neg (Ne.symm hid), if_neg hid]
      rfl
  | _ =>
    exact congrArg (fun rows => Register.ofList DeviceRow.id rows id)
      ((answer_agrees s _).devices (by simp [Query.writes]))

/-- **Each column of a device has its own last word.** -/
theorem deviceRows_after (s : Store) (qs : List Query) (id : String) :
    (s.after qs).deviceRows id =
      DeviceRow.told id (s.deviceRows id) (lastRecord? qs id) (lastSighting? qs id) := by
  induction qs using List.reverseRecOn with
  | nil => rfl
  | append_singleton qs q ih =>
    rw [after_append]
    show ((s.after qs).answer q).2.deviceRows id = _
    rw [deviceRows_answer, ih, DeviceRow.told_told, Query.lastRecord?_concat,
      Query.lastSighting?_concat]

/-- **Recording a device and noting that it answered never undo each other**: after any queries, a
device is shown as it was last recorded and as seen when it last was, and a record that tells of no
sighting may as well come before a sighting as after it. -/
theorem device_after :
    (∀ qs id, ((empty.after qs).answer (.device id)).1 =
      .ok (Device.ofLast id (lastRecord? qs id) (lastSighting? qs id))) ∧
    ∀ (s : Store) (d : Device) (time : Timestamp) (id : String),
      ((s.after [.upsertDevice { d with lastSeen := none }, .touchDevice d.id time]).answer
        (.device id)).1 =
      ((s.after [.touchDevice d.id time, .upsertDevice { d with lastSeen := none }]).answer
        (.device id)).1 := by
  constructor
  · intro qs id
    rw [answer_device, deviceRows_after]
    exact congrArg Except.ok (DeviceRow.toDevice_told id _ _)
  · intro s d time id
    have hrecord : lastRecord?
          [.upsertDevice { d with lastSeen := none }, .touchDevice d.id time] id =
        lastRecord? [.touchDevice d.id time, .upsertDevice { d with lastSeen := none }] id := by
      by_cases hid : d.id = id <;> simp [lastRecord?, Query.record?, List.findSome?_cons, hid]
    have hsighting : lastSighting?
          [.upsertDevice { d with lastSeen := none }, .touchDevice d.id time] id =
        lastSighting? [.touchDevice d.id time, .upsertDevice { d with lastSeen := none }] id := by
      by_cases hid : d.id = id <;> simp [lastSighting?, Query.sighting?, hid]
    rw [answer_device, answer_device, deviceRows_after, deviceRows_after, hrecord, hsighting]

/-- Not every text and every moment is shown as it was written: a name ends before U+0000, and a
leap second is the second after it. -/
theorem not_device_after :
    (¬∀ qs id d, lastRecord? qs id = some d →
      ∃ found, ((empty.after qs).answer (.device id)).1 = .ok (some found) ∧
        found.hostname = d.hostname) ∧
    ¬∀ qs id time, lastSighting? qs id = some time →
      ∃ found, ((empty.after qs).answer (.device id)).1 = .ok (some found) ∧
        found.lastSeen = some time.floorMillis := by
  constructor
  · intro h
    let d : Device := .create "d1" (String.ofList ['a', Char.ofNat 0, 'b'])
    obtain ⟨found, hanswer, hname⟩ := h [.upsertDevice d] "d1" d rfl
    cases hanswer
    exact absurd hname (by decide)
  · intro h
    let time : Timestamp := ⟨1483228799, 1500000000, by omega, by omega, by omega⟩
    obtain ⟨found, hanswer, hseen⟩ := h [.touchDevice "d1" time] "d1" time rfl
    cases hanswer
    exact absurd hseen (by decide)

end Store

end NetWatch
