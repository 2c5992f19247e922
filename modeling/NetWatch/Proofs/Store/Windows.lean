/-
NetWatch.Proofs.Store.Windows — what the windows in the store say (`list_enabled_windows`).

The devices of a window are kept as the text of a JSON array. No U+0000 stands
in such a text, because it is spelled out there, and so the row of a window
shows the devices that were entered, whatever they are called.

`Store.exists_enabledWindows` is the point: looking up the enabled windows is
always answered, and whether a device is covered by one of them in force can be
read off the rows.
-/
import NetWatch.Maintenance
import NetWatch.Proofs.Json.RoundTrip
import NetWatch.Proofs.Store.Lookup
import NetWatch.Proofs.Store.PlainText
import Mathlib.Data.List.Forall2

namespace NetWatch

/-! ## Written lists of devices -/

namespace Json

theorem digitChar_ne_nul {n : Nat} (h : n < 16) : Text.Hex.digitChar n ≠ Char.ofNat 0 := by
  intro heq
  have hdigit := Text.Hex.digit?_digitChar h
  rw [heq] at hdigit
  have hnone : Text.Hex.digit? (Char.ofNat 0) = none := by decide
  rw [hnone] at hdigit
  cases hdigit

/-- A written character is never U+0000, which is spelled out. -/
theorem nul_not_mem_escapedChar (c : Char) : Char.ofNat 0 ∉ escapedChar c := by
  unfold escapedChar
  iterate 7
    split
    · decide
  split
  · rename_i hlt
    have hhigh := digitChar_ne_nul (show c.toNat / 16 < 16 by omega)
    have hlow := digitChar_ne_nul (show c.toNat % 16 < 16 by omega)
    simp [hhigh.symm, hlow.symm]
  · rename_i hge
    rw [List.mem_singleton]
    rintro rfl
    exact hge (by decide)

theorem nul_not_mem_stringChars (s : String) : Char.ofNat 0 ∉ stringChars s := by
  simp [stringChars, nul_not_mem_escapedChar]

theorem nul_not_mem_itemChars (texts : List String) :
    Char.ofNat 0 ∉ itemChars (texts.map .string) := by
  induction texts with
  | nil => decide
  | cons s rest ih =>
    rw [List.map_cons, itemChars, Value.chars]
    simp [nul_not_mem_stringChars, ih]

end Json

/-- **The text of a list of devices is plain**, whatever the devices are called. -/
theorem plainText_deviceIdsJson (ids : List String) :
    PlainText (Window.deviceIdsJson ids).text := by
  unfold PlainText Json.Value.text Window.deviceIdsJson
  rw [String.toList_ofList]
  cases ids with
  | nil => decide
  | cons s rest =>
    rw [List.map_cons, Json.Value.chars, Json.Value.chars]
    simp [Json.nul_not_mem_stringChars, Json.nul_not_mem_itemChars]

/-! ## Rows -/

namespace WindowRow

/-- The row of a window that was entered with a plain recurrence. -/
structure IsPlain (r : WindowRow) : Prop where
  recurrence : PlainText r.recurrence
  deviceIds : ∃ ids, r.deviceIds = (Window.deviceIdsJson ids).text

/-- Whether a row lists a device. -/
def Lists (r : WindowRow) (deviceId : String) : Prop :=
  ∃ ids, r.deviceIds = (Window.deviceIdsJson ids).text ∧ deviceId ∈ ids

/-- Whether the window of a row is in force. -/
def inForce (r : WindowRow) (now : Timestamp) : Bool :=
  inWindow now (.ofMillis r.startTime) (.ofMillis r.endTime) r.recurrence

/-- Whether a window says of every device what a row says. -/
structure Shows (r : WindowRow) (window : Window) : Prop where
  enabled : window.enabled = r.enabled
  lists : ∀ deviceId, window.coversDevice deviceId = true ↔ r.Lists deviceId
  inForce : ∀ now, window.inForce now = r.inForce now

/-- Lists of devices can be told apart by their texts. -/
theorem deviceIdsJson_text_injective {ids ids' : List String}
    (h : (Window.deviceIdsJson ids).text = (Window.deviceIdsJson ids').text) : ids = ids' := by
  have hread := Json.readText?_strings ids
  have hread' := Json.readText?_strings ids'
  rw [← Window.deviceIdsJson, h] at hread
  exact Except.ok.inj (hread.symm.trans hread')

/-- The devices that were written down are read back. -/
theorem readDevices {r : WindowRow} {ids : List String}
    (h : r.deviceIds = (Window.deviceIdsJson ids).text) :
    Json.readText? (Json.readList Json.readText) (shownText r.deviceIds) = .ok ids := by
  rw [h, shownText_eq_self (plainText_deviceIdsJson ids)]
  exact Json.readText?_strings ids

/-- **A plain row can be read**, and shows what it holds. -/
theorem IsPlain.exists_toWindow {r : WindowRow} (h : r.IsPlain) :
    ∃ window, r.toWindow = .ok window ∧ r.Shows window := by
  obtain ⟨ids, hids⟩ := h.deviceIds
  unfold toWindow
  rw [readDevices hids]
  refine ⟨_, rfl, rfl, fun deviceId => ?_, fun now => ?_⟩
  · have hlists : r.Lists deviceId ↔ deviceId ∈ ids := by
      constructor
      · rintro ⟨ids', hids', hmem⟩
        rw [deviceIdsJson_text_injective (hids.symm.trans hids')]
        exact hmem
      · exact fun hmem => ⟨ids, hids, hmem⟩
    rw [hlists]
    simp [Window.coversDevice]
  · show inWindow _ _ _ (shownText r.recurrence) = _
    rw [shownText_eq_self h.recurrence]
    rfl

end WindowRow

/-! ## Looking up the enabled windows -/

namespace Store

/-- Rows that can be read are read one by one. -/
theorem exists_readWindows_eq_ok {rows : List WindowRow} (h : ∀ r ∈ rows, r.IsPlain) :
    ∃ windows, readWindows rows = .ok windows ∧ List.Forall₂ WindowRow.Shows rows windows := by
  induction rows with
  | nil => exact ⟨[], rfl, .nil⟩
  | cons r rest ih =>
    obtain ⟨window, hwindow, hshows⟩ := (h r List.mem_cons_self).exists_toWindow
    obtain ⟨windows, hwindows, hall⟩ := ih fun r' hr' => h r' (List.mem_cons_of_mem r hr')
    refine ⟨window :: windows, ?_, .cons hshows hall⟩
    unfold readWindows
    rw [hwindow, hwindows]
    rfl

/-- Whether one of some windows covers a device can be read off their rows. -/
theorem covered_iff {rows : List WindowRow} {windows : List Window}
    (h : List.Forall₂ WindowRow.Shows rows windows) (now : Timestamp) (deviceId : String) :
    Maintenance.covered windows now deviceId = true ↔
      ∃ r ∈ rows, r.enabled = true ∧ r.Lists deviceId ∧ r.inForce now = true := by
  induction h with
  | nil => simp [Maintenance.covered]
  | @cons r window rows windows hshows _ ih =>
    have hfirst : (window.enabled && window.coversDevice deviceId && window.inForce now) = true ↔
        r.enabled = true ∧ r.Lists deviceId ∧ r.inForce now = true := by
      rw [Bool.and_eq_true, Bool.and_eq_true, hshows.enabled, hshows.lists, hshows.inForce,
        and_assoc]
    unfold Maintenance.covered at ih ⊢
    rw [List.any_cons, Bool.or_eq_true, hfirst, ih]
    simp only [List.mem_cons, exists_eq_or_imp]

/-- Whether a device is under maintenance, by the rows of the windows. -/
def UnderMaintenance (s : Store) (now : Timestamp) (deviceId : String) : Prop :=
  ∃ r ∈ s.windows, r.enabled = true ∧ r.Lists deviceId ∧ r.inForce now = true

/-- **The look-up of the enabled windows is answered**, and the answer covers the
devices that are under maintenance. -/
theorem exists_enabledWindows {s : Store} (h : ∀ r ∈ s.windows, r.IsPlain) :
    ∃ windows, (s.answer .enabledWindows).1 = .ok windows ∧
      ∀ now deviceId, Maintenance.covered windows now deviceId = true ↔
        s.UnderMaintenance now deviceId := by
  have hmem : ∀ r, r ∈ oldestFirst WindowRow.startTime (s.windows.filter (·.enabled)) ↔
      r ∈ s.windows ∧ r.enabled = true := by
    intro r
    rw [mem_oldestFirst, List.mem_filter]
  obtain ⟨windows, hwindows, hall⟩ :=
    exists_readWindows_eq_ok fun r hr => h r ((hmem r).1 hr).1
  refine ⟨windows, ?_, fun now deviceId => ?_⟩
  · show (readReply .enabledWindows s (readWindows _)).1 = _
    rw [hwindows]
    rfl
  · rw [covered_iff hall]
    constructor
    · rintro ⟨r, hr, hrest⟩
      exact ⟨r, ((hmem r).1 hr).1, hrest⟩
    · rintro ⟨r, hr, henabled, hrest⟩
      exact ⟨r, (hmem r).2 ⟨hr, henabled⟩, henabled, hrest⟩

end Store

end NetWatch
