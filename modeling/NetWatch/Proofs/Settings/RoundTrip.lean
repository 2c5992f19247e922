/-
NetWatch.Proofs.Settings.RoundTrip — settings are read from the document that they are written
to (`from_config`, `write_config`).

The way back has three stations. The lines of the document are the statements
that they were written for (`Settings.lines_tomlText`); the statements make up
the tables of the settings (`Settings.ofText?_tomlText`); and the fields of the
tables are read as the numbers and the text that they were
(`Settings.read_toJson`).

Numbers are the only thing that can go wrong: a document has none beyond
9223372036854775807, whereas some settings have 64 bits without a sign
(`Settings.longNumbers`).
-/
import NetWatch.Proofs.Json.Records
import NetWatch.Proofs.Toml.Lines
import NetWatch.Settings.Document

namespace NetWatch.Settings

open Json Toml

/-! ## Lines -/

theorem readsAs_number {name : String} (hname : IsBare name) {n : Nat}
    (hn : n ≤ 9223372036854775807) :
    ReadsAs (entry name (Text.decimal n)) (.pair [] name (.nat n)) :=
  readsAs_pair hname (spelled_decimal hn)

theorem readsAs_text {name : String} (hname : IsBare name) (s : String) :
    ReadsAs (entry name (writeString s.toList)) (.pair [] name (.string s)) := by
  have hs := spelled_writeString s.toList
  rw [String.ofList_toList] at hs
  exact readsAs_pair hname hs

/-- What the lines of a document with settings are read as. -/
def statementsOf (s : Settings) : List Statement :=
  let m := s.monitor
  [.table [] "pulse",
    .pair [] "check_interval_secs" (.nat m.checkIntervalSecs.toNat),
    .pair [] "ping_timeout_secs" (.nat m.pingTimeoutSecs.toNat),
    .pair [] "ping_count" (.nat m.pingCount.toNat),
    .pair [] "consecutive_failures" (.nat m.consecutiveFailures.toNat),
    .pair [] "retention_days" (.nat m.retentionDays.toNat),
    .pair [] "max_workers" (.nat m.maxWorkers.toNat),
    .pair [] "maintenance_interval_secs" (.nat m.maintenanceIntervalSecs.toNat),
    .pair [] "correlation_window_secs" (.nat m.correlationWindowSecs.toNat),
    .blank,
    .table [] "notifications",
    .pair [] "timeout_secs" (.nat s.notifications.timeoutSecs.toNat),
    .blank,
    .table [] "database",
    .pair [] "path" (.string s.database.path),
    .pair [] "max_connections" (.nat s.database.maxConnections.toNat)]

/-- The numbers of 64 bits among the settings. -/
def longNumbers (s : Settings) : List UInt64 :=
  [s.monitor.checkIntervalSecs, s.monitor.pingTimeoutSecs, s.monitor.maxWorkers,
    s.monitor.maintenanceIntervalSecs, s.monitor.correlationWindowSecs,
    s.notifications.timeoutSecs, s.database.maxConnections]

theorem isWritable_iff {s : Settings} :
    s.isWritable = true ↔ ∀ n ∈ s.longNumbers, n.toNat ≤ 9223372036854775807 := by
  unfold isWritable
  rw [List.all_eq_true]
  refine forall₂_congr fun n _ => ?_
  rw [decide_eq_true_iff]
  omega

theorem lines_tomlText {s : Settings} (h : ∀ n ∈ s.longNumbers, n.toNat ≤ 9223372036854775807) :
    Lines s.tomlText s.statementsOf := by
  have hnumber : ∀ {name : String} {n : UInt64}, IsBare name → n ∈ s.longNumbers →
      ReadsAs (entry name (Text.decimal n.toNat)) (.pair [] name (.nat n.toNat)) :=
    fun hname hn => readsAs_number hname (h _ hn)
  have hcount := s.monitor.pingCount.toNat_lt
  have hfailures := s.monitor.consecutiveFailures.toNat_lt
  have hdays := s.monitor.retentionDays.toNat_lt
  unfold tomlText statementsOf
  simp only [List.append_assoc]
  refine .cons (readsAs_header ⟨by decide, by decide⟩) ?_
  refine .cons (hnumber ⟨by decide, by decide⟩ (by simp [longNumbers])) ?_
  refine .cons (hnumber ⟨by decide, by decide⟩ (by simp [longNumbers])) ?_
  refine .cons (readsAs_number ⟨by decide, by decide⟩ (by omega)) ?_
  refine .cons (readsAs_number ⟨by decide, by decide⟩ (by omega)) ?_
  refine .cons (readsAs_number ⟨by decide, by decide⟩ (by omega)) ?_
  refine .cons (hnumber ⟨by decide, by decide⟩ (by simp [longNumbers])) ?_
  refine .cons (hnumber ⟨by decide, by decide⟩ (by simp [longNumbers])) ?_
  refine .cons (hnumber ⟨by decide, by decide⟩ (by simp [longNumbers])) ?_
  refine .cons readsAs_blank ?_
  refine .cons (readsAs_header ⟨by decide, by decide⟩) ?_
  refine .cons (hnumber ⟨by decide, by decide⟩ (by simp [longNumbers])) ?_
  refine .cons readsAs_blank ?_
  refine .cons (readsAs_header ⟨by decide, by decide⟩) ?_
  refine .cons (readsAs_text ⟨by decide, by decide⟩ _) ?_
  rw [← List.append_nil (entry "max_connections" _)]
  exact .cons (hnumber ⟨by decide, by decide⟩ (by simp [longNumbers])) .nil

/-! ## Tables -/

theorem ofText?_tomlText {s : Settings} (h : ∀ n ∈ s.longNumbers, n.toNat ≤ 9223372036854775807) :
    Toml.ofText? (String.ofList s.tomlText) = some s.toJson := by
  have hstatements := statements_lines (lines_tomlText h)
  have hmark : skipMark s.tomlText = s.tomlText := rfl
  unfold Toml.ofText?
  rw [String.toList_ofList, hmark, hstatements]
  rfl

/-! ## Reading -/

/-- The members of the part about checks. -/
def monitorMembers (m : MonitorSettings) : List (String × Value) :=
  [("check_interval_secs", .nat m.checkIntervalSecs.toNat),
    ("ping_timeout_secs", .nat m.pingTimeoutSecs.toNat), ("ping_count", .nat m.pingCount.toNat),
    ("consecutive_failures", .nat m.consecutiveFailures.toNat),
    ("retention_days", .nat m.retentionDays.toNat), ("max_workers", .nat m.maxWorkers.toNat),
    ("maintenance_interval_secs", .nat m.maintenanceIntervalSecs.toNat),
    ("correlation_window_secs", .nat m.correlationWindowSecs.toNat)]

theorem read_monitor (surplus : Surplus) (m : MonitorSettings) :
    MonitorSettings.read surplus (Tree.ofValue (.object (monitorMembers m))) = .ok m := by
  have hfits : ∀ x ∈ monitorMembers m, ∃ f,
      MonitorSettings.shape.fields.find? (·.name == x.1) = some f ∧
        f.check (Tree.ofValue x.2) = .ok () := by
    simp only [monitorMembers, List.forall_mem_cons]
    exact ⟨⟨_, rfl, Field.check_of (readWord64_nat _)⟩, ⟨_, rfl, Field.check_of (readWord64_nat _)⟩,
      ⟨_, rfl, Field.check_of (readWord16_nat _)⟩, ⟨_, rfl, Field.check_of (readWord32_nat _)⟩,
      ⟨_, rfl, Field.check_of (readWord32_nat _)⟩, ⟨_, rfl, Field.check_of (readSize_nat _)⟩,
      ⟨_, rfl, Field.check_of (readWord64_nat _)⟩, ⟨_, rfl, Field.check_of (readWord64_nat _)⟩,
      List.forall_mem_nil _⟩
  have hdistinct : ((monitorMembers m).map (·.1)).Nodup := by simp [monitorMembers]
  have hshape := Shape.read_object hdistinct hfits rfl surplus
  unfold MonitorSettings.read
  rw [hshape]
  simp [monitorMembers, Members.getD, Members.tree?, readWord64_nat, readWord32_nat,
    readWord16_nat, readSize_nat, Bind.bind, Except.bind, Pure.pure, Except.pure]

theorem read_notifications (surplus : Surplus) (n : NotificationSettings) :
    NotificationSettings.read surplus
      (Tree.ofValue (.object [("timeout_secs", .nat n.timeoutSecs.toNat)])) = .ok n := by
  let members : List (String × Value) := [("timeout_secs", .nat n.timeoutSecs.toNat)]
  have hfits : ∀ x ∈ members, ∃ f,
      NotificationSettings.shape.fields.find? (·.name == x.1) = some f ∧
        f.check (Tree.ofValue x.2) = .ok () := by
    simp only [members, List.forall_mem_cons]
    exact ⟨⟨_, rfl, Field.check_of (readWord64_nat _)⟩, List.forall_mem_nil _⟩
  have hdistinct : (members.map (·.1)).Nodup := by simp [members]
  have hshape := Shape.read_object hdistinct hfits rfl surplus
  simp [NotificationSettings.read, hshape, members, Members.getD, Members.tree?, readWord64_nat,
    Bind.bind, Except.bind, Pure.pure, Except.pure]

theorem read_database (surplus : Surplus) (d : DatabaseSettings) :
    DatabaseSettings.read surplus (Tree.ofValue (.object [("path", .string d.path),
      ("max_connections", .nat d.maxConnections.toNat)])) = .ok d := by
  let members : List (String × Value) :=
    [("path", .string d.path), ("max_connections", .nat d.maxConnections.toNat)]
  have hfits : ∀ x ∈ members, ∃ f,
      DatabaseSettings.shape.fields.find? (·.name == x.1) = some f ∧
        f.check (Tree.ofValue x.2) = .ok () := by
    simp only [members, List.forall_mem_cons]
    exact ⟨⟨_, rfl, Field.check_of (readText_string _)⟩,
      ⟨_, rfl, Field.check_of (readSize_nat _)⟩, List.forall_mem_nil _⟩
  have hdistinct : (members.map (·.1)).Nodup := by simp [members]
  have hshape := Shape.read_object hdistinct hfits rfl surplus
  simp [DatabaseSettings.read, hshape, members, Members.getD, Members.tree?, readText_string,
    readSize_nat, Bind.bind, Except.bind, Pure.pure, Except.pure]

/-- **Settings are read from their own members.** -/
theorem read_toJson (surplus : Surplus) (s : Settings) :
    read surplus (Tree.ofValue s.toJson) = .ok s := by
  have hmonitor := read_monitor surplus s.monitor
  have hnotifications := read_notifications surplus s.notifications
  have hdatabase := read_database surplus s.database
  let members : List (String × Value) :=
    [("pulse", .object (monitorMembers s.monitor)),
      ("notifications", .object [("timeout_secs", .nat s.notifications.timeoutSecs.toNat)]),
      ("database", .object [("path", .string s.database.path),
        ("max_connections", .nat s.database.maxConnections.toNat)])]
  have hfits : ∀ x ∈ members, ∃ f, (shape surplus).fields.find? (·.name == x.1) = some f ∧
      f.check (Tree.ofValue x.2) = .ok () := by
    simp only [members, List.forall_mem_cons]
    exact ⟨⟨_, rfl, Field.check_of hmonitor⟩, ⟨_, rfl, Field.check_of hnotifications⟩,
      ⟨_, rfl, Field.check_of hdatabase⟩, List.forall_mem_nil _⟩
  have hdistinct : (members.map (·.1)).Nodup := by simp [members]
  have hshape := Shape.read_object hdistinct hfits rfl surplus
  have hjson : s.toJson = .object members := rfl
  rw [hjson]
  simp [read, hshape, members, Members.getD, Members.tree?, hmonitor, hnotifications, hdatabase,
    Bind.bind, Except.bind, Pure.pure, Except.pure]

/-! ## Documents -/

/-- **Settings that can be written are read from their document as they were.** -/
theorem ofToml?_tomlText {s : Settings} (h : ∀ n ∈ s.longNumbers, n.toNat ≤ 9223372036854775807) :
    ofToml? (String.ofList s.tomlText) = some s := by
  unfold ofToml?
  rw [ofText?_tomlText h]
  simp only [read_toJson]

end NetWatch.Settings
