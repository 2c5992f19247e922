/-
NetWatch.Proofs.Notification.WebhookBody — what a webhook is told.

The body that a webhook is posted (`WebhookPayload`) holds an alert in the form
in which alerts are written everywhere: what is unset is left out, and moments
are texts. A reader of alerts finds every field where it was written and takes
what is not there as unset (`Alert.read_toJson`). Texts and numbers are read as
they were written, and so are moments, in years of any sign, with one exception:
a leap second that does not end a minute is written as the second after it
(`Rfc3339.parse?_format`). So whoever gets the body knows the transition, the
alert with such moments carried over (`Alert.carried`) and the time of posting
(`Notifier.webhook_body_told`); an alert with no such moment is known as it is
(`Alert.carried_eq_self_iff`), any other is not
(`Notifier.not_told_of_leap_second_within_minute`).
-/
import NetWatch.Notification.Payload
import NetWatch.Proofs.Json.Records
import NetWatch.Proofs.Json.RoundTrip
import NetWatch.Proofs.Notification.Bulletin
import NetWatch.Proofs.Time.RoundTrip

namespace NetWatch

open Json

/-! ## Values -/

namespace Json

theorem readTimestamp_timestamp (t : Timestamp) :
    readTimestamp (Tree.ofValue (timestamp t)) = .ok t.carried := by
  simp only [timestamp, Tree.ofValue, readTimestamp, Rfc3339.parse?_format]

/-- A value that is set is read as it is without the choice to leave it out. -/
theorem readOptional_of {α : Type} {r : Reader α} {t : Tree} {a : α} (ht : t ≠ .atom .null)
    (h : r t = .ok a) : readOptional r t = .ok (some a) := by
  unfold readOptional
  split
  · exact absurd rfl ht
  · rw [h]
    rfl

theorem readOptional_timestamp (t : Timestamp) :
    readOptional readTimestamp (Tree.ofValue (timestamp t)) = .ok (some t.carried) :=
  readOptional_of (fun h => by cases h) (readTimestamp_timestamp t)

/-- What holds of a member that may be left out is only asked of it if it is there. -/
theorem forall_mem_optionalMember {α : Type} {name : String} {write : α → Value} {o : Option α}
    {P : String × Value → Prop} :
    (∀ m ∈ optionalMember name (o.map write), P m) ↔ ∀ a ∈ o, P (name, write a) := by
  cases o <;> simp [optionalMember]

namespace Members

/-! Looking a field up among members some of which may be left out. -/

@[simp] theorem tree?_nil (name : String) : tree? [] name = none :=
  rfl

@[simp] theorem tree?_cons (k : String) (t : Tree) (m : Members) (name : String) :
    tree? ((k, t) :: m) name = if k = name then some t else tree? m name := by
  by_cases h : k = name <;> simp [tree?, h]

@[simp] theorem tree?_append (m m' : Members) (name : String) :
    tree? (m ++ m') name = (tree? m name).or (tree? m' name) := by
  simp [tree?, List.find?_append, Option.map_or]

@[simp] theorem tree?_optionalMember (k : String) (v : Option Value) (name : String) :
    tree? ((optionalMember k v).map fun m => (m.1, Tree.ofValue m.2)) name =
      if k = name then v.map Tree.ofValue else none := by
  cases v <;> simp [optionalMember]

theorem get_of {α : Type} {m : Members} {r : Reader α} {name : String} {t : Tree} {a : α}
    (htree : tree? m name = some t) (h : r t = .ok a) : m.get r name = .ok a := by
  simp only [get, htree, h]

theorem getOptional_of {α : Type} {m : Members} {r : Reader α} {name : String}
    {write : α → Value} {f : α → α} {o : Option α}
    (htree : tree? m name = (o.map write).map Tree.ofValue)
    (h : ∀ a, readOptional r (Tree.ofValue (write a)) = .ok (some (f a))) :
    m.getOptional r name = .ok (o.map f) := by
  cases o with
  | none => simp only [getOptional, htree, Option.map_none]
  | some a => simp only [getOptional, htree, Option.map_some, h]

end Members

end Json

/-! ## Alerts -/

namespace Alert

/-- The members of the written form of an alert. -/
def members (a : Alert) : List (String × Value) :=
  [("id", .string a.id), ("check_id", .string a.checkId), ("device_id", .string a.deviceId),
    ("severity", .string a.severity.name), ("message", .string a.message),
    ("triggered_at", timestamp a.triggeredAt)] ++
    optionalMember "resolved_at" (a.resolvedAt.map timestamp) ++
    optionalMember "acknowledged_at" (a.acknowledgedAt.map timestamp) ++
    [("consecutive_failures", .nat a.consecutiveFailures.toNat),
      ("suppressed", .bool a.suppressed)] ++
    optionalMember "suppressed_by" (a.suppressedBy.map .string)

theorem readTag_severity (s : Severity) :
    readTag Severity.tags (Tree.ofValue (.string s.name)) = .ok s := by
  cases s <;> rfl

theorem members_fit (a : Alert) : ∀ m ∈ a.members,
    ∃ f, shape.fields.find? (·.name == m.1) = some f ∧ f.check (Tree.ofValue m.2) = .ok () := by
  simp only [members, List.forall_mem_append, List.forall_mem_cons, forall_mem_optionalMember]
  refine ⟨⟨⟨⟨?_, ?_⟩, ?_⟩, ?_⟩, ?_⟩
  · exact ⟨⟨_, rfl, rfl⟩, ⟨_, rfl, rfl⟩, ⟨_, rfl, rfl⟩,
      ⟨_, rfl, Field.check_of (readTag_severity _)⟩, ⟨_, rfl, rfl⟩,
      ⟨_, rfl, Field.check_of (readTimestamp_timestamp _)⟩, List.forall_mem_nil _⟩
  · exact fun t _ => ⟨_, rfl, Field.check_of (readOptional_timestamp t)⟩
  · exact fun t _ => ⟨_, rfl, Field.check_of (readOptional_timestamp t)⟩
  · exact ⟨⟨_, rfl, Field.check_of (readWord32_nat _)⟩, ⟨_, rfl, rfl⟩, List.forall_mem_nil _⟩
  · exact fun s _ => ⟨_, rfl, rfl⟩

theorem nodup_members (a : Alert) : (a.members.map (·.1)).Nodup := by
  -- Which members there are depends on the three fields that may be unset, and on nothing else.
  obtain ⟨_, _, _, _, _, _, resolvedAt, acknowledgedAt, _, _, suppressedBy⟩ := a
  cases resolvedAt <;> cases acknowledgedAt <;> cases suppressedBy <;>
    simp [members, optionalMember]

/-- What is unset is left out. -/
theorem left_out (a : Alert) :
    ("resolved_at" ∈ a.members.map (·.1) ↔ a.resolvedAt.isSome) ∧
      ("acknowledged_at" ∈ a.members.map (·.1) ↔ a.acknowledgedAt.isSome) ∧
      ("suppressed_by" ∈ a.members.map (·.1) ↔ a.suppressedBy.isSome) := by
  obtain ⟨_, _, _, _, _, _, resolvedAt, acknowledgedAt, _, _, suppressedBy⟩ := a
  cases resolvedAt <;> cases acknowledgedAt <;> cases suppressedBy <;>
    simp [members, optionalMember]

/-- The alert that the text of an alert stands for: leap seconds that do not end a minute are
carried over. -/
def carried (a : Alert) : Alert :=
  { a with
    triggeredAt := a.triggeredAt.carried
    resolvedAt := a.resolvedAt.map Timestamp.carried
    acknowledgedAt := a.acknowledgedAt.map Timestamp.carried }

/-- The moments of an alert. -/
def moments (a : Alert) : List Timestamp :=
  a.triggeredAt :: (a.resolvedAt.toList ++ a.acknowledgedAt.toList)

/-- The alert is its own text's just if every leap second in it ends a minute. -/
theorem carried_eq_self_iff {a : Alert} :
    a.carried = a ↔ ∀ t ∈ a.moments, t.isLeap = true → t.seconds % 60 = 59 := by
  have hoption (o : Option Timestamp) : o.map Timestamp.carried = o ↔
      ∀ t ∈ o.toList, t.isLeap = true → t.seconds % 60 = 59 := by
    cases o <;> simp [Timestamp.carried_eq_self_iff]
  obtain ⟨_, _, _, _, _, triggeredAt, resolvedAt, acknowledgedAt, _, _, _⟩ := a
  simp only [carried, moments, Alert.mk.injEq, hoption, Timestamp.carried_eq_self_iff,
    List.forall_mem_cons, List.forall_mem_append, true_and, and_true]

/-- **An alert is read as it was written**, leap seconds that do not end a minute aside, and what
was left out as unset. -/
theorem read_toJson (a : Alert) : read (Tree.ofValue a.toJson) = .ok a.carried := by
  have hjson : a.toJson = .object a.members := rfl
  let m : Members := a.members.map fun m => (m.1, Tree.ofValue m.2)
  have hnone : shape.missing? m = none := by
    simp [m, shape, members, Shape.missing?, Field.of]
  have hshape : shape.read .malformed (Tree.ofValue (.object a.members)) = .ok m :=
    Shape.read_object a.nodup_members a.members_fit hnone .malformed
  have htext {name s : String} (h : m.tree? name = some (Tree.ofValue (.string s))) :
      m.get readText name = .ok s :=
    Members.get_of h rfl
  have hid : m.get readText "id" = .ok a.id := htext rfl
  have hcheckId : m.get readText "check_id" = .ok a.checkId := htext rfl
  have hdeviceId : m.get readText "device_id" = .ok a.deviceId := htext rfl
  have hseverity : m.get (readTag Severity.tags) "severity" = .ok a.severity :=
    Members.get_of rfl (readTag_severity a.severity)
  have hmessage : m.get readText "message" = .ok a.message := htext rfl
  have htriggeredAt : m.get readTimestamp "triggered_at" = .ok a.triggeredAt.carried :=
    Members.get_of rfl (readTimestamp_timestamp a.triggeredAt)
  -- From here on the fields before may have been left out, so a look-up has to step over them.
  have hresolvedAt : m.getOptional readTimestamp "resolved_at" =
      .ok (a.resolvedAt.map Timestamp.carried) :=
    Members.getOptional_of (by simp [m, members]) readOptional_timestamp
  have hacknowledgedAt : m.getOptional readTimestamp "acknowledged_at" =
      .ok (a.acknowledgedAt.map Timestamp.carried) :=
    Members.getOptional_of (by simp [m, members]) readOptional_timestamp
  have hfailures : m.get readWord32 "consecutive_failures" = .ok a.consecutiveFailures :=
    Members.get_of (by simp [m, members]) (readWord32_nat a.consecutiveFailures)
  have hsuppressed : m.get readBool "suppressed" = .ok a.suppressed :=
    Members.get_of (t := Tree.ofValue (.bool a.suppressed)) (by simp [m, members]) rfl
  have hsuppressedBy : m.getOptional readText "suppressed_by" =
      .ok (a.suppressedBy.map fun s => s) :=
    Members.getOptional_of (by simp [m, members]; rfl) fun _ => rfl
  rw [Option.map_id'] at hsuppressedBy
  unfold read
  rw [hjson, hshape]
  simp only [Bind.bind, Except.bind, Pure.pure, Except.pure, hid, hcheckId, hdeviceId, hseverity,
    hmessage, htriggeredAt, hresolvedAt, hacknowledgedAt, hfailures, hsuppressed, hsuppressedBy,
    carried]

theorem isExact_toJson (a : Alert) : a.toJson.isExact = true := by
  have hfits : Number.fitsWord a.consecutiveFailures.toNat = true := by
    have hlt := a.consecutiveFailures.toNat_lt
    simp only [Number.fitsWord, Bool.and_eq_true, decide_eq_true_eq]
    omega
  have hmembers : ∀ m ∈ a.members, m.2.isExact = true := by
    simp only [members, List.forall_mem_append, List.forall_mem_cons, forall_mem_optionalMember]
    exact ⟨⟨⟨⟨⟨rfl, rfl, rfl, rfl, rfl, rfl, List.forall_mem_nil _⟩, fun _ _ => rfl⟩,
      fun _ _ => rfl⟩, ⟨hfits, rfl, List.forall_mem_nil _⟩⟩, fun _ _ => rfl⟩
  exact membersAreExact_iff.2 hmembers

end Alert

/-! ## Bodies -/

namespace Notifier

variable {order : HeaderOrder} {config : WebhookConfig} {alert : Alert} {transition : Transition}
  {now : Timestamp} {r : Http.Request}

/-- **The body that a webhook is posted** is an object with three members and nothing else. -/
theorem document_of_webhook_request
    (h : (Notifier.webhook config).request order alert transition now = .ok r) :
    Document.ofText r.body = ⟨Tree.ofValue (.object [("event_type", .string transition.name),
      ("alert", .object alert.members), ("timestamp", timestamp now)]), true⟩ := by
  have hexact : (Payload.webhook alert transition now).isExact = true := by
    refine membersAreExact_iff.2 ?_
    simp only [List.forall_mem_cons]
    exact ⟨rfl, alert.isExact_toJson, rfl, List.forall_mem_nil _⟩
  rw [Notifier.body_of_request h]
  exact Document.ofText_text hexact

/-- A webhook with nothing but an address. -/
def plain : WebhookConfig :=
  ⟨"http://ops/", none, []⟩

theorem request_plain (order : HeaderOrder) (alert : Alert) (transition : Transition)
    (now : Timestamp) :
    let body := (Notifier.webhook plain).body alert transition now
    (Notifier.webhook plain).request order alert transition now =
      .ok ⟨.post, "http://ops/", (Notifier.webhook plain).defaultHeaders body, body⟩ := by
  have haddress : Http.address? "http://ops/" = some "http://ops/" := by decide +kernel
  have hnone : order.arrange (Notifier.webhook plain).customHeaders = [] := (order.perm []).eq_nil
  unfold request
  rw [show (Notifier.webhook plain).url = "http://ops/" from rfl, haddress, hnone]
  rfl

/-- **A webhook is told all there is to tell.** The body that it is posted is an object with three
members and nothing else. They are read as the transition, as the alert, of which what is unset was
left out, and as the time of posting, leap seconds that do not end a minute carried over. So the
alert is read as it is just if there is none of these in it. -/
theorem webhook_body_told
    (h : (Notifier.webhook config).request order alert transition now = .ok r) :
    Document.ofText r.body = ⟨Tree.ofValue (.object [("event_type", .string transition.name),
      ("alert", .object alert.members), ("timestamp", timestamp now)]), true⟩ ∧
    readTag Transition.tags (Tree.ofValue (.string transition.name)) = .ok transition ∧
    Alert.read (Tree.ofValue (.object alert.members)) = .ok alert.carried ∧
    (alert.carried = alert ↔ ∀ t ∈ alert.moments, t.isLeap = true → t.seconds % 60 = 59) ∧
    (("resolved_at" ∈ alert.members.map (·.1) ↔ alert.resolvedAt.isSome) ∧
      ("acknowledged_at" ∈ alert.members.map (·.1) ↔ alert.acknowledgedAt.isSome) ∧
      ("suppressed_by" ∈ alert.members.map (·.1) ↔ alert.suppressedBy.isSome)) ∧
    readTimestamp (Tree.ofValue (timestamp now)) = .ok now.carried := by
  have htransition : readTag Transition.tags (Tree.ofValue (.string transition.name)) =
      .ok transition := by
    cases transition <;> rfl
  exact ⟨document_of_webhook_request h, htransition, alert.read_toJson, Alert.carried_eq_self_iff,
    alert.left_out, readTimestamp_timestamp now⟩

/-- An alert with a quotation mark, a line feed and a letter beyond ASCII in its texts that was
raised in a leap second, some of it unset: it is read from the body as it was. -/
theorem webhook_body_told_of_leap_second :
    ∃ (order : HeaderOrder) (config : WebhookConfig) (alert : Alert) (now : Timestamp)
      (r : Http.Request), alert.message = "\"down\"\nfür 3" ∧ alert.triggeredAt.isLeap = true ∧
      alert.resolvedAt = none ∧ alert.suppressedBy = some "gw" ∧
      (Notifier.webhook config).request order alert .triggered now = .ok r ∧
      (∃ kind told time, Document.ofText r.body =
          ⟨.object [(.string "event_type", kind), (.string "alert", told),
            (.string "timestamp", time)] .closed, true⟩ ∧
        readTag Transition.tags kind = .ok .triggered ∧ Alert.read told = .ok alert ∧
        readTimestamp time = .ok now) := by
  let leap : Timestamp := ⟨1483228799, 1500000000, by omega, by omega, by omega⟩
  let alert : Alert := ⟨"a1", "c1", "d1", .critical, "\"down\"\nfür 3", leap, none,
    some .epoch, 4294967295, true, some "gw"⟩
  have hrequest := request_plain .asWritten alert .triggered .epoch
  obtain ⟨hbody, hkind, htold, hcarried, -, htime⟩ := webhook_body_told hrequest
  have hwhole : alert.carried = alert := hcarried.2 (by decide)
  rw [hwhole] at htold
  exact ⟨.asWritten, plain, alert, .epoch, _, rfl, by decide, rfl, rfl, hrequest, _, _, _, hbody,
    hkind, htold, htime⟩

/-- **Not every alert is told as it is**: of one raised in a leap second within a minute, the body
names the second after it. -/
theorem not_told_of_leap_second_within_minute :
    ¬∀ (order : HeaderOrder) (config : WebhookConfig) (alert : Alert) (transition : Transition)
      (now : Timestamp) (r : Http.Request),
      (Notifier.webhook config).request order alert transition now = .ok r →
      ∃ kind told time, Document.ofText r.body =
          ⟨.object [(.string "event_type", kind), (.string "alert", told),
            (.string "timestamp", time)] .closed, true⟩ ∧
        Alert.read told = .ok alert := by
  intro h
  let inside : Timestamp := ⟨1740916830, 1500000000, by omega, by omega, by omega⟩
  let alert : Alert := ⟨"a1", "c1", "d1", .warning, "m", inside, none, none, 3, false, none⟩
  have hrequest := request_plain .asWritten alert .triggered .epoch
  obtain ⟨kind, told, time, hdocument, hread⟩ :=
    h .asWritten plain alert .triggered .epoch _ hrequest
  rw [document_of_webhook_request hrequest] at hdocument
  have htold : Tree.ofValue (.object alert.members) = told := by
    injection hdocument with hobject
    injection hobject with hmembers
    injection hmembers with _ hrest
    injection hrest with hmember
    injection hmember
  have hsame := alert.read_toJson.symm.trans ((congrArg Alert.read htold).trans hread)
  have hends := Alert.carried_eq_self_iff.1 (Except.ok.inj hsame) inside List.mem_cons_self
  exact absurd (hends rfl) (by decide)

end Notifier

end NetWatch
