/-
NetWatch.Proofs.Store.Frame — what queries leave alone.

Every query says which tables it may write to (`Query.writes`), and leaves all
others as they are, whether it fails or not (`Store.answer_agrees`). What is
known of a table therefore has to be looked at anew for the few queries that
write to it.
-/
import NetWatch.Proofs.Store.Lookup

namespace NetWatch

/-- The tables that a query may write to. -/
def Query.writes : Query → List Table
  | .insertCheck _ | .updateCheck _ | .enableCheck _ _ _ => [.checks]
  | .deleteCheck _ => [.checks, .dependencies]
  | .insertResult _ | .deleteResultsBefore _ => [.results]
  | .insertAlert _ | .resolveAlert _ _ | .acknowledgeAlert _ _ | .deleteAlertsBefore _ => [.alerts]
  | .upsertDevice _ | .touchDevice _ _ => [.devices]
  | .addDependency _ _ _ | .removeDependency _ _ => [.dependencies]
  | .insertWindow _ | .updateWindow _ | .deleteWindow _ => [.windows]
  | .insertChannel _ | .updateChannel _ | .deleteChannel _ => [.channels]
  | _ => []

namespace Store

/-- Two stores are the same outside of some tables. -/
structure AgreesExcept (tables : List Table) (s s' : Store) : Prop where
  checks : .checks ∉ tables → s'.checks = s.checks
  results : .results ∉ tables → s'.results = s.results ∧ s'.lastResult = s.lastResult
  alerts : .alerts ∉ tables → s'.alerts = s.alerts
  devices : .devices ∉ tables → s'.devices = s.devices
  dependencies : .dependencies ∉ tables → s'.dependencies = s.dependencies
  windows : .windows ∉ tables → s'.windows = s.windows
  channels : .channels ∉ tables → s'.channels = s.channels

theorem AgreesExcept.refl (tables : List Table) (s : Store) : AgreesExcept tables s s := by
  constructor <;> intro _ <;> first | rfl | exact ⟨rfl, rfl⟩

theorem AgreesExcept.trans {tables : List Table} {s s' s'' : Store}
    (h : AgreesExcept tables s s') (h' : AgreesExcept tables s' s'') :
    AgreesExcept tables s s'' where
  checks hnot := (h'.checks hnot).trans (h.checks hnot)
  results hnot :=
    ⟨(h'.results hnot).1.trans (h.results hnot).1, (h'.results hnot).2.trans (h.results hnot).2⟩
  alerts hnot := (h'.alerts hnot).trans (h.alerts hnot)
  devices hnot := (h'.devices hnot).trans (h.devices hnot)
  dependencies hnot := (h'.dependencies hnot).trans (h.dependencies hnot)
  windows hnot := (h'.windows hnot).trans (h.windows hnot)
  channels hnot := (h'.channels hnot).trans (h.channels hnot)

theorem AgreesExcept.mono {tables tables' : List Table} {s s' : Store}
    (h : AgreesExcept tables s s') (hsub : tables ⊆ tables') : AgreesExcept tables' s s' where
  checks hnot := h.checks fun hm => hnot (hsub hm)
  results hnot := h.results fun hm => hnot (hsub hm)
  alerts hnot := h.alerts fun hm => hnot (hsub hm)
  devices hnot := h.devices fun hm => hnot (hsub hm)
  dependencies hnot := h.dependencies fun hm => hnot (hsub hm)
  windows hnot := h.windows fun hm => hnot (hsub hm)
  channels hnot := h.channels fun hm => hnot (hsub hm)

/-- A statement that fails has written nothing. -/
theorem AgreesExcept.written {tables : List Table} {q : Query} {s : Store} {answer : q.Answer}
    {r : Except StoreFault Store} (h : ∀ s', r = .ok s' → AgreesExcept tables s s') :
    AgreesExcept tables s (written q s answer r).2 := by
  cases r with
  | error fault => exact .refl tables s
  | ok s' => exact h s' rfl

theorem insertCheck_agrees {s s' : Store} {c : Check} (h : s.insertCheck c = .ok s') :
    AgreesExcept [.checks] s s' := by
  unfold insertCheck at h
  split at h <;> cases h
  constructor <;> intro hnot <;> first | rfl | exact ⟨rfl, rfl⟩ | simp at hnot

theorem insertResult_agrees {s s' : Store} {r : CheckResult} (h : s.insertResult r = .ok s') :
    AgreesExcept [.results] s s' := by
  unfold insertResult at h
  split at h
  · cases h
  · split at h <;> cases h
    constructor <;> intro hnot <;> first | rfl | simp at hnot

theorem insertAlert_agrees {s s' : Store} {a : Alert} (h : s.insertAlert a = .ok s') :
    AgreesExcept [.alerts] s s' := by
  unfold insertAlert at h
  split at h <;> cases h
  constructor <;> intro hnot <;> first | rfl | exact ⟨rfl, rfl⟩ | simp at hnot

theorem addDependency_agrees {s s' : Store} {c d : String} {t : Timestamp}
    (h : s.addDependency c d t = .ok s') : AgreesExcept [.dependencies] s s' := by
  unfold addDependency at h
  split at h
  · cases h
    exact .refl _ s
  · split at h <;> cases h
    constructor <;> intro hnot <;> first | rfl | exact ⟨rfl, rfl⟩ | simp at hnot

theorem insertWindow_agrees {s s' : Store} {w : Window} (h : s.insertWindow w = .ok s') :
    AgreesExcept [.windows] s s' := by
  unfold insertWindow at h
  split at h <;> cases h
  constructor <;> intro hnot <;> first | rfl | exact ⟨rfl, rfl⟩ | simp at hnot

theorem insertChannel_agrees {s s' : Store} {c : Channel} (h : s.insertChannel c = .ok s') :
    AgreesExcept [.channels] s s' := by
  unfold insertChannel at h
  split at h <;> cases h
  constructor <;> intro hnot <;> first | rfl | exact ⟨rfl, rfl⟩ | simp at hnot

theorem deleteCheck_agrees (s : Store) (id : String) :
    AgreesExcept [.checks, .dependencies] s (s.deleteCheck id) := by
  unfold deleteCheck
  split
  · constructor <;> intro hnot <;> first | rfl | exact ⟨rfl, rfl⟩ | simp at hnot
  · exact .refl _ s

theorem upsertDevice_agrees (s : Store) (d : Device) :
    AgreesExcept [.devices] s (s.upsertDevice d) := by
  unfold upsertDevice
  dsimp only
  split <;> constructor <;> intro hnot <;> first | rfl | exact ⟨rfl, rfl⟩ | simp at hnot

theorem touchDevice_agrees (s : Store) (id : String) (t : Timestamp) :
    AgreesExcept [.devices] s (s.touchDevice id t) := by
  unfold touchDevice
  split <;> constructor <;> intro hnot <;> first | rfl | exact ⟨rfl, rfl⟩ | simp at hnot

theorem execute_agrees (s : Store) (q : Query) : AgreesExcept q.writes s (s.execute q).2 := by
  by_cases hl : q.isLookup = true
  · rw [execute_snd_of_isLookup s hl]
    exact .refl _ s
  cases q with
  | insertCheck c => exact .written fun _ h => insertCheck_agrees h
  | insertResult r => exact .written fun _ h => insertResult_agrees h
  | insertAlert a => exact .written fun _ h => insertAlert_agrees h
  | addDependency c d t => exact .written fun _ h => addDependency_agrees h
  | insertWindow w => exact .written fun _ h => insertWindow_agrees h
  | insertChannel c => exact .written fun _ h => insertChannel_agrees h
  | deleteCheck id => exact deleteCheck_agrees s id
  | upsertDevice d => exact upsertDevice_agrees s d
  | touchDevice id t => exact touchDevice_agrees s id t
  | updateCheck _ | enableCheck _ _ _ | deleteResultsBefore _ | resolveAlert _ _
  | acknowledgeAlert _ _ | deleteAlertsBefore _ | removeDependency _ _ | updateWindow _
  | deleteWindow _ | updateChannel _ | deleteChannel _ =>
    constructor <;> intro hnot <;>
      first | rfl | exact ⟨rfl, rfl⟩ | simp [Query.writes] at hnot
  | _ => exact absurd rfl hl

/-- **A query leaves all tables alone but those that it writes to.** -/
theorem answer_agrees (s : Store) (q : Query) : AgreesExcept q.writes s (s.answer q).2 := by
  unfold answer
  split
  · exact .refl _ s
  · exact execute_agrees s q

end Store

end NetWatch
