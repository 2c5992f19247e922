/-
NetWatch.Proofs.Script.Asking — scripts by the queries they may ask.

What a script makes of the store depends on its queries alone. If a query that
is not answered has no effect, then a script that asks queries of one kind only
keeps whatever such queries keep (`Script.AsksOnly.run_keeps`).

The calls of the alerter ask for alerts, enter them and resolve them, and
neither acknowledge nor delete any (`Task.asksOnly_script`).
-/
import NetWatch.Proofs.Alerting.Protocol
import NetWatch.Store.Outage

namespace NetWatch

/-! ## Stores that fail without effect -/

/-- A way of answering that does what the store does, or fails and changes nothing. -/
def Backend.Honest (b : Backend) : Prop :=
  ∀ q s, b q s = s.answer q ∨ ∃ e, b q s = (.error e, s)

theorem Backend.honest_sound : Backend.sound.Honest :=
  fun _ _ => .inl rfl

/-- A store under outages either does a query or nothing. -/
theorem Backend.honest_under (outages : List Outage) : (Backend.under outages).Honest := by
  intro q s
  unfold Backend.under Store.answer
  cases q.refusal? with
  | some e => exact .inl rfl
  | none =>
    cases q.obstacle? outages s with
    | some fault => exact .inr ⟨_, rfl⟩
    | none => exact .inl rfl

/-! ## What scripts ask -/

namespace Script

variable {α β : Type} {p : Query → Prop}

/-- A script that asks no queries but those of a kind. -/
def AsksOnly (p : Query → Prop) : Script α → Prop
  | .done _ => True
  | .abort => True
  | .ask q next => p q ∧ ∀ r, AsksOnly p (next r)
  | .clock next => ∀ t, AsksOnly p (next t)
  | .publish _ next => AsksOnly p next
  | .send _ next => ∀ r, AsksOnly p (next r)

namespace AsksOnly

theorem any (s : Script α) : s.AsksOnly fun _ => True := by
  induction s with
  | done a => trivial
  | abort => trivial
  | ask q next ih => exact ⟨trivial, ih⟩
  | clock next ih => exact ih
  | publish e next ih => exact ih
  | send r next ih => exact ih

theorem mono {p' : Query → Prop} (h : ∀ q, p q → p' q) {s : Script α} (hs : s.AsksOnly p) :
    s.AsksOnly p' := by
  induction s with
  | done a => trivial
  | abort => trivial
  | ask q next ih => exact ⟨h q hs.1, fun r => ih r (hs.2 r)⟩
  | clock next ih => exact fun t => ih t (hs t)
  | publish e next ih => exact ih hs
  | send r next ih => exact fun r => ih r (hs r)

theorem query {q : Query} (h : p q) : AsksOnly p (Script.query q) :=
  ⟨h, fun _ => trivial⟩

theorem bind {s : Script α} {f : α → Script β} (hs : AsksOnly p s)
    (hf : ∀ a, AsksOnly p (f a)) : AsksOnly p (s >>= f) := by
  induction s with
  | done a => exact hf a
  | abort => trivial
  | ask q next ih => exact ⟨hs.1, fun r => ih r (hs.2 r)⟩
  | clock next ih => exact fun t => ih t (hs t)
  | publish e next ih => exact ih hs
  | send r next ih => exact fun r => ih r (hs r)

/-- **A script keeps what its queries keep.** -/
theorem run_keeps {I : Store → Prop} {w : World} (hw : w.backend.Honest)
    (hkeep : ∀ q st, p q → I st → I (st.answer q).2) {s : Script α} (hs : AsksOnly p s)
    {st : Store} (h : I st) : I (s.run w st).store := by
  induction s generalizing st with
  | done a => exact h
  | abort => exact h
  | ask q next ih =>
    show I ((next (w.backend q st).1).run w (w.backend q st).2).store
    refine ih _ (hs.2 _) ?_
    rcases hw q st with heq | ⟨e, heq⟩
    · rw [heq]
      exact hkeep q st hs.1 h
    · rw [heq]
      exact h
  | clock next ih => exact ih _ (hs _) h
  | publish e next ih => exact ih hs h
  | send r next ih => exact ih _ (hs _) h

end AsksOnly

end Script

/-! ## The calls of the alerter -/

/-- Whether a query is one that calls of the alerter ask. -/
def Query.isAlerting (q : Query) : Bool :=
  match q with
  | .insertAlert _ | .resolveAlert _ _ => true
  | _ => q.isLookup

theorem Query.isAlerting_of_isLookup {q : Query} (h : q.isLookup = true) :
    q.isAlerting = true := by
  cases q <;> first | rfl | cases h

theorem Follows.asksOnly {t : Task} {stage : Stage} {s : Script (Option Alert)}
    (h : Follows t stage s) : s.AsksOnly (·.isAlerting = true) := by
  induction h with
  | done a _ => trivial
  | abort _ => trivial
  | clock _ ih => exact ih
  | lookup _ ih => exact ⟨rfl, ih⟩
  | look hq _ ih => exact ⟨Query.isAlerting_of_isLookup hq, ih⟩
  | enter _ _ ihfail ihok =>
    refine ⟨rfl, fun r => ?_⟩
    cases r with
    | error e => exact ihfail e
    | ok _ => exact ihok
  | resolve _ _ ihfail ihok =>
    refine ⟨rfl, fun r => ?_⟩
    cases r with
    | error e => exact ihfail e
    | ok _ => exact ihok
  | tellOpening _ ih => exact ih
  | tellEnding _ ih => exact ih

/-- **A call of the alerter asks for alerts, enters them and resolves them**, and no more. -/
theorem Task.asksOnly_script (t : Task) : t.script.AsksOnly (·.isAlerting = true) :=
  t.follows_script.asksOnly

end NetWatch
