/-
NetWatch.Proofs.Store.PlainText — text that is shown as it is kept.

A row shows text up to the first U+0000 in it, so text without one is shown
whole (`shownText_eq_self`).
-/
import NetWatch.Store.Row
import Mathlib.Data.List.TakeWhile

namespace NetWatch

/-- Text without U+0000. -/
def PlainText (s : String) : Prop :=
  Char.ofNat 0 ∉ s.toList

instance (s : String) : Decidable (PlainText s) :=
  inferInstanceAs (Decidable (_ ∉ _))

/-- **Plain text is shown whole.** -/
theorem shownText_eq_self {s : String} (h : PlainText s) : shownText s = s := by
  have hall : ∀ c ∈ s.toList, decide (c ≠ Char.ofNat 0) = true := by
    intro c hc
    exact decide_eq_true fun heq => h (heq ▸ hc)
  unfold shownText
  rw [List.takeWhile_eq_self_iff.2 hall, String.ofList_toList]

/-- A severity is shown under the name that it is kept under. -/
theorem Severity.named?_shownText (severity : Severity) :
    Severity.named? (shownText severity.name) = some severity := by
  have hplain : PlainText severity.name := by cases severity <;> decide
  rw [shownText_eq_self hplain, Severity.named?_name]

end NetWatch
