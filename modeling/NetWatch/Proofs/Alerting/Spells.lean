/-
NetWatch.Proofs.Alerting.Spells — the results of a check, divided into spells
of failures.

A spell is a longest stretch of failures in a row, together with the success
that ended it if one did (`spells`). Nothing here knows how failures are
counted or what is done about them; this is what alerts are held against.

Results come one at a time, so what matters is how the spells of a history
change with one more result. A history that ends well, that is with a success
or before anything happened, keeps its spells whatever comes after it
(`spells_append`); the failures since then are the one spell that may still
grow.
-/
import NetWatch.Check
import Mathlib.Data.List.DropRight

namespace NetWatch

/-- A result of a check, and when it was processed. -/
structure Report where
  check : Check
  result : CheckResult
  now : Timestamp

/-- Whether the target did not answer. -/
def Report.failed (r : Report) : Bool :=
  !r.result.success

/-- Failures in a row, and the success that ended them if one did. -/
structure Spell where
  failures : List Report
  ending : Option Report

/-- The longest stretches of failures in a row among the results of a check. -/
def spells : List Report → List Spell
  | [] => []
  | r :: rest =>
    if r.failed then
      ⟨r :: rest.takeWhile Report.failed, (rest.dropWhile Report.failed).head?⟩ ::
        spells (rest.dropWhile Report.failed)
    else spells rest
termination_by reports => reports.length
decreasing_by
  · exact Nat.lt_succ_of_le (List.dropWhile_sublist _).length_le
  · exact Nat.lt_succ_self _

/-- The failures since the last success. -/
def failing (reports : List Report) : List Report :=
  reports.rtakeWhile Report.failed

/-! ## Histories that end well -/

/-- A history of a check that does not end with a failure. -/
def EndsWell (reports : List Report) : Prop :=
  ∀ r ∈ reports.getLast?, r.failed = false

theorem endsWell_nil : EndsWell [] := by
  intro r hr
  cases hr

theorem endsWell_snoc {r : Report} (h : r.failed = false) (reports : List Report) :
    EndsWell (reports ++ [r]) := by
  intro r' hr'
  rw [List.getLast?_concat] at hr'
  cases hr'
  exact h

/-- What is left of a history that ends well ends well. -/
theorem EndsWell.of_suffix {reports rest : List Report} (h : EndsWell reports)
    (hrest : rest <:+ reports) : EndsWell rest := by
  obtain ⟨front, rfl⟩ := hrest
  intro r hr
  refine h r ?_
  rw [List.getLast?_append]
  cases hlast : rest.getLast? with
  | none => simp [hlast] at hr
  | some r' =>
    rw [hlast] at hr
    simpa using hr

/-- A history that ends well and has a failure in it has a success after that. -/
theorem EndsWell.exists_success {r : Report} {rest : List Report} (h : EndsWell (r :: rest))
    (hr : r.failed = true) : ∃ r' ∈ rest, r'.failed = false := by
  cases hlast : rest.getLast? with
  | none =>
    rw [List.getLast?_eq_none_iff.1 hlast] at h
    rw [h r rfl] at hr
    cases hr
  | some r' =>
    refine ⟨r', List.mem_of_getLast? hlast, h r' ?_⟩
    rw [List.getLast?_cons, hlast]
    rfl

/-- Looking for the first success goes no further than the first that there is. -/
theorem takeWhile_failed_append {reports : List Report} (h : ∃ r ∈ reports, r.failed = false)
    (more : List Report) :
    (reports ++ more).takeWhile Report.failed = reports.takeWhile Report.failed ∧
      (reports ++ more).dropWhile Report.failed = reports.dropWhile Report.failed ++ more := by
  induction reports with
  | nil =>
    obtain ⟨r, hr, -⟩ := h
    cases hr
  | cons r rest ih =>
    cases hr : r.failed with
    | false => simp [hr]
    | true =>
      have hrest : ∃ r' ∈ rest, r'.failed = false := by
        obtain ⟨r', hmem, hpassed⟩ := h
        rcases List.mem_cons.1 hmem with rfl | hmem
        · rw [hr] at hpassed
          cases hpassed
        · exact ⟨r', hmem, hpassed⟩
      simp [hr, ih hrest]

/-- **A history that ends well keeps its spells**, whatever comes after it. -/
theorem spells_append {reports : List Report} (h : EndsWell reports) (more : List Report) :
    spells (reports ++ more) = spells reports ++ spells more := by
  induction reports using spells.induct with
  | case1 => simp [spells]
  | case2 r rest hr ih =>
    have hsuccess := h.exists_success hr
    obtain ⟨htake, hdrop⟩ := takeWhile_failed_append hsuccess more
    have hrest : EndsWell (rest.dropWhile Report.failed) :=
      h.of_suffix ((List.dropWhile_suffix _).trans (List.suffix_cons r rest))
    have hne : rest.dropWhile Report.failed ≠ [] := by
      intro hnil
      obtain ⟨r', hmem, hpassed⟩ := hsuccess
      have hfailed := List.dropWhile_eq_nil_iff.1 hnil r' hmem
      rw [hpassed] at hfailed
      cases hfailed
    rw [List.cons_append, spells, spells, if_pos hr, if_pos hr, htake, hdrop, ih hrest,
      List.head?_append_of_ne_nil _ hne]
    rfl
  | case3 r rest hr ih =>
    rw [List.cons_append, spells, spells, if_neg hr, if_neg hr]
    exact ih (h.of_suffix (List.suffix_cons r rest))

/-! ## The failures at the end -/

section Failures

variable {run : List Report} (hrun : ∀ r ∈ run, r.failed = true)
include hrun

theorem failed_snoc {r : Report} (hr : r.failed = true) : ∀ f ∈ run ++ [r], f.failed = true := by
  intro f hf
  rcases List.mem_append.1 hf with hf | hf
  · exact hrun f hf
  · rw [List.mem_singleton.1 hf]
    exact hr

/-- Failures in a row are one spell, which goes on. -/
theorem spells_of_failures (hne : run ≠ []) : spells run = [⟨run, none⟩] := by
  cases run with
  | nil => exact absurd rfl hne
  | cons r rest =>
    have hrest : ∀ r' ∈ rest, r'.failed = true := fun r' h => hrun r' (List.mem_cons_of_mem r h)
    rw [spells, if_pos (hrun r List.mem_cons_self), List.takeWhile_eq_self_iff.2 hrest,
      List.dropWhile_eq_nil_iff.2 hrest]
    simp [spells]

/-- Failures in a row that a success follows are one spell, which that success ended. -/
theorem spells_of_failures_snoc (hne : run ≠ []) {r : Report} (hr : r.failed = false) :
    spells (run ++ [r]) = [⟨run, some r⟩] := by
  cases run with
  | nil => exact absurd rfl hne
  | cons r' rest =>
    have hrest : ∀ f ∈ rest, f.failed = true := fun f h => hrun f (List.mem_cons_of_mem r' h)
    rw [List.cons_append, spells, if_pos (hrun r' List.mem_cons_self),
      List.takeWhile_append_of_pos hrest, List.dropWhile_append_of_pos hrest]
    simp [spells, hr]

/-- The failures since a history ended well are those that came after it. -/
theorem failing_append {past : List Report} (h : EndsWell past) : failing (past ++ run) = run := by
  unfold failing List.rtakeWhile
  rw [List.reverse_append, List.takeWhile_append_of_pos (by simpa using hrun)]
  cases hlast : past.getLast? with
  | none => simp [List.getLast?_eq_none_iff.1 hlast]
  | some r =>
    have hr : r.failed = false := h r hlast
    rw [List.getLast?_eq_head?_reverse] at hlast
    cases hrev : past.reverse with
    | nil => simp
    | cons r' rest =>
      rw [hrev] at hlast
      cases hlast
      simp [hr]

end Failures

end NetWatch
