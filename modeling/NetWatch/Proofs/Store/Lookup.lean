/-
NetWatch.Proofs.Store.Lookup — queries that only look things up.

About half of the queries read. They leave the store as it is, whatever they
answer (`Store.answer_snd_of_isLookup`); so whoever only looks things up cannot
be noticed by anybody else.
-/
import NetWatch.Store.Basic

namespace NetWatch

/-- Whether a query only reads. -/
def Query.isLookup : Query → Bool
  | .check _ | .checkOfDevice _ | .checks | .enabledChecks | .results _ _ | .alert _
  | .activeAlert _ | .alerts _ | .activeAlerts _ | .device _ | .activeAlertsSince _ _
  | .dependencies _ | .blockingDevice _ | .window _ | .windows | .enabledWindows | .channel _
  | .channels | .enabledChannels => true
  | _ => false

/-- What would be refused writes; a query that only reads is not refused. -/
theorem Query.refusal?_of_isLookup {q : Query} (h : q.isLookup = true) : q.refusal? = none := by
  cases q <;> first | rfl | simp [isLookup] at h

namespace Store

theorem readReply_snd (q : Query) (s : Store) (r : Except StoreFault q.Answer) :
    (readReply q s r).2 = s := by
  cases r <;> rfl

theorem readReply_eq_ok {q : Query} {s : Store} {answer : q.Answer}
    {r : Except StoreFault q.Answer} (h : (readReply q s r).1 = .ok answer) : r = .ok answer := by
  cases r with
  | ok _ =>
    cases h
    rfl
  | error _ => cases h

theorem execute_window_snd (s : Store) (id : String) : (s.execute (.window id)).2 = s := by
  simp only [execute]
  split
  · rfl
  · split <;> rfl

theorem execute_snd_of_isLookup (s : Store) {q : Query} (h : q.isLookup = true) :
    (s.execute q).2 = s := by
  cases q with
  | alert id => exact readReply_snd ..
  | activeAlert c => exact readReply_snd ..
  | alerts f => exact readReply_snd ..
  | activeAlerts d => exact readReply_snd ..
  | activeAlertsSince d since => exact readReply_snd ..
  | window id => exact execute_window_snd s id
  | windows => exact readReply_snd ..
  | enabledWindows => exact readReply_snd ..
  | _ => first | rfl | simp [Query.isLookup] at h

/-- A query that is not refused is answered by its statement. -/
theorem answer_eq_execute {q : Query} (s : Store) (h : q.refusal? = none) :
    s.answer q = s.execute q := by
  unfold answer
  rw [h]

/-- A query that is refused leaves the store as it is. -/
theorem answer_of_refused {q : Query} {e : ValidationError} (s : Store)
    (h : q.refusal? = some e) : s.answer q = (.error (.invalid e), s) := by
  unfold answer
  rw [h]

/-- What succeeds was not refused. -/
theorem refusal?_of_ok {s : Store} {q : Query} {answer : q.Answer}
    (h : (s.answer q).1 = .ok answer) : q.refusal? = none := by
  cases hq : q.refusal? with
  | some e =>
    rw [answer_of_refused s hq] at h
    cases h
  | none => rfl

/-- **A query that only reads leaves the store as it is.** -/
theorem answer_snd_of_isLookup (s : Store) {q : Query} (h : q.isLookup = true) :
    (s.answer q).2 = s := by
  rw [answer_eq_execute s (Query.refusal?_of_isLookup h)]
  exact execute_snd_of_isLookup s h

/-! ## Listings -/

variable {α : Type} {time : α → Int} {rows : List α} {r : α}

theorem mem_oldestFirst : r ∈ oldestFirst time rows ↔ r ∈ rows :=
  List.mem_mergeSort

theorem mem_newestFirst : r ∈ newestFirst time rows ↔ r ∈ rows :=
  List.mem_mergeSort

/-- The order of a listing is transitive, as the sort expects it. -/
theorem older_trans (time : α → Int) (a b c : α) (hab : decide (time a ≤ time b) = true)
    (hbc : decide (time b ≤ time c) = true) : decide (time a ≤ time c) = true := by
  simp only [decide_eq_true_eq] at *
  omega

/-- The order of a listing is total, as the sort expects it. -/
theorem older_total (time : α → Int) (a b : α) :
    (decide (time a ≤ time b) || decide (time b ≤ time a)) = true := by
  simp only [Bool.or_eq_true, decide_eq_true_eq]
  omega

theorem pairwise_oldestFirst (time : α → Int) (rows : List α) :
    (oldestFirst time rows).Pairwise fun a b => time a ≤ time b :=
  (List.pairwise_mergeSort (older_trans time) (older_total time) rows).imp of_decide_eq_true

/-- What is listed the newest first is listed the oldest first by the time that it lies back. -/
theorem newestFirst_eq (time : α → Int) (rows : List α) :
    newestFirst time rows = oldestFirst (fun r => -time r) rows := by
  unfold newestFirst oldestFirst
  simp only [Int.neg_le_neg_iff]

theorem pairwise_newestFirst (time : α → Int) (rows : List α) :
    (newestFirst time rows).Pairwise fun a b => time b ≤ time a := by
  rw [newestFirst_eq]
  exact (pairwise_oldestFirst (fun r => -time r) rows).imp fun h => Int.le_of_neg_le_neg h

theorem newestFirst_perm (time : α → Int) (rows : List α) : (newestFirst time rows).Perm rows :=
  List.mergeSort_perm _ _

/-- A row goes after those that are older, and before all others. -/
theorem oldestFirst_cons (time : α → Int) (r : α) (rows : List α) :
    oldestFirst time (r :: rows) = (oldestFirst time rows).filter (time · < time r) ++
      r :: (oldestFirst time rows).filter (time r ≤ time ·) := by
  obtain ⟨older, others, hcons, hrows, holder⟩ :=
    List.mergeSort_cons (older_trans time) (older_total time) r rows
  have hlisted : oldestFirst time (r :: rows) = older ++ r :: others := hcons
  have hothers : oldestFirst time rows = older ++ others := hrows
  have hsorted := pairwise_oldestFirst time (r :: rows)
  rw [hlisted, List.pairwise_append, List.pairwise_cons] at hsorted
  have holder : ∀ r' ∈ older, time r' < time r := fun r' hr' => by simpa using holder r' hr'
  have hyounger : ∀ r' ∈ others, time r ≤ time r' := hsorted.2.1.1
  have hbelow : (older ++ others).filter (time · < time r) = older := by
    rw [List.filter_append, List.filter_eq_self.2 (by simpa using holder),
      List.filter_eq_nil_iff.2 (by simpa using hyounger), List.append_nil]
  have habove : (older ++ others).filter (time r ≤ time ·) = others := by
    rw [List.filter_append, List.filter_eq_nil_iff.2 (by simpa using holder),
      List.filter_eq_self.2 (by simpa using hyounger), List.nil_append]
  rw [hlisted, hothers, hbelow, habove]

/-- Listed rows come apart at any time. -/
theorem filter_append_filter_oldestFirst (time : α → Int) (rows : List α) (t : Int) :
    (oldestFirst time rows).filter (time · < t) ++ (oldestFirst time rows).filter (t ≤ time ·) =
      oldestFirst time rows := by
  have hsorted := pairwise_oldestFirst time rows
  generalize oldestFirst time rows = listed at hsorted ⊢
  induction listed with
  | nil => rfl
  | cons r rest ih =>
    obtain ⟨hfirst, hrest⟩ := List.pairwise_cons.1 hsorted
    by_cases hr : time r < t
    · rw [List.filter_cons_of_pos (by simpa using hr),
        List.filter_cons_of_neg (by simpa using hr), List.cons_append, ih hrest]
    · have hlate : ∀ r' ∈ r :: rest, t ≤ time r' := by
        intro r' hr'
        rcases List.mem_cons.1 hr' with rfl | hr'
        · omega
        · have := hfirst r' hr'
          omega
      rw [List.filter_eq_nil_iff.2 (by simpa using hlate), List.nil_append,
        List.filter_eq_self.2 (by simpa using hlate)]

/-- **Where a row is listed** depends on its time alone, and the other rows keep their order
around it. -/
theorem exists_oldestFirst_insert (time : α → Int) (before after : List α) (t : Int) :
    ∃ earlier later, oldestFirst time (before ++ after) = earlier ++ later ∧
      ∀ r, time r = t → oldestFirst time (before ++ r :: after) = earlier ++ r :: later := by
  induction before with
  | nil =>
    refine ⟨_, _, (filter_append_filter_oldestFirst time after t).symm, ?_⟩
    rintro r rfl
    exact oldestFirst_cons time r after
  | cons x before ih =>
    obtain ⟨earlier, later, hwithout, hwith⟩ := ih
    simp only [List.cons_append, oldestFirst_cons, hwithout, List.filter_append]
    by_cases h : t < time x
    · refine ⟨earlier.filter (time · < time x), later.filter (time · < time x) ++
        x :: (earlier.filter (time x ≤ time ·) ++ later.filter (time x ≤ time ·)), by simp, ?_⟩
      rintro r rfl
      rw [hwith r rfl]
      simp [h]
    · refine ⟨earlier.filter (time · < time x) ++ later.filter (time · < time x) ++
        x :: earlier.filter (time x ≤ time ·), later.filter (time x ≤ time ·), by simp, ?_⟩
      rintro r rfl
      rw [hwith r rfl]
      simp [h, Int.not_lt.mp h]

/-- What is listed first is as old as any. -/
theorem head?_oldestFirst (h : (oldestFirst time rows).head? = some r) :
    r ∈ rows ∧ ∀ r' ∈ rows, time r ≤ time r' := by
  have hsorted := pairwise_oldestFirst time rows
  obtain ⟨rest, hrest⟩ := List.head?_eq_some_iff.1 h
  rw [hrest] at hsorted
  refine ⟨mem_oldestFirst.1 (List.mem_of_mem_head? h), fun r' hr' => ?_⟩
  have hmem : r' ∈ oldestFirst time rows := mem_oldestFirst.2 hr'
  rw [hrest] at hmem
  rcases List.mem_cons.1 hmem with rfl | hmem
  · exact Int.le_refl _
  · exact (List.pairwise_cons.1 hsorted).1 r' hmem

theorem head?_oldestFirst_eq_none : (oldestFirst time rows).head? = none ↔ rows = [] := by
  rw [List.head?_eq_none_iff, List.eq_nil_iff_forall_not_mem, List.eq_nil_iff_forall_not_mem]
  simp only [mem_oldestFirst]

/-- What is listed first is as new as any. -/
theorem head?_newestFirst (h : (newestFirst time rows).head? = some r) :
    r ∈ rows ∧ ∀ r' ∈ rows, time r' ≤ time r := by
  rw [newestFirst_eq] at h
  obtain ⟨hr, hfirst⟩ := head?_oldestFirst h
  exact ⟨hr, fun r' hr' => Int.le_of_neg_le_neg (hfirst r' hr')⟩

theorem head?_newestFirst_eq_none : (newestFirst time rows).head? = none ↔ rows = [] := by
  rw [newestFirst_eq, head?_oldestFirst_eq_none]

end Store

end NetWatch
