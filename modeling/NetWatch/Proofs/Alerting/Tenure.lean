/-
NetWatch.Proofs.Alerting.Tenure — one call, from getting the lock to leaving it.

Among all that happens at a site a call is a stretch from its entry to its
leaving (`Call`). Others may ask the store things in between, but whatever is
asked, looked at and told there by a call is asked, looked at and told by this
one, and these moves are a play of its script (`Call.plays`). So they are one of
the ways that a call can go (`Call.conduct`).

While nothing is written by the call, the store is what the others make of it
(`Run.store_eq_after`).
-/
import NetWatch.Proofs.Alerting.Conduct
import NetWatch.Proofs.Alerting.Interleaving
import NetWatch.Proofs.Script.Asking
import NetWatch.Proofs.Store.Integrity
import Mathlib

namespace NetWatch

open Script

/-! ## What is seen of calls and of others -/

/-- What a call does in an act, if it does something. -/
def Act.move? : Act → Option Move
  | .asked _ q reply => some (.asked q reply)
  | .looked _ now => some (.looked now)
  | .told _ e => some (.told e)
  | _ => none

/-- The moves of calls, in order. -/
def movesIn (acts : List Act) : List Move :=
  acts.filterMap Act.move?

/-- What somebody else asks in an act. -/
def Act.other? : Act → Option Query
  | .other q => some q
  | _ => none

/-- The queries of others, in order. -/
def othersIn (acts : List Act) : List Query :=
  acts.filterMap Act.other?

/-- The act of a call that makes a move. -/
def Move.act (t : Task) : Move → Act
  | .asked q reply => .asked t q reply
  | .looked now => .looked t now
  | .told e => .told t e

@[simp] theorem movesIn_append (acts acts' : List Act) :
    movesIn (acts ++ acts') = movesIn acts ++ movesIn acts' :=
  List.filterMap_append

@[simp] theorem othersIn_append (acts acts' : List Act) :
    othersIn (acts ++ acts') = othersIn acts ++ othersIn acts' :=
  List.filterMap_append

theorem movesIn_concat {acts : List Act} {act : Act} {m : Move} (h : act.move? = some m) :
    movesIn (acts ++ [act]) = movesIn acts ++ [m] := by
  rw [movesIn_append, movesIn, movesIn, List.filterMap_cons_some h, List.filterMap_nil]

theorem movesIn_concat_of_none {acts : List Act} {act : Act} (h : act.move? = none) :
    movesIn (acts ++ [act]) = movesIn acts := by
  rw [movesIn_append, movesIn, movesIn, List.filterMap_cons_none h, List.filterMap_nil,
    List.append_nil]

@[simp] theorem Move.move?_act (t : Task) (m : Move) : (m.act t).move? = some m := by
  cases m <;> rfl

theorem movesIn_map_act (t : Task) (moves : List Move) : movesIn (moves.map (·.act t)) = moves := by
  unfold movesIn
  rw [List.filterMap_map]
  simp

/-- Nobody else asks anything while a call makes a move. -/
theorem othersIn_cons_of_move {act : Act} {m : Move} (h : act.move? = some m) (acts : List Act) :
    othersIn (act :: acts) = othersIn acts := by
  have hnone : act.other? = none := by
    cases act <;> first | rfl | cases h
  exact List.filterMap_cons_none hnone

/-- The moves of calls say all that was told. -/
theorem mem_toldIn_iff {acts : List Act} {e : Event} :
    e ∈ toldIn acts ↔ .told e ∈ movesIn acts := by
  unfold toldIn movesIn
  simp only [List.mem_filterMap]
  refine exists_congr fun act => and_congr_right fun _ => ?_
  cases act <;> simp [Act.event?, Act.move?]

/-- Among the acts that moves come from, that of one move is found where the move is. -/
theorem exists_of_movesIn_eq {acts : List Act} {moves rest : List Move} {m : Move}
    (h : movesIn acts = moves ++ m :: rest) :
    ∃ earlier act later, acts = earlier ++ act :: later ∧ movesIn earlier = moves ∧
      act.move? = some m ∧ movesIn later = rest := by
  obtain ⟨first, last, rfl, hfirst, hlast⟩ := List.filterMap_eq_append_iff.1 h
  obtain ⟨idle, act, later, rfl, hidle, hact, hlater⟩ := List.filterMap_eq_cons_iff.1 hlast
  refine ⟨first ++ idle, act, later, by simp, ?_, hact, hlater⟩
  rw [movesIn_append, movesIn, movesIn, hfirst, List.filterMap_eq_nil_iff.2 hidle, List.append_nil]

/-! ## Stretches of a run -/

namespace Run

variable {s₀ s s' : Site} {acts acts' : List Act} {act : Act}

theorem nil_iff : Run s [] s' ↔ s' = s := by
  constructor
  · intro h
    generalize hacts : ([] : List Act) = acts at h
    cases h with
    | start => rfl
    | step _ _ => simp at hacts
  · rintro rfl
    exact .start

theorem snoc_iff : Run s₀ (acts ++ [act]) s' ↔ ∃ s, Run s₀ acts s ∧ Step s act s' := by
  constructor
  · intro h
    generalize hall : acts ++ [act] = all at h
    cases h with
    | start => simp at hall
    | step hrun hstep =>
      obtain ⟨rfl, rfl⟩ := List.append_singleton_inj.1 hall
      exact ⟨_, hrun, hstep⟩
  · rintro ⟨s, hrun, hstep⟩
    exact .step hrun hstep

/-- **A run can be cut anywhere.** -/
theorem append_iff : Run s₀ (acts ++ acts') s' ↔ ∃ s, Run s₀ acts s ∧ Run s acts' s' := by
  constructor
  · induction acts' using List.reverseRecOn generalizing s' with
    | nil => exact fun h => ⟨s', by simpa using h, .start⟩
    | append_singleton acts' act ih =>
      intro h
      rw [← List.append_assoc] at h
      obtain ⟨s₁, hrun, hstep⟩ := snoc_iff.1 h
      obtain ⟨s, hfirst, hlast⟩ := ih hrun
      exact ⟨s, hfirst, .step hlast hstep⟩
  · rintro ⟨s, hfirst, hlast⟩
    exact hfirst.trans hlast

theorem cons_iff : Run s₀ (act :: acts) s' ↔ ∃ s, Step s₀ act s ∧ Run s acts s' := by
  rw [← List.singleton_append, append_iff]
  refine exists_congr fun s => and_congr_left fun _ => ⟨fun h => ?_, Run.single⟩
  obtain ⟨_, hnil, hstep⟩ := snoc_iff.1 (List.nil_append [act] ▸ h)
  rwa [nil_iff.1 hnil] at hstep

/-- **While calls only look, the store is what others make of it.** -/
theorem store_eq_after (hrun : Run s acts s')
    (hlooks : ∀ q reply, .asked q reply ∈ movesIn acts → q.isLookup = true) :
    s'.store = s.store.after (othersIn acts) := by
  induction hrun with
  | start => rfl
  | @step acts act s₁ s₂ hrun hstep ih =>
    have hbefore := ih fun q reply hm => hlooks q reply (by simp [hm])
    rw [othersIn_append, Store.after_append, ← hbefore]
    cases hstep with
    | @answer t q next hs =>
      have hlook : q.isLookup = true :=
        hlooks q _ (by rw [movesIn_append]; exact List.mem_append_right _ (.head _))
      exact Store.answer_snd_of_isLookup _ hlook
    | _ => rfl

/-- **What a call is told after it has only looked**: the answer of the store that others have made,
unless the query fails and changes nothing. -/
theorem exists_of_asked {earlier later : List Act} {q : Query} {reply : q.Reply}
    (hrun : Run s (earlier ++ act :: later) s') (hact : act.move? = some (.asked q reply))
    (hearlier : ∀ q reply, .asked q reply ∈ movesIn earlier → q.isLookup = true) :
    ∃ s₂, Run s₂ later s' ∧ ((s.store.after (othersIn earlier)).answer q = (reply, s₂.store) ∨
      ∃ e, reply = .error e ∧ s₂.store = s.store.after (othersIn earlier)) := by
  obtain ⟨s₁, hfirst, hrest⟩ := append_iff.1 hrun
  obtain ⟨s₂, hstep, hlast⟩ := cons_iff.1 hrest
  refine ⟨s₂, hlast, ?_⟩
  rw [← hfirst.store_eq_after hearlier]
  cases hstep with
  | answer _ =>
    cases hact
    exact .inl rfl
  | fail _ e =>
    cases hact
    exact .inr ⟨e, rfl, rfl⟩
  | _ => cases hact

end Run

/-! ## One call -/

/-- A call, from getting the lock to leaving it, and all that happens meanwhile. -/
structure Call (s : Site) (t : Task) (acts : List Act) (s' : Site) : Prop where
  run : Run s (.entered t :: acts ++ [.left t]) s'
  stays : .left t ∉ acts

/-- Whether a call that did something comes to its end after it, and is not stopped for good. -/
def Task.Completes (t : Task) (acts : List Act) : Prop :=
  ∃ raised, t.script.Plays (movesIn acts) (some raised)

/-- How far a call has come since it got the lock. -/
structure Within (t : Task) (acts : List Act) (s : Site) : Prop where
  /-- Whatever the rest of the call plays, the call plays after what it did. -/
  holder : ∃ rest, s.holder = some (t, rest) ∧ ∀ moves result,
    rest.Plays moves result → t.script.Plays (movesIn acts ++ moves) result
  streaks : s.streaks = t.streaks
  /-- What is done by a call is done by this one. -/
  own : ∀ act ∈ acts, ∀ m, act.move? = some m → act = m.act t

namespace Within

variable {t : Task} {acts : List Act} {act : Act} {s s' : Site}

theorem entered (hstep : Step s (.entered t) s') : Within t [] s' := by
  cases hstep with
  | enter _ _ _ _ => exact ⟨⟨_, rfl, fun _ _ h => h⟩, rfl, List.forall_mem_nil _⟩

/-- The call makes a move. -/
theorem go_on (h : Within t acts s) {m : Move} {rest rest' : Script (Option Alert)}
    (hs : s.holder = some (t, rest)) (hs' : s'.holder = some (t, rest'))
    (hstreaks : s'.streaks = s.streaks) (hact : act = m.act t)
    (hplays : ∀ moves result, rest'.Plays moves result → rest.Plays (m :: moves) result) :
    Within t (acts ++ [act]) s' := by
  obtain ⟨_, hrest, hscript⟩ := h.holder
  cases hs.symm.trans hrest
  have hmove : act.move? = some m := by
    rw [hact, Move.move?_act]
  refine ⟨⟨rest', hs', fun moves result hmoves => ?_⟩, hstreaks.trans h.streaks, ?_⟩
  · have hall := hscript _ _ (hplays _ _ hmoves)
    rwa [movesIn_concat hmove, List.append_assoc]
  · intro act' hmem m' hm'
    obtain hmem | hmem := List.mem_append.1 hmem
    · exact h.own act' hmem m' hm'
    · rw [List.mem_singleton.1 hmem] at hm' ⊢
      cases hmove.symm.trans hm'
      exact hact

/-- Something else happens. -/
theorem stay (h : Within t acts s) (hholder : s'.holder = s.holder)
    (hstreaks : s'.streaks = s.streaks) (hact : act.move? = none) :
    Within t (acts ++ [act]) s' := by
  refine ⟨?_, hstreaks.trans h.streaks, fun act' hmem m hm => ?_⟩
  · rw [hholder, movesIn_concat_of_none hact]
    exact h.holder
  · obtain hmem | hmem := List.mem_append.1 hmem
    · exact h.own act' hmem m hm
    · rw [List.mem_singleton.1 hmem, hact] at hm
      cases hm

/-- **Nobody gets between a call and the lock**: each step is one of the call, or of somebody who
waits for it or asks the store. -/
theorem step (h : Within t acts s) (hstep : Step s act s') (hstays : act ≠ .left t) :
    Within t (acts ++ [act]) s' := by
  obtain ⟨rest, hrest, -⟩ := h.holder
  cases hstep with
  | call _ _ | other _ => exact h.stay rfl rfl rfl
  | enter hfree _ _ _ | restart hfree _ _ =>
    rw [hfree] at hrest
    cases hrest
  | answer hs | fail hs _ =>
    cases hs.symm.trans hrest
    exact h.go_on hs rfl rfl rfl fun moves result hmoves => ⟨_, moves, rfl, hmoves⟩
  | look hs now =>
    cases hs.symm.trans hrest
    exact h.go_on hs rfl rfl rfl fun moves result hmoves => ⟨now, moves, rfl, hmoves⟩
  | tell hs =>
    cases hs.symm.trans hrest
    exact h.go_on hs rfl rfl rfl fun moves result hmoves => ⟨moves, rfl, hmoves⟩
  | leave hs | stop hs =>
    cases hs.symm.trans hrest
    exact absurd rfl hstays

theorem run (h : Within t [] s) (hrun : Run s acts s') (hstays : .left t ∉ acts) :
    Within t acts s' := by
  induction hrun with
  | start => exact h
  | step hrun hstep ih =>
    refine (ih fun hm => hstays (List.mem_append_left _ hm)).step hstep fun heq => ?_
    exact hstays (by simp [heq])

end Within

namespace Call

variable {s s' : Site} {t : Task} {acts : List Act}

theorem exists_within (h : Call s t acts s') :
    ∃ s₁ s₂, Step s (.entered t) s₁ ∧ Run s₁ acts s₂ ∧ Within t acts s₂ ∧ Step s₂ (.left t) s' := by
  obtain ⟨s₁, henter, hrun⟩ := Run.cons_iff.1 h.run
  obtain ⟨s₂, hduring, hleave⟩ := Run.snoc_iff.1 hrun
  exact ⟨s₁, s₂, henter, hduring, (Within.entered henter).run hduring h.stays, hleave⟩

/-- **What a call does is a play of its script**, whatever happens meanwhile. -/
theorem plays (h : Call s t acts s') : ∃ result, t.script.Plays (movesIn acts) result := by
  obtain ⟨s₁, s₂, -, -, hwithin, hleave⟩ := h.exists_within
  obtain ⟨rest, hrest, hplays⟩ := hwithin.holder
  rw [← List.append_nil (movesIn acts)]
  cases hleave with
  | leave hs =>
    cases hs.symm.trans hrest
    exact ⟨some _, hplays [] _ ⟨rfl, rfl⟩⟩
  | stop hs =>
    cases hs.symm.trans hrest
    exact ⟨none, hplays [] _ ⟨rfl, rfl⟩⟩

/-- **A call goes one of the ways that calls can go.** -/
theorem conduct (h : Call s t acts s') : t.Conduct (movesIn acts) :=
  h.plays.elim fun _ => Task.conduct_of_plays

/-- Getting the lock and leaving it does nothing to the store. -/
theorem exists_run (h : Call s t acts s') :
    ∃ s₁ s₂, Run s₁ acts s₂ ∧ s₁.store = s.store ∧ s'.store = s₂.store := by
  obtain ⟨s₁, s₂, henter, hduring, -, hleave⟩ := h.exists_within
  refine ⟨s₁, s₂, hduring, ?_, ?_⟩
  · cases henter
    rfl
  · cases hleave <;> rfl

/-- **A call that only looks** tells nothing and leaves the store to the others. -/
theorem of_looks (h : Call s t acts s') (hlooks : ∀ m ∈ movesIn acts, m.isLook = true) :
    toldIn acts = [] ∧ s'.store = s.store.after (othersIn acts) := by
  constructor
  · rw [List.eq_nil_iff_forall_not_mem]
    exact fun e he => nomatch hlooks _ (mem_toldIn_iff.1 he)
  · obtain ⟨s₁, s₂, hduring, hentered, hleft⟩ := h.exists_run
    rw [hleft, ← hentered]
    exact hduring.store_eq_after fun q reply hm => hlooks (.asked q reply) hm

theorem streaks_eq (h : Call s t acts s') :
    s'.streaks = s.streaks.record t.check.id t.result.success := by
  obtain ⟨s₁, s₂, henter, -, hwithin, hleave⟩ := h.exists_within
  have htask : t.streaks = s.streaks.record t.check.id t.result.success := by
    cases henter with
    | enter _ _ _ _ => rfl
  rw [← htask, ← hwithin.streaks]
  cases hleave <;> rfl

end Call

/-! ## Calls that nobody disturbs -/

/-- A call that holds the lock can go on to its end by itself, also if the store fails now and then,
and then does what running its script does. -/
theorem Run.alone {w : World} (hw : w.backend.Honest) {t : Task} (rest : Script (Option Alert))
    {stage : Stage} (hfollows : Follows t stage rest) {s : Site} (hs : s.holder = some (t, rest)) :
    Run s ((rest.moves w s.store).map (·.act t) ++ [.left t])
      { s with store := (rest.run w s.store).store, holder := none } := by
  induction rest generalizing stage s with
  | done a => exact .single (.leave hs)
  | abort => exact .single (.stop hs)
  | ask q next ih =>
    obtain ⟨stage', hnext⟩ := hfollows.exists_of_ask (w.backend q s.store).1
    simp only [Script.run, Script.moves, List.map_cons, List.cons_append]
    refine Run.cons_iff.2 ⟨{ s with store := (w.backend q s.store).2
                                    holder := some (t, next (w.backend q s.store).1) }, ?_,
      ih _ hnext rfl⟩
    rcases hw q s.store with heq | ⟨e, heq⟩
    · rw [heq]
      exact .answer hs
    · rw [heq]
      exact .fail hs e
  | clock next ih =>
    cases hfollows with
    | clock h =>
      refine Run.cons_iff.2 ⟨_, .look hs w.now, ih w.now (h w.now) (s := { s with
        holder := some (t, next w.now) }) rfl⟩
  | publish e next ih =>
    have hnext : Follows t .over next := by
      cases hfollows <;> assumption
    exact Run.cons_iff.2 ⟨_, .tell hs, ih hnext (s := { s with holder := some (t, next) }) rfl⟩
  | send r next ih => cases hfollows

/-- **A call may come to its end by itself**, whichever of its queries the store fails. -/
theorem Call.alone {w : World} (hw : w.backend.Honest) {s : Site}
    {before after : List (Check × CheckResult)} {check : Check} {result : CheckResult}
    {id : String} (hfree : s.holder = none)
    (hwaits : s.waiting = before ++ (check, result) :: after) (hnew : id ∉ s.spent)
    (hplain : PlainText id) :
    let t := s.task check result id
    Call s t ((t.script.moves w s.store).map (·.act t))
      { s with
        streaks := t.streaks
        waiting := before ++ after
        store := (t.script.run w s.store).store
        holder := none
        spent := id :: s.spent } := by
  intro t
  refine ⟨?_, fun hm => ?_⟩
  · exact Run.cons_iff.2 ⟨_, .enter hfree hwaits hnew hplain,
      Run.alone hw t.script t.follows_script rfl⟩
  · obtain ⟨m, -, hm⟩ := List.mem_map.1 hm
    cases m <;> cases hm

end NetWatch
