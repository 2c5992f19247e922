/-
NetWatch.Proofs.Script.Sending — scripts whose requests do not depend on the replies.

A network may answer a request as it likes, also by what was asked of it
before; `Script.runOn` runs a script on such a network, and on one that answers
each request always alike this is the run of the script.

Some scripts send the same requests whatever they are answered (`Script.Sends`).
Put together, two of them are such a script again (`Sends.bind`); on every
network they come to an end, publish nothing and leave the store as it was
(`Sends.runOn`).
-/
import NetWatch.Proofs.Script.Looking

namespace NetWatch

/-- How a network answers one more request, given those that were made before. -/
abbrev Network := List Http.Request → Http.Request → Http.Reply

/-- The network once a request has been made. -/
def Network.after (n : Network) (r : Http.Request) : Network :=
  fun sent => n (r :: sent)

namespace Script

variable {α β : Type}

/-- Runs a script at one clock reading on a network that may remember what was asked of it. -/
def runOn (now : Timestamp) (b : Backend) : Network → Script α → Store → Trace α
  | _, .done a, s => ⟨some a, s, [], []⟩
  | _, .abort, s => ⟨none, s, [], []⟩
  | n, .ask q next, s =>
    let reply := b q s
    runOn now b n (next reply.1) reply.2
  | n, .clock next, s => runOn now b n (next now) s
  | n, .publish e next, s =>
    let t := runOn now b n next s
    { t with events := e :: t.events }
  | n, .send r next, s =>
    let t := runOn now b (n.after r) (next (n [] r)) s
    { t with requests := r :: t.requests }

/-- **A network that answers each request always alike** is the one of a run. -/
theorem runOn_steady (w : World) (script : Script α) (s : Store) :
    script.runOn w.now w.backend (fun _ => w.network) s = script.run w s := by
  induction script generalizing s with
  | done a => rfl
  | abort => rfl
  | ask q next ih => exact ih _ _
  | clock next ih => exact ih _ s
  | publish e next ih =>
    exact congrArg (fun t : Trace α => { t with events := e :: t.events }) (ih s)
  | send r next ih =>
    exact congrArg (fun t : Trace α => { t with requests := r :: t.requests }) (ih _ s)

/-! ## Sending whatever is answered -/

/-- A script that sends just these requests, whatever it is answered, and does nothing else that
could be noticed. -/
inductive Sends (now : Timestamp) (b : Backend) (s : Store) :
    Script α → List Http.Request → Prop
  | done (a : α) : Sends now b s (.done a) []
  | ask {q : Query} {next : q.Reply → Script α} {rs : List Http.Request} (hkept : (b q s).2 = s)
    (h : Sends now b s (next (b q s).1) rs) : Sends now b s (.ask q next) rs
  | clock {next : Timestamp → Script α} {rs : List Http.Request}
    (h : Sends now b s (next now) rs) : Sends now b s (.clock next) rs
  | send {r : Http.Request} {next : Http.Reply → Script α} {rs : List Http.Request}
    (h : ∀ reply, Sends now b s (next reply) rs) : Sends now b s (.send r next) (r :: rs)

namespace Sends

variable {now : Timestamp} {b : Backend} {s : Store} {script : Script α}
  {rs rs' : List Http.Request}

/-- What goes on with requests of its own, whatever came of the first script, sends both. -/
theorem bind {f : α → Script β} (h : Sends now b s script rs)
    (hf : ∀ a, Sends now b s (f a) rs') : Sends now b s (script >>= f) (rs ++ rs') := by
  induction h with
  | done a => exact hf a
  | ask hkept _ ih => exact .ask hkept ih
  | clock _ ih => exact .clock ih
  | send _ ih => exact .send ih

/-- **On every network** the script ends, and its requests are all that is seen of it. -/
theorem runOn (h : Sends now b s script rs) (n : Network) :
    ∃ a, script.runOn now b n s = ⟨some a, s, [], rs⟩ := by
  induction h generalizing n with
  | done a => exact ⟨a, rfl⟩
  | @ask q next rs hkept _ ih =>
    obtain ⟨a, hrun⟩ := ih n
    refine ⟨a, ?_⟩
    show Script.runOn now b n (next (b q s).1) (b q s).2 = _
    rw [hkept, hrun]
  | clock _ ih => exact ih n
  | @send r next rs _ ih =>
    obtain ⟨a, hrun⟩ := ih (n [] r) (n.after r)
    refine ⟨a, ?_⟩
    show { Script.runOn now b (n.after r) (next (n [] r)) s with
      requests := r :: (Script.runOn now b (n.after r) (next (n [] r)) s).requests } = _
    rw [hrun]

theorem run {w : World} (h : Sends w.now w.backend s script rs) :
    ∃ a, script.run w s = ⟨some a, s, [], rs⟩ := by
  rw [← runOn_steady]
  exact h.runOn _

end Sends

end Script

end NetWatch
