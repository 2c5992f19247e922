/-
NetWatch.Script — what the monitor does to the world, as data: its async
functions, cut at each call of the store, the clock, the bus and the network.

A script is a tree of steps: it asks the store, reads the clock, publishes
events and makes requests, and goes on with what it is told. Because it is
data, the same script can be run against one clock reading or many, a store
that answers or one that fails, and a network of any kind; and the steps of
several scripts can be interleaved.

A script that has to name a moment outside of the calendar stops for good.
-/
import NetWatch.Event
import NetWatch.Http
import NetWatch.Store.Basic

namespace NetWatch

/-- A computation that acts on the world step by step. -/
inductive Script (α : Type) where
  | done (a : α)
  /-- There is no such moment; nothing more is done. -/
  | abort
  | ask (q : Query) (next : q.Reply → Script α)
  | clock (next : Timestamp → Script α)
  | publish (e : Event) (next : Script α)
  | send (r : Http.Request) (next : Http.Reply → Script α)

namespace Script

variable {α β : Type}

/-- Goes on with a script that depends on the result of the first. -/
def bind (s : Script α) (f : α → Script β) : Script β :=
  match s with
  | .done a => f a
  | .abort => .abort
  | .ask q next => .ask q fun r => (next r).bind f
  | .clock next => .clock fun t => (next t).bind f
  | .publish e next => .publish e (next.bind f)
  | .send r next => .send r fun a => (next a).bind f

instance : Monad Script where
  pure := .done
  bind := .bind

/-- Asks the store. -/
def query (q : Query) : Script q.Reply :=
  .ask q .done

/-- The reading of the clock (`Utc::now`). -/
def now : Script Timestamp :=
  .clock .done

/-- Makes a request and waits for what comes of it. -/
def request (r : Http.Request) : Script Http.Reply :=
  .send r .done

/-- Tells an event of the monitor itself to all who listen (`EventBus::publish`). -/
def announce (topic : String) (payload : Payload) : Script Unit :=
  .clock fun t => .publish (.create topic payload t) (.done ())

/-- The moment a span before now. -/
def ago (d : Duration) : Script Timestamp :=
  .clock fun t =>
    match t.sub? d with
    | some since => .done since
    | none => .abort

end Script

/-! ## Running -/

/-- How a store answers queries. -/
abbrev Backend := (q : Query) → Store → q.Reply × Store

/-- The store as it answers when nothing stands in its way. -/
def Backend.sound : Backend :=
  fun q s => s.answer q

/-- What a script meets: the clock, the store's way of answering, the network. -/
structure World where
  now : Timestamp
  backend : Backend
  network : Http.Request → Http.Reply

/-- What came of a script. -/
structure Trace (α : Type) where
  /-- Its result, unless it stopped for good. -/
  result : Option α
  store : Store
  /-- What it published, in order. -/
  events : List Event
  /-- What it sent, in order. -/
  requests : List Http.Request

namespace Trace

/-- The trace of something that does nothing. -/
def nothing (s : Store) : Trace Unit :=
  ⟨some (), s, [], []⟩

/-- The trace of two things, one after the other; the result is that of the second. -/
def andThen {α β : Type} (t : Trace α) (u : Trace β) : Trace β :=
  ⟨u.result, u.store, t.events ++ u.events, t.requests ++ u.requests⟩

end Trace

def Script.run {α : Type} (w : World) : Script α → Store → Trace α
  | .done a, s => ⟨some a, s, [], []⟩
  | .abort, s => ⟨none, s, [], []⟩
  | .ask q next, s =>
    let reply := w.backend q s
    (next reply.1).run w reply.2
  | .clock next, s => (next w.now).run w s
  | .publish e next, s =>
    let t := next.run w s
    { t with events := e :: t.events }
  | .send r next, s =>
    let t := (next (w.network r)).run w s
    { t with requests := r :: t.requests }

namespace Script

variable {α β : Type}

/-! ## Laws -/

instance : LawfulMonad Script :=
  LawfulMonad.mk' Script
    (by
      intro α s
      show s.bind (fun a => .done a) = s
      induction s with
      | done a => rfl
      | abort => rfl
      | ask q next ih => simp only [Script.bind, ih]
      | clock next ih => simp only [Script.bind, ih]
      | publish e next ih => simp only [Script.bind, ih]
      | send r next ih => simp only [Script.bind, ih])
    (by intro α β a f; rfl)
    (by
      intro α β γ s f g
      show (s.bind f).bind g = s.bind (fun a => (f a).bind g)
      induction s with
      | done a => rfl
      | abort => rfl
      | ask q next ih => simp only [Script.bind, ih]
      | clock next ih => simp only [Script.bind, ih]
      | publish e next ih => simp only [Script.bind, ih]
      | send r next ih => simp only [Script.bind, ih])

end Script

end NetWatch
