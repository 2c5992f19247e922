/-
NetWatch.Setup — what the service is made of, as its settings ask for it
(`Engine::new`, `open_pool`).

Checks are run and old data is cleaned up again and again, each after a period
of its own. Alerts are raised by rules, only so many checks go on at once, and
the store is reached over a pool of connections. Not every number makes such a
part: nothing can come again after no time at all, no span is longer than the
longest, and a pool keeps a place and a permit for every connection from the
start. A part that cannot be made keeps the service from being there.
-/
import NetWatch.Schedule
import NetWatch.Settings.Basic

namespace NetWatch

/-! ## Tickers -/

/-- Something that comes again after every period, in seconds. -/
structure Ticker where
  period : Nat
  period_pos : 0 < period
  deriving DecidableEq, Repr

/-- The ticker of a period; a period of no time has none. -/
def Ticker.every? (seconds : Nat) : Option Ticker :=
  if h : 0 < seconds then some ⟨seconds, h⟩ else none

/-! ## Connections -/

/-- Connections to the store, each lent to one user at a time (`LibsqlPool`). -/
structure Pool where
  /-- How many there may be. -/
  size : Nat
  /-- How many of them are in use. -/
  lent : Nat
  lent_le : lent ≤ size
  size_le : size ≤ maximalPermits
  deriving DecidableEq, Repr

namespace Pool

/-- A pool of which nothing is in use (`open_pool`), if its permits can be kept together and
memory has room for all its places; for how many it has is up to the machine. -/
def ofSize? (room size : Nat) : Option Pool :=
  if h : size ≤ room ∧ size ≤ maximalPermits then some ⟨size, 0, Nat.zero_le size, h.2⟩ else none

/-- Lends a connection, if one is left; who asks for one waits for that otherwise. -/
def lend? (p : Pool) : Option Pool :=
  if h : p.lent < p.size then some { p with lent := p.lent + 1, lent_le := h } else none

/-- Whether a connection can be had. -/
def hasOne (p : Pool) : Bool :=
  p.lend?.isSome

theorem isSome_ofSize?_iff {room size : Nat} :
    (ofSize? room size).isSome = true ↔ size ≤ room ∧ size ≤ maximalPermits := by
  unfold ofSize?
  split <;> simp_all

theorem hasOne_of_ofSize? {room size : Nat} {p : Pool} (h : ofSize? room size = some p) :
    p.hasOne = true ↔ 1 ≤ size := by
  unfold ofSize? at h
  split at h
  · cases h
    by_cases hpos : 0 < size
    · simp [hasOne, lend?, hpos]
      omega
    · simp [hasOne, lend?, hpos]
      omega
  · cases h

end Pool

/-! ## All together -/

/-- The parts that the service is made of (`Engine`), but for its connections. -/
structure Setup where
  /-- When the next checks are due. -/
  checks : Ticker
  /-- When old data is cleaned up next. -/
  cleanups : Ticker
  rules : AlertRules
  scheduler : Scheduler
  /-- How long data is kept. -/
  retention : Duration

namespace Settings

/-- The parts that settings ask for, if each of them can be made. -/
def setup? (s : Settings) : Option Setup := do
  let rules ← s.monitor.rules?
  let checks ← Ticker.every? s.monitor.checkIntervalSecs.toNat
  let cleanups ← Ticker.every? s.monitor.maintenanceIntervalSecs.toNat
  return ⟨checks, cleanups, rules, .idle s.monitor.maxWorkers.toNat, s.monitor.retention⟩

/-- The connections that settings ask for, if memory has room for them. -/
def pool? (s : Settings) (room : Nat) : Option Pool :=
  Pool.ofSize? room s.database.maxConnections.toNat

end Settings

end NetWatch
