/-
NetWatch.Listener — what follows from the events that are told (`EventListener`).

An alert that is raised or resolved is announced over the channels; one that is
suppressed is not. A device that is announced gets its check. All other events
are let pass, and so is an event that carries something else than its topic
says.

Events wait for the listener in a backlog (`EventBus`). If too many wait, the oldest are
lost.
-/
import NetWatch.Discovery
import NetWatch.Notification.Announcement

namespace NetWatch

namespace Listener

/-- Does what follows from an event (`EventListener::handle`); a check that is made for a device is
named `id`. Yields whether there was one. -/
def handle (orders : Enumeration) (e : Event) (id : String) : Script Bool :=
  if e.topic = Topic.alertTriggered ∨ e.topic = Topic.alertResolved then do
    Announcement.ofEvent orders e
    return false
  else if e.topic = Topic.deviceDiscovered then
    match e.payload with
    | .deviceDiscovered d => do
      match ← Discovery.provision d id with
      | .ok made => return made
      | .error _ => return false
    | .alert _ => return false
    | .metrics _ => return false
  else return false

end Listener

/-! ## The backlog -/

/-- How many events can wait (`BUS_CAPACITY`). -/
def Backlog.capacity : Nat := 256

/-- Events that wait, the oldest first. -/
structure Backlog where
  events : List Event
  bounded : events.length ≤ Backlog.capacity

namespace Backlog

/-- Nothing waits. -/
def empty : Backlog :=
  ⟨[], by simp⟩

/-- The newest of some events, as many as can wait. -/
def newest (events : List Event) : Backlog :=
  ⟨events.drop (events.length - capacity), by rw [List.length_drop]; omega⟩

/-- One more event waits (`EventBus::publish`); the oldest makes room for it if it has to. -/
def push (b : Backlog) (e : Event) : Backlog :=
  newest (b.events ++ [e])

/-! ### Laws -/

theorem push_of_lt (b : Backlog) (e : Event) (h : b.events.length < capacity) :
    (b.push e).events = b.events ++ [e] := by
  have hd : (b.events ++ [e]).length - capacity = 0 := by simp; omega
  simp only [push, newest, hd, List.drop_zero]

theorem push_of_full (b : Backlog) (e : Event) (h : b.events.length = capacity) :
    (b.push e).events = b.events.tail ++ [e] := by
  have hd : (b.events ++ [e]).length - capacity = 1 := by simp; omega
  have hne : b.events ≠ [] := by
    intro hnil
    rw [hnil] at h
    simp [capacity] at h
  obtain ⟨x, rest, hx⟩ := List.exists_cons_of_ne_nil hne
  simp only [push, newest, hd]
  simp [hx]

end Backlog

end NetWatch
