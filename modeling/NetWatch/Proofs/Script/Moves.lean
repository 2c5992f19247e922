/-
NetWatch.Proofs.Script.Moves — scripts by what they do and what they are told.

A move is one thing that a script does and what comes of it: a query and its
reply, a look at the clock and the time it shows, an event. A script plays some
moves if it does just these as long as it is told what they say (`Script.Plays`).
Nothing is asked of the replies, so a store that fails now and then is covered,
and one that others write to between two queries.

A script made of two plays the moves of the first and then those of the second
(`Script.Plays.of_bind`). Requests are no moves; a script that makes one plays
nothing.
-/
import NetWatch.Proofs.Script.Looking

namespace NetWatch

/-- What a script does and what it is told. -/
inductive Move where
  | asked (q : Query) (reply : q.Reply)
  | looked (now : Timestamp)
  | told (e : Event)

/-- Whether a move leaves everything as it was. -/
def Move.isLook : Move → Bool
  | .asked q _ => q.isLookup
  | .looked _ => true
  | .told _ => false

namespace Script

variable {α β : Type}

/-- Whether a script does just some moves and then has a result, or stops for good. -/
def Plays : Script α → List Move → Option α → Prop
  | .done a, moves, result => moves = [] ∧ result = some a
  | .abort, moves, result => moves = [] ∧ result = none
  | .ask q next, moves, result =>
    ∃ reply rest, moves = .asked q reply :: rest ∧ (next reply).Plays rest result
  | .clock next, moves, result =>
    ∃ now rest, moves = .looked now :: rest ∧ (next now).Plays rest result
  | .publish e next, moves, result => ∃ rest, moves = .told e :: rest ∧ next.Plays rest result
  | .send _ _, _, _ => False

/-- The moves of a script that meets a world. -/
def moves (w : World) : Script α → Store → List Move
  | .done _, _ => []
  | .abort, _ => []
  | .ask q next, s =>
    let reply := w.backend q s
    .asked q reply.1 :: (next reply.1).moves w reply.2
  | .clock next, s => .looked w.now :: (next w.now).moves w s
  | .publish e next, s => .told e :: next.moves w s
  | .send r next, s => (next (w.network r)).moves w s

namespace Plays

variable {s : Script α} {moves : List Move} {result : Option α}

/-- **The moves of two scripts come one after the other**, if the first does not stop for good. -/
theorem of_bind {f : α → Script β} {result : Option β} (h : (s >>= f).Plays moves result) :
    (∃ a first last, moves = first ++ last ∧ s.Plays first (some a) ∧ (f a).Plays last result) ∨
      (result = none ∧ s.Plays moves none) := by
  induction s generalizing moves with
  | done a => exact .inl ⟨a, [], moves, rfl, ⟨rfl, rfl⟩, h⟩
  | abort => exact .inr ⟨h.2, h.1, rfl⟩
  | ask q next ih =>
    obtain ⟨reply, rest, rfl, hrest⟩ := h
    rcases ih reply hrest with ⟨a, first, last, rfl, hfirst, hlast⟩ | ⟨hnone, hstopped⟩
    · exact .inl ⟨a, .asked q reply :: first, last, rfl, ⟨reply, first, rfl, hfirst⟩, hlast⟩
    · exact .inr ⟨hnone, reply, rest, rfl, hstopped⟩
  | clock next ih =>
    obtain ⟨now, rest, rfl, hrest⟩ := h
    rcases ih now hrest with ⟨a, first, last, rfl, hfirst, hlast⟩ | ⟨hnone, hstopped⟩
    · exact .inl ⟨a, .looked now :: first, last, rfl, ⟨now, first, rfl, hfirst⟩, hlast⟩
    · exact .inr ⟨hnone, now, rest, rfl, hstopped⟩
  | publish e next ih =>
    obtain ⟨rest, rfl, hrest⟩ := h
    rcases ih hrest with ⟨a, first, last, rfl, hfirst, hlast⟩ | ⟨hnone, hstopped⟩
    · exact .inl ⟨a, .told e :: first, last, rfl, ⟨first, rfl, hfirst⟩, hlast⟩
    · exact .inr ⟨hnone, rest, rfl, hstopped⟩
  | send r next ih => exact h.elim

/-- What follows on a script that does not stop for good comes after its moves. -/
theorem exists_of_bind {f : α → Script β} {result : Option β}
    (hgoes : ∀ moves, ¬s.Plays moves none) (h : (s >>= f).Plays moves result) :
    ∃ a first last, moves = first ++ last ∧ s.Plays first (some a) ∧ (f a).Plays last result :=
  (of_bind h).resolve_right fun hstopped => hgoes moves hstopped.2

end Plays

end Script

end NetWatch
