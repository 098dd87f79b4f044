import SessionBus.Registry.Switchboard

/-!
# Event feeds

An observer reads the events of a switchboard at its own pace.  A feed keeps the events that are
not yet read, at most `Feed.capacity` of them; beyond that the oldest are lost, and the next
reading begins with their number.
-/

namespace SessionBus

/-- What an observer reads. -/
inductive Notice where
  | event (event : Event)
  | lagged (skipped : Nat)
deriving DecidableEq, Repr

/-- The events that an observer has not yet read, and the number of those lost. -/
structure Feed where
  unread : List Event
  lost : Nat
deriving DecidableEq, Repr

namespace Feed

/-- The greatest number of events that wait. -/
def capacity : Nat := 128

def empty : Feed := ⟨[], 0⟩

/-- Adds an event, at the cost of the oldest if there is no room. -/
def push (feed : Feed) (event : Event) : Feed :=
  if feed.unread.length < capacity then { feed with unread := feed.unread ++ [event] }
  else ⟨feed.unread.drop 1 ++ [event], feed.lost + 1⟩

def notices (feed : Feed) : List Notice :=
  (if feed.lost = 0 then [] else [.lagged feed.lost]) ++ feed.unread.map .event

end Feed

end SessionBus
