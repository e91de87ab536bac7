import Dashboard.Event

/-!
# The history of events

The last events, each with the number of activities that handled it.
-/

namespace Dashboard

structure Recorded where
  event : Event
  handledBy : Nat
  deriving Inhabited

/-- The last events, the newest first and at most `capacity` of them. -/
structure History where
  newest : List Recorded
  capacity : Nat
  deriving Inhabited

namespace History

def defaultCapacity : Nat := 4

def empty (capacity : Nat) : History := ⟨[], capacity⟩

def push (h : History) (event : Event) (handledBy : Nat) : History :=
  { h with newest := (⟨event, handledBy⟩ :: h.newest).take h.capacity }

def recorded (h : History) : List Recorded := h.newest.reverse

def size (h : History) : Nat := h.newest.length

end History

end Dashboard
