import Dashboard.Json.Basic

/-!
# Activities that wait

A load with several activities for one panel starts the first; the others wait
until the panel is finished. The extra parameters of the load wait with them.
-/

namespace Dashboard

structure Waiting where
  queues : Dict (List String)
  /-- The extra parameters of the load that filled the queues. -/
  extras : Option (List Params)
  deriving Inhabited

namespace Waiting

def empty : Waiting := ⟨.empty, none⟩

def urls (w : Waiting) (panel : String) : List String := (w.queues.get? panel).getD []

def isDrained (w : Waiting) : Bool := w.queues.values.all List.isEmpty

/-- Once nothing waits, the extra parameters are forgotten. -/
def settled (w : Waiting) : Waiting := if w.isDrained then { w with extras := none } else w

def replace (w : Waiting) (panel : String) (urls : List String) : Waiting :=
  { w with queues := w.queues.insert panel urls }

def next? (w : Waiting) (panel : String) : Option (String × List Params × Waiting) :=
  match w.urls panel with
  | [] => none
  | url :: rest => some (url, w.extras.getD [], (w.replace panel rest).settled)

def clear (w : Waiting) (panel : String) : Waiting :=
  { w with queues := w.queues.erase panel }.settled

def remember (w : Waiting) (extras : List Params) : Waiting := { w with extras := some extras }

def forget (w : Waiting) : Waiting := { w with extras := none }

end Waiting

end Dashboard
