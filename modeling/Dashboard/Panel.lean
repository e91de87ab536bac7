import Dashboard.Activity

/-!
# Panels

A panel shows one activity at a time. An activity without content takes the
panel while it executes, and the one before it then comes back.
-/

namespace Dashboard

structure Panel where
  name : String
  defaultUrl : String
  deriving DecidableEq, Repr, Inhabited

/-- The variable by which the server addresses the panel's activity. -/
def Panel.variableName (p : Panel) : String := "_" ++ p.name

/-- Whether the last activity of a panel showed something or only executed. -/
inductive Mode where
  | gui
  | nonGui
  deriving DecidableEq, Repr, Inhabited

def Mode.name : Mode → String
  | .gui => "GUI"
  | .nonGui => "NON_GUI"

inductive Stage where
  | empty
  | loading
  | displayed
  | executed
  deriving DecidableEq, Repr, Inhabited

def Stage.name : Stage → String
  | .empty => "EMPTY"
  | .loading => "LOADING"
  | .displayed => "DISPLAYED"
  | .executed => "EXECUTED"

structure Slot where
  panel : Panel
  mode : Mode
  stage : Stage
  /-- The stage before the load that is under way. -/
  priorStage : Stage
  currentUrl : Option String
  active : Option Activity
  /-- The activity that comes back after the active one. -/
  displaced : Option Activity
  deriving Inhabited

namespace Slot

def ofPanel (p : Panel) : Slot := ⟨p, .gui, .empty, .empty, none, none, none⟩

def name (s : Slot) : String := s.panel.name

/-- The active activity, then the displaced one. -/
def activities (s : Slot) : List Activity := s.active.toList ++ s.displaced.toList

def startLoading (s : Slot) : Slot := { s with priorStage := s.stage, stage := .loading }

def abandonLoading (s : Slot) : Slot := { s with stage := s.priorStage }

def showing (a : Activity) (s : Slot) : Slot :=
  { s with
    mode := .gui, stage := .displayed, currentUrl := some a.url, displaced := none, active := some a }

def lentTo (a : Activity) (s : Slot) : Slot :=
  { s with mode := .nonGui, displaced := s.active, active := some a }

/-- The slot after the activity it was lent to has executed. -/
def givenBack (s : Slot) : Slot :=
  { s with active := s.displaced, displaced := none, stage := .executed }

end Slot

end Dashboard
