import Dashboard.Command

/-!
# Activities

An activity is loaded into a panel. It may have content to show, and it may
have capabilities: functions of its context that give commands or parameters.
Nothing happens inside a capability; what it asks for is returned.
-/

namespace Dashboard

/-- What a capability sees of its activity. -/
structure Context where
  panel : String
  url : String
  data : Json
  deriving Inhabited

abbrev Action := Context → List Command

abbrev Handler := Context → Event → List Command

abbrev Provider := Context → Option Params

/-- A function under the name it is registered by. -/
structure Named (φ : Type) where
  name : String
  run : φ

inductive Capability where
  | execute
  | handleEvent
  | provideParameters
  | provideScanParameters
  | postScript
  deriving DecidableEq, Repr, Inhabited

def Capability.name : Capability → String
  | .execute => "execute"
  | .handleEvent => "handleEvent"
  | .provideParameters => "provideParameters"
  | .provideScanParameters => "provideScanParameters"
  | .postScript => "postScript"

def Capability.label (c : Capability) : String := c.name.capitalize

structure Capabilities where
  execute : Option (Named Action)
  handleEvent : Option (Named Handler)
  provideParameters : Option (Named Provider)
  provideScanParameters : Option (Named Provider)
  postScript : Option (Named Action)
  deriving Inhabited

namespace Capabilities

def none : Capabilities := ⟨.none, .none, .none, .none, .none⟩

def name? (c : Capabilities) : Capability → Option String
  | .execute => c.execute.map (·.name)
  | .handleEvent => c.handleEvent.map (·.name)
  | .provideParameters => c.provideParameters.map (·.name)
  | .provideScanParameters => c.provideScanParameters.map (·.name)
  | .postScript => c.postScript.map (·.name)

def declared (c : Capabilities) : List Capability :=
  [.execute, .handleEvent, .provideParameters, .provideScanParameters, .postScript].filter
    fun capability => (c.name? capability).isSome

def text (c : Capabilities) : String :=
  "[" ++ String.intercalate ", " (c.declared.map Capability.label) ++ "]"

end Capabilities

structure Activity where
  context : Context
  /-- What the panel shows; an activity without it only executes. -/
  display : Option Json
  capabilities : Capabilities
  /-- Whether the definition may be used again without asking the server. -/
  cached : Bool
  deriving Inhabited

namespace Activity

def panel (a : Activity) : String := a.context.panel

def url (a : Activity) : String := a.context.url

def isGui (a : Activity) : Bool := a.display.isSome

def execute (a : Activity) : List Command :=
  match a.capabilities.execute with
  | some action => action.run a.context
  | none => []

def postScript (a : Activity) : List Command :=
  match a.capabilities.postScript with
  | some action => action.run a.context
  | none => []

/-- Nothing when the activity handles no events. -/
def handle? (a : Activity) (e : Event) : Option (List Command) :=
  a.capabilities.handleEvent.map fun handler => handler.run a.context e

def parameters? (a : Activity) : Option Params :=
  a.capabilities.provideParameters.bind fun provider => provider.run a.context

def scanParameters? (a : Activity) : Option Params :=
  a.capabilities.provideScanParameters.bind fun provider => provider.run a.context

end Activity

/-! ## Delivering events -/

/-- The commands with which these activities answer an event, in their order. -/
def Event.answers (e : Event) (activities : List Activity) : List Command :=
  activities.flatMap fun a => (a.handle? e).getD []

def Event.handlers (e : Event) (activities : List Activity) : Nat :=
  activities.countP fun a => (a.handle? e).isSome

end Dashboard
