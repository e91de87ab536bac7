import Dashboard.Activity

/-!
# The registry of capabilities

Definitions name the functions that they use; the registry holds the functions
under these names, in one table per kind.
-/

namespace Dashboard

structure Registry where
  actions : Dict Action
  handlers : Dict Handler
  providers : Dict Provider
  deriving Inhabited

namespace Registry

def empty : Registry := ⟨.empty, .empty, .empty⟩

def withAction (r : Registry) (name : String) (action : Action) : Registry :=
  { r with actions := r.actions.insert name action }

def withHandler (r : Registry) (name : String) (handler : Handler) : Registry :=
  { r with handlers := r.handlers.insert name handler }

def withProvider (r : Registry) (name : String) (provider : Provider) : Registry :=
  { r with providers := r.providers.insert name provider }

def action? (r : Registry) (name : String) : Option (Named Action) :=
  (r.actions.get? name).map (Named.mk name)

def handler? (r : Registry) (name : String) : Option (Named Handler) :=
  (r.handlers.get? name).map (Named.mk name)

def provider? (r : Registry) (name : String) : Option (Named Provider) :=
  (r.providers.get? name).map (Named.mk name)

/-! ## Built-in capabilities -/

def finishOwn : Action := fun c => [.finish (.ofPanel c.panel)]

def sendOwn : Action := fun c =>
  match Event.ofJson? (c.data.field "event") with
  | some e => [.send e]
  | none => []

def showOwn : Action := fun c =>
  match Message.ofEnvelope (c.data.field "message") with
  | [] => []
  | messages => [.display messages]

def provideOwn : Provider := fun c => (c.data.field "params").params?

/-- Finishes the activity's own panel when an event of the type under `finishOn` arrives. -/
def finishOwnOn : Handler := fun c e =>
  if c.data.field "finishOn" |>.string? |>.any (· = e.kind) then [.finish (.ofPanel c.panel)] else []

def builtin : Registry :=
  empty
    |>.withAction "dashboard.finished" finishOwn
    |>.withAction "dashboard.sendEvent" sendOwn
    |>.withAction "dashboard.message" showOwn
    |>.withProvider "dashboard.data" provideOwn
    |>.withHandler "dashboard.finishOnEvent" finishOwnOn

end Registry

end Dashboard
