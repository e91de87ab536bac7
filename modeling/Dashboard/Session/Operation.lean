import Dashboard.Session.Step

/-!
# Operations

What can be asked of the board from outside. An operation has an immediate
part; the commands that it queues are then carried out.
-/

namespace Dashboard

inductive Operation where
  | definePanels (panels : List Panel)
  | defineButtons (buttons : List Button)
  | resetToDefaults
  | addParameter (name : String) (value : Json)
  | load (pages : Json) (extras : List Params)
  | run (command : Command)
  | pressAt (index : Nat)
  | keepUndo (response : Json)
  | postActivity (data : Params) (url panel : String) (arguments : Params)
  | display (messages : List Message)
  | clearMessages
  deriving Inhabited

namespace Board

variable {σ : Type} (server : Server σ)

def loadDefaults (b : Board σ) : Board σ :=
  load server (b.session.slots.map fun slot => ⟨slot.name, slot.panel.defaultUrl, []⟩) b

/-- The commands that follow a successful post: the panel is finished, then the response is looked
through. -/
def afterPost (panel text : String) : List Command :=
  .finish (.ofPanel panel) ::
    match Json.ofText? text with
    | some response =>
      (if Message.isEnvelope response then [.display (Message.ofEnvelope response)] else [])
        ++ [.keepUndo response]
    | none => []

def postActivity (data : Params) (url panel : String) (arguments : Params) (b : Board σ) : Board σ :=
  let (answer, b) := b.post server (Locator.withArguments url arguments.entries) (.object data)
  match answer with
  | .ok text => b.onSession fun s => s.enqueue (afterPost panel text)
  | .error refusal => b.onSession fun s => s.report (.refused refusal)

def start (op : Operation) (b : Board σ) : Board σ :=
  match op with
  | .definePanels panels =>
    (b.onSession fun s => { s with slots := panels.map Slot.ofPanel, waiting := .empty }).loadDefaults
      server
  | .defineButtons buttons => b.onSession fun s => { s with buttons := Button.arranged buttons }
  | .resetToDefaults => b.loadDefaults server
  | .addParameter name value => b.onSession fun s => { s with params := s.params.insert name value }
  | .load pages extras =>
    b.onSession fun s =>
      match Page.listOfJson pages with
      | .ok pages => s.enqueue [.load pages extras]
      | .error reason => s.report (.badLoad reason)
  | .run command => b.onSession fun s => s.enqueue [command]
  | .pressAt index => b.onSession fun s => s.pressAt index
  | .keepUndo response => b.onSession fun s => s.keepUndo response
  | .postActivity data url panel arguments => b.postActivity server data url panel arguments
  | .display messages => b.onSession fun s => s.display messages
  | .clearMessages => b.onSession Session.clearMessages

def perform (fuel : Nat) (op : Operation) (b : Board σ) : Board σ :=
  (b.start server op).settle server fuel

end Board

end Dashboard
