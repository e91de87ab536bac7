import Dashboard.Button
import Dashboard.Cache
import Dashboard.Definition
import Dashboard.History
import Dashboard.Panel
import Dashboard.Screen
import Dashboard.Undo
import Dashboard.Waiting

/-!
# Sessions

A session is one use of the board: the panels with their activities, what
waits, what is kept, what the screen shows, and the commands still to be
carried out. Its log lists what it did to the outside: requests to the server
and calls of capabilities.
-/

namespace Dashboard

inductive Effect where
  | fetched (url : String)
  | posted (url : String) (body : Json)
  | called (capability : Capability) (name : String) (context : Context) (event : Option Event)
  deriving Inhabited

namespace Activity

/-- The calls made when a capability of the activity is used. -/
def calls (a : Activity) (capability : Capability) (event : Option Event) : List Effect :=
  match a.capabilities.name? capability with
  | some name => [.called capability name a.context event]
  | none => []

end Activity

structure Settings where
  pagePath : String
  pageQuery : Params
  undoCapacity : Nat
  historyCapacity : Nat
  deriving Inhabited

def Settings.default : Settings :=
  ⟨"/dashboard", .empty, UndoStack.defaultCapacity, History.defaultCapacity⟩

structure Session where
  pagePath : String
  pageQuery : Params
  registry : Registry
  slots : List Slot
  buttons : List Button
  waiting : Waiting
  cache : Cache
  history : History
  undo : UndoStack
  screen : Screen
  /-- Parameters sent to every activity that is loaded. -/
  params : Params
  /-- Commands to be carried out, the next one first. -/
  queue : List Command
  /-- What was done, the last deed last. -/
  log : List Effect
  deriving Inhabited

namespace Session

def new (settings : Settings) (registry : Registry) : Session where
  pagePath := settings.pagePath
  pageQuery := settings.pageQuery
  registry := registry
  slots := []
  buttons := []
  waiting := .empty
  cache := .empty
  history := .empty settings.historyCapacity
  undo := .empty settings.undoCapacity
  screen := .blank
  params := .empty
  queue := []
  log := []

/-! ## Panels -/

def slot? (s : Session) (panel : String) : Option Slot := s.slots.find? fun slot => slot.name = panel

/-- Changes the first slot with this name. -/
def changeFirst (panel : String) (f : Slot → Slot) : List Slot → List Slot
  | [] => []
  | slot :: rest => if slot.name = panel then f slot :: rest else slot :: changeFirst panel f rest

def changeSlot (s : Session) (panel : String) (f : Slot → Slot) : Session :=
  { s with slots := changeFirst panel f s.slots }

def activities (s : Session) : List Activity := s.slots.flatMap Slot.activities

/-! ## Small deeds -/

def note (s : Session) (effects : List Effect) : Session := { s with log := s.log ++ effects }

def enqueue (s : Session) (commands : List Command) : Session :=
  { s with queue := s.queue ++ commands }

def display (s : Session) (messages : List Message) : Session :=
  { s with screen := s.screen.display messages }

def clearMessages (s : Session) : Session := { s with screen := s.screen.clear }

def report (s : Session) (failure : Failure) : Session := s.display [failure.message]

def keepUndo (s : Session) (response : Json) : Session :=
  match UndoAction.collect response with
  | [] => s
  | batch => { s with screen := { s.screen with undoEnabled := true }, undo := s.undo.push batch }

def provided (s : Session) : List Params := s.activities.filterMap Activity.parameters?

def providedForScan (s : Session) : List Params := s.activities.filterMap Activity.scanParameters?

def noteCalls (s : Session) (capability : Capability) (event : Option Event) : Session :=
  s.note (s.activities.flatMap fun a => a.calls capability event)

/-! ## Events -/

/-- Delivers an event to all activities in panels; their answers are queued. -/
def deliver (e : Event) (s : Session) : Session :=
  let receivers := s.activities
  { s.noteCalls .handleEvent (some e) with
    queue := s.queue ++ e.answers receivers
    history := s.history.push e (e.handlers receivers) }

/-! ## Activities into panels -/

def showActivity (a : Activity) (content : Json) (s : Session) : Session :=
  let s := { s with screen := s.screen.draw a.panel content }
  let s := s.note (a.calls .postScript none)
  (s.changeSlot a.panel (Slot.showing a)).enqueue a.postScript

/-- Runs an activity without content. The panel is lent to it until its events have been
delivered; its other commands wait until the panel has been given back. -/
def runActivity (a : Activity) (s : Session) : Session :=
  match s.slot? a.panel with
  | none => s
  | some _ =>
    let s := s.changeSlot a.panel (Slot.lentTo a)
    let commands := a.execute ++ a.postScript
    let s := s.note (a.calls .execute none ++ a.calls .postScript none)
    let s := (commands.filterMap Command.event?).foldl (fun s e => s.deliver e) s
    let s := s.enqueue (commands.filter fun c => c.event?.isNone)
    s.changeSlot a.panel Slot.givenBack

def install (panel url source : String) (fromCache : Bool) (s : Session) : Session :=
  match s.registry.activity panel url source with
  | .error failure => (s.changeSlot panel Slot.abandonLoading).report failure
  | .ok a =>
    let s := if a.cached && !fromCache then { s with cache := s.cache.keep url source } else s
    match a.display with
    | some content => s.showActivity a content
    | none => s.runActivity a

/-! ## Buttons -/

/-- Queues what a button does: the load of its pages, then the event of the press. -/
def press (b : Button) (s : Session) : Session :=
  let extras := s.provided
  let s := (s.noteCalls .provideParameters none).clearMessages
  s.enqueue
    [.load b.pages extras, .send ⟨Event.buttonPressed, .ofList [("button", b.json)]⟩]

def pressAt (index : Nat) (s : Session) : Session :=
  match s.buttons[index]? with
  | some b => s.press b
  | none => s

def pressId (id : String) (s : Session) : Session :=
  (s.buttons.filter fun b => b.id = id).foldl (fun s b => s.press b) s

end Session

end Dashboard
