import Dashboard.Session.Basic

/-!
# The summary of a session

What can be asked about a session from outside, as one JSON object.
-/

namespace Dashboard

def Recorded.json (r : Recorded) : Json :=
  .ofMembers [("event", r.event.json), ("handledBy", .nat r.handledBy)]

namespace Session

def slotJson (s : Session) (slot : Slot) : Json :=
  let capabilities := match slot.active with
    | some a => a.capabilities.declared
    | none => []
  .ofMembers
    [("name", .str slot.name),
     ("defaultUrl", .str slot.panel.defaultUrl),
     ("mode", .str slot.mode.name),
     ("state", .str slot.stage.name),
     ("currentUrl", .ofOption .str slot.currentUrl),
     ("capabilities", .strings (capabilities.map Capability.name)),
     ("displaced", .bool slot.displaced.isSome),
     ("pending", .strings (s.waiting.urls slot.name))]

/-- Loads are over whenever a session can be looked at, so none is counted as under way. -/
def json (s : Session) : Json :=
  .ofMembers
    [("panels", .arr (s.slots.map s.slotJson)),
     ("buttons", .arr (s.buttons.map Button.json)),
     ("undoDepth", .nat s.undo.size),
     ("events", .arr (s.history.recorded.map Recorded.json)),
     ("cachedActivities", .nat s.cache.size),
     ("loadingPanels", .nat 0)]

end Session

end Dashboard
