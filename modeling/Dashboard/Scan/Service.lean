import Dashboard.Scan.Buffer
import Dashboard.Session.Operation

/-!
# Scans

A barcode is posted to the server with the parameters that activities provide
for scans. The response can press buttons, undo, send events and carry undo
actions of its own.
-/

namespace Dashboard

structure ScanService where
  url : String
  /-- Appended to the url as it is. -/
  urlSuffix : String
  deriving DecidableEq, Repr, Inhabited

def ScanService.defaultUrl : String := "/scan/scan"

structure ScanResponse where
  resolved : Bool
  barcode : String
  messageHolder : Option Json
  actions : List Json
  deriving Inhabited

namespace ScanResponse

open Json

def record : Record ScanResponse where
  name := "ScanResponse"
  blank := ⟨false, "", none, []⟩
  fields :=
    [.defaulted "resolved" .bool fun resolved r => { r with resolved },
     .defaulted "barcode" .string fun barcode r => { r with barcode },
     .defaulted "messageHolder" (.optional .json) fun messageHolder r => { r with messageHolder },
     .defaulted "scanActions" (.list .json) fun actions r => { r with actions }]
  closed := false

def ofJson? (j : Json) : Option ScanResponse := (record.reader.ofJson j).toOption

/-- The messages that are shown before the actions. -/
def messages (r : ScanResponse) : List Message :=
  let held := match r.messageHolder with
    | some holder =>
      if ((holder.field "message").field "text").isNull then [] else Message.ofEnvelope holder
    | none => []
  held ++ (if r.resolved then [] else [⟨.error, "Could not find barcode " ++ r.barcode⟩])

end ScanResponse

/-- The command of a scan action; actions that are no events or press no button do nothing. -/
def scanCommand? (action : Json) : Option Command :=
  match Event.ofJson? action with
  | none => none
  | some e =>
    if e.kind ≠ "BUTTON_PRESS" then some (.send e)
    else
      match (e.fields.get? "button").bind Json.string? with
      | some "_UNDO" => some .undo
      | some button => some (.press button)
      | none => none

namespace Session

/-- What is posted for a barcode: provided parameters win over the barcode itself. -/
def scanRequest (s : Session) (barcode : String) : Json :=
  .object (s.providedForScan.foldl Dict.merge (.ofList [("barcode", .str barcode)]))

end Session

namespace Board

variable {σ : Type} (server : Server σ) (fuel : Nat)

/-- Performs scan actions one after the other, each with all that follows from it. -/
def performActions : List Json → Board σ → Board σ
  | [], b => b
  | action :: rest, b =>
    match scanCommand? action with
    | some command => performActions rest (b.perform server fuel (.run command))
    | none => performActions rest b

def scanResponse (response : Json) (b : Board σ) : Board σ :=
  match response.get? "scanResponse" with
  | none =>
    if Message.isEnvelope response then b.onSession fun s => s.display (Message.ofEnvelope response)
    else b
  | some raw =>
    match ScanResponse.ofJson? raw with
    | none => b
    | some scan =>
      let b := b.onSession fun s => s.display scan.messages
      (performActions server fuel scan.actions b).onSession fun s => s.keepUndo raw

def scan (service : ScanService) (barcode : String) (b : Board σ) : Board σ :=
  let request := b.session.scanRequest barcode
  let b := b.onSession fun s => s.clearMessages.noteCalls .provideScanParameters none
  let (answer, b) := b.post server (service.url ++ service.urlSuffix) request
  match answer with
  | .error refusal => b.onSession fun s => s.report (.refused refusal)
  | .ok text =>
    match Json.ofText? text with
    | some response => scanResponse server fuel response b
    | none => b

end Board

end Dashboard
