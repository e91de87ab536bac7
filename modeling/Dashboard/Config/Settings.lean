import Dashboard.Button
import Dashboard.Config.Environment
import Dashboard.Config.Reader
import Dashboard.Config.Toml
import Dashboard.Json.Reader
import Dashboard.Panel
import Dashboard.Scan.Service
import Dashboard.Session.Basic

/-!
# The configuration of a board

The configuration is a file, overlaid by variables of the environment. It sets
up the server, the board's panels and buttons, and the session.
-/

namespace Dashboard.Config

structure ServerSettings where
  listen : String
  /-- The address of the server that activities, undo and scan requests go to. -/
  backend : String
  requestTimeout : Nat
  deriving DecidableEq, Repr, Inhabited

def ServerSettings.default : ServerSettings := ⟨"0.0.0.0:8080", "http://localhost:8081", 30⟩

def ServerSettings.record : Record ServerSettings where
  name := "ServerSettings"
  blank := .default
  fields :=
    [.defaulted "listen" .string fun listen s => { s with listen },
     .defaulted "upstream" .string fun backend s => { s with backend },
     .defaulted "request_timeout_secs" .u64 fun requestTimeout s => { s with requestTimeout }]

def panelRecord : Record Panel where
  name := "PanelConfig"
  blank := ⟨"", ""⟩
  fields :=
    [.required "name" .string fun name p => { p with name },
     .defaulted "default_url" .string fun defaultUrl p => { p with defaultUrl }]

def buttonActivityRecord : Record ButtonActivity where
  name := "ButtonActivityConfig"
  blank := ⟨"", ""⟩
  fields :=
    [.required "url" .string fun url a => { a with url },
     .required "panel" .string fun panel a => { a with panel }]

def buttonRecord : Record Button where
  name := "ButtonConfig"
  blank := ⟨"", "", none, none, Button.defaultSize, 0, []⟩
  fields :=
    [.required "id" .string fun id b => { b with id },
     .required "label" .string fun label b => { b with label },
     .ofReader "title" (.optional .string) (fun title b => { b with title }) false true,
     .ofReader "css" (.optional .string) (fun css b => { b with css }) false true,
     .ofReader "size" (.optional .double)
       (fun size b => { b with size := size.getD Button.defaultSize }) false true,
     .required "sequence" .i32 fun sequence b => { b with sequence },
     .defaulted "activities" (.list buttonActivityRecord.reader)
       fun activities b => { b with activities }]

structure BoardSettings where
  name : String
  category : Option String
  session : Settings
  scanning : ScanService
  panels : List Panel
  buttons : List Button
  deriving Inhabited

def BoardSettings.record : Record BoardSettings where
  name := "DashboardSettings"
  blank := ⟨"", none, .default, ⟨ScanService.defaultUrl, ""⟩, [], []⟩
  fields :=
    [.required "name" .string fun name s => { s with name },
     .defaulted "category" (.optional .string) fun category s => { s with category },
     .defaulted "page_path" .string fun pagePath s => { s with session := { s.session with pagePath } },
     .defaulted "page_query" .params
       fun pageQuery s => { s with session := { s.session with pageQuery } },
     .defaulted "undo_stack_size" .u64
       fun undoCapacity s => { s with session := { s.session with undoCapacity } },
     .defaulted "event_history_size" .u64
       fun historyCapacity s => { s with session := { s.session with historyCapacity } },
     .defaulted "scan_url" .string fun url s => { s with scanning := { s.scanning with url } },
     .defaulted "scan_params_to_add" .string
       fun urlSuffix s => { s with scanning := { s.scanning with urlSuffix } },
     .defaulted "panels" (.list panelRecord.reader) fun panels s => { s with panels },
     .defaulted "buttons" (.list buttonRecord.reader) fun buttons s => { s with buttons }]

structure Configuration where
  server : ServerSettings
  board : BoardSettings
  deriving Inhabited

def Configuration.record : Record Configuration where
  name := "AppConfig"
  blank := ⟨.default, default⟩
  fields :=
    [.defaulted "server" ServerSettings.record.reader fun server c => { c with server },
     .required "dashboard" BoardSettings.record.reader fun board c => { c with board }]

/-! ## Loading -/

inductive LoadFailure where
  | noFile
  | unreadable
  | unfit (fault : Fault)
  deriving DecidableEq, Repr

def LoadFailure.message : LoadFailure → String
  | .noFile => "configuration file \"config/dashboard\" not found"
  | .unreadable => "configuration file cannot be read"
  | .unfit f => f.message

inductive File where
  | toml (text : String)
  | json (text : String)

def File.origin : File → String
  | .toml _ => "config/dashboard.toml"
  | .json _ => "config/dashboard.json"

mutual

/-- Integers that 64 bits with a sign do not hold become doubles. -/
def signedIntegers : Json → Json
  | .num (.int n) => if n < 0x8000000000000000 then .num (.int n) else .real (.ofInt n)
  | .arr items => .arr (signedItems items)
  | .obj members => .obj (signedMembers members)
  | j => j

def signedItems : List Json → List Json
  | [] => []
  | j :: rest => signedIntegers j :: signedItems rest

def signedMembers : List (String × Json) → List (String × Json)
  | [] => []
  | (key, j) :: rest => (key, signedIntegers j) :: signedMembers rest

end

def File.members? (f : File) : Option (List (String × Setting)) := do
  let j ← match f with
    | .toml text => Toml.ofText? text
    | .json text => (Json.ofText? text).map signedIntegers
  match j with
  | .obj members => return Setting.ofMembers f.origin members
  | _ => failure

/-- The configuration of a file and an environment, which wins. -/
def load (file : Option File) (environment : List (String × String)) :
    Except LoadFailure Configuration := do
  let some file := file | throw .noFile
  let some members := file.members? | throw .unreadable
  let settings := (Setting.emptyTable.layer members).layer (Environment.settings environment)
  (Configuration.record.reader settings).mapError .unfit

end Dashboard.Config
