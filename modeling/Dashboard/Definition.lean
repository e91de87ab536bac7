import Dashboard.Failure
import Dashboard.Registry

/-!
# Definitions of activities

A definition is a JSON text that says what an activity shows and which
registered functions it uses. It makes an activity as a whole or not at all.
-/

namespace Dashboard

structure Definition where
  display : Option Json
  execute : Option String
  handleEvent : Option String
  provideParameters : Option String
  provideScanParameters : Option String
  postScript : Option String
  cache : Bool
  data : Json
  deriving Inhabited

namespace Definition

open Json

def record : Record Definition where
  name := "ActivityDescriptor"
  blank := ⟨none, none, none, none, none, none, false, .null⟩
  fields :=
    [.defaulted "display" (.optional .json) fun display d => { d with display },
     .defaulted "execute" (.optional .string) fun execute d => { d with execute },
     .defaulted "handleEvent" (.optional .string) fun handleEvent d => { d with handleEvent },
     .defaulted "provideParameters" (.optional .string)
       fun provideParameters d => { d with provideParameters },
     .defaulted "provideScanParameters" (.optional .string)
       fun provideScanParameters d => { d with provideScanParameters },
     .defaulted "postScript" (.optional .string) fun postScript d => { d with postScript },
     .defaulted "cache" .bool fun cache d => { d with cache },
     .defaulted "data" .json fun data d => { d with data }]
  closed := true

def ofText (source : String) : Except String Definition :=
  (record.reader.ofText source).mapError (Fault.messageIn source)

/-- What a field of the definition names, when it names something. -/
def resolve (field : String) (lookUp : String → Option α) : Option String → Except String (Option α)
  | none => .ok none
  | some name =>
    match lookUp name with
    | some a => .ok (some a)
    | none => .error (field ++ " refers to unknown capability '" ++ name ++ "'")

def capabilities (d : Definition) (r : Registry) : Except String Capabilities := do
  let execute ← resolve "execute" r.action? d.execute
  let handleEvent ← resolve "handleEvent" r.handler? d.handleEvent
  let provideParameters ← resolve "provideParameters" r.provider? d.provideParameters
  let provideScanParameters ← resolve "provideScanParameters" r.provider? d.provideScanParameters
  let postScript ← resolve "postScript" r.action? d.postScript
  return { execute, handleEvent, provideParameters, provideScanParameters, postScript }

end Definition

def Registry.activity (r : Registry) (panel url source : String) : Except Failure Activity :=
  let made : Except String Activity := do
    let d ← Definition.ofText source
    let capabilities ← d.capabilities r
    return ⟨⟨panel, url, d.data⟩, d.display, capabilities, d.cache⟩
  made.mapError fun reason => .badDefinition url reason source

end Dashboard
