import Dashboard.Event
import Dashboard.Api.MediaType
import Dashboard.Scan.Buffer

/-!
# Request bodies

What the routes take, each as a record of a JSON body. A body ends where its
value ends; what follows is not looked at.
-/

namespace Dashboard.Api

open Json

structure LoadBody where
  pages : Json
  extras : List Params
  deriving Inhabited

def LoadBody.record : Record LoadBody where
  name := "LoadBody"
  blank := ⟨.null, []⟩
  fields :=
    [.required "pages" .json fun pages b => { b with pages },
     .defaulted "extraParams" (.list .params) fun extras b => { b with extras }]
  closed := false

structure PostBody where
  panel : String
  url : String
  data : Params
  arguments : Params
  deriving Inhabited

def PostBody.record : Record PostBody where
  name := "PostActivityBody"
  blank := ⟨"", "", .empty, .empty⟩
  fields :=
    [.required "panel" .string fun panel b => { b with panel },
     .required "url" .string fun url b => { b with url },
     .defaulted "data" .params fun data b => { b with data },
     .defaulted "otherData" .params fun arguments b => { b with arguments }]
  closed := false

structure ParameterBody where
  name : String
  value : Json
  deriving Inhabited

def ParameterBody.record : Record ParameterBody where
  name := "ParameterBody"
  blank := ⟨"", .null⟩
  fields :=
    [.required "name" .string fun name b => { b with name },
     .required "value" .json fun value b => { b with value }]
  closed := false

def barcodeRecord : Record String where
  name := "ScanBody"
  blank := ""
  fields := [.required "barcode" .string fun barcode _ => barcode]
  closed := false

def strokeRecord : Record KeyStroke where
  name := "KeyStroke"
  blank := ⟨none, 0, false⟩
  fields :=
    [.ofReader "key" (.optional .string) (fun key k => { k with key }) false true,
     .defaulted "which" .u32 fun code k => { k with code },
     .defaulted "inInput" .bool fun inInput k => { k with inInput }]
  closed := false

def strokesRecord : Record (List KeyStroke) where
  name := "KeysBody"
  blank := []
  fields := [.required "keys" (.list strokeRecord.reader) fun keys _ => keys]
  closed := false

/-! ## Refusals -/

/-- Why a body is not taken: the status and the text that say so. -/
structure BodyRefusal where
  status : Nat
  text : String
  deriving DecidableEq, Repr

def BodyRefusal.ofFault (body : String) (f : Fault) : BodyRefusal :=
  if f.problem.inValue then
    ⟨422, "Failed to deserialize the JSON body into the target type: " ++ f.routedMessageIn body⟩
  else ⟨400, "Failed to parse the request body as JSON: " ++ f.routedMessageIn body⟩

def readBody (read : Reader α) (contentType : Option String) (body : String) :
    Except BodyRefusal α :=
  if contentType.any MediaType.isJson then
    (read.ofTextStart body).mapError (BodyRefusal.ofFault body)
  else .error ⟨415, "Expected request with `Content-Type: application/json`"⟩

end Dashboard.Api
