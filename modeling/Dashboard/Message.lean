import Dashboard.Json.Basic

/-!
# Messages

A response carries messages either in a holder, `message`, or flat under the
names of the levels.
-/

namespace Dashboard

inductive Level where
  | info
  | warn
  | error
  deriving DecidableEq, Repr, Inhabited

namespace Level

def name : Level → String
  | .info => "info"
  | .warn => "warn"
  | .error => "error"

def named? : String → Option Level
  | "info" => some .info
  | "warn" => some .warn
  | "error" => some .error
  | _ => none

/-- The level a key stands for; `warning` is another key for warnings. -/
def ofKey? : String → Option Level
  | "warning" => some .warn
  | key => named? key

end Level

structure Message where
  level : Level
  text : String
  deriving DecidableEq, Repr, Inhabited

namespace Message

def json (m : Message) : Json :=
  .ofMembers [("level", .str m.level.name), ("text", .str m.text)]

/-! ## Flat messages -/

/-- The keys of flat messages with their levels, in the order in which they are shown. -/
def flatKeys : List (String × Level) :=
  [("info", .info), ("warn", .warn), ("warning", .warn), ("error", .error)]

/-- The texts under one key: one text, or those of a list. -/
def texts : Json → List String
  | .str s => [s]
  | .arr items => items.filterMap Json.string?
  | _ => []

def flat (j : Json) : List Message :=
  flatKeys.flatMap fun (key, level) =>
    match j.get? key with
    | some value => (texts value).map (Message.mk level)
    | none => []

/-! ## Envelopes -/

/-- The message of a level and a text, when there is a text; without a known level it informs. -/
def ofParts (level text : Option Json) : List Message :=
  match text.bind Json.string? with
  | some text => [⟨((level.bind Json.string?).bind Level.ofKey?).getD .info, text⟩]
  | none => []

def ofHolder (holder : Json) : List Message :=
  let others := ["otherMessages", "moreMessages"].flatMap fun key =>
    ((holder.get? key).bind Json.items?).getD []
  ofParts (holder.get? "level") (holder.get? "text")
    ++ others.flatMap fun other => ofParts (other.get? "level") (other.get? "text")

/-- Whether a response is there to show messages. -/
def isEnvelope (j : Json) : Bool :=
  j.isObject && ((j.field "message").isObject || flatKeys.any fun (key, _) => (j.get? key).isSome)

def ofEnvelope (j : Json) : List Message :=
  if (j.field "message").isObject then ofHolder (j.field "message") else flat j

end Message

end Dashboard
