import Dashboard.Message

/-!
# What can go wrong on the board

Every failure is shown as an error message and leaves the board working.
-/

namespace Dashboard

/-- A request to the server that brought no answer to use. -/
inductive Refusal where
  | status (url : String) (code : Nat) (body : String)
  | network (url : String) (reason : String)
  deriving DecidableEq, Repr

inductive Failure where
  | unknownPanel (panel : Option String) (operation : String)
  | badLoad (reason : String)
  | badDefinition (url reason source : String)
  | refused (refusal : Refusal)
  deriving DecidableEq, Repr

def Refusal.text : Refusal → String
  | .status url code body =>
    "Server Request at '" ++ url ++ "' failed with status " ++ toString code ++ ": " ++ body
  | .network url reason =>
    "Server Request to '" ++ url ++ "' failed with a network error: " ++ reason

namespace Failure

def text : Failure → String
  | .unknownPanel panel operation =>
    "Dashboard function " ++ operation ++ " called with invalid panel \""
      ++ panel.getD "undefined" ++ "\""
  | .badLoad reason => reason
  | .badDefinition url reason source =>
    "Invalid activity definition for dashboard. Error: '" ++ reason ++ "' on " ++ url
      ++ ". Source: " ++ source
  | .refused refusal => refusal.text

def message (f : Failure) : Message := ⟨.error, f.text⟩

end Failure

end Dashboard
