import Dashboard.Url.Host

/-!
# Absolute addresses

An address names a scheme and mostly a host; what follows is a path, a query
and a fragment, all of them in escaped form.
-/

namespace Dashboard

structure Authority where
  host : Host
  /-- The number of the service at the host, absent when it is the usual one of the scheme. -/
  service : Option Nat
  deriving DecidableEq, Repr, Inhabited

structure Url where
  scheme : String
  authority : Option Authority
  path : String
  query : Option String
  fragment : Option String
  deriving DecidableEq, Repr, Inhabited

namespace Authority

def text (a : Authority) : String :=
  a.host.text ++ (match a.service with
    | some service => ":" ++ toString service
    | none => "")

end Authority

namespace Url

/-- Without a host, a path that begins like one is marked. -/
def place (u : Url) : String :=
  match u.authority with
  | some a => "//" ++ a.text ++ u.path
  | none => (if u.path.startsWith "//" then "/." else "") ++ u.path

def withoutFragment (u : Url) : String :=
  u.scheme ++ ":" ++ u.place ++ (match u.query with
    | some query => "?" ++ query
    | none => "")

def text (u : Url) : String :=
  u.withoutFragment ++ (match u.fragment with
    | some fragment => "#" ++ fragment
    | none => "")

end Url

end Dashboard
