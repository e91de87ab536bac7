import Dashboard.Dict
import Dashboard.Text.Search

/-!
# The cache of definitions

A definition that may be used again is kept under the part of its address that
names panel and locator, so requests that differ only in later parameters
share it.
-/

namespace Dashboard

/-- The definitions that may be used again, by their keys. -/
abbrev Cache := Dict String

namespace Cache

def marker : String := "&_pageSrc="

/-- An address up to and with the first marker; one without a marker, or that begins with it, as
a whole. -/
def key (url : String) : String :=
  match Text.split? marker.toList url.toList with
  | some (before, _) =>
    if before.isEmpty then url else String.ofList before ++ marker
  | none => url

def find? (c : Cache) (url : String) : Option String := c.get? (key url)

def keep (c : Cache) (url definition : String) : Cache := c.insert (key url) definition

end Cache

end Dashboard
