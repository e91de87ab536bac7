import Dashboard.Cache
import Dashboard.Proofs.Addresses

/-!
# The keys of the cache

The marker of a cache key cannot begin in a locator and end behind it, since no
separator stands inside the marker, and encoded names hold no separators at all.
So the first marker of a request is the one of its page, and what stands before
it can be read back to panel and locator (`key_request_eq_iff`).
-/

namespace Dashboard

namespace Text

variable {marker text : List Char} {c : Char}

theorem split?_eq_none_iff : split? marker text = none ↔ ¬ marker <:+: text := by
  induction text with
  | nil => cases marker <;> simp [split?]
  | cons d text ih =>
    rw [List.infix_cons_iff, not_or, ← ih, split?, ← List.isPrefixOf_iff_prefix]
    cases marker.isPrefixOf (d :: text) <;> simp

theorem not_prefix_of_not_infix {d : Char} (hc : c ∉ marker.tail) (h : ¬ marker <:+: d :: text) (rest : List Char) :
    ¬ marker <+: d :: text ++ c :: rest := by
  intro hp
  rcases List.prefix_or_prefix_of_prefix hp (List.prefix_append (d :: text) (c :: rest)) with hin | ⟨t, rfl⟩
  · exact h hin.isInfix
  · rw [List.prefix_append_right_inj] at hp
    cases t with
    | nil => exact h (by simp)
    | cons e t =>
      -- the marker would go on with the next character
      obtain ⟨rfl, -⟩ := List.cons_prefix_cons.mp hp
      exact hc (by simp)

/-- A marker that is not in a text and does not go on with the next character is only looked for from there on. -/
theorem split?_append (hc : c ∉ marker.tail) (rest : List Char) : ∀ {text : List Char}, ¬ marker <:+: text →
    split? marker (text ++ c :: rest) =
      (split? marker (c :: rest)).map fun (before, after) => (text ++ before, after)
  | [], _ => by simp
  | d :: text, h => by
    have hstart : marker.isPrefixOf (d :: (text ++ c :: rest)) = false := by
      rw [Bool.eq_false_iff, Ne, List.isPrefixOf_iff_prefix]
      exact not_prefix_of_not_infix hc h rest
    have ih := split?_append hc rest fun hi : marker <:+: text => h (hi.trans (List.suffix_cons d text).isInfix)
    rw [List.cons_append, split?, hstart, ih, Option.map_map]
    rfl

theorem not_infix_append {rest : List Char} (hc : c ∉ marker.tail) (h : ¬ marker <:+: text)
    (hr : ¬ marker <:+: c :: rest) : ¬ marker <:+: text ++ c :: rest := by
  rw [← split?_eq_none_iff] at hr ⊢
  rw [split?_append hc rest h, hr, Option.map_none]

end Text

namespace Cache

open Locator

theorem not_marker_infix_cons {text : List Char} (h : '&' ∉ text) (ht : ¬ marker.toList.tail <+: text) (c : Char) :
    ¬ marker.toList <:+: c :: text := by
  rw [List.infix_cons_iff, not_or]
  refine ⟨fun hp => ht ?_, fun hi => h (hi.subset (by decide))⟩
  obtain ⟨rest, hrest⟩ := hp
  exact ⟨rest, List.tail_eq_of_cons_eq hrest⟩

theorem opening_not_mem_marker_tail (locator : String) : opening locator ∉ marker.toList.tail := by
  unfold opening
  split <;> decide

/-- What the key of an address consists of, but for the marker. -/
def named (locator panel : String) : List Char :=
  locator.toList ++ opening locator :: written ("_panel", .str panel) ++
    '&' :: written ("_variable", .str ("_" ++ panel))

theorem ampersand_not_mem_written {name : String} (h : '&' ∉ name.toList) (value : Json) :
    '&' ∉ written (name, value) := by
  have hvalue := Text.Percent.not_mem_encode (c := '&') (by decide) (by decide) value.argument
  simp [written, h, hvalue]

theorem named_inj {locator other panel next : String} :
    named locator panel = named other next ↔ panel = next ∧ locator = other := by
  constructor
  · intro h
    have hwritten : ∀ p, '&' ∉ written ("_variable", .str ("_" ++ p)) :=
      fun p => ampersand_not_mem_written (by decide) _
    obtain ⟨hbefore, hvariable⟩ := append_cons_inj_last (hwritten panel) (hwritten next) h
    have hpanel : "_" ++ panel = "_" ++ next := (written_inj.mp hvariable).2
    obtain rfl := (String.append_right_inj _).mp hpanel
    obtain ⟨hlocator, -⟩ := List.append_inj' hbefore rfl
    exact ⟨rfl, String.toList_inj.mp hlocator⟩
  · rintro ⟨rfl, rfl⟩
    rfl

theorem not_marker_infix_named {locator : String} (hmarker : ¬ marker.toList <:+: locator.toList) (panel : String) :
    ¬ marker.toList <:+: named locator panel := by
  have hpanel : ¬ marker.toList.tail <+: written ("_panel", .str panel) := by
    simp [marker, written]
  have hvariable : ¬ marker.toList.tail <+: written ("_variable", .str ("_" ++ panel)) := by
    simp [marker, written]
  refine Text.not_infix_append (by decide) (Text.not_infix_append (opening_not_mem_marker_tail locator) hmarker ?_) ?_
  · exact not_marker_infix_cons (ampersand_not_mem_written (by decide) _) hpanel _
  · exact not_marker_infix_cons (ampersand_not_mem_written (by decide) _) hvariable _

theorem key_request {locator : String} (hl : locator ≠ "") (hpath : locator.toList.head? ≠ some '?')
    (hmarker : ¬ marker.toList <:+: locator.toList) (panel page : String) (params : Params) :
    key (request locator panel page params) = String.ofList (named locator panel) ++ marker := by
  have hseparator : separator locator = '&' := if_neg hpath
  obtain ⟨rest, hrest⟩ : ∃ rest, (request locator panel page params).toList =
      named locator panel ++ '&' :: ("_pageSrc=".toList ++ rest) := by
    refine ⟨(Text.Percent.encode page).toList ++ params.entries.flatMap fun a => '&' :: written a, ?_⟩
    rw [toList_request hl, hseparator]
    simp [named, written, Json.argument]
  have hfound : Text.split? marker.toList ('&' :: ("_pageSrc=".toList ++ rest)) = some ([], rest) := by
    simp [Text.split?, marker]
  have hne : (named locator panel).isEmpty = false := by
    simp [named]
  unfold key
  rw [hrest, Text.split?_append (by decide) _ (not_marker_infix_named hmarker panel), hfound]
  simp [hne]

/-- Requests of two locators with a path, in which the marker of keys does not stand, have one key exactly when they
are for the same panel and locator, whatever their parameters are. So what is kept for a request is found for the
others of that panel and locator and for no others. -/
theorem key_request_eq_iff {locator other : String} (hl : locator ≠ "") (ho : other ≠ "")
    (hpath : locator.toList.head? ≠ some '?') (hpath' : other.toList.head? ≠ some '?')
    (hmarker : ¬ marker.toList <:+: locator.toList) (hmarker' : ¬ marker.toList <:+: other.toList)
    (panel next page page' : String) (params more : Params) :
    let url := request locator panel page params
    let url' := request other next page' more
    (key url = key url' ↔ panel = next ∧ locator = other) ∧
    ∀ (c : Cache) (definition : String),
      (c.keep url definition).find? url' =
        if panel = next ∧ locator = other then some definition else c.find? url' := by
  intro url url'
  have hkey : key url = key url' ↔ panel = next ∧ locator = other := by
    rw [key_request hl hpath hmarker, key_request ho hpath' hmarker', String.append_left_inj, String.ofList_inj,
      named_inj]
  refine ⟨hkey, fun c definition => ?_⟩
  rw [Cache.find?, Cache.keep, Dict.get?_insert]
  exact if_congr (eq_comm.trans hkey) rfl rfl

/-- Locators that hold parts of the marker and of a tag are told apart. -/
theorem keys_of_variants :
    let locator := "/x?a&_pageSrc"
    let other := "/x?a&_panel=B"
    let params : Params := .ofList [("order", .str "M1")]
    let url := request locator "A" "/dashboard" params
    let variant := request locator "A" "/other" .empty
    let url' := request other "A" "/dashboard" params
    (locator ≠ "" ∧ locator.toList.head? ≠ some '?' ∧ ¬ marker.toList <:+: locator.toList) ∧
      (other ≠ "" ∧ other.toList.head? ≠ some '?' ∧ ¬ marker.toList <:+: other.toList) ∧
      key url = key variant ∧ key url ≠ key url' ∧ find? (keep Dict.empty url "\x7b\x7d") url' = none := by
  intro locator other params url variant url'
  have hl : locator ≠ "" ∧ locator.toList.head? ≠ some '?' ∧ ¬ marker.toList <:+: locator.toList :=
    ⟨by decide, by decide, Text.split?_eq_none_iff.mp (by decide)⟩
  have ho : other ≠ "" ∧ other.toList.head? ≠ some '?' ∧ ¬ marker.toList <:+: other.toList :=
    ⟨by decide, by decide, Text.split?_eq_none_iff.mp (by decide)⟩
  have hdiffer : ¬ ("A" = "A" ∧ locator = other) := by decide
  obtain ⟨hsame, -⟩ := key_request_eq_iff hl.1 hl.1 hl.2.1 hl.2.1 hl.2.2 hl.2.2 "A" "A" "/dashboard" "/other" params
    .empty
  obtain ⟨hother, hfind⟩ :=
    key_request_eq_iff hl.1 ho.1 hl.2.1 ho.2.1 hl.2.2 ho.2.2 "A" "A" "/dashboard" "/dashboard"
    params params
  refine ⟨hl, ho, hsame.mpr ⟨rfl, rfl⟩, fun h => hdiffer (hother.mp h), ?_⟩
  exact (hfind Dict.empty _).trans (if_neg hdiffer)

end Cache

end Dashboard
