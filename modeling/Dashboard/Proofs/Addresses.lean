import Mathlib.Data.List.Basic
import Dashboard.Locator
import Dashboard.Proofs.Encoding

/-!
# The addresses of requests

An address is its locator and then one piece for each argument, each behind a
separator. Only the first separator depends on whether the locator has a query
already (`toList_withArguments`). A value is encoded and so stays in one piece,
but a name stands as it is: two requests are the same exactly when their
arguments, cut at the separator, are the same pieces (`same_request_iff`).
-/

namespace Dashboard

section
variable {α : Type} {c : α} {a b x y : List α}

theorem append_cons_inj_last (hx : c ∉ x) (hy : c ∉ y) (h : a ++ c :: x = b ++ c :: y) : a = b ∧ x = y := by
  rcases List.append_eq_append_iff.mp h with ⟨m, rfl, hm⟩ | ⟨m, rfl, hm⟩
  · cases m with
    | nil => simpa using hm
    | cons d m =>
      obtain ⟨rfl, rfl⟩ := List.cons_eq_cons.mp hm
      exact absurd (by simp) hx
  · cases m with
    | nil => simpa [eq_comm] using hm
    | cons d m =>
      obtain ⟨rfl, rfl⟩ := List.cons_eq_cons.mp hm
      exact absurd (by simp) hy

theorem map_eq_map_congr {β γ : Type} {f : α → β} {g : α → γ} (h : ∀ a b, f a = f b ↔ g a = g b) :
    ∀ l l' : List α, l.map f = l'.map f ↔ l.map g = l'.map g
  | [], [] => by simp
  | [], _ :: _ => by simp
  | _ :: _, [] => by simp
  | a :: l, b :: l' => by simp [h, map_eq_map_congr h l l']

variable [DecidableEq α]

theorem splitOn_cons_self (c : α) (x : List α) : (c :: x).splitOn c = [] :: x.splitOn c :=
  List.splitOn_append_cons_self [] x

theorem splitOn_inj : x.splitOn c = y.splitOn c ↔ x = y := by
  constructor
  · intro h
    have hjoined := congrArg (List.intercalate [c]) h
    rwa [List.intercalate_splitOn, List.intercalate_splitOn] at hjoined
  · exact congrArg (List.splitOn c)

end

namespace Locator

/-! ## Pieces -/

/-- What stands behind a separator. -/
def written (argument : String × Json) : List Char :=
  argument.1.toList ++ '=' :: (Text.Percent.encode argument.2.argument).toList

def opening (locator : String) : Char := if hasQuery locator then '&' else '?'

/-- What separates further arguments. Behind a question mark in front of everything it is always another one. -/
def separator (locator : String) : Char := if locator.toList.head? = some '?' then '?' else '&'

def tags (panel page : String) : List (String × Json) :=
  [("_panel", .str panel), ("_variable", .str ("_" ++ panel)), ("_pageSrc", .str page)]

theorem request_eq_withArguments (locator panel page : String) (params : Params) :
    request locator panel page params = withArguments locator (tags panel page ++ params.entries) := rfl

section
variable {locator : String} (hl : locator ≠ "")
include hl

theorem toList_withArgument (name : String) (value : Json) : (withArgument locator name value.argument).toList =
    locator.toList ++ opening locator :: written (name, value) := by
  unfold withArgument opening written
  rw [if_neg (by simpa using hl)]
  split <;> simp

theorem withArgument_ne_empty (name value : String) : withArgument locator name value ≠ "" := by
  unfold withArgument
  rw [if_neg (by simpa using hl)]
  intro h
  simp only [String.append_eq_empty_iff] at h
  exact hl h.1.1.1.1

theorem separator_withArgument (name : String) (value : Json) :
    separator (withArgument locator name value.argument) = separator locator := by
  unfold separator
  rw [toList_withArgument hl]
  cases h : locator.toList with
  | nil => exact absurd (String.toList_eq_nil_iff.mp h) hl
  | cons c rest => rfl

theorem opening_withArgument (name : String) (value : Json) :
    opening (withArgument locator name value.argument) = separator locator := by
  unfold separator opening hasQuery
  rw [toList_withArgument hl]
  unfold opening hasQuery
  cases h : locator.toList with
  | nil => exact absurd (String.toList_eq_nil_iff.mp h) hl
  | cons c rest =>
    by_cases hc : c = '?'
    · simp [hc]
    · by_cases hr : '?' ∈ rest
      · simp [hc, hr]
      · simp [hc, hr]

theorem toList_withArguments (argument : String × Json) (more : List (String × Json)) :
    (withArguments locator (argument :: more)).toList =
      locator.toList ++ opening locator :: written argument ++
        more.flatMap fun a => separator locator :: written a := by
  induction more generalizing locator argument with
  | nil => simp [withArguments, toList_withArgument hl]
  | cons next more ih =>
    have hnext := withArgument_ne_empty hl argument.1 argument.2.argument
    show (withArguments (withArgument locator argument.1 argument.2.argument) (next :: more)).toList = _
    rw [ih hnext, toList_withArgument hl, opening_withArgument hl, separator_withArgument hl]
    simp

theorem toList_request (panel page : String) (params : Params) : (request locator panel page params).toList =
    locator.toList ++ opening locator :: written ("_panel", .str panel) ++
      separator locator :: written ("_variable", .str ("_" ++ panel)) ++
      separator locator :: written ("_pageSrc", .str page) ++
      params.entries.flatMap fun a => separator locator :: written a := by
  rw [request_eq_withArguments, tags, List.cons_append, toList_withArguments hl]
  simp

end

/-! ## Arguments -/

theorem isUnreserved_separator (locator : String) : Text.Percent.isUnreserved (separator locator) = false := by
  unfold separator
  split <;> decide

theorem separator_ne (locator : String) : separator locator ≠ '%' ∧ separator locator ≠ '=' := by
  unfold separator
  split <;> decide

theorem written_inj {argument other : String × Json} :
    written argument = written other ↔ argument.1 = other.1 ∧ argument.2.argument = other.2.argument := by
  constructor
  · intro h
    have heq : ∀ s, '=' ∉ (Text.Percent.encode s).toList := Text.Percent.not_mem_encode (by decide) (by decide)
    obtain ⟨hname, hvalue⟩ := append_cons_inj_last (heq _) (heq _) h
    exact ⟨String.toList_inj.mp hname, Text.Percent.encode_inj.mp (String.toList_inj.mp hvalue)⟩
  · rintro ⟨hname, hvalue⟩
    unfold written
    rw [hname, hvalue]

/-- A value brings no separator into its piece, so one can only come from the name. -/
theorem separator_not_mem_written {locator : String} {argument : String × Json}
    (h : separator locator ∉ argument.1.toList) : separator locator ∉ written argument := by
  obtain ⟨hpercent, hequals⟩ := separator_ne locator
  have hvalue := Text.Percent.not_mem_encode (isUnreserved_separator locator) hpercent argument.2.argument
  simp [written, h, hequals, hvalue]

end Locator

namespace Params

/-- The arguments as they stand between the separators of an address. -/
def pieces (separator : Char) (params : Params) : List (List Char) :=
  params.entries.flatMap fun a => (Locator.written a).splitOn separator

theorem splitOn_arguments (c : Char) : ∀ arguments : List (String × Json),
    (arguments.flatMap fun a => c :: Locator.written a).splitOn c =
      [] :: arguments.flatMap fun a => (Locator.written a).splitOn c
  | [] => rfl
  | [a] => by simp [splitOn_cons_self]
  | a :: next :: arguments => by
    have ih := splitOn_arguments c (next :: arguments)
    simp only [List.flatMap_cons, List.cons_append, splitOn_cons_self, List.cons.injEq, true_and] at ih ⊢
    -- the next argument begins with a separator, so the pieces of this one end there
    rw [List.splitOn_append_cons_self, ih]

theorem pieces_of_plain {c : Char} {params : Params} (h : ∀ a ∈ params.entries, c ∉ Locator.written a) :
    params.pieces c = params.entries.map Locator.written := by
  unfold pieces
  rw [List.flatMap_congr fun a ha => List.splitOn_eq_singleton (h a ha), ← List.map_eq_flatMap]

theorem map_written_inj {params other : Params} :
    params.entries.map Locator.written = other.entries.map Locator.written ↔
      params.map Json.argument = other.map Json.argument := by
  have hrendered : ∀ a b : String × Json,
      Locator.written a = Locator.written b ↔ (a.1, a.2.argument) = (b.1, b.2.argument) := by
    intro a b
    rw [Locator.written_inj, Prod.mk.injEq]
  rw [map_eq_map_congr hrendered]
  show (params.map Json.argument).entries = (other.map Json.argument).entries ↔ _
  constructor
  · exact Dict.ext_entries
  · exact congrArg Dict.entries

end Params

namespace Locator

/-- Two requests for one locator, panel and page are the same exactly when their parameters are the same pieces between
the separators. As long as no name holds a separator, that is when they are the same as written; a name that does hold
one is read as several arguments. -/
theorem same_request_iff {locator : String} (hl : locator ≠ "") (panel page : String) (params other : Params) :
    let c := separator locator
    (request locator panel page params = request locator panel page other ↔ params.pieces c = other.pieces c) ∧
    ((∀ name ∈ params.keys ++ other.keys, c ∉ name.toList) →
      (request locator panel page params = request locator panel page other ↔
        params.map Json.argument = other.map Json.argument)) := by
  intro c
  have hpieces : request locator panel page params = request locator panel page other ↔
      params.pieces c = other.pieces c := by
    rw [← String.toList_inj, toList_request hl, toList_request hl, List.append_cancel_left_eq,
      ← splitOn_inj (c := c),
      Params.splitOn_arguments, Params.splitOn_arguments, List.cons.injEq, eq_self, true_and]
    rfl
  refine ⟨hpieces, fun hnames => ?_⟩
  have hplain : ∀ a ∈ params.entries ++ other.entries, c ∉ written a := by
    intro a ha
    refine separator_not_mem_written (hnames a.1 ?_)
    simpa [Dict.keys] using List.mem_map_of_mem (f := Prod.fst) ha
  obtain ⟨hfirst, hsecond⟩ := List.forall_mem_append.mp hplain
  rw [hpieces, Params.pieces_of_plain hfirst, Params.pieces_of_plain hsecond, Params.map_written_inj]

/-- A name can be written so that it is read as another argument, a value cannot. -/
theorem name_read_as_arguments :
    let params : Params := .ofList [("a", .str "1"), ("b", .str "2")]
    let named : Params := .ofList [("a=1&b", .str "2")]
    let valued : Params := .ofList [("a", .str "1&b=2")]
    "/x" ≠ "" ∧ named.map Json.argument ≠ params.map Json.argument ∧
      request "/x" "A" "/dashboard" named = request "/x" "A" "/dashboard" params ∧
      (∀ name ∈ valued.keys ++ params.keys, '&' ∉ name.toList) ∧
      request "/x" "A" "/dashboard" valued ≠ request "/x" "A" "/dashboard" params := by
  intro params named valued
  have hl : "/x" ≠ "" := by decide
  have hpieces : named.pieces '&' = params.pieces '&' := by decide +kernel
  have hnames : ∀ name ∈ valued.keys ++ params.keys, '&' ∉ name.toList := by decide +kernel
  have hdiffer : valued.map Json.argument ≠ params.map Json.argument := by decide +kernel
  obtain ⟨hsame, -⟩ := same_request_iff hl "A" "/dashboard" named params
  obtain ⟨-, hplain⟩ := same_request_iff hl "A" "/dashboard" valued params
  exact ⟨hl, by decide +kernel, hsame.mpr hpieces, hnames, fun h => hdiffer ((hplain hnames).mp h)⟩

end Locator

end Dashboard
