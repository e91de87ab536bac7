import Mathlib.Data.List.Basic
import Dashboard.Api.Handler

/-!
# Keys and their barcodes

Tabs cut what is typed into lines, the first of which begins with what is in the
buffer already. The last line is left in the buffer, and of the others those
with anything in them are the barcodes (`strokes_eq`). Scans do not read the
buffer, so it makes no difference where a list of strokes is divided into two
requests (`keys_conserved_and_batched`).
-/

namespace Dashboard

/-! ## Lines -/

namespace KeyStroke

def resolved (k : KeyStroke) : String := resolveKey k.key k.code

def isTab (k : KeyStroke) : Bool := k.resolved = tabKey

def isTyped (k : KeyStroke) : Bool := !k.isTab && !k.inInput

def text (strokes : List KeyStroke) : String := String.join ((strokes.filter isTyped).map resolved)

/-- What is typed, cut at the tabs; the first line goes on from what was typed before. -/
def lines (begun : String) (strokes : List KeyStroke) : List String :=
  ((strokes.splitOnP isTab).map text).modifyHead (begun ++ ·)

theorem text_append (first next : List KeyStroke) : text (first ++ next) = text first ++ text next := by
  simp [text]

theorem lines_nil (begun : String) : lines begun [] = [begun] := by
  simp [lines, text]

theorem lines_ne_nil (begun : String) (strokes : List KeyStroke) : lines begun strokes ≠ [] := by
  simp [lines]

theorem lines_tab {k : KeyStroke} (h : k.isTab = true) (begun : String) (strokes : List KeyStroke) :
    lines begun (k :: strokes) = begun :: lines "" strokes := by
  have hid : (fun line : String => "" ++ line) = id := funext fun _ => String.empty_append
  unfold lines
  rw [List.splitOnP_cons_eq_if_modifyHead, if_pos h, hid, List.modifyHead_id]
  simp [text]

theorem lines_of_not_tab {k : KeyStroke} (h : k.isTab = false) (begun : String) (strokes : List KeyStroke) :
    lines begun (k :: strokes) = lines (begun ++ text [k]) strokes := by
  unfold lines
  rw [List.splitOnP_cons_eq_if_modifyHead, h, if_neg (by simp)]
  cases strokes.splitOnP isTab with
  | nil => rfl
  | cons line rest =>
    have hline : text (k :: line) = text [k] ++ text line := text_append [k] line
    simp [hline, String.append_assoc]

theorem join_lines : ∀ (begun : String) (strokes : List KeyStroke),
    String.join (lines begun strokes) = begun ++ text strokes
  | begun, [] => by simp [lines_nil, text]
  | begun, k :: strokes => by
    have hsplit : text (k :: strokes) = text [k] ++ text strokes := text_append [k] strokes
    cases hk : k.isTab with
    | true =>
      have hnone : text [k] = "" := by simp [text, isTyped, hk]
      rw [lines_tab hk, String.join_cons, join_lines "" strokes, hsplit, hnone]
    | false => rw [lines_of_not_tab hk, join_lines _ strokes, hsplit, String.append_assoc]

end KeyStroke

theorem join_filter_ne_empty : ∀ l : List String, String.join (l.filter (· ≠ "")) = String.join l
  | [] => rfl
  | s :: l => by
    have ih := join_filter_ne_empty l
    by_cases hs : s = ""
    · rw [List.filter_cons_of_neg (by simp [hs]), ih, String.join_cons, hs, String.empty_append]
    · rw [List.filter_cons_of_pos (by simp [hs]), String.join_cons, ih, String.join_cons]

namespace ScanBuffer

open KeyStroke

theorem stroke_of_tab {k : KeyStroke} (h : k.isTab = true) (b : ScanBuffer) :
    b.stroke k = (if b.text = "" then none else some b.text, empty) := by
  have hkey : resolveKey k.key k.code = tabKey := of_decide_eq_true h
  obtain ⟨text⟩ := b
  by_cases ht : text = ""
  · simp [stroke, hkey, down, ht, empty]
  · simp [stroke, hkey, down, ht]

theorem stroke_of_not_tab {k : KeyStroke} (h : k.isTab = false) (b : ScanBuffer) :
    b.stroke k = (none, ⟨b.text ++ KeyStroke.text [k]⟩) := by
  have hkey : resolveKey k.key k.code ≠ tabKey := of_decide_eq_false h
  cases hi : k.inInput with
  | true => simp [stroke, hkey, press, hi, KeyStroke.text, isTyped]
  | false => simp [stroke, hkey, press, hi, KeyStroke.text, isTyped, h, resolved]

/-- All lines but the last one are handed over, unless they are empty. -/
theorem strokes_eq : ∀ (strokes : List KeyStroke) (b : ScanBuffer),
    ScanBuffer.strokes strokes b =
      ((lines b.text strokes).dropLast.filter (· ≠ ""), ⟨(lines b.text strokes).getLast (lines_ne_nil _ _)⟩)
  | [], b => by simp [ScanBuffer.strokes, lines_nil]
  | k :: strokes, b => by
    unfold ScanBuffer.strokes
    cases hk : k.isTab with
    | true =>
      have ih := strokes_eq strokes empty
      simp only [stroke_of_tab hk, ih, lines_tab hk, List.dropLast_cons_of_ne_nil (lines_ne_nil _ _),
        List.getLast_cons (lines_ne_nil _ _)]
      by_cases ht : b.text = ""
      · simp [ht, empty]
      · simp [ht, empty]
    | false =>
      have ih := strokes_eq strokes ⟨b.text ++ KeyStroke.text [k]⟩
      simp only [stroke_of_not_tab hk, ih, lines_of_not_tab hk, Option.toList_none, List.nil_append]

theorem join_strokes (strokes : List KeyStroke) (b : ScanBuffer) :
    let typed := ScanBuffer.strokes strokes b
    String.join typed.1 ++ typed.2.text = b.text ++ KeyStroke.text strokes := by
  intro typed
  have hlines := join_lines b.text strokes
  rw [← List.dropLast_append_getLast (lines_ne_nil b.text strokes), String.join_append, String.join_cons,
    String.join_nil, String.append_empty] at hlines
  have htyped : typed = _ := strokes_eq strokes b
  rw [htyped, join_filter_ne_empty]
  exact hlines

theorem strokes_append : ∀ (first next : List KeyStroke) (b : ScanBuffer),
    ScanBuffer.strokes (first ++ next) b =
      let typed := ScanBuffer.strokes first b
      (typed.1 ++ (ScanBuffer.strokes next typed.2).1, (ScanBuffer.strokes next typed.2).2)
  | [], _, _ => rfl
  | k :: first, next, b => by
    simp only [List.cons_append, ScanBuffer.strokes, strokes_append first next, List.append_assoc]

end ScanBuffer

/-! ## Requests -/

namespace Api.Station

open KeyStroke

variable {σ : Type} (server : Server σ) (fuel : Nat)

/-- The answer to a request with keys, after it. -/
def keysAnswer (scanned : List String) (s : Station σ) : Response :=
  .ok (.ofMembers [("echo", .str s.buffer.text), ("scanned", .strings scanned), ("state", s.stateJson)])

theorem foldl_scan : ∀ (barcodes : List String) (s : Station σ),
    barcodes.foldl (fun s barcode => s.scan server fuel barcode) s =
      { s with board := barcodes.foldl (fun b barcode => b.scan server fuel s.scanning barcode) s.board }
  | [], _ => rfl
  | barcode :: barcodes, s => foldl_scan barcodes (s.scan server fuel barcode)

theorem typeKeys_eq (strokes : List KeyStroke) (s : Station σ) :
    let typed := ScanBuffer.strokes strokes s.buffer
    let last : Station σ :=
      ⟨typed.1.foldl (fun b barcode => b.scan server fuel s.scanning barcode) s.board, typed.2, s.scanning⟩
    s.typeKeys server fuel strokes = (last.keysAnswer typed.1, last) := by
  intro typed last
  have hlast : typed.1.foldl (fun s barcode => s.scan server fuel barcode) { s with buffer := typed.2 } = last :=
    foldl_scan server fuel typed.1 _
  show (Response.ok _, _) = _
  rw [hlast]
  rfl

/-- Nothing that is typed gets lost: the barcodes and what is left in the buffer are what was in it and the keys typed
since, cut where a tab meets something to hand over. A list of strokes can be sent in two requests as well as in one,
with the same barcodes, the same scans in the same order and the same station after them. -/
theorem keys_conserved_and_batched (s : Station σ) :
    (∀ strokes, ∃ scanned last, s.typeKeys server fuel strokes = (last.keysAnswer scanned, last) ∧
      last.board = scanned.foldl (fun b barcode => b.scan server fuel s.scanning barcode) s.board ∧
      last.scanning = s.scanning ∧
      (∀ barcode ∈ scanned, barcode ≠ "") ∧
      String.join scanned ++ last.buffer.text =
        s.buffer.text ++ String.join ((strokes.filter fun k => !k.isTab && !k.inInput).map resolved) ∧
      scanned = (lines s.buffer.text strokes).dropLast.filter (· ≠ "") ∧
      (lines s.buffer.text strokes).getLast? = some last.buffer.text) ∧
    ∀ first next,
      let one := s.typeKeys server fuel first
      let two := one.2.typeKeys server fuel next
      let whole := s.typeKeys server fuel (first ++ next)
      whole.2 = two.2 ∧ ∃ scanned more, one.1 = one.2.keysAnswer scanned ∧ two.1 = two.2.keysAnswer more ∧
        whole.1 = whole.2.keysAnswer (scanned ++ more) := by
  constructor
  · intro strokes
    have hcut := ScanBuffer.strokes_eq strokes s.buffer
    refine ⟨_, _, typeKeys_eq server fuel strokes s, rfl, rfl, ?_, ScanBuffer.join_strokes strokes s.buffer, ?_, ?_⟩
    · intro barcode hm
      rw [hcut] at hm
      simpa using (List.mem_filter.mp hm).2
    · rw [hcut]
    · rw [hcut]
      exact List.getLast?_eq_some_getLast _
  · intro first next one two whole
    have hone : one = _ := typeKeys_eq server fuel first s
    have htwo : two = _ := typeKeys_eq server fuel next one.2
    have hwhole : whole = _ := typeKeys_eq server fuel (first ++ next) s
    have hsame : whole.2 = two.2 := by
      rw [hwhole, htwo, hone, ScanBuffer.strokes_append]
      simp only [List.foldl_append]
    refine ⟨hsame, (ScanBuffer.strokes first s.buffer).1, (ScanBuffer.strokes next one.2.buffer).1, ?_, ?_, ?_⟩
    · rw [hone]
    · rw [htwo]
    · rw [hwhole, ScanBuffer.strokes_append, hone]

end Api.Station

end Dashboard
