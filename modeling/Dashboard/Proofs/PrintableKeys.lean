import Mathlib
import Dashboard.Proofs.KeyStrokes
import Dashboard.Proofs.Runs

/-!
# What keys type

A stroke outside an input field types its whole key, whether that is the name of a
key, a control character or one character that shows. So barcodes are made of
printable keys alone exactly as long as no stroke is typed under a longer name,
under a control character or by the code of one (`typed_by_printable_iff`).
-/

namespace Dashboard

def Text.isControl (c : Char) : Bool := c.toNat < 0x20 || 0x7F ≤ c.toNat && c.toNat ≤ 0x9F

theorem flatMap_filter_eq_iff {α β : Type} {f : α → List β} {p : α → Bool} {l : List α} :
    (l.filter p).flatMap f = l.flatMap f ↔ ∀ a ∈ l, p a = false → f a = [] := by
  induction l with
  | nil => simp
  | cons a l ih =>
    rw [List.forall_mem_cons]
    cases hp : p a with
    | true => simp [hp, ih]
    | false =>
      rw [List.filter_cons_of_neg (by simp [hp]), List.flatMap_cons]
      constructor
      · intro h
        -- what is left of the rest is no longer than the rest, so nothing stands before it
        have hlength := congrArg List.length h
        have hle : ((l.filter p).flatMap f).length ≤ (l.flatMap f).length :=
          (List.filter_sublist.flatMap f).length_le
        rw [List.length_append] at hlength
        have hnil : f a = [] := List.eq_nil_of_length_eq_zero (by omega)
        rw [hnil, List.nil_append] at h
        exact ⟨fun _ => hnil, ih.mp h⟩
      · rintro ⟨hnil, h⟩
        rw [hnil rfl, List.nil_append]
        exact ih.mpr h

namespace KeyStroke

/-! ## Keys -/

def name? (k : KeyStroke) : Option String := k.key.filter (· ≠ "Unidentified")

def isPrintable (k : KeyStroke) : Bool :=
  match k.resolved.toList with
  | [c] => !Text.isControl c
  | _ => false

/-- Strokes outside input fields that type a longer name or a control character. -/
def Spoils (k : KeyStroke) : Prop :=
  k.inInput = false ∧
    match k.name? with
    | some name => name ≠ tabKey ∧ name ≠ "" ∧ ∀ c, name = String.singleton c → Text.isControl c = true
    | none => k.code ≠ 9 ∧ (k.code < 0x20 ∨ 0x7F ≤ k.code ∧ k.code ≤ 0x9F)

theorem resolved_eq (k : KeyStroke) : k.resolved = k.name?.getD (resolveKey.byCode k.code) := by
  unfold resolved resolveKey name?
  cases k.key with
  | none => rfl
  | some key => by_cases h : key = "Unidentified" <;> simp [h, Option.filter_some]

theorem isPrintable_eq_false_iff {k : KeyStroke} :
    k.isPrintable = false ↔ ∀ c, k.resolved = String.singleton c → Text.isControl c = true := by
  have hsingle : ∀ c, k.resolved = String.singleton c ↔ k.resolved.toList = [c] := by
    intro c
    rw [← String.toList_inj, String.toList_singleton]
  simp only [hsingle]
  unfold isPrintable
  split
  · rename_i c hc
    simp [hc]
  · rename_i hne
    simp only [true_iff]
    intro c hc
    exact absurd hc (hne c)

theorem characterText_of_control {code : Nat} (h : code < 0x20 ∨ 0x7F ≤ code ∧ code ≤ 0x9F) :
    ∃ c, characterText code = String.singleton c ∧ Text.isControl c = true := by
  have hvalid : code.isValidChar := Or.inl (by omega)
  refine ⟨Char.ofNat code, if_pos hvalid, ?_⟩
  simp only [Text.isControl, Char.toNat_ofNat, if_pos hvalid, Bool.or_eq_true, Bool.and_eq_true, decide_eq_true_eq]
  exact h

theorem characterText_of_not_control {code : Nat} (h : ¬ (code < 0x20 ∨ 0x7F ≤ code ∧ code ≤ 0x9F)) :
    characterText code = "" ∨ ∃ c, characterText code = String.singleton c ∧ Text.isControl c = false := by
  by_cases hvalid : code.isValidChar
  · right
    refine ⟨Char.ofNat code, if_pos hvalid, ?_⟩
    rw [Bool.eq_false_iff]
    simp only [Text.isControl, Char.toNat_ofNat, if_pos hvalid, ne_eq, Bool.or_eq_true, Bool.and_eq_true,
      decide_eq_true_eq]
    exact h
  · exact Or.inl (if_neg hvalid)

theorem singleton_ne_tabKey (c : Char) : String.singleton c ≠ tabKey := by
  intro h
  have hlength := congrArg String.length h
  rw [String.length_singleton] at hlength
  exact absurd hlength (by decide)

theorem spoils_of_code {k : KeyStroke} (hname : k.name? = none) :
    (k.code ≠ 9 ∧ (k.code < 0x20 ∨ 0x7F ≤ k.code ∧ k.code ≤ 0x9F)) ↔
      k.resolved ≠ tabKey ∧ k.isPrintable = false ∧ k.resolved ≠ "" := by
  have hresolved : k.resolved = resolveKey.byCode k.code := by rw [resolved_eq, hname, Option.getD_none]
  rw [isPrintable_eq_false_iff, hresolved]
  unfold resolveKey.byCode
  by_cases h9 : k.code = 9
  · simp [h9]
  · rw [if_neg h9]
    by_cases hcontrol : k.code < 0x20 ∨ 0x7F ≤ k.code ∧ k.code ≤ 0x9F
    · obtain ⟨c, hc, hcc⟩ := characterText_of_control hcontrol
      rw [hc]
      refine iff_of_true ⟨h9, hcontrol⟩ ⟨singleton_ne_tabKey c, ?_, by simp⟩
      intro d hd
      rw [← String.singleton_inj.mp hd]
      exact hcc
    · apply iff_of_false
      · intro h
        exact hcontrol h.2
      · rintro ⟨-, hprintable, hne⟩
        rcases characterText_of_not_control hcontrol with hc | ⟨c, hc, hcc⟩
        · exact hne hc
        · have hcontrol := hprintable c hc
          rw [hcc] at hcontrol
          cases hcontrol

theorem spoils_iff {k : KeyStroke} :
    k.Spoils ↔ k.isTyped = true ∧ k.isPrintable = false ∧ k.resolved ≠ "" := by
  have htyped : k.isTyped = true ↔ k.inInput = false ∧ k.resolved ≠ tabKey := by
    simp [isTyped, isTab, and_comm]
  rw [htyped, and_assoc, Spoils]
  apply and_congr_right
  intro _
  cases hname : k.name? with
  | none => exact spoils_of_code hname
  | some name =>
    have hresolved : k.resolved = name := by rw [resolved_eq, hname, Option.getD_some]
    rw [isPrintable_eq_false_iff, hresolved]
    exact and_congr_right fun _ => and_comm

end KeyStroke

namespace Api.Station

open KeyStroke

variable {σ : Type} (server : Server σ) (fuel : Nat)

/-- Every stroke outside an input field but a tab types its whole key, and the barcodes that are scanned and what is
left in the buffer are made of these keys. Printable keys alone make them exactly when no stroke types a longer name,
or a control character under its name or by its code. -/
theorem typed_by_printable_iff (strokes : List KeyStroke) (s : Station σ) :
    let typed := ScanBuffer.strokes strokes s.buffer
    let last : Station σ :=
      ⟨typed.1.foldl (fun b barcode => b.scan server fuel s.scanning barcode) s.board, typed.2, s.scanning⟩
    let text := String.join typed.1 ++ typed.2.text
    s.typeKeys server fuel strokes = (last.keysAnswer typed.1, last) ∧
    text = s.buffer.text ++ String.join ((strokes.filter isTyped).map resolved) ∧
    (text = s.buffer.text ++ String.join (((strokes.filter isTyped).filter isPrintable).map resolved) ↔
      ∀ k ∈ strokes, ¬ k.Spoils) := by
  intro typed last text
  have htext : text = s.buffer.text ++ String.join ((strokes.filter isTyped).map resolved) :=
    ScanBuffer.join_strokes strokes s.buffer
  refine ⟨typeKeys_eq server fuel strokes s, htext, ?_⟩
  have htoList : ∀ l : List KeyStroke,
      (String.join (l.map resolved)).toList = l.flatMap fun k => k.resolved.toList := by
    intro l
    rw [String.toList_join, List.flatMap_map]
  rw [htext, String.append_right_inj, ← String.toList_inj, htoList, htoList, eq_comm, flatMap_filter_eq_iff]
  simp only [String.toList_eq_nil_iff, List.mem_filter, spoils_iff, not_and, Classical.not_not, and_imp]

/-- Of these keys two are printable, and a name and the code of no key are typed between them. -/
theorem names_and_controls_typed :
    let enter : KeyStroke := ⟨some "Enter", 0, false⟩
    let strokes : List KeyStroke :=
      [⟨some "A", 0, false⟩, enter, ⟨none, 0, false⟩, ⟨some "x", 0, true⟩,
        ⟨none, 66, false⟩, ⟨none, 9, false⟩,
        ⟨some "Shift", 16, false⟩]
    let s : Station _ := ⟨⟨.new .default .builtin, []⟩, .empty, ⟨ScanService.defaultUrl, ""⟩⟩
    let printable := String.join (((strokes.filter isTyped).filter isPrintable).map resolved)
    enter.Spoils ∧ printable = "AB" ∧
      ∃ last, s.typeKeys Server.scripted 0 strokes = (last.keysAnswer ["AEnter\x00B"], last) ∧
        last.buffer.text = "Shift" ∧
        String.join ["AEnter\x00B"] ++ last.buffer.text ≠ s.buffer.text ++ printable := by
  intro enter strokes s printable
  obtain ⟨hkeys, -, hiff⟩ := typed_by_printable_iff Server.scripted 0 strokes s
  have htyped : ScanBuffer.strokes strokes s.buffer = (["AEnter\x00B"], ⟨"Shift"⟩) := by decide +kernel
  have hspoils : enter.Spoils := by
    rw [spoils_iff]
    decide +kernel
  rw [htyped] at hkeys hiff
  refine ⟨hspoils, by decide +kernel, _, hkeys, rfl, ?_⟩
  intro h
  exact hiff.mp h enter (by simp [strokes]) hspoils

end Api.Station

end Dashboard
