import Dashboard.Session.Load

/-!
# Panels in a session

A session finds a panel by the first slot with its name. A change of that slot
keeps every name in its place, so which panels are known does not depend on
what is in them; and where no name is repeated the change is a map.
-/

namespace Dashboard

/-! ## The change of one slot -/

namespace Slot

/-- A change that leaves a slot under its panel. -/
def Keeps (f : Slot → Slot) : Prop := ∀ t, (f t).panel = t.panel

theorem Keeps.name {f : Slot → Slot} (hf : Keeps f) (t : Slot) : (f t).name = t.name :=
  congrArg Panel.name (hf t)

theorem keeps_startLoading : Keeps startLoading := fun _ => rfl

theorem keeps_abandonLoading : Keeps abandonLoading := fun _ => rfl

theorem keeps_showing (a : Activity) : Keeps (showing a) := fun _ => rfl

theorem keeps_lentTo (a : Activity) : Keeps (lentTo a) := fun _ => rfl

end Slot

namespace Session

section
variable {f g : Slot → Slot} {panel : String}

theorem map_panel_changeFirst (hf : Slot.Keeps f) :
    ∀ l : List Slot, (changeFirst panel f l).map Slot.panel = l.map Slot.panel
  | [] => rfl
  | t :: l => by
    simp only [changeFirst]
    split
    · simp [hf t]
    · simp [map_panel_changeFirst hf l]

theorem changeFirst_eq_map : ∀ {l : List Slot}, (l.map Slot.name).Nodup →
    changeFirst panel f l = l.map fun t => if t.name = panel then f t else t
  | [], _ => rfl
  | t :: l, h => by
    obtain ⟨ht, hl⟩ := List.nodup_cons.mp h
    simp only [changeFirst, List.map_cons]
    by_cases hp : t.name = panel
    · have hrest : (l.map fun u => if u.name = panel then f u else u) = l.map id := by
        apply List.map_congr_left
        intro u hu
        have hne : u.name ≠ panel := fun e => ht (hp ▸ e ▸ List.mem_map_of_mem hu)
        simp [hne]
      simp [hp, hrest]
    · simp [hp, changeFirst_eq_map hl]

theorem changeFirst_of_unknown : ∀ {l : List Slot}, panel ∉ l.map Slot.name → changeFirst panel f l = l
  | [], _ => rfl
  | t :: l, h => by
    simp only [List.map_cons, List.mem_cons, not_or] at h
    simp only [changeFirst, if_neg (Ne.symm h.1), changeFirst_of_unknown h.2]

theorem changeFirst_id : ∀ l : List Slot, changeFirst panel id l = l
  | [] => rfl
  | t :: l => by simp [changeFirst, changeFirst_id l]

theorem changeFirst_changeFirst (hf : Slot.Keeps f) : ∀ l : List Slot,
    changeFirst panel g (changeFirst panel f l) = changeFirst panel (fun t => g (f t)) l
  | [] => rfl
  | t :: l => by
    by_cases hp : t.name = panel
    · simp [changeFirst, hp, hf.name]
    · simp [changeFirst, hp, changeFirst_changeFirst hf l]

theorem changeFirst_comm {other : String} (h : panel ≠ other) (hf : Slot.Keeps f) (hg : Slot.Keeps g) :
    ∀ l : List Slot, changeFirst panel f (changeFirst other g l) = changeFirst other g (changeFirst panel f l)
  | [] => rfl
  | t :: l => by
    by_cases hp : t.name = panel
    · have hne : t.name ≠ other := hp ▸ h
      simp [changeFirst, hp, hf.name, h]
    · by_cases ho : t.name = other
      · simp [changeFirst, ho, hg.name, Ne.symm h]
      · simp [changeFirst, hp, ho, changeFirst_comm h hf hg l]

theorem map_changeFirst {k : Slot → Slot} (hk : Slot.Keeps k) (h : ∀ t, k (f t) = g (k t)) :
    ∀ l : List Slot, (changeFirst panel f l).map k = changeFirst panel g (l.map k)
  | [] => rfl
  | t :: l => by
    by_cases hp : t.name = panel
    · simp [changeFirst, hp, hk.name, h]
    · simp [changeFirst, hp, hk.name, map_changeFirst hk h l]

theorem flatMap_changeFirst {k : Slot → List α} (h : ∀ t, k (f t) = k t) :
    ∀ l : List Slot, (changeFirst panel f l).flatMap k = l.flatMap k
  | [] => rfl
  | t :: l => by
    simp only [changeFirst]
    split
    · simp [h t]
    · simp [flatMap_changeFirst h l]

theorem find?_changeFirst (hf : Slot.Keeps f) (panel other : String) : ∀ l : List Slot,
    (changeFirst panel f l).find? (fun t => t.name = other) =
      if other = panel then (l.find? fun t => t.name = panel).map f else l.find? fun t => t.name = other
  | [] => by simp [changeFirst]
  | t :: l => by
    by_cases hp : t.name = panel
    · by_cases ho : other = panel
      · simp [changeFirst, hp, ho, hf.name]
      · simp [changeFirst, hp, ho, hf.name, Ne.symm ho]
    · by_cases ho : other = panel
      · simp [changeFirst, hp, ho, find?_changeFirst hf panel panel l]
      · by_cases ht : t.name = other
        · simp [changeFirst, ho, ht]
        · simp [changeFirst, hp, ho, ht, find?_changeFirst hf panel other l]

theorem changeFirst_append {l : List Slot} (h : ∀ t ∈ l, t.name ≠ panel) {slot : Slot}
    (hs : slot.name = panel) (rest : List Slot) :
    changeFirst panel f (l ++ slot :: rest) = l ++ f slot :: rest := by
  induction l with
  | nil => simp [changeFirst, hs]
  | cons t l ih =>
    have ht : t.name ≠ panel := h t (by simp)
    simp only [List.cons_append, changeFirst, if_neg ht]
    rw [ih fun u hu => h u (by simp [hu])]

theorem forall_changeFirst {p : Slot → Prop} (hp : ∀ t, p t → p (f t)) : ∀ {l : List Slot},
    (∀ t ∈ l, p t) → ∀ t ∈ changeFirst panel f l, p t
  | [], h => h
  | t :: l, h => by
    obtain ⟨ht, hl⟩ := List.forall_mem_cons.mp h
    simp only [changeFirst]
    split
    · exact List.forall_mem_cons.mpr ⟨hp t ht, hl⟩
    · exact List.forall_mem_cons.mpr ⟨ht, forall_changeFirst hp hl⟩

end

/-! ## The change of several slots -/

/-- Changes the first slot with each of these names. -/
def changeEach (f : Slot → Slot) : List String → List Slot → List Slot
  | [], l => l
  | panel :: panels, l => changeEach f panels (changeFirst panel f l)

section
variable {f g : Slot → Slot} {panel : String}

theorem changeEach_changeFirst (hf : Slot.Keeps f) (hg : Slot.Keeps g) : ∀ {panels : List String} (l : List Slot),
    panel ∉ panels → changeEach f panels (changeFirst panel g l) = changeFirst panel g (changeEach f panels l)
  | [], _, _ => rfl
  | first :: panels, l, h => by
    simp only [List.mem_cons, not_or] at h
    rw [changeEach, changeFirst_comm (Ne.symm h.1) hf hg, changeEach_changeFirst hf hg _ h.2, changeEach]

theorem map_changeEach {k : Slot → Slot} (hk : Slot.Keeps k) (h : ∀ t, k (f t) = g (k t)) :
    ∀ (panels : List String) (l : List Slot), (changeEach f panels l).map k = changeEach g panels (l.map k)
  | [], _ => rfl
  | panel :: panels, l => by
    rw [changeEach, map_changeEach hk h panels, map_changeFirst hk h, changeEach]

theorem map_panel_changeEach (hf : Slot.Keeps f) : ∀ (panels : List String) (l : List Slot),
    (changeEach f panels l).map Slot.panel = l.map Slot.panel
  | [], _ => rfl
  | _ :: panels, l => (map_panel_changeEach hf panels _).trans (map_panel_changeFirst hf l)

theorem find?_changeEach (hf : Slot.Keeps f) {other : String} : ∀ {panels : List String}, other ∉ panels →
    ∀ l : List Slot, (changeEach f panels l).find? (fun t => t.name = other) = l.find? fun t => t.name = other
  | [], _, _ => rfl
  | first :: panels, h, l => by
    simp only [List.mem_cons, not_or] at h
    rw [changeEach, find?_changeEach hf h.2, find?_changeFirst hf, if_neg h.1]

theorem flatMap_changeEach {k : Slot → List α} (h : ∀ t, k (f t) = k t) :
    ∀ (panels : List String) (l : List Slot),
    (changeEach f panels l).flatMap k = l.flatMap k
  | [], _ => rfl
  | _ :: panels, l => (flatMap_changeEach h panels _).trans (flatMap_changeFirst h l)

end

/-! ## Known panels -/

def panels (s : Session) : List Panel := s.slots.map Slot.panel

def names (s : Session) : List String := s.slots.map Slot.name

theorem names_eq (s : Session) : s.names = s.panels.map Panel.name := by
  simp [names, panels, Slot.name]

theorem names_congr {s t : Session} (h : s.panels = t.panels) : s.names = t.names := by
  rw [names_eq, names_eq, h]

theorem slot?_split {s : Session} {panel : String} {slot : Slot} (h : s.slot? panel = some slot) :
    slot.name = panel ∧ ∃ before after, s.slots = before ++ slot :: after ∧
      ∀ t ∈ before, t.name ≠ panel := by
  obtain ⟨hn, before, after, hs, hb⟩ := List.find?_eq_some_iff_append.mp h
  exact ⟨by simpa using hn, before, after, hs, by simpa using hb⟩

theorem name_of_slot? {s : Session} {panel : String} {slot : Slot} (h : s.slot? panel = some slot) :
    slot.name = panel :=
  (slot?_split h).1

theorem mem_names_iff {s : Session} {panel : String} : panel ∈ s.names ↔ ∃ slot, s.slot? panel = some slot := by
  constructor
  · intro h
    obtain ⟨t, ht, hn⟩ := List.mem_map.mp h
    exact Option.isSome_iff_exists.mp (List.find?_isSome.mpr ⟨t, ht, by simpa using hn⟩)
  · rintro ⟨slot, h⟩
    exact List.mem_map.mpr ⟨slot, List.mem_of_find?_eq_some h, name_of_slot? h⟩

theorem slot?_changeSlot {f : Slot → Slot} (hf : Slot.Keeps f) (s : Session) (panel other : String) :
    (s.changeSlot panel f).slot? other = if other = panel then (s.slot? panel).map f else s.slot? other :=
  find?_changeFirst hf panel other s.slots

theorem not_mem_names_iff {s : Session} {panel : String} : panel ∉ s.names ↔ s.slot? panel = none := by
  rw [mem_names_iff]
  cases s.slot? panel <;> simp

end Session

end Dashboard
