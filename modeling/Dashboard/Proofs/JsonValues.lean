import Dashboard.Json.Reader

/-!
# Values that are read again

A value can be read like a text. Nothing is wrong with it then, and it comes out
in normal form, the members of each object in order and the later of two with
one key (`json_ofJson`). A record is read member by member, so a change of one
member changes one field (`readMembers_change_field`) or, where the record has
no such field, nothing (`readMembers_change_unread`).
-/

namespace Dashboard

/-! ## Maps -/

namespace Entries

variable {α β : Type} {l : List (String × α)}

theorem get?_map (f : α → β) (key : String) : ∀ l : List (String × α),
    get? key (l.map fun e => (e.1, f e.2)) = (get? key l).map f
  | [] => rfl
  | (k, v) :: l => by
    have ih := get?_map f key l
    by_cases hk : key = k
    · simp [get?, hk]
    · simp [get?, hk, ih]

theorem get?_eq_none_iff {key : String} : get? key l = none ↔ ∀ e ∈ l, e.1 ≠ key := by
  induction l with
  | nil => simp [get?]
  | cons e l ih =>
    obtain ⟨k, v⟩ := e
    by_cases hk : key = k
    · simp [get?, hk]
    · simp [get?, hk, ih, Ne.symm hk]

theorem Ascending.nodup (h : Ascending l) : (l.map Prod.fst).Nodup := by
  refine List.pairwise_map.mpr (h.imp ?_)
  intro e e' hlt he
  rw [he] at hlt
  exact String.lt_irrefl _ hlt

theorem get?_of_not_mem {key : String} (h : key ∉ l.map Prod.fst) : get? key l = none :=
  get?_eq_none_iff.mpr fun e he hkey => h (List.mem_map.mpr ⟨e, he, hkey⟩)

theorem get?_eq_some_iff_of_nodup {key : String} {value : α} (h : (l.map Prod.fst).Nodup) :
    get? key l = some value ↔ (key, value) ∈ l := by
  induction l with
  | nil => simp [get?]
  | cons e l ih =>
    obtain ⟨k, v⟩ := e
    obtain ⟨hk, hl⟩ := List.nodup_cons.mp h
    rw [get?, List.mem_cons, Prod.mk.injEq]
    by_cases hkey : key = k
    · subst hkey
      have hnone : (key, value) ∉ l := fun hm => hk (List.mem_map.mpr ⟨_, hm, rfl⟩)
      simp [hnone, eq_comm]
    · simp [hkey, ih hl]

end Entries

namespace Dict

variable {α β : Type}

theorem get?_map (f : α → β) (d : Dict α) (key : String) : (d.map f).get? key = (d.get? key).map f :=
  Entries.get?_map f key d.entries

theorem map_insert (f : α → β) (d : Dict α) (key : String) (value : α) :
    (d.insert key value).map f = (d.map f).insert key (f value) := by
  apply ext_get?
  intro k
  simp only [get?_map, get?_insert]
  split <;> rfl

theorem map_insertMany (f : α → β) : ∀ (l : List (String × α)) (d : Dict α),
    (d.insertMany l).map f = (d.map f).insertMany (l.map fun e => (e.1, f e.2))
  | [], _ => rfl
  | (k, v) :: l, d => by
    rw [insertMany, map_insertMany f l, map_insert]
    rfl

theorem map_ofList (f : α → β) (l : List (String × α)) :
    (ofList l).map f = ofList (l.map fun e => (e.1, f e.2)) :=
  map_insertMany f l empty

theorem get?_insertMany (key : String) : ∀ {l : List (String × α)}, (l.map Prod.fst).Nodup → ∀ d : Dict α,
    (d.insertMany l).get? key = (Entries.get? key l).or (d.get? key)
  | [], _, _ => rfl
  | (k, v) :: l, h, d => by
    obtain ⟨hnot, hl⟩ := List.nodup_cons.mp h
    rw [insertMany, get?_insertMany key hl (d.insert k v), get?_insert]
    by_cases hk : key = k
    · subst hk
      rw [Entries.get?_of_not_mem hnot]
      simp [Entries.get?]
    · simp [Entries.get?, hk]

theorem get?_ofList {l : List (String × α)} (h : (l.map Prod.fst).Nodup) (key : String) :
    (ofList l).get? key = Entries.get? key l := by
  rw [ofList, get?_insertMany key h, get?_empty, Option.or_none]

theorem ofList_entries (d : Dict α) : ofList d.entries = d := by
  apply ext_get?
  intro key
  exact get?_ofList d.ascending.nodup key

theorem map_erase (f : α → β) (d : Dict α) (key : String) : (d.erase key).map f = (d.map f).erase key := by
  apply ext_get?
  intro k
  simp only [get?_map, get?_erase]
  split <;> rfl

theorem insert_erase (d : Dict α) (key : String) (value : α) :
    (d.erase key).insert key value = d.insert key value := by
  apply ext_get?
  intro k
  simp only [get?_insert, get?_erase]
  split <;> rfl

theorem insert_of_get? {d : Dict α} {key : String} {value : α} (h : d.get? key = some value) :
    d.insert key value = d := by
  apply ext_get?
  intro k
  rw [get?_insert]
  by_cases hk : k = key
  · rw [if_pos hk, hk, h]
  · rw [if_neg hk]

end Dict

namespace Json

/-! ## Normal forms -/

mutual

def normal : Json → Json
  | .arr items => .arr (normalItems items)
  | .obj members => .ofMembers (normalMembers members)
  | .null => .null
  | .bool b => .bool b
  | .num n => .num n
  | .str s => .str s

def normalItems : List Json → List Json
  | [] => []
  | value :: rest => value.normal :: normalItems rest

def normalMembers : List (String × Json) → List (String × Json)
  | [] => []
  | (key, value) :: rest => (key, value.normal) :: normalMembers rest

end

theorem normalMembers_eq : ∀ members : List (String × Json),
    normalMembers members = members.map fun e => (e.1, e.2.normal)
  | [] => rfl
  | (key, value) :: rest => by rw [normalMembers, normalMembers_eq rest, List.map_cons]

theorem normal_object (d : Params) : (object d).normal = object (d.map normal) := by
  show Json.ofMembers (normalMembers d.entries) = _
  rw [normalMembers_eq]
  exact congrArg object (Dict.ofList_entries (d.map normal))

mutual

theorem normal_normal : ∀ j : Json, j.normal.normal = j.normal
  | .arr items => by simp only [normal, normalItems_normalItems items]
  | .obj members => by
    have ih := normalMembers_normalMembers members
    rw [normalMembers_eq (normalMembers members)] at ih
    show (object (Dict.ofList (normalMembers members))).normal = object (Dict.ofList (normalMembers members))
    rw [normal_object, Dict.map_ofList, ih]
  | .null => rfl
  | .bool _ => rfl
  | .num _ => rfl
  | .str _ => rfl

theorem normalItems_normalItems : ∀ items : List Json, normalItems (normalItems items) = normalItems items
  | [] => rfl
  | value :: rest => by simp only [normalItems, normal_normal value, normalItems_normalItems rest]

theorem normalMembers_normalMembers : ∀ members : List (String × Json),
    normalMembers (normalMembers members) = normalMembers members
  | [] => rfl
  | (key, value) :: rest => by simp only [normalMembers, normal_normal value, normalMembers_normalMembers rest]

end

theorem params?_normal (j : Json) : j.normal.params? = j.params?.map (Dict.map normal) := by
  cases j with
  | obj members =>
    show some (Dict.ofList (Dict.ofList (normalMembers members)).entries) = some ((Dict.ofList members).map normal)
    rw [Dict.ofList_entries, Dict.map_ofList, normalMembers_eq]
  | null | bool | num | str | arr => rfl

theorem string?_normal (j : Json) : j.normal.string? = j.string? := by
  cases j <;> rfl

theorem object_of_normal {j : Json} (hn : j.normal = j) :
    j.params? = none ∨ ∃ d : Params, j = object d ∧ d.map normal = d := by
  cases j with
  | obj members =>
    let d : Params := Dict.ofList (normalMembers members)
    have hobject : Json.obj members = object d := hn.symm
    refine Or.inr ⟨d, hobject, Dict.ext_entries ?_⟩
    rw [hobject, normal_object] at hn
    exact obj.inj hn
  | null | bool | num | str | arr => exact Or.inl rfl

/-! ## Reading -/

mutual

theorem json_ofJson : ∀ j : Json, Tree.json (Tree.ofJson j) = .ok j.normal
  | .arr items => by simp only [Tree.ofJson, Tree.json, items_json_ofJson items.length 0 items, normal, Except.map]
  | .obj members => by simp only [Tree.ofJson, Tree.json, members_json_ofJson members, normal, Except.map]
  | .null => rfl
  | .bool _ => rfl
  | .num _ => rfl
  | .str _ => rfl

theorem items_json_ofJson (length : Nat) : ∀ (index : Nat) (items : List Json),
    Items.json index (Items.ofJson length items) = .ok (normalItems items)
  | _, [] => rfl
  | index, value :: rest => by
    simp only [Items.ofJson, Items.json, json_ofJson value, items_json_ofJson length (index + 1) rest, normalItems,
      Except.map]

theorem members_json_ofJson : ∀ members : List (String × Json),
    Members.json (Members.ofJson members) = .ok (normalMembers members)
  | [] => rfl
  | (key, value) :: rest => by
    simp only [Members.ofJson, Members.json, json_ofJson value, members_json_ofJson rest, normalMembers, Except.map]

end

mutual

theorem passed?_ofJson : ∀ j : Json, Tree.passed? (Tree.ofJson j) = none
  | .arr items => by simp only [Tree.ofJson, Tree.passed?, items_passed?_ofJson items.length items]
  | .obj members => by simp only [Tree.ofJson, Tree.passed?, members_passed?_ofJson members]
  | .null => rfl
  | .bool _ => rfl
  | .num _ => rfl
  | .str _ => rfl

theorem items_passed?_ofJson (length : Nat) : ∀ items : List Json, Items.passed? (Items.ofJson length items) = none
  | [] => rfl
  | value :: rest => by
    simp only [Items.ofJson, Items.passed?, passed?_ofJson value, items_passed?_ofJson length rest, Option.none_or]

theorem members_passed?_ofJson : ∀ members : List (String × Json), Members.passed? (Members.ofJson members) = none
  | [] => rfl
  | (key, value) :: rest => by
    simp only [Members.ofJson, Members.passed?, passed?_ofJson value, members_passed?_ofJson rest, Option.none_or]

end

theorem string_ofJson_of_some {j : Json} {s : String} (h : j.string? = some s) :
    Reader.string (Tree.ofJson j) = .ok s := by
  cases j with
  | str t =>
    obtain rfl := Option.some.inj h
    rfl
  | null | bool | num | arr | obj => cases h

theorem string_ofJson_of_none {j : Json} (h : j.string? = none) : ∃ f, Reader.string (Tree.ofJson j) = .error f := by
  cases j with
  | str t => cases h
  | null | bool | num | arr | obj => exact ⟨_, rfl⟩

theorem items_json_of_items (length : Nat) : ∀ (index : Nat) (items : List Json),
    Reader.items Reader.json index (Items.ofJson length items) = .ok (items.map normal)
  | _, [] => rfl
  | index, value :: rest => by
    have hvalue : Reader.json (Tree.ofJson value) = .ok value.normal := json_ofJson value
    simp only [Items.ofJson, Reader.items, hvalue, items_json_of_items length (index + 1) rest, Except.map,
      List.map_cons]

theorem list_json_ofJson (items : List Json) :
    Reader.list Reader.json (Tree.ofJson (.arr items)) = .ok (items.map normal) :=
  items_json_of_items items.length 0 items

/-! ## Changes of a value -/

def keepItems (p : Json → Bool) : Json → Json
  | .arr items => .arr (items.filter p)
  | j => j

def changeMember (key : String) (f : Json → Json) (members : List (String × Json)) : List (String × Json) :=
  members.map fun e => (e.1, if e.1 = key then f e.2 else e.2)

def change (key : String) (f : Json → Json) : Json → Json
  | .obj members => .obj (changeMember key f members)
  | j => j

theorem get?_change (key : String) (f : Json → Json) (j : Json) (k : String) :
    (j.change key f).get? k = if k = key then (j.get? k).map f else j.get? k := by
  cases j with
  | obj members =>
    show Entries.get? k (changeMember key f members) =
      if k = key then (Entries.get? k members).map f else Entries.get? k members
    induction members with
    | nil => simp [changeMember, Entries.get?]
    | cons e members ih =>
      obtain ⟨k', v⟩ := e
      unfold changeMember at ih ⊢
      rw [List.map_cons, Entries.get?, Entries.get?, ih]
      by_cases hk : k = k'
      · subst hk
        by_cases hkey : k = key <;> simp [hkey]
      · simp [hk]
  | null | bool | num | str | arr => simp [change, get?]

section
variable {ρ α : Type} {name : String} {read : Reader α} {set : α → ρ → ρ}

theorem Field.put_comm {g : ρ → ρ} (h : ∀ a built, set a (g built) = g (set a built)) (t : Tree) (built : ρ) :
    (defaulted name read set).put t (g built) = ((defaulted name read set).put t built).map g := by
  show (read t).map (fun a => set a (g built)) = ((read t).map fun a => set a built).map g
  cases read t with
  | error e => rfl
  | ok a => exact congrArg Except.ok (h a built)

theorem Field.of_put {t : Tree} {built built' : ρ} (h : (defaulted name read set).put t built = .ok built') :
    ∃ a, read t = .ok a ∧ set a built = built' := by
  change (read t).map (fun a => set a built) = .ok built' at h
  cases hr : read t with
  | error e =>
    rw [hr] at h
    cases h
  | ok a =>
    rw [hr] at h
    exact ⟨a, rfl, Except.ok.inj h⟩

end

namespace Record

variable {ρ : Type} {r : Record ρ} {key : String} {f : Json → Json}

theorem mem_of_find? {k : String} {fld : Field ρ} (h : r.find? k = some fld) : fld ∈ r.fields ∧ fld.name = k :=
  ⟨List.mem_of_find?_eq_some h, by simpa using List.find?_some h⟩

theorem readMembers_change_unread (hkey : r.find? key = none) (hopen : r.closed = false) :
    ∀ (members : List (String × Json)) (seen : List String) (built : ρ),
      r.readMembers seen built (Members.ofJson (changeMember key f members)) =
        r.readMembers seen built (Members.ofJson members)
  | [], _, _ => rfl
  | (k, v) :: members, seen, built => by
    have ih := readMembers_change_unread hkey hopen members
    unfold changeMember at ih ⊢
    rw [List.map_cons, Members.ofJson, Members.ofJson, readMembers, readMembers]
    by_cases hk : k = key
    · subst hk
      simp only [hkey, hopen, passed?_ofJson, ih, Bool.false_eq_true, if_false]
    · simp only [if_neg hk, ih]

/-- Reading goes along with a change of the record when each field does, the changed one from the changed value. -/
theorem readMembers_change_field {fld : Field ρ} {g : ρ → ρ} (hfield : r.find? key = some fld)
    (hput : ∀ v built, fld.put (Tree.ofJson (f v)) (g built) = (fld.put (Tree.ofJson v) built).map g)
    (hother : ∀ fld' ∈ r.fields, fld'.name ≠ key → ∀ t built,
      fld'.put t (g built) = (fld'.put t built).map g) :
    ∀ (members : List (String × Json)) (seen : List String) (built : ρ),
      r.readMembers seen (g built) (Members.ofJson (changeMember key f members)) =
        (r.readMembers seen built (Members.ofJson members)).map g
  | [], seen, built => by
    show r.readMembers seen (g built) (.close 0) = (r.readMembers seen built (.close 0)).map g
    simp only [readMembers]
    split <;> rfl
  | (k, v) :: members, seen, built => by
    have ih := readMembers_change_field hfield hput hother members
    unfold changeMember at ih ⊢
    rw [List.map_cons, Members.ofJson, Members.ofJson, readMembers, readMembers]
    by_cases hk : k = key
    · subst hk
      simp only [hfield, if_true]
      by_cases hs : k ∈ seen
      · simp only [if_pos hs]
        rfl
      · simp only [if_neg hs, hput]
        cases fld.put (Tree.ofJson v) built with
        | error e => rfl
        | ok built' => exact ih (k :: seen) built'
    · simp only [if_neg hk]
      cases hf : r.find? k with
      | some fld' =>
        obtain ⟨hmem, rfl⟩ := mem_of_find? hf
        by_cases hs : fld'.name ∈ seen
        · simp only [if_pos hs]
          rfl
        · simp only [if_neg hs, hother fld' hmem hk]
          cases fld'.put (Tree.ofJson v) built with
          | error e => rfl
          | ok built' => exact ih (fld'.name :: seen) built'
      | none =>
        simp only [passed?_ofJson, ih]
        split <;> rfl

/-- What each field keeps holds of the record in the end. -/
theorem readMembers_keeps {P : ρ → Prop} (hput : ∀ fld ∈ r.fields, ∀ v built built',
      P built → fld.put (Tree.ofJson v) built = .ok built' → P built') :
    ∀ {members : List (String × Json)} {seen : List String} {built read : ρ}, P built →
      r.readMembers seen built (Members.ofJson members) = .ok read → P read
  | [], seen, built, read, hb, h => by
    rw [Members.ofJson, readMembers] at h
    split at h
    · cases h
    · cases h
      exact hb
  | (k, v) :: members, seen, built, read, hb, h => by
    rw [Members.ofJson, readMembers] at h
    cases hf : r.find? k with
    | some fld =>
      simp only [hf] at h
      by_cases hs : k ∈ seen
      · rw [if_pos hs] at h
        cases h
      · rw [if_neg hs] at h
        cases hp : fld.put (Tree.ofJson v) built with
        | error e =>
          rw [hp] at h
          cases h
        | ok built' =>
          rw [hp] at h
          exact readMembers_keeps hput (hput fld (mem_of_find? hf).1 v built built' hb hp) h
    | none =>
      simp only [hf, passed?_ofJson] at h
      split at h
      · cases h
      · exact readMembers_keeps hput hb h

end Record

end Json

end Dashboard
