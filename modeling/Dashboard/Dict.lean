/-!
# Maps with text keys

A `Dict` keeps its entries in ascending order of their keys, no key twice. The
order is part of the type, so two maps with the same look-ups are equal and
every listing of a map has one order.
-/

namespace Dashboard

/-! ## Entry lists -/

namespace Entries

/-- The entries with `key` holding `value`, at the key's place in the order. -/
def insert (key : String) (value : α) : List (String × α) → List (String × α)
  | [] => [(key, value)]
  | (k, v) :: rest =>
    if key < k then (key, value) :: (k, v) :: rest
    else if key = k then (key, value) :: rest
    else (k, v) :: insert key value rest

def get? (key : String) : List (String × α) → Option α
  | [] => none
  | (k, v) :: rest => if key = k then some v else get? key rest

def Ascending (l : List (String × α)) : Prop := l.Pairwise fun a b => a.1 < b.1

theorem key_of_mem_insert {key : String} {value : α} {l : List (String × α)} {e : String × α}
    (h : e ∈ insert key value l) : e.1 = key ∨ e ∈ l := by
  induction l with
  | nil => simp [insert] at h; simp [h]
  | cons head rest ih =>
    obtain ⟨k, v⟩ := head
    simp only [insert] at h
    split at h
    · rcases List.mem_cons.mp h with rfl | h
      · exact Or.inl rfl
      · exact Or.inr h
    · split at h
      · rcases List.mem_cons.mp h with rfl | h
        · exact Or.inl rfl
        · exact Or.inr (List.mem_cons_of_mem _ h)
      · rcases List.mem_cons.mp h with rfl | h
        · exact Or.inr List.mem_cons_self
        · rcases ih h with h | h
          · exact Or.inl h
          · exact Or.inr (List.mem_cons_of_mem _ h)

theorem Ascending.insert {l : List (String × α)} (h : Ascending l) (key : String) (value : α) :
    Ascending (insert key value l) := by
  induction l with
  | nil => simp [Entries.insert, Ascending]
  | cons head rest ih =>
    obtain ⟨k, v⟩ := head
    obtain ⟨hk, hr⟩ := List.pairwise_cons.mp h
    simp only [Entries.insert]
    split
    · rename_i hlt
      refine List.pairwise_cons.mpr ⟨fun e he => ?_, h⟩
      rcases List.mem_cons.mp he with rfl | he
      · exact hlt
      · exact String.lt_trans hlt (hk e he)
    · split
      · rename_i heq
        exact List.pairwise_cons.mpr ⟨fun e he => by subst heq; exact hk e he, hr⟩
      · rename_i hge hne
        refine List.pairwise_cons.mpr ⟨fun e he => ?_, ih hr⟩
        rcases key_of_mem_insert he with he | he
        · show k < e.1
          grind
        · exact hk e he

theorem get?_insert (k key : String) (value : α) (l : List (String × α)) :
    get? k (insert key value l) = if k = key then some value else get? k l := by
  induction l with
  | nil => simp [insert, get?]
  | cons head rest ih =>
    obtain ⟨k', v'⟩ := head
    simp only [insert]
    grind [get?, insert]

theorem get?_eq_some_iff {l : List (String × α)} (h : Ascending l) {k : String} {v : α} :
    get? k l = some v ↔ (k, v) ∈ l := by
  induction l with
  | nil => simp [get?]
  | cons head rest ih =>
    obtain ⟨k', v'⟩ := head
    obtain ⟨hk, hr⟩ := List.pairwise_cons.mp h
    simp only [get?, List.mem_cons, Prod.mk.injEq]
    split
    · rename_i heq
      subst heq
      refine ⟨fun he => Or.inl ⟨rfl, (Option.some.inj he).symm⟩, ?_⟩
      rintro (⟨-, rfl⟩ | he)
      · rfl
      · exact absurd (hk _ he) (String.lt_irrefl _)
    · rename_i hne
      rw [ih hr]
      simp [hne]

end Entries

/-! ## Maps -/

/-- A finite map from texts, its entries in ascending order of their keys. -/
structure Dict (α : Type u) where
  entries : List (String × α)
  ascending : Entries.Ascending entries

namespace Dict

def empty : Dict α := ⟨[], List.Pairwise.nil⟩

instance : EmptyCollection (Dict α) := ⟨empty⟩

instance : Inhabited (Dict α) := ⟨empty⟩

instance [DecidableEq α] : DecidableEq (Dict α) := fun d e =>
  if h : d.entries = e.entries then
    isTrue (by cases d; cases e; cases h; rfl)
  else
    isFalse fun heq => h (heq ▸ rfl)

def get? (d : Dict α) (key : String) : Option α := Entries.get? key d.entries

def contains (d : Dict α) (key : String) : Bool := (d.get? key).isSome

def insert (d : Dict α) (key : String) (value : α) : Dict α :=
  ⟨Entries.insert key value d.entries, d.ascending.insert key value⟩

/-- Later entries win over earlier ones with the same key. -/
def insertMany (d : Dict α) : List (String × α) → Dict α
  | [] => d
  | (k, v) :: rest => (d.insert k v).insertMany rest

def ofList (l : List (String × α)) : Dict α := empty.insertMany l

/-- The entries of `e` win over those of `d`. -/
def merge (d e : Dict α) : Dict α := d.insertMany e.entries

def erase (d : Dict α) (key : String) : Dict α :=
  ⟨d.entries.filter (fun e => e.1 ≠ key), d.ascending.filter _⟩

def map (f : α → β) (d : Dict α) : Dict β :=
  ⟨d.entries.map fun e => (e.1, f e.2), by
    simpa [Entries.Ascending, List.pairwise_map] using d.ascending⟩

def size (d : Dict α) : Nat := d.entries.length

def keys (d : Dict α) : List String := d.entries.map (·.1)

def values (d : Dict α) : List α := d.entries.map (·.2)

/-! ## Look-ups -/

@[simp] theorem get?_empty (k : String) : (empty : Dict α).get? k = none := rfl

theorem get?_insert (d : Dict α) (key : String) (value : α) (k : String) :
    (d.insert key value).get? k = if k = key then some value else d.get? k :=
  Entries.get?_insert k key value d.entries

theorem get?_eq_some_iff {d : Dict α} {k : String} {v : α} :
    d.get? k = some v ↔ (k, v) ∈ d.entries :=
  Entries.get?_eq_some_iff d.ascending

theorem get?_erase (d : Dict α) (key k : String) : (d.erase key).get? k = if k = key then none else d.get? k := by
  apply Option.ext
  intro v
  rw [get?_eq_some_iff]
  simp only [erase, List.mem_filter]
  by_cases hk : k = key
  · simp [hk]
  · rw [if_neg hk, get?_eq_some_iff]
    simp [hk]

theorem ext_entries {d e : Dict α} (h : d.entries = e.entries) : d = e := by
  cases d; cases e; cases h; rfl

theorem ext_get? {d e : Dict α} (h : ∀ k, d.get? k = e.get? k) : d = e := by
  have hnodup : ∀ c : Dict α, c.entries.Nodup := by
    intro c
    apply c.ascending.imp
    rintro a b hlt rfl
    exact String.lt_irrefl _ hlt
  have hmem : ∀ entry, entry ∈ d.entries ↔ entry ∈ e.entries := by
    rintro ⟨k, v⟩
    rw [← get?_eq_some_iff, ← get?_eq_some_iff, h]
  have hperm : d.entries.Perm e.entries := (List.perm_ext_iff_of_nodup (hnodup d) (hnodup e)).mpr hmem
  apply ext_entries
  exact hperm.eq_of_pairwise (fun _ _ _ _ hlt hgt => absurd hgt (String.lt_asymm hlt)) d.ascending e.ascending

theorem insert_comm {key other : String} (h : key ≠ other) (d : Dict α) (value next : α) :
    (d.insert key value).insert other next = (d.insert other next).insert key value := by
  apply ext_get?
  intro k
  simp only [get?_insert]
  by_cases hk : k = key
  · simp [hk, h]
  · simp [hk]

end Dict

end Dashboard
