import Mathlib.Logic.Function.Basic
import Dashboard.Proofs.JsonValues

/-!
# Records in texts

What a reader takes from a tree is decided by the value of the tree alone
(`Reader.Takes`). So what a record is read to from the text of an object is
decided by the members that the text writes: in a closed record without needed
fields every member has to suit its field, and puts it (`readMembers_eq_ok_iff`).
-/

namespace Dashboard.Json

/-! ## Texts of objects -/

theorem Reader.ofText_eq_ok_iff {α : Type} {read : Reader α} {text : String} {a : α} :
    read.ofText text = .ok a ↔ ∃ tree, Document.ofText text = ⟨tree, none⟩ ∧ read tree = .ok a := by
  unfold Reader.ofText
  rcases Document.ofText text with ⟨tree, rest⟩
  cases hr : read tree with
  | error e => simp [hr]
  | ok b => cases rest <;> simp [hr]

theorem ofText?_eq_some_iff {text : String} {j : Json} :
    ofText? text = some j ↔ ∃ tree, Document.ofText text = ⟨tree, none⟩ ∧ Tree.json tree = .ok j := by
  have htext : ofText? text = some j ↔ Reader.json.ofText text = .ok j := by
    unfold ofText? ofText
    cases Reader.json.ofText text <;> simp [Except.toOption]
  exact htext.trans Reader.ofText_eq_ok_iff

/-- The members of the object that a text writes, in the order of the text. -/
def writtenMembers? (text : String) : Option (List (String × Json)) :=
  match Document.ofText text with
  | ⟨.obj _ members, none⟩ => (Members.json members).toOption
  | _ => none

theorem document_of_written {text : String} {l : List (String × Json)} (h : writtenMembers? text = some l) :
    ∃ start members, Document.ofText text = ⟨.obj start members, none⟩ ∧ Members.json members = .ok l := by
  unfold writtenMembers? at h
  split at h
  · rename_i start members hdocument
    refine ⟨start, members, hdocument, ?_⟩
    cases hm : Members.json members with
    | error e =>
      rw [hm] at h
      cases h
    | ok l' =>
      rw [hm] at h
      exact congrArg Except.ok (Option.some.inj h)
  · cases h

theorem map_eq_ok {α β ε : Type} {x : Except ε α} {f : α → β} {b : β} (h : x.map f = .ok b) :
    ∃ a, x = .ok a ∧ f a = b := by
  cases x with
  | error e => cases h
  | ok a => exact ⟨a, rfl, Except.ok.inj h⟩

/-- The shapes of a tree that has a value. -/
@[elab_as_elim]
theorem Tree.json_cases {motive : Tree → Json → Prop} (null : ∀ stop, motive (.null stop) .null)
    (bool : ∀ b stop, motive (.bool b stop) (.bool b)) (num : ∀ n stop, motive (.num n stop) (.num n))
    (str : ∀ s stop, motive (.str s stop) (.str s))
    (arr : ∀ start items l, Items.json 0 items = .ok l → motive (.arr start items) (.arr l))
    (obj : ∀ start members l, Members.json members = .ok l → motive (.obj start members) (.ofMembers l))
    {t : Tree} {j : Json} (h : Tree.json t = .ok j) : motive t j := by
  cases t with
  | null stop => cases h; exact null stop
  | bool b stop => cases h; exact bool b stop
  | num n stop => cases h; exact num n stop
  | str s stop => cases h; exact str s stop
  | arr start items =>
    obtain ⟨l, hl, rfl⟩ := map_eq_ok h
    exact arr start items l hl
  | obj start members =>
    obtain ⟨l, hl, rfl⟩ := map_eq_ok h
    exact obj start members l hl
  | unusable | broken => cases h

theorem Members.json_member {key : String} {here : Nat} {value : Tree} {rest : Members} {l : List (String × Json)}
    (h : Members.json (.member key here value rest) = .ok l) :
    ∃ j l', Tree.json value = .ok j ∧ Members.json rest = .ok l' ∧ l = (key, j) :: l' := by
  rw [Members.json] at h
  cases hv : Tree.json value with
  | error e =>
    rw [hv] at h
    cases h
  | ok j =>
    rw [hv] at h
    obtain ⟨l', hl', rfl⟩ := map_eq_ok h
    exact ⟨j, l', rfl, hl', rfl⟩

/-- The texts of objects are the texts that write members. -/
theorem ofText?_object_iff {text : String} {j : Json} :
    ofText? text = some j ∧ j.isObject = true ↔ ∃ l, writtenMembers? text = some l ∧ j = .ofMembers l := by
  rw [ofText?_eq_some_iff]
  constructor
  · rintro ⟨⟨tree, hdocument, h⟩, hobject⟩
    unfold writtenMembers?
    rw [hdocument]
    cases tree with
    | obj start members =>
      obtain ⟨l, hm, rfl⟩ := map_eq_ok h
      exact ⟨l, congrArg Except.toOption hm, rfl⟩
    | arr start items =>
      obtain ⟨l, -, rfl⟩ := map_eq_ok h
      cases hobject
    | null | bool | num | str =>
      cases h
      cases hobject
    | unusable | broken => cases h
  · rintro ⟨l, h, rfl⟩
    obtain ⟨start, members, hdocument, hm⟩ := document_of_written h
    exact ⟨⟨_, hdocument, by simp only [Tree.json, hm, Except.map]⟩, rfl⟩

/-! ## What readers take -/

/-- What the reader takes from a tree, or that it takes nothing, shows in the value of the tree. -/
def Reader.Takes {α : Type} (read : Reader α) (take : Json → Option α) : Prop :=
  ∀ {t : Tree} {j : Json}, Tree.json t = .ok j → (read t).toOption = take j

namespace Reader

variable {α : Type} {read : Reader α} {take : Json → Option α}

theorem takes_json : Takes Reader.json some := by
  intro t j h
  rw [Reader.json, h]
  rfl

theorem takes_string : Takes Reader.string string? := by
  intro t j h
  exact Tree.json_cases (fun _ => rfl) (fun _ _ => rfl) (fun _ _ => rfl) (fun _ _ => rfl) (fun _ _ _ _ => rfl)
    (fun _ _ _ _ => rfl) h

theorem takes_bool : Takes Reader.bool bool? := by
  intro t j h
  exact Tree.json_cases (fun _ => rfl) (fun _ _ => rfl) (fun _ _ => rfl) (fun _ _ => rfl) (fun _ _ _ _ => rfl)
    (fun _ _ _ _ => rfl) h

theorem Takes.optional (h : Takes read take) :
    Takes (Reader.optional read) fun j => if j.isNull then some none else (take j).map some := by
  intro t j hj
  have hsome : ((read t).map some).toOption = (take j).map some := by
    rw [← h hj]
    cases read t <;> rfl
  revert hsome
  exact Tree.json_cases (fun _ _ => rfl) (fun _ _ => id) (fun _ _ => id) (fun _ _ => id) (fun _ _ _ _ => id)
    (fun _ _ _ _ => id) hj

end Reader

theorem Field.put_toOption {ρ α : Type} {name : String} {read : Reader α} {take : Json → Option α}
    {set : α → ρ → ρ}
    (h : read.Takes take) {t : Tree} {j : Json} (hj : Tree.json t = .ok j) (built : ρ) :
    ((defaulted name read set).put t built).toOption = (take j).map fun a => set a built := by
  rw [← h hj]
  show ((read t).map fun a => set a built).toOption = _
  cases read t <;> rfl

/-! ## Records -/

namespace Record

variable {ρ α : Type} {r : Record ρ} {accepts : String → Json → Bool} {put : String → Json → ρ → ρ}

/-- Each field of the record takes the values that are acceptable for its name, and puts them. -/
def Takes (r : Record ρ) (accepts : String → Json → Bool) (put : String → Json → ρ → ρ) : Prop :=
  ∀ (key : String) {t : Tree} {j : Json}, Tree.json t = .ok j → ∀ built,
    ((r.find? key).bind fun f => (f.put t built).toOption) = if accepts key j then some (put key j built) else none

theorem readMembers_eq_ok_iff (htakes : r.Takes accepts put) (hclosed : r.closed = true)
    (hfree : ∀ f ∈ r.fields, f.needed = false) {read : ρ} : ∀ {members : Members} {l : List (String × Json)}
    {seen : List String} {built : ρ}, Members.json members = .ok l → (l.map Prod.fst).Nodup →
      (∀ key ∈ seen, key ∉ l.map Prod.fst) →
      (r.readMembers seen built members = .ok read ↔
        (∀ e ∈ l, accepts e.1 e.2 = true) ∧ read = l.foldl (fun built e => put e.1 e.2 built) built)
  | .close stop, l, seen, built, hl, _, _ => by
    cases hl
    have hnone : (r.fields.find? fun f => f.needed && decide (f.name ∉ seen)) = none := by
      rw [List.find?_eq_none]
      intro f hf
      simp [hfree f hf]
    rw [readMembers, hnone]
    constructor
    · intro h
      exact ⟨fun e he => absurd he List.not_mem_nil, (Except.ok.inj h).symm⟩
    · rintro ⟨-, h⟩
      exact congrArg Except.ok h.symm
  | .member key here value rest, l, seen, built, hl, hkeys, hseen => by
    obtain ⟨j, l', hj, hl', rfl⟩ := Members.json_member hl
    obtain ⟨hkey, hkeys'⟩ := List.nodup_cons.mp hkeys
    have hfield := htakes key hj built
    have hunseen : key ∉ seen := fun hm => hseen key hm List.mem_cons_self
    have hseen' : ∀ k ∈ key :: seen, k ∉ l'.map Prod.fst := by
      intro k hk
      rcases List.mem_cons.mp hk with rfl | hk
      · exact hkey
      · exact fun hm => hseen k hk (List.mem_cons_of_mem _ hm)
    rw [readMembers, List.forall_mem_cons, List.foldl_cons]
    cases hf : r.find? key with
    | none =>
      have hrefused : accepts key j = false := by simpa [hf] using hfield
      simp [hclosed, hrefused]
    | some f =>
      rw [hf, Option.bind_some] at hfield
      simp only [if_neg hunseen]
      cases hp : f.put value built with
      | error e =>
        have hrefused : accepts key j = false := by simpa [hp, Except.toOption] using hfield
        simp [hrefused]
      | ok built' =>
        rw [hp] at hfield
        have hput : accepts key j = true ∧ put key j built = built' := by simpa [Except.toOption] using hfield.symm
        rw [hput.1, hput.2]
        simpa using readMembers_eq_ok_iff htakes hclosed hfree hl' hkeys' hseen'
  | .unusableKey f inner, _, _, _, hl, _, _ => by cases hl
  | .cut used passed, _, _, _, hl, _, _ => by cases hl

/-- Of a record that is a function of its fields, putting one member after the other makes the record with the fields
of the object. -/
theorem foldl_put {make : (String → Json) → ρ}
    (hput : ∀ key j field, put key j (make field) = make (Function.update field key j)) :
    ∀ {l : List (String × Json)} (field : String → Json), (l.map Prod.fst).Nodup →
      l.foldl (fun built e => put e.1 e.2 built) (make field) = make fun key => (Entries.get? key l).getD (field key)
  | [], _, _ => rfl
  | (k, j) :: l, field, hkeys => by
    obtain ⟨hk, hkeys'⟩ := List.nodup_cons.mp hkeys
    rw [List.foldl_cons, hput, foldl_put hput _ hkeys']
    congr 1
    funext key
    by_cases he : key = k
    · subst he
      simp [Entries.get?_of_not_mem hk, Entries.get?]
    · simp [Entries.get?, he]

theorem ofText_eq_ok_iff {make : (String → Json) → ρ} (htakes : r.Takes accepts put) (hclosed : r.closed = true)
    (hfree : ∀ f ∈ r.fields, f.needed = false)
    (hput : ∀ key j field, put key j (make field) = make (Function.update field key j))
    (hblank : r.blank = make fun _ => .null) {text : String} {l : List (String × Json)}
    (hwritten : writtenMembers? text = some l) (hkeys : (l.map Prod.fst).Nodup) {read : ρ} :
    r.reader.ofText text = .ok read ↔
      (∀ key j, (ofMembers l).get? key = some j → accepts key j = true) ∧ read = make (ofMembers l).field := by
  obtain ⟨start, members, hdocument, hl⟩ := document_of_written hwritten
  have hget : ∀ key, (ofMembers l).get? key = Entries.get? key l := Dict.get?_ofList hkeys
  have hfield : (ofMembers l).field = fun key => (Entries.get? key l).getD .null := by
    funext key
    rw [Json.field, hget]
  have haccepts : (∀ key j, (ofMembers l).get? key = some j → accepts key j = true) ↔
      ∀ e ∈ l, accepts e.1 e.2 = true := by
    simp only [hget, Entries.get?_eq_some_iff_of_nodup hkeys, Prod.forall]
  have hmembers : r.readMembers [] r.blank members = .ok read ↔
      (∀ e ∈ l, accepts e.1 e.2 = true) ∧ read = l.foldl (fun built e => put e.1 e.2 built) r.blank :=
    readMembers_eq_ok_iff htakes hclosed hfree hl hkeys fun key hkey => absurd hkey List.not_mem_nil
  rw [hblank, foldl_put hput _ hkeys, ← hfield, ← hblank, ← haccepts] at hmembers
  rw [← hmembers, Reader.ofText_eq_ok_iff, hdocument]
  constructor
  · rintro ⟨tree, htree, h⟩
    cases htree
    exact h
  · exact fun h => ⟨_, rfl, h⟩

end Record

end Dashboard.Json
