import Dashboard.Proofs.UndoReplay

/-!
# Payloads of undo actions

A payload has an entity where its text has a double quote. An entity begins with
the only ampersand in it and holds no quote, so none begins inside another one,
and the quotes that are put in bring no pieces together. Hence unescaping leaves
no entity behind, and it does not matter for it which quotes were escaped.
-/

namespace Dashboard

namespace UndoAction

def entity : List Char := ['&', 'q', 'u', 'o', 't', ';']

def escaped (text : List Char) : List Char := text.flatMap fun c => if c = '"' then entity else [c]

/-- The payload of a text: all of its quotes are escaped. -/
def escape (text : String) : String := String.ofList (escaped text.toList)

/-! ## Entity by entity -/

theorem unescaped_entity (rest : List Char) : unescaped (entity ++ rest) = '"' :: unescaped rest := rfl

theorem unescaped_cons {c : Char} {rest : List Char} (h : ¬ entity <+: c :: rest) :
    unescaped (c :: rest) = c :: unescaped rest := by
  rw [unescaped]
  rintro more rfl rfl
  exact h ⟨more, rfl⟩

/-- Texts are read like this: an entity at once, and any other character alone. -/
theorem entity_induction {p : List Char → Prop} (nil : p [])
    (escaped : ∀ rest, p rest → p (entity ++ rest))
    (plain : ∀ c rest, ¬ entity <+: c :: rest → p rest → p (c :: rest)) : ∀ text, p text := by
  intro text
  induction text using unescaped.induct with
  | case1 rest ih => exact escaped rest ih
  | case2 c rest hne ih =>
    apply plain c rest _ ih
    rintro ⟨more, hmore⟩
    obtain ⟨rfl, rfl⟩ := List.cons_eq_cons.mp hmore
    exact hne more rfl rfl
  | case3 => exact nil

/-- A text and its rewriting begin alike as long as the rewriting has not put in its own character. -/
theorem prefix_of_prefix_rewritten {f : List Char → List Char} {own : Char} (hnil : f [] = [])
    (hcons : ∀ c rest, (∃ more, f (c :: rest) = own :: more) ∨ f (c :: rest) = c :: f rest)
    {start text : List Char}
    (ho : own ∉ start) (h : start <+: f text) : start <+: text := by
  induction text generalizing start with
  | nil => rwa [hnil] at h
  | cons c text ih =>
    cases start with
    | nil => exact List.nil_prefix
    | cons d start =>
      rw [List.mem_cons, not_or] at ho
      rcases hcons c text with ⟨more, hf⟩ | hf
      · rw [hf] at h
        exact absurd (List.cons_prefix_cons.mp h).1.symm ho.1
      · rw [hf] at h
        obtain ⟨rfl, hrest⟩ := List.cons_prefix_cons.mp h
        exact List.cons_prefix_cons.mpr ⟨rfl, ih ho.2 hrest⟩

theorem prefix_of_prefix_unescaped {start text : List Char} (hs : '"' ∉ start) (h : start <+: unescaped text) :
    start <+: text := by
  apply prefix_of_prefix_rewritten rfl _ hs h
  intro c rest
  by_cases he : entity <+: c :: rest
  · obtain ⟨more, hmore⟩ := he
    exact Or.inl ⟨unescaped more, by rw [← hmore, unescaped_entity]⟩
  · exact Or.inr (unescaped_cons he)

theorem prefix_of_prefix_escaped {start text : List Char} (hs : '&' ∉ start) (h : start <+: escaped text) :
    start <+: text := by
  apply prefix_of_prefix_rewritten rfl _ hs h
  intro c rest
  by_cases hc : c = '"'
  · exact Or.inl ⟨entity.tail ++ escaped rest, by subst hc; rfl⟩
  · exact Or.inr (by simp [escaped, hc])

/-! ## Texts without an entity -/

theorem not_infix_unescaped (text : List Char) : ¬ entity <:+: unescaped text := by
  induction text using entity_induction with
  | nil => decide
  | escaped rest ih =>
    rw [unescaped_entity, List.infix_cons_iff, not_or]
    refine ⟨?_, ih⟩
    intro h
    obtain ⟨hq, -⟩ := List.cons_prefix_cons.mp h
    simp at hq
  | plain c rest hne ih =>
    rw [unescaped_cons hne, List.infix_cons_iff, not_or]
    refine ⟨?_, ih⟩
    intro h
    -- no quote is in an entity, so the text itself would go on with the rest of it
    obtain ⟨rfl, hrest⟩ := List.cons_prefix_cons.mp h
    exact hne (List.cons_prefix_cons.mpr ⟨rfl, prefix_of_prefix_unescaped (by decide) hrest⟩)

theorem unescaped_eq_self_iff {text : List Char} : unescaped text = text ↔ ¬ entity <:+: text := by
  constructor
  · intro h
    rw [← h]
    exact not_infix_unescaped text
  · intro h
    induction text with
    | nil => rfl
    | cons c text ih =>
      rw [List.infix_cons_iff, not_or] at h
      rw [unescaped_cons h.1, ih h.2]

theorem unescaped_escaped (text : List Char) : unescaped (escaped text) = unescaped text := by
  induction text using entity_induction with
  | nil => rfl
  | escaped rest ih =>
    have hrest : escaped (entity ++ rest) = entity ++ escaped rest := rfl
    rw [hrest, unescaped_entity, unescaped_entity, ih]
  | plain c rest hne ih =>
    rw [unescaped_cons hne, ← ih]
    by_cases hc : c = '"'
    · subst hc
      rfl
    · have hrest : escaped (c :: rest) = c :: escaped rest := by simp [escaped, hc]
      rw [hrest, unescaped_cons]
      intro h
      obtain ⟨rfl, hstart⟩ := List.cons_prefix_cons.mp h
      exact hne (List.cons_prefix_cons.mpr ⟨rfl, prefix_of_prefix_escaped (by decide) hstart⟩)

theorem body_eq_iff (a : UndoAction) (text : String) : a.body = text ↔ unescaped a.payload.toList = text.toList := by
  unfold body
  rw [← String.toList_inj, String.toList_ofList]

/-! ## Posts -/

/-- What is posted for the actions of a batch, with the address that it is posted to. -/
def posts (batch : List UndoAction) : List (String × Json) :=
  (batch.filterMap request?).map fun (a, value) => (a.uri, value)

theorem posts_append (batch more : List UndoAction) : posts (batch ++ more) = posts batch ++ posts more := by
  simp [posts]

theorem posts_cons_of_json {a : UndoAction} {value : Json} (h : Json.ofText a.body = .ok value)
    (batch : List UndoAction) : posts (a :: batch) = (a.uri, value) :: posts batch := by
  simp [posts, request?, h]

end UndoAction

namespace Board

open UndoAction

variable {σ : Type} (server : Server σ)

theorem undo_posts {b : Board σ} {batch : List UndoAction} {older : List (List UndoAction)}
    (h : b.session.undo.batches = batch :: older) :
    (b.apply server .undo).session.log = b.session.log ++ (posts batch).map (fun (url, value) => .posted url value) ∧
      (b.apply server .undo).server = (server.replies (posts batch) b.server).2 := by
  have hundo : b.apply server .undo = _ := undoNewest_of_batch server h
  have hlog : ∀ s : Session, (withdrawUndo s).log = s.log := by
    intro s
    unfold withdrawUndo
    split <;> rfl
  rw [hundo]
  constructor
  · simp only [hlog, posts, List.map_map]
    rfl
  · rfl

/-- A payload in which all quotes are escaped is read as the text that it was made of, exactly when that text holds no
entity itself; an undo then posts the JSON value of the text, in the place of the action in its batch. A payload is read
as it stands exactly when it holds no entity, and to read it twice is to read it once. -/
theorem payloads_restored :
    (∀ (a : UndoAction) (text : String),
      { a with payload := escape text }.body = text ↔ ¬ entity <:+: text.toList) ∧
    (∀ (a : UndoAction) (text : String) (value : Json), ¬ entity <:+: text.toList →
      Json.ofText text = .ok value →
      ∀ (b : Board σ) (before after : List UndoAction) (older : List (List UndoAction)),
        let batch := before ++ { a with payload := escape text } :: after
        b.session.undo.batches = batch :: older →
          posts batch = posts before ++ (a.uri, value) :: posts after ∧
          (b.apply server .undo).session.log =
            b.session.log ++ (posts batch).map (fun (url, value) => .posted url value) ∧
          (b.apply server .undo).server = (server.replies (posts batch) b.server).2) ∧
    (∀ a : UndoAction, a.body = a.payload ↔ ¬ entity <:+: a.payload.toList) ∧
    ∀ a : UndoAction, { a with payload := a.body }.body = a.body := by
  have hescaped : ∀ (a : UndoAction) (text : String),
      { a with payload := escape text }.body = text ↔ ¬ entity <:+: text.toList := by
    intro a text
    rw [body_eq_iff, escape, String.toList_ofList, unescaped_escaped, unescaped_eq_self_iff]
  refine ⟨hescaped, ?_, ?_, ?_⟩
  · intro a text value hplain hvalue b before after older batch hbatch
    refine ⟨?_, undo_posts server hbatch⟩
    have hbody : { a with payload := escape text }.body = text := (hescaped a text).mpr hplain
    rw [posts_append, posts_cons_of_json (hbody.symm ▸ hvalue)]
  · intro a
    rw [body_eq_iff, unescaped_eq_self_iff]
  · intro a
    rw [body_eq_iff]
    apply unescaped_eq_self_iff.mpr
    rw [body, String.toList_ofList]
    exact not_infix_unescaped a.payload.toList

/-- A piece of an entity stands before a quote, and between two pieces stands a whole one. -/
theorem payload_of_pieces_restored :
    let text := "\"&quo\""
    let wrong : UndoAction := ⟨"order", "/wrong", none, []⟩
    let a : UndoAction := ⟨escape text, "/undo", none, []⟩
    let b : Board _ := ⟨{ Session.new .default .builtin with undo := ⟨[[wrong, a]], 8⟩ }, [.ok ""]⟩
    let pieces : UndoAction := ⟨"&qu&quot;ot;", "/undo", none, []⟩
    a.payload = "&quot;&quo&quot;" ∧ ¬ entity <:+: text.toList ∧ Json.ofText text = .ok (.str "&quo") ∧
      a.body = text ∧ (b.apply Server.scripted .undo).session.log = [.posted "/undo" (.str "&quo")] ∧
      (b.apply Server.scripted .undo).server = [] ∧
      pieces.body = "&qu\"ot;" ∧ { pieces with payload := pieces.body }.body = pieces.body := by
  intro text wrong a b pieces
  obtain ⟨hescaped, hposted, -, htwice⟩ := payloads_restored Server.scripted
  have hplain : ¬ entity <:+: text.toList := by decide
  have hvalue : Json.ofText text = .ok (.str "&quo") := by cbv
  have hwrong : posts [wrong] = [] := by cbv
  obtain ⟨hposts, hlog, hserver⟩ := hposted a text (.str "&quo") hplain hvalue b [wrong] [] [] rfl
  rw [hposts, hwrong] at hlog hserver
  exact ⟨by decide +kernel, hplain, hvalue, (hescaped a text).mpr hplain, hlog, hserver, by decide +kernel,
    htwice pieces⟩

end Board

end Dashboard
