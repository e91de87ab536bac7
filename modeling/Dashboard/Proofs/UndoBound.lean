import Dashboard.Proofs.Courses
import Dashboard.Proofs.QuietDeeds

/-!
# The bound of the undo stack

Beside the stack of the board, a stack without a bound takes the same batches
and gives them back at the same undos. The stack of the board is always its top
part. After batches have fallen out the two differ in depth, so they are not
related by an equation but by `Newest`, which each move keeps.
-/

namespace Dashboard

/-! ## Undo actions of a response -/

theorem toOption_eq_some_iff {x : Except ε α} {a : α} : x.toOption = some a ↔ x = .ok a := by
  cases x <;> simp [Except.toOption]

/-- A response carries an undo action itself or, when it is a list, in one of its elements. -/
def UndoAction.CarriedBy (a : UndoAction) (response : Json) : Prop :=
  ∃ row, (row = response ∨ ∃ rows, response = .arr rows ∧ row ∈ rows) ∧
    ∃ entries, row.get? "undoActions" = some (.arr entries) ∧ ∃ entry ∈ entries, reader.ofJson entry = .ok a

theorem UndoAction.mem_collect_iff {a : UndoAction} {response : Json} :
    a ∈ collect response ↔ a.CarriedBy response := by
  have hrow : ∀ row : Json, a ∈ (((row.get? "undoActions").bind Json.items?).getD []).filterMap
      (fun entry => (reader.ofJson entry).toOption) ↔
        ∃ entries, row.get? "undoActions" = some (.arr entries) ∧
          ∃ entry ∈ entries, reader.ofJson entry = .ok a := by
    intro row
    cases row.get? "undoActions" with
    | none => simp
    | some value => cases value <;> simp [Json.items?, toOption_eq_some_iff]
  unfold collect CarriedBy
  simp only [List.mem_flatMap, hrow]
  cases response with
  | arr rows => simp [Json.get?]
  | obj members => simp
  | null | bool | num | str => simp [Json.get?]

/-! ## Bounded and unbounded -/

namespace UndoMove

/-- The move on a stack without a bound. -/
def onAll : UndoMove → List (List UndoAction) → List (List UndoAction)
  | .keep batch, all => batch :: all
  | .take, all => all.tail

end UndoMove

/-- All batches that were kept and not undone, the newest first. -/
def Deed.allKept (deeds : List Deed) : List (List UndoAction) :=
  (deeds.filterMap undoMove?).foldl (fun all m => m.onAll all) []

theorem Deed.allKept_concat (deeds : List Deed) (d : Deed) :
    allKept (deeds ++ [d]) = d.undoMove?.elim (allKept deeds) fun m => m.onAll (allKept deeds) := by
  unfold allKept
  cases hd : d.undoMove? <;> simp [hd]

namespace UndoStack

/-- A stack that holds the newest of all batches, as many as it can. -/
structure Newest (all : List (List UndoAction)) (stack : UndoStack) : Prop where
  bound : stack.size ≤ stack.capacity
  top : stack.batches <+: all

variable {stack : UndoStack} {all : List (List UndoAction)} {batch : List UndoAction}

theorem size_push (stack : UndoStack) (batch : List UndoAction) :
    (stack.push batch).size = min stack.capacity (stack.size + 1) := by
  simp [push, size]

theorem Newest.onStack (h : stack.Newest all) (m : UndoMove) : (m.onStack stack).Newest (m.onAll all) := by
  cases m with
  | keep batch =>
    refine ⟨?_, ?_⟩
    · rw [UndoMove.onStack, size_push]
      exact Nat.min_le_left _ _
    · exact (List.take_prefix _ _).trans ((List.prefix_cons_inj batch).mpr h.top)
  | take =>
    refine ⟨?_, ?_⟩
    · have hbound := h.bound
      simp only [UndoMove.onStack, size, List.length_tail] at hbound ⊢
      omega
    · obtain ⟨older, rfl⟩ := h.top
      cases hb : stack.batches with
      | nil => simp [UndoMove.onStack, hb]
      | cons batch rest => simp [UndoMove.onStack, UndoMove.onAll, hb]

/-- What falls out of a stack at a push lies under as many newer batches as the stack can hold. -/
theorem Newest.evicted (h : stack.Newest all) (batch : List UndoAction) :
    ∃ evicted, batch :: stack.batches = (stack.push batch).batches ++ evicted ∧
      (evicted ≠ [] → (stack.push batch).size = stack.capacity ∧
        ∃ older, batch :: all = (stack.push batch).batches ++ evicted ++ older) := by
  obtain ⟨older, rfl⟩ := h.top
  refine ⟨(batch :: stack.batches).drop stack.capacity, (List.take_append_drop _ _).symm,
    fun hne => ⟨?_, older, ?_⟩⟩
  · have hover : stack.capacity < stack.size + 1 := by
      have hpos := List.length_pos_iff.mpr hne
      rw [List.length_drop, List.length_cons] at hpos
      exact Nat.lt_of_sub_pos hpos
    rw [size_push]
    omega
  · simp only [push, List.take_append_drop]
    rfl

theorem Newest.pop (h : stack.Newest all) (hs : 0 < stack.size) :
    ∃ batch, stack.pop? = some (batch, UndoMove.take.onStack stack) ∧ all = batch :: UndoMove.take.onAll all := by
  obtain ⟨older, rfl⟩ := h.top
  cases hb : stack.batches with
  | nil => simp [size, hb] at hs
  | cons batch rest => exact ⟨batch, by simp only [pop?, UndoMove.onStack, hb, List.tail_cons], rfl⟩

end UndoStack

section
variable {σ : Type} {server : Server σ} {settings : Settings} {registry : Registry} {state : σ}
variable {first b : Board σ} {steps : List (Deed × Board σ)}

theorem Deed.Due.undo {d : Deed} {taken : Board σ} (h : d.Due b taken) : taken.session.undo = b.session.undo := by
  cases h <;> rfl

theorem Course.undo_capacity (course : Course server first steps b) :
    b.session.undo.capacity = first.session.undo.capacity := by
  induction course with
  | refl => rfl
  | @next _ _ _ d _ due ih =>
    rw [Deed.perform_undo, due.undo, ← ih, Deed.moved]
    cases d.undoMove? with
    | none => rfl
    | some m => cases m <;> rfl
  | aside _ h ih =>
    obtain ⟨effects, hs⟩ := h.session
    rw [hs]
    exact ih

theorem Course.newest (course : Course server ⟨.new settings registry, state⟩ steps b) :
    b.session.undo.Newest (Deed.allKept (steps.map Prod.fst)) := by
  induction course with
  | refl => exact ⟨Nat.zero_le _, List.prefix_rfl⟩
  | @next _ _ _ d _ due ih =>
    rw [List.map_append, List.map_singleton, Deed.allKept_concat, Deed.perform_undo, due.undo, Deed.moved]
    cases d.undoMove? with
    | none => exact ih
    | some m => exact ih.onStack m
  | aside _ h ih =>
    obtain ⟨effects, hs⟩ := h.session
    rw [hs]
    exact ih

/-- At any moment the undo stack holds the newest of all batches that were kept and not undone. A batch that
is kept makes it one deeper, up to its capacity, and what then falls out lies under that many newer batches;
an undo gives back the newest of all, unless the stack is empty. A response without undo actions does nothing. -/
theorem stack_refines_unbounded (course : Course server ⟨.new settings registry, state⟩ steps b) :
    let n := settings.undoCapacity
    let all := Deed.allKept (steps.map Prod.fst)
    let stack := b.session.undo
    (stack.size ≤ n ∧ stack.size ≤ all.length ∧ stack.batches = all.take stack.size) ∧
    (∀ (d : Deed) taken, d.Due b taken →
      let stack' := (d.perform server taken).session.undo
      let all' := Deed.allKept (steps.map Prod.fst ++ [d])
      (∀ batch, d.undoMove? = some (.keep batch) →
        all' = batch :: all ∧ stack'.size = min n (stack.size + 1) ∧
          ∃ evicted, batch :: stack.batches = stack'.batches ++ evicted ∧
            (evicted ≠ [] → stack'.size = n ∧ ∃ older, all' = stack'.batches ++ evicted ++ older)) ∧
      (d.undoMove? = some .take →
        all' = all.tail ∧ stack'.size = stack.size - 1 ∧
          (0 < stack.size → ∃ batch, stack.pop? = some (batch, stack') ∧ all = batch :: all')) ∧
      (d.undoMove? = none → all' = all ∧ stack' = stack)) ∧
    ∀ response, (∀ a, ¬ UndoAction.CarriedBy a response) →
      b.start server (.keepUndo response) = b ∧ b.apply server (.keepUndo response) = b := by
  intro n all stack
  have hn : stack.capacity = n := course.undo_capacity
  have hnewest : stack.Newest all := course.newest
  refine ⟨⟨hn ▸ hnewest.bound, hnewest.top.length_le, List.prefix_iff_eq_take.mp hnewest.top⟩, ?_, ?_⟩
  · intro d taken due stack' all'
    have hstack : stack' = d.moved stack := (Deed.perform_undo server d taken).trans (congrArg d.moved due.undo)
    have hall : all' = d.undoMove?.elim all fun m => m.onAll all := Deed.allKept_concat _ d
    clear_value stack' all'
    subst hstack hall
    refine ⟨fun batch hd => ?_, fun hd => ?_, fun hd => ?_⟩ <;> simp only [Deed.moved, hd, Option.elim]
    · refine ⟨rfl, ?_, ?_⟩
      · rw [← hn]
        exact UndoStack.size_push stack batch
      · rw [← hn]
        exact hnewest.evicted batch
    · exact ⟨rfl, by simp [UndoMove.onStack, UndoStack.size], hnewest.pop⟩
    · trivial
  · intro response hnone
    have hempty : UndoAction.collect response = [] :=
      List.eq_nil_iff_forall_not_mem.mpr fun a ha => hnone a (UndoAction.mem_collect_iff.mp ha)
    have hsame : b.session.keepUndo response = b.session := by simp only [Session.keepUndo, hempty]
    constructor
    · simp only [Board.start, Board.onSession, hsame]
    · simp only [Board.apply, Board.onSession, hsame]

end

/-- Two responses are kept on a stack for one batch. -/
theorem oldest_batch_falls_out :
    let response (uri : String) := Json.obj [("undoActions", .arr [.obj [("json", .str "1"), ("uri", .str uri)]])]
    let batch (uri : String) : List UndoAction := [⟨"1", uri, none, []⟩]
    let first : Board _ := ⟨.new { Settings.default with undoCapacity := 1 } .builtin, []⟩
    let b := first.start Server.scripted (.keepUndo (response "/first"))
    let after := (b.start Server.scripted (.keepUndo (response "/next"))).session.undo
    ∃ steps, Course Server.scripted first steps b ∧ after.batches = [batch "/next"] ∧
      ∃ older, batch "/next" :: Deed.allKept (steps.map Prod.fst) = after.batches ++ batch "/first" :: older := by
  intro response batch first b after
  have hcollect : ∀ uri, UndoAction.collect (response uri) = batch uri := by
    intro uri
    cbv
  have course : Course Server.scripted first _ b := Course.refl.next (.start (.keepUndo (response "/first")) first)
  have hmove : (Deed.start (.keepUndo (response "/next"))).undoMove? = some (.keep (batch "/next")) := by
    simp only [Deed.undoMove?, UndoMove.ofResponse?, hcollect, batch]
  have hfirst : b.session.undo.batches = [batch "/first"] := by
    simp only [b, Board.start, Board.onSession, Session.keepUndo, hcollect, batch]
    rfl
  obtain ⟨-, hdeeds, -⟩ := stack_refines_unbounded course
  obtain ⟨hkeep, -⟩ := hdeeds (.start (.keepUndo (response "/next"))) b (.start _ b)
  obtain ⟨hall, hsize, evicted, he, hfallen⟩ := hkeep _ hmove
  rw [hall] at hfallen
  change after.size = min 1 (b.session.undo.batches.length + 1) at hsize
  change batch "/next" :: b.session.undo.batches = after.batches ++ evicted at he
  rw [hfirst] at hsize he
  obtain ⟨newest, hafter⟩ : ∃ newest, after.batches = [newest] := List.length_eq_one_iff.mp hsize
  rw [hafter, List.singleton_append, List.cons.injEq] at he
  obtain ⟨rfl, rfl⟩ := he
  obtain ⟨-, older, holder⟩ := hfallen (by simp)
  exact ⟨_, course, hafter, older, by rw [holder, List.append_assoc]; rfl⟩

end Dashboard
