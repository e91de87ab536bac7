import Dashboard.Proofs.ScreenContent
import Dashboard.Proofs.UndoBound
import Dashboard.Proofs.UndoReplay

/-!
# When an undo is offered

A response with something to undo turns the offer on, before its batch is
pushed; an undo that leaves the stack empty turns it off. Nothing else touches
the offer (`Deed.perform_offer`). So it says whether something can be undone, as
long as the stack has room for a batch. A stack without room drops every batch
at once, and then the offer only tells of the last move (`undo_offered_iff`).
-/

namespace Dashboard

namespace Session

/-! ## What leaves the offer alone -/

theorem offer_receive (f : Fetched) (s : Session) : (s.receive f).screen.undoEnabled = s.screen.undoEnabled := by
  cases ho : f.outcome s.registry with
  | error failure =>
    rw [receive_of_error ho]
    rfl
  | ok a =>
    rw [receive_screen_of_ok ho]
    cases a.display <;> rfl

theorem offer_foldl_receive : ∀ (fetched : List Fetched) (s : Session),
    (fetched.foldl (fun s f => s.receive f) s).screen.undoEnabled = s.screen.undoEnabled
  | [], _ => rfl
  | f :: fetched, s => (offer_foldl_receive fetched (s.receive f)).trans (offer_receive f s)

theorem offer_pressAt (index : Nat) (s : Session) : (s.pressAt index).screen.undoEnabled = s.screen.undoEnabled := by
  unfold pressAt
  split <;> rfl

end Session

/-! ## Moves and the offer -/

/-- Whether an undo is offered after a move that leaves this stack. -/
def UndoMove.offer : UndoMove → UndoStack → Bool → Bool
  | .keep _, _, _ => true
  | .take, stack, offered => !stack.isEmpty && offered

section
variable {σ : Type} (server : Server σ)

theorem Session.offer_keepUndo (response : Json) (s : Session) (stack : UndoStack) :
    (s.keepUndo response).screen.undoEnabled =
      (UndoMove.ofResponse? response).elim s.screen.undoEnabled fun m => m.offer stack s.screen.undoEnabled := by
  unfold keepUndo UndoMove.ofResponse?
  cases UndoAction.collect response <;> rfl

theorem Board.offer_withdrawUndo (s : Session) :
    (withdrawUndo s).screen.undoEnabled = (!s.undo.isEmpty && s.screen.undoEnabled) := by
  unfold withdrawUndo
  cases h : s.undo.isEmpty with
  | true => simp
  | false => simp

theorem Board.offer_undoNewest (b : Board σ) : (b.undoNewest server).session.screen.undoEnabled =
    UndoMove.take.offer (UndoMove.take.onStack b.session.undo) b.session.screen.undoEnabled := by
  cases hb : b.session.undo.batches with
  | nil =>
    rw [undoNewest_of_empty server hb]
    refine (offer_withdrawUndo b.session).trans ?_
    simp [UndoMove.offer, UndoMove.onStack, UndoStack.isEmpty, hb]
  | cons batch older =>
    rw [undoNewest_of_batch server hb]
    refine (offer_withdrawUndo _).trans ?_
    simp [UndoMove.offer, UndoMove.onStack, UndoStack.isEmpty, hb]

namespace Deed

theorem offer_of_quiet {d : Deed} (hd : d.Quiet) (b : Board σ) :
    (d.perform server b).session.screen.undoEnabled =
      d.undoMove?.elim b.session.screen.undoEnabled fun m =>
        m.offer (d.moved b.session.undo) b.session.screen.undoEnabled := by
  cases d with
  | start op =>
    cases op with
    | definePanels | resetToDefaults => cases hd
    | load pages extras =>
      simp only [perform, Board.start, Board.onSession]
      split <;> rfl
    | pressAt index => exact Session.offer_pressAt index b.session
    | keepUndo response => exact Session.offer_keepUndo response b.session _
    | postActivity data url panel arguments =>
      simp only [perform, Board.start, Board.postActivity]
      split <;> rfl
    | defineButtons | addParameter | run | display | clearMessages => rfl
  | carry c =>
    cases c with
    | load | finish => cases hd
    | send | display => rfl
    | keepUndo response => exact Session.offer_keepUndo response b.session _
    | press id => exact Session.foldl_press_keeps (p := fun s => s.screen.undoEnabled) (fun _ _ => rfl) _ b.session
    | undo => exact Board.offer_undoNewest server b

theorem offer_of_not_quiet {d : Deed} (hd : ¬ d.Quiet) (b : Board σ) :
    (d.perform server b).session.screen.undoEnabled = b.session.screen.undoEnabled := by
  have hplan : (d.plan server b).2.session.screen.undoEnabled = b.session.screen.undoEnabled := by
    obtain ⟨slots, messages, waiting, h⟩ := plan_of_not_quiet server hd b
    rw [h]
    rfl
  have hscreen : (d.fetches server b).2.session.screen = (d.plan server b).2.session.screen :=
    Board.fetched_screen server _ _
  rw [perform_eq_receive]
  refine (Session.offer_foldl_receive _ _).trans ?_
  rw [hscreen, hplan]

theorem perform_offer (d : Deed) (b : Board σ) :
    (d.perform server b).session.screen.undoEnabled =
      d.undoMove?.elim b.session.screen.undoEnabled fun m =>
        m.offer (d.moved b.session.undo) b.session.screen.undoEnabled := by
  by_cases hd : d.Quiet
  · exact offer_of_quiet server hd b
  · rw [offer_of_not_quiet server hd, undoMove?_of_not_quiet hd]
    rfl

end Deed

end

/-! ## Courses -/

theorem UndoStack.isEmpty_push {stack : UndoStack} (h : 0 < stack.capacity) (batch : List UndoAction) :
    (stack.push batch).isEmpty = false := by
  cases hc : stack.capacity with
  | zero => omega
  | succ n => simp [UndoStack.isEmpty, push, hc]

section
variable {σ : Type} {server : Server σ} {settings : Settings} {registry : Registry} {state : σ}
variable {first b : Board σ} {steps : List (Deed × Board σ)}

def lastMove? (steps : List (Deed × Board σ)) : Option UndoMove :=
  (steps.filterMap fun step => step.1.undoMove?).getLast?

theorem lastMove?_concat (steps : List (Deed × Board σ)) (d : Deed) (taken : Board σ) :
    lastMove? (steps ++ [(d, taken)]) = d.undoMove?.or (lastMove? steps) := by
  unfold lastMove?
  cases hd : d.undoMove? <;> simp [hd]

theorem Deed.Due.offer {d : Deed} {taken : Board σ} (h : d.Due b taken) :
    taken.session.screen.undoEnabled = b.session.screen.undoEnabled := by
  cases h <;> rfl

theorem Course.offer_of_room (course : Course server ⟨.new settings registry, state⟩ steps b)
    (hroom : 0 < settings.undoCapacity) : b.session.screen.undoEnabled = !b.session.undo.isEmpty := by
  induction course with
  | refl => rfl
  | @next _ b _ d course due ih =>
    have hcapacity : b.session.undo.capacity = settings.undoCapacity := course.undo_capacity
    rw [Deed.perform_offer, Deed.perform_undo, due.undo, due.offer, ih, Deed.moved]
    cases d.undoMove? with
    | none => rfl
    | some m =>
      cases m with
      | keep batch =>
        have hpush : (b.session.undo.push batch).isEmpty = false := UndoStack.isEmpty_push (hcapacity ▸ hroom) batch
        simp [UndoMove.offer, UndoMove.onStack, hpush]
      | take =>
        -- if something is left, there was something to undo before
        cases hb : b.session.undo.batches <;> simp [UndoMove.offer, UndoMove.onStack, UndoStack.isEmpty, hb]
  | aside _ h ih =>
    obtain ⟨effects, hs⟩ := h.session
    rw [hs]
    exact ih

theorem Course.empty_without_room (course : Course server ⟨.new settings registry, state⟩ steps b)
    (hroom : settings.undoCapacity = 0) : b.session.undo.isEmpty = true := by
  have hcapacity : b.session.undo.capacity = settings.undoCapacity := course.undo_capacity
  have hbound : b.session.undo.size ≤ 0 := hroom ▸ hcapacity ▸ course.newest.bound
  exact List.isEmpty_iff.mpr (List.length_eq_zero_iff.mp (Nat.le_zero.mp hbound))

theorem Course.offer_without_room (course : Course server ⟨.new settings registry, state⟩ steps b)
    (hroom : settings.undoCapacity = 0) :
    b.session.screen.undoEnabled = true ↔ ∃ batch, lastMove? steps = some (.keep batch) := by
  induction course with
  | refl => simp [Session.new, Screen.blank, lastMove?]
  | @next steps b taken d course due ih =>
    have hempty : (d.moved b.session.undo).isEmpty = true := by
      rw [← due.undo, ← Deed.perform_undo server]
      exact (course.next due).empty_without_room hroom
    rw [Deed.perform_offer, due.undo, due.offer, lastMove?_concat]
    cases hd : d.undoMove? with
    | none => simpa using ih
    | some m =>
      cases m with
      | keep batch => simp [UndoMove.offer]
      | take => simp [UndoMove.offer, hempty]
  | aside _ h ih =>
    obtain ⟨effects, hs⟩ := h.session
    rw [hs]
    exact ih

/-- Along a course an undo is offered exactly while there is something to undo, if the stack has room for a batch. If
it has none, nothing can ever be undone, and yet an undo is offered from each response that is kept until the next
undo. -/
theorem undo_offered_iff (course : Course server ⟨.new settings registry, state⟩ steps b) :
    let offered := b.session.screen.undoEnabled
    let undoable := !b.session.undo.isEmpty
    (0 < settings.undoCapacity → (offered = true ↔ undoable = true)) ∧
    (settings.undoCapacity = 0 →
      undoable = false ∧ (offered = true ↔ ∃ batch, lastMove? steps = some (.keep batch))) := by
  intro offered undoable
  refine ⟨fun hroom => ?_, fun hroom => ⟨?_, course.offer_without_room hroom⟩⟩
  · rw [show offered = undoable from course.offer_of_room hroom]
  · rw [show undoable = !b.session.undo.isEmpty from rfl, course.empty_without_room hroom]
    rfl

end

/-- A response is kept by a board whose stack has no room for it. -/
theorem offered_without_room :
    let response := Json.obj [("undoActions", .arr [.obj [("json", .str "1"), ("uri", .str "/undo")]])]
    let first : Board _ := ⟨.new { Settings.default with undoCapacity := 0 } .builtin, []⟩
    let b := first.start Server.scripted (.keepUndo response)
    (∃ steps, Course Server.scripted first steps b) ∧ b.session.undo.isEmpty = true ∧
      b.session.screen.undoEnabled = true := by
  intro response first b
  have course : Course Server.scripted first _ b := Course.refl.next (.start (.keepUndo response) first)
  have hcollect : UndoAction.collect response = [⟨"1", "/undo", none, []⟩] := by
    cbv
  have hlast : lastMove? [(Deed.start (.keepUndo response), first)] = some (.keep [⟨"1", "/undo", none, []⟩]) := by
    simp [lastMove?, Deed.undoMove?, UndoMove.ofResponse?, hcollect]
  obtain ⟨-, hwithout⟩ := undo_offered_iff course
  obtain ⟨hempty, hoffered⟩ := hwithout rfl
  exact ⟨⟨_, course⟩, by simpa using hempty, hoffered.mpr ⟨_, hlast⟩⟩

end Dashboard
