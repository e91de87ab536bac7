import Dashboard.Proofs.Runs

/-!
# What quiet deeds leave alone

Deeds that neither load nor define panels leave all panels as they are. Unless
one sends an event, no handler is called, the history stays as it is and
commands are only added to the queue; what becomes of the undo stack is one
move (`unheard_of_quiet`). Loads do not touch that stack (`perform_undo`).
-/

namespace Dashboard

/-! ## Calls of handlers -/

def Effect.isHandling : Effect → Bool
  | .called .handleEvent _ _ _ => true
  | _ => false

def Effect.isCallOf (capability : Capability) : Effect → Bool
  | .called c _ _ _ => c = capability
  | _ => false

theorem Effect.isHandling_eq : Effect.isHandling = Effect.isCallOf .handleEvent := by
  funext e
  cases e with
  | called capability => cases capability <;> rfl
  | fetched | posted => rfl

theorem filter_calls (capability wanted : Capability) (a : Activity) (event : Option Event) :
    (a.calls capability event).filter (Effect.isCallOf wanted) =
      if capability = wanted then a.calls capability event else [] := by
  unfold Activity.calls
  cases a.capabilities.name? capability with
  | none => simp
  | some name => by_cases h : capability = wanted <;> simp [Effect.isCallOf, h]

theorem filter_calls_handleEvent (a : Activity) (event : Option Event) :
    (a.calls .handleEvent event).filter Effect.isHandling = a.calls .handleEvent event := by
  rw [Effect.isHandling_eq, filter_calls, if_pos rfl]

theorem filter_calls_of_ne {capability : Capability} (h : capability ≠ .handleEvent) (a : Activity)
    (event : Option Event) : (a.calls capability event).filter Effect.isHandling = [] := by
  rw [Effect.isHandling_eq, filter_calls, if_neg h]

namespace Session

/-- The calls of event handlers, the last one last. -/
def handlings (s : Session) : List Effect := s.log.filter Effect.isHandling

theorem handlings_note (s : Session) (effects : List Effect) :
    (s.note effects).handlings = s.handlings ++ effects.filter Effect.isHandling :=
  List.filter_append s.log effects

theorem handlings_noteCalls_of_ne {capability : Capability} (h : capability ≠ .handleEvent) (s : Session)
    (event : Option Event) : (s.noteCalls capability event).handlings = s.handlings := by
  simp [noteCalls, handlings_note, List.filter_flatMap, filter_calls_of_ne h]

/-- Two sessions between which no event was delivered and nothing was kept or undone. -/
structure Unheard (s t : Session) : Prop where
  undo : t.undo = s.undo
  history : t.history = s.history
  handlings : t.handlings = s.handlings
  queue : s.queue <+: t.queue

theorem Unheard.refl (s : Session) : Unheard s s := ⟨rfl, rfl, rfl, List.prefix_rfl⟩

theorem Unheard.trans {s t u : Session} (h₁ : Unheard s t) (h₂ : Unheard t u) : Unheard s u :=
  ⟨h₂.undo.trans h₁.undo, h₂.history.trans h₁.history, h₂.handlings.trans h₁.handlings,
    h₁.queue.trans h₂.queue⟩

theorem unheard_display (s : Session) (messages : List Message) : Unheard s (s.display messages) :=
  ⟨rfl, rfl, rfl, List.prefix_rfl⟩

theorem unheard_enqueue (s : Session) (commands : List Command) : Unheard s (s.enqueue commands) :=
  ⟨rfl, rfl, rfl, List.prefix_append _ _⟩

theorem unheard_press (b : Button) (s : Session) : Unheard s (s.press b) :=
  ⟨rfl, rfl, handlings_noteCalls_of_ne (by decide) s none, List.prefix_append _ _⟩

theorem unheard_foldl_press : ∀ (buttons : List Button) (s : Session),
    Unheard s (buttons.foldl (fun s b => s.press b) s)
  | [], s => Unheard.refl s
  | b :: buttons, s => (unheard_press b s).trans (unheard_foldl_press buttons (s.press b))

theorem unheard_pressAt (index : Nat) (s : Session) : Unheard s (s.pressAt index) := by
  unfold pressAt
  split
  · exact unheard_press _ s
  · exact Unheard.refl s

end Session

/-! ## Moves of the undo stack -/

inductive UndoMove where
  | keep (batch : List UndoAction)
  | take

namespace UndoMove

def onStack : UndoMove → UndoStack → UndoStack
  | .keep batch, stack => stack.push batch
  | .take, stack => { stack with batches := stack.batches.tail }

/-- A response is kept when it carries anything to undo. -/
def ofResponse? (response : Json) : Option UndoMove :=
  match UndoAction.collect response with
  | [] => none
  | batch => some (.keep batch)

end UndoMove

namespace Deed

def undoMove? : Deed → Option UndoMove
  | .start (.keepUndo response) => UndoMove.ofResponse? response
  | .carry (.keepUndo response) => UndoMove.ofResponse? response
  | .carry .undo => some .take
  | _ => none

def moved (d : Deed) (stack : UndoStack) : UndoStack := d.undoMove?.elim stack fun m => m.onStack stack

end Deed

namespace Board

open Session

variable {σ : Type} (server : Server σ)

theorem unheard_keepUndo (response : Json) (s : Session) :
    Unheard { s with undo := (UndoMove.ofResponse? response).elim s.undo fun m => m.onStack s.undo }
      (s.keepUndo response) := by
  unfold Session.keepUndo UndoMove.ofResponse?
  cases UndoAction.collect response <;> exact ⟨rfl, rfl, rfl, List.prefix_rfl⟩

theorem unheard_planUndo : ∀ (batch : List UndoAction) (s : Session), Unheard s (planUndo batch s).2
  | [], s => .refl s
  | a :: batch, s => by
    unfold planUndo
    cases Json.ofText a.body with
    | ok body => exact unheard_planUndo batch s
    | error f => exact (unheard_display s _).trans (unheard_planUndo batch _)

theorem unheard_post (url : String) (body : Json) (b : Board σ) :
    Unheard b.session (b.post server url body).2.session := by
  refine ⟨rfl, rfl, ?_, List.prefix_rfl⟩
  exact (handlings_note b.session [.posted url body]).trans (List.append_nil _)

theorem unheard_postAll : ∀ (requests : List (UndoAction × Json)) (b : Board σ),
    Unheard b.session (postAll server requests b).2.session
  | [], b => .refl b.session
  | (a, body) :: requests, b => (unheard_post server a.uri body b).trans (unheard_postAll requests _)

theorem unheard_receiveUndo (a : UndoAction) (answer : Except Refusal String) (s : Session) :
    Unheard s (receiveUndo a answer s) := by
  unfold receiveUndo
  cases answer with
  | error refusal => exact unheard_display s _
  | ok text => exact ((unheard_display s _).trans (unheard_display _ _)).trans (unheard_enqueue _ _)

theorem unheard_foldl_receiveUndo : ∀ (answers : List (UndoAction × Except Refusal String)) (s : Session),
    Unheard s (answers.foldl (fun s (a, answer) => receiveUndo a answer s) s)
  | [], s => .refl s
  | (a, answer) :: answers, s => (unheard_receiveUndo a answer s).trans (unheard_foldl_receiveUndo answers _)

theorem unheard_withdrawUndo (s : Session) : Unheard s (withdrawUndo s) := by
  unfold withdrawUndo
  split
  · exact ⟨rfl, rfl, rfl, List.prefix_rfl⟩
  · exact .refl s

/-- Once the newest batch has been taken from the stack, the rest of an undo leaves the stack alone. -/
theorem unheard_undoNewest (b : Board σ) :
    Unheard { b.session with undo := UndoMove.take.onStack b.session.undo } (b.undoNewest server).session := by
  cases hb : b.session.undo.batches with
  | nil =>
    have htaken : UndoMove.take.onStack b.session.undo = b.session.undo := by
      simp only [UndoMove.onStack, hb, List.tail_nil]
      rw [← hb]
    simp only [undoNewest, UndoStack.pop?, hb, htaken]
    exact unheard_withdrawUndo b.session
  | cons batch rest =>
    simp only [undoNewest, UndoStack.pop?, UndoMove.onStack, hb, List.tail_cons]
    have hcleared : Unheard { b.session with undo := { b.session.undo with batches := rest } }
        { b.session with undo := { b.session.undo with batches := rest } }.clearMessages :=
      ⟨rfl, rfl, rfl, List.prefix_rfl⟩
    have hplanned := hcleared.trans (unheard_planUndo batch _)
    exact ((hplanned.trans (unheard_postAll server _ ⟨_, b.server⟩)).trans
      (unheard_foldl_receiveUndo _ _)).trans (unheard_withdrawUndo _)

theorem unheard_postActivity (data : Params) (url panel : String) (arguments : Params) (b : Board σ) :
    Unheard b.session (b.postActivity server data url panel arguments).session := by
  have hposted := unheard_post server (Locator.withArguments url arguments.entries) (.object data) b
  unfold postActivity
  simp only
  split
  · exact hposted.trans (unheard_enqueue _ _)
  · exact hposted.trans (unheard_display _ _)

end Board

/-! ## Deeds -/

namespace Deed

open Session

variable {σ : Type} (server : Server σ)

theorem unheard_of_quiet {d : Deed} (hd : d.Quiet) (hs : ∀ e, d ≠ .carry (.send e)) (b : Board σ) :
    Unheard { b.session with undo := d.moved b.session.undo } (d.perform server b).session := by
  cases d with
  | start op =>
    cases op with
    | definePanels | resetToDefaults => cases hd
    | load pages extras =>
      simp only [perform, Board.start, Board.onSession]
      split
      · exact unheard_enqueue b.session _
      · exact unheard_display b.session _
    | run command => exact unheard_enqueue b.session _
    | pressAt index => exact unheard_pressAt index b.session
    | keepUndo response => exact Board.unheard_keepUndo response b.session
    | postActivity data url panel arguments => exact Board.unheard_postActivity server data url panel arguments b
    | display messages => exact unheard_display b.session messages
    | defineButtons | addParameter | clearMessages => exact ⟨rfl, rfl, rfl, List.prefix_rfl⟩
  | carry c =>
    cases c with
    | load | finish => cases hd
    | send e => exact absurd rfl (hs e)
    | display messages => exact unheard_display b.session messages
    | keepUndo response => exact Board.unheard_keepUndo response b.session
    | press id => exact unheard_foldl_press _ b.session
    | undo => exact Board.unheard_undoNewest server b

theorem undoMove?_of_not_quiet {d : Deed} (hd : ¬ d.Quiet) : d.undoMove? = none := by
  cases d with
  | start op => cases op <;> first | rfl | exact absurd trivial hd
  | carry c => cases c <;> first | rfl | exact absurd trivial hd

/-- Planning a load neither delivers events nor touches the undo stack. -/
theorem unheard_plan {d : Deed} (hd : ¬ d.Quiet) (b : Board σ) :
    Unheard b.session (d.plan server b).2.session := by
  rcases d.sort with hq | ⟨panels, rfl⟩ | rfl | ⟨pages, extras, rfl⟩ | ⟨request, rfl⟩
  · exact absurd hq hd
  · exact ⟨rfl, rfl, rfl, List.prefix_rfl⟩
  · exact .refl b.session
  · obtain ⟨messages, waiting, h⟩ := planPages_frame pages extras b.session
    simp only [plan, h]
    exact ⟨rfl, rfl, rfl, List.prefix_rfl⟩
  · obtain ⟨messages, waiting, h⟩ := planFinish_frame request b.session
    simp only [plan, h]
    exact ⟨rfl, rfl, rfl, List.prefix_rfl⟩

theorem perform_undo (d : Deed) (b : Board σ) : (d.perform server b).session.undo = d.moved b.session.undo := by
  by_cases hd : d.Quiet
  · by_cases hs : ∃ e, d = .carry (.send e)
    · obtain ⟨e, rfl⟩ := hs
      rfl
    · exact (unheard_of_quiet server hd (fun e he => hs ⟨e, he⟩) b).undo
  · rw [perform_eq_load, (Board.loadFrame_load server _ _).undo, (unheard_plan server hd b).undo, moved,
      undoMove?_of_not_quiet hd]
    rfl

end Deed

end Dashboard
