import Dashboard.Proofs.Loads
import Dashboard.Proofs.Plans

/-!
# Runs of the board

A run is a list of deeds: operations begin, and the command at the head of the
queue is carried out. A deed is first planned, which touches no panel, and the
load that it plans is then made on the board that planning leaves
(`perform_eq_load`). All invariants of runs are proved along this split.
-/

namespace Dashboard

inductive Deed where
  | start (op : Operation)
  | carry (command : Command)

namespace Deed

variable {σ : Type} (server : Server σ)

def perform (d : Deed) (b : Board σ) : Board σ :=
  match d with
  | .start op => b.start server op
  | .carry c => b.apply server c

/-- What a deed has loaded, and the board on which it is loaded. -/
def plan (d : Deed) (b : Board σ) : List LoadRequest × Board σ :=
  match d with
  | .start (.definePanels panels) => ((b.session.define panels).defaults, b.onSession (Session.define panels))
  | .start .resetToDefaults => (b.session.defaults, b)
  | .carry (.load pages extras) =>
    ((b.session.planPages pages extras).1, { b with session := (b.session.planPages pages extras).2 })
  | .carry (.finish request) =>
    ((b.session.planFinish request).1, { b with session := (b.session.planFinish request).2 })
  | d => ([], d.perform server b)

theorem finish_eq_load (request : Finish) (b : Board σ) :
    b.finish server request =
      Board.load server (b.session.planFinish request).1 { b with session := (b.session.planFinish request).2 } := by
  unfold Board.finish Session.planFinish
  have hslot : (b.session.display request.messages).slot? = b.session.slot? := rfl
  have hwaiting : (b.session.display request.messages).waiting = b.session.waiting := rfl
  simp only [Board.onSession, hslot]
  cases request.panel.bind b.session.slot? with
  | none => rfl
  | some slot =>
    simp only [Board.finishPanel, hwaiting]
    cases request.cancel with
    | true => rfl
    | false =>
      cases b.session.waiting.next? slot.name with
      | some next => rfl
      | none => cases slot.mode <;> rfl

theorem perform_eq_load (d : Deed) (b : Board σ) :
    d.perform server b = Board.load server (d.plan server b).1 (d.plan server b).2 := by
  cases d with
  | start op => cases op <;> rfl
  | carry c =>
    cases c with
    | finish request => exact finish_eq_load server request b
    | _ => rfl

/-- What a deed fetches for its load, and the board on which that is then received. -/
def fetches (d : Deed) (b : Board σ) : List Fetched × Board σ :=
  (d.plan server b).2.fetched server (d.plan server b).1

theorem perform_eq_receive (d : Deed) (b : Board σ) : d.perform server b =
    (d.fetches server b).2.onSession fun s => (d.fetches server b).1.foldl (fun s f => s.receive f) s :=
  d.perform_eq_load server b

end Deed

/-! ## Deeds that load nothing -/

namespace Session

/-- Two sessions with the same in all panels, the same waiting for them and the same kept. -/
structure SamePanels (s t : Session) : Prop where
  slots : t.slots = s.slots
  waiting : t.waiting = s.waiting
  cache : t.cache = s.cache
  registry : t.registry = s.registry
  shown : t.screen.panels = s.screen.panels
  drawn : t.screen.drawn = s.screen.drawn

theorem SamePanels.refl (s : Session) : SamePanels s s := ⟨rfl, rfl, rfl, rfl, rfl, rfl⟩

theorem SamePanels.trans {s t u : Session} (h₁ : SamePanels s t) (h₂ : SamePanels t u) : SamePanels s u :=
  ⟨h₂.slots.trans h₁.slots, h₂.waiting.trans h₁.waiting, h₂.cache.trans h₁.cache,
    h₂.registry.trans h₁.registry, h₂.shown.trans h₁.shown, h₂.drawn.trans h₁.drawn⟩

theorem samePanels_display (s : Session) (messages : List Message) : SamePanels s (s.display messages) :=
  ⟨rfl, rfl, rfl, rfl, rfl, rfl⟩

theorem samePanels_keepUndo (s : Session) (response : Json) : SamePanels s (s.keepUndo response) := by
  unfold keepUndo
  split <;> exact ⟨rfl, rfl, rfl, rfl, rfl, rfl⟩

theorem samePanels_press (b : Button) (s : Session) : SamePanels s (s.press b) := ⟨rfl, rfl, rfl, rfl, rfl, rfl⟩

theorem samePanels_foldl_press : ∀ (buttons : List Button) (s : Session),
    SamePanels s (buttons.foldl (fun s b => s.press b) s)
  | [], s => SamePanels.refl s
  | b :: buttons, s => (samePanels_press b s).trans (samePanels_foldl_press buttons (s.press b))

/-- What every press keeps, presses of several buttons keep. -/
theorem foldl_press_keeps {α : Type} {p : Session → α} (hp : ∀ b s, p (s.press b) = p s) :
    ∀ (buttons : List Button) (s : Session), p (buttons.foldl (fun s b => s.press b) s) = p s
  | [], _ => rfl
  | b :: buttons, s => (foldl_press_keeps hp buttons (s.press b)).trans (hp b s)

theorem samePanels_pressAt (index : Nat) (s : Session) : SamePanels s (s.pressAt index) := by
  unfold pressAt
  split
  · exact samePanels_press _ s
  · exact SamePanels.refl s

end Session

namespace Board

open Session

variable {σ : Type} (server : Server σ)

/-- Two sessions that differ by what an undo does: messages are shown, and events are to be sent. -/
structure UndoFrame (s t : Session) : Prop extends SamePanels s t where
  buttons : t.buttons = s.buttons
  sends : ∃ events : List Event, t.queue = s.queue ++ events.map .send

theorem UndoFrame.of_queue {s t : Session} (h : SamePanels s t) (hb : t.buttons = s.buttons) (hq : t.queue = s.queue) :
    UndoFrame s t :=
  ⟨h, hb, [], by simp [hq]⟩

theorem UndoFrame.trans {s t u : Session} (h₁ : UndoFrame s t) (h₂ : UndoFrame t u) : UndoFrame s u := by
  obtain ⟨first, hfirst⟩ := h₁.sends
  obtain ⟨next, hnext⟩ := h₂.sends
  exact ⟨h₁.toSamePanels.trans h₂.toSamePanels, h₂.buttons.trans h₁.buttons, first ++ next,
    by rw [hnext, hfirst, List.map_append, List.append_assoc]⟩

theorem undoFrame_display (s : Session) (messages : List Message) : UndoFrame s (s.display messages) :=
  .of_queue (samePanels_display s messages) rfl rfl

theorem undoFrame_planUndo : ∀ (batch : List UndoAction) (s : Session), UndoFrame s (planUndo batch s).2
  | [], s => .of_queue (SamePanels.refl s) rfl rfl
  | a :: batch, s => by
    unfold planUndo
    cases Json.ofText a.body with
    | ok body => exact undoFrame_planUndo batch s
    | error f => exact (undoFrame_display s _).trans (undoFrame_planUndo batch _)

theorem undoFrame_postAll : ∀ (requests : List (UndoAction × Json)) (b : Board σ),
    UndoFrame b.session (postAll server requests b).2.session
  | [], b => .of_queue (SamePanels.refl b.session) rfl rfl
  | (a, body) :: requests, b => by
    have hpost : UndoFrame b.session (b.post server a.uri body).2.session :=
      .of_queue ⟨rfl, rfl, rfl, rfl, rfl, rfl⟩ rfl rfl
    exact hpost.trans (undoFrame_postAll requests _)

theorem undoFrame_receiveUndo (a : UndoAction) (answer : Except Refusal String) (s : Session) :
    UndoFrame s (receiveUndo a answer s) := by
  unfold receiveUndo
  cases answer with
  | error refusal => exact undoFrame_display s _
  | ok text => exact ⟨⟨rfl, rfl, rfl, rfl, rfl, rfl⟩, rfl, a.events, rfl⟩

theorem undoFrame_foldl_receiveUndo : ∀ (answers : List (UndoAction × Except Refusal String)) (s : Session),
    UndoFrame s (answers.foldl (fun s (a, answer) => receiveUndo a answer s) s)
  | [], s => .of_queue (SamePanels.refl s) rfl rfl
  | (a, answer) :: answers, s => (undoFrame_receiveUndo a answer s).trans (undoFrame_foldl_receiveUndo answers _)

theorem undoFrame_withdrawUndo (s : Session) : UndoFrame s (withdrawUndo s) := by
  unfold withdrawUndo
  split <;> exact .of_queue ⟨rfl, rfl, rfl, rfl, rfl, rfl⟩ rfl rfl

theorem undoFrame_undoNewest (b : Board σ) : UndoFrame b.session (b.undoNewest server).session := by
  unfold undoNewest
  split
  · exact undoFrame_withdrawUndo b.session
  · rename_i batch undo _
    have hclear : UndoFrame b.session ({ b.session with undo }.clearMessages) :=
      .of_queue ⟨rfl, rfl, rfl, rfl, rfl, rfl⟩ rfl rfl
    have hplan := hclear.trans (undoFrame_planUndo batch _)
    exact ((hplan.trans (undoFrame_postAll server _ ⟨_, b.server⟩)).trans
      (undoFrame_foldl_receiveUndo _ _)).trans (undoFrame_withdrawUndo _)

theorem samePanels_postActivity (data : Params) (url panel : String) (arguments : Params) (b : Board σ) :
    SamePanels b.session (b.postActivity server data url panel arguments).session := by
  unfold postActivity post
  cases server.post (Locator.withArguments url arguments.entries) (.object data) b.server with
  | mk answer state => cases answer <;> exact ⟨rfl, rfl, rfl, rfl, rfl, rfl⟩

end Board

namespace Deed

open Session

variable {σ : Type} (server : Server σ)

/-- Deeds that neither load nor define panels. -/
def Quiet : Deed → Prop
  | .start (.definePanels _) => False
  | .start .resetToDefaults => False
  | .carry (.load _ _) => False
  | .carry (.finish _) => False
  | _ => True

theorem sort (d : Deed) : d.Quiet ∨ (∃ panels, d = .start (.definePanels panels)) ∨
    d = .start .resetToDefaults ∨
    (∃ pages extras, d = .carry (.load pages extras)) ∨ ∃ request, d = .carry (.finish request) := by
  cases d with
  | start op => cases op <;> simp [Quiet]
  | carry c => cases c <;> simp [Quiet]

theorem plan_of_quiet {d : Deed} (hd : d.Quiet) (b : Board σ) : d.plan server b = ([], d.perform server b) := by
  cases d with
  | start op => cases op <;> first | rfl | cases hd
  | carry c => cases c <;> first | rfl | cases hd

theorem fetches_of_quiet {d : Deed} (hd : d.Quiet) (b : Board σ) : (d.fetches server b).1 = [] := by
  unfold fetches
  rw [plan_of_quiet server hd]
  rfl

/-- The plan of a load shows messages, and changes what waits; only a definition of panels makes new slots. -/
theorem plan_of_not_quiet {d : Deed} (hd : ¬ d.Quiet) (b : Board σ) : ∃ slots messages waiting,
    (d.plan server b).2 = ⟨{ b.session.display messages with slots := slots, waiting := waiting }, b.server⟩ := by
  rcases d.sort with hq | ⟨panels, rfl⟩ | rfl | ⟨pages, extras, rfl⟩ | ⟨request, rfl⟩
  · exact absurd hq hd
  · exact ⟨panels.map Slot.ofPanel, [], .empty, by rw [display_nil]; rfl⟩
  · exact ⟨b.session.slots, [], b.session.waiting, by rw [display_nil]; rfl⟩
  · obtain ⟨messages, waiting, h⟩ := planPages_frame pages extras b.session
    exact ⟨b.session.slots, messages, waiting, by simp only [plan, h]; rfl⟩
  · obtain ⟨messages, waiting, h⟩ := planFinish_frame request b.session
    exact ⟨b.session.slots, messages, waiting, by simp only [plan, h]; rfl⟩

theorem samePanels_of_quiet {d : Deed} (hd : d.Quiet) (b : Board σ) :
    SamePanels b.session (d.perform server b).session := by
  cases d with
  | start op =>
    cases op with
    | definePanels | resetToDefaults => cases hd
    | load pages extras =>
      simp only [perform, Board.start, Board.onSession]
      split
      · exact ⟨rfl, rfl, rfl, rfl, rfl, rfl⟩
      · exact samePanels_display _ _
    | pressAt index => exact samePanels_pressAt index b.session
    | keepUndo response => exact samePanels_keepUndo b.session response
    | postActivity data url panel arguments => exact Board.samePanels_postActivity server data url panel arguments b
    | defineButtons | addParameter | run | display | clearMessages => exact ⟨rfl, rfl, rfl, rfl, rfl, rfl⟩
  | carry c =>
    cases c with
    | load | finish => cases hd
    | send | display => exact ⟨rfl, rfl, rfl, rfl, rfl, rfl⟩
    | keepUndo response => exact samePanels_keepUndo b.session response
    | press id => exact samePanels_foldl_press _ b.session
    | undo => exact (Board.undoFrame_undoNewest server b).toSamePanels

theorem plan_slots {d : Deed} (hd : ∀ panels, d ≠ .start (.definePanels panels)) (b : Board σ) :
    (d.plan server b).2.session.slots = b.session.slots := by
  rcases d.sort with hq | ⟨panels, rfl⟩ | rfl | ⟨pages, extras, rfl⟩ | ⟨request, rfl⟩
  · rw [plan_of_quiet server hq]
    exact (samePanels_of_quiet server hq b).slots
  · exact absurd rfl (hd panels)
  · rfl
  · obtain ⟨messages, waiting, h⟩ := planPages_frame pages extras b.session
    simp only [plan, h]
    rfl
  · obtain ⟨messages, waiting, h⟩ := planFinish_frame request b.session
    simp only [plan, h]
    rfl

theorem plan_store (d : Deed) (b : Board σ) :
    (d.plan server b).2.session.cache = b.session.cache ∧
      (d.plan server b).2.session.registry = b.session.registry ∧
      (d.plan server b).2.session.screen.panels = b.session.screen.panels ∧
      (d.plan server b).2.session.screen.drawn = b.session.screen.drawn := by
  rcases d.sort with hq | ⟨panels, rfl⟩ | rfl | ⟨pages, extras, rfl⟩ | ⟨request, rfl⟩
  · rw [plan_of_quiet server hq]
    have h := samePanels_of_quiet server hq b
    exact ⟨h.cache, h.registry, h.shown, h.drawn⟩
  · exact ⟨rfl, rfl, rfl, rfl⟩
  · exact ⟨rfl, rfl, rfl, rfl⟩
  · obtain ⟨messages, waiting, h⟩ := planPages_frame pages extras b.session
    simp only [plan, h]
    exact ⟨rfl, rfl, rfl, rfl⟩
  · obtain ⟨messages, waiting, h⟩ := planFinish_frame request b.session
    simp only [plan, h]
    exact ⟨rfl, rfl, rfl, rfl⟩

theorem defines_or_plan_slots (d : Deed) (b : Board σ) :
    (∃ panels, d = .start (.definePanels panels)) ∨ (d.plan server b).2.session.slots = b.session.slots := by
  by_cases hp : ∃ panels, d = .start (.definePanels panels)
  · exact Or.inl hp
  · exact Or.inr (plan_slots server (fun panels he => hp ⟨panels, he⟩) b)

theorem plan_known (d : Deed) (b : Board σ) :
    ∀ r ∈ (d.plan server b).1, r.panel ∈ (d.plan server b).2.session.names := by
  have hdefaults : ∀ s : Session, ∀ r ∈ s.defaults, r.panel ∈ s.names := fun s r hr =>
    map_panel_defaults s ▸ List.mem_map_of_mem hr
  intro r hr
  rcases d.sort with hq | ⟨panels, rfl⟩ | rfl | ⟨pages, extras, rfl⟩ | ⟨request, rfl⟩
  · simp [plan_of_quiet server hq] at hr
  · exact hdefaults _ r hr
  · exact hdefaults _ r hr
  · rw [names, plan_slots server (by simp) b]
    exact (planPages_requests pages extras b.session r hr).1
  · rw [names, plan_slots server (by simp) b]
    rcases planFinish_requests request b.session with h | ⟨r', h, -, hknown, -⟩
    · simp [plan, h] at hr
    · obtain rfl : r = r' := by simpa [plan, h] using hr
      exact hknown

theorem plan_nodup {d : Deed} {b : Board σ} (hn : (d.plan server b).2.session.names.Nodup) :
    ((d.plan server b).1.map LoadRequest.panel).Nodup := by
  rcases d.sort with hq | ⟨panels, rfl⟩ | rfl | ⟨pages, extras, rfl⟩ | ⟨request, rfl⟩
  · rw [plan_of_quiet server hq]
    exact List.nodup_nil
  · exact (map_panel_defaults _).symm ▸ hn
  · exact (map_panel_defaults _).symm ▸ hn
  · exact planPages_nodup pages extras b.session
  · rcases planFinish_requests request b.session with h | ⟨r, h, -⟩
    · simp [plan, h]
    · simp [plan, h]

theorem perform_panels {d : Deed} (hd : ∀ panels, d ≠ .start (.definePanels panels)) (b : Board σ) :
    (d.perform server b).session.panels = b.session.panels := by
  rw [perform_eq_load, (Board.loadFrame_load server _ _).panels]
  unfold panels
  rw [plan_slots server hd]

theorem perform_registry (d : Deed) (b : Board σ) : (d.perform server b).session.registry = b.session.registry := by
  rw [perform_eq_load, (Board.loadFrame_load server _ _).registry]
  exact (d.plan_store server b).2.1

theorem fetches_registry (d : Deed) (b : Board σ) : (d.fetches server b).2.session.registry = b.session.registry :=
  (Board.loadFrame_fetched server _ _).registry.trans (d.plan_store server b).2.1

theorem perform_names {d : Deed} (hd : ∀ panels, d ≠ .start (.definePanels panels)) (b : Board σ) :
    (d.perform server b).session.names = b.session.names :=
  names_congr (perform_panels server hd b)

end Deed

/-! ## Runs -/

section
variable {σ : Type} (server : Server σ)

/-- A deed comes up on a board: an operation at any boundary, a command at the head of the queue, from
which it is taken. -/
inductive Deed.Due : Deed → Board σ → Board σ → Prop
  | start (op : Operation) (b : Board σ) : Due (.start op) b b
  | carry {c : Command} {rest : List Command} {b : Board σ} (h : b.session.queue = c :: rest) :
    Due (.carry c) b { b with session := { b.session with queue := rest } }

/-- Runs from a board, with the deeds done so far. An operation need not wait until the queue is empty,
so runs in which the carrying out was broken off are among them. -/
inductive Run (first : Board σ) : List Deed → Board σ → Prop
  | refl : Run first [] first
  | next {deeds : List Deed} {b b' : Board σ} {d : Deed} (run : Run first deeds b) (due : d.Due b b') :
    Run first (deeds ++ [d]) (d.perform server b')

def Reachable (b : Board σ) : Prop :=
  ∃ settings registry state deeds, Run server ⟨.new settings registry, state⟩ deeds b

variable {server}

theorem step_eq_perform {b : Board σ} {c : Command} {rest : List Command} (h : b.session.queue = c :: rest) :
    b.step server = (Deed.carry c).perform server { b with session := { b.session with queue := rest } } := by
  simp only [Board.step, h]
  rfl

theorem Run.start {first b : Board σ} {deeds : List Deed} (run : Run server first deeds b) (op : Operation) :
    Run server first (deeds ++ [.start op]) (b.start server op) :=
  run.next (.start op b)

theorem Run.step {first b : Board σ} {deeds : List Deed} (run : Run server first deeds b) {c : Command}
    {rest : List Command} (h : b.session.queue = c :: rest) :
    Run server first (deeds ++ [.carry c]) (b.step server) := by
  rw [step_eq_perform h]
  exact run.next (.carry h)

theorem Run.settle {first : Board σ} : ∀ (fuel : Nat) {deeds : List Deed} {b : Board σ},
    Run server first deeds b → ∃ more : List Command,
      Run server first (deeds ++ more.map .carry) (b.settle server fuel)
  | 0, _, _, run => ⟨[], by simpa [Board.settle] using run⟩
  | fuel + 1, deeds, b, run => by
    unfold Board.settle
    cases hq : b.session.queue with
    | nil => exact ⟨[], by simpa using run⟩
    | cons c rest =>
      obtain ⟨more, h⟩ := Run.settle fuel (run.step hq)
      exact ⟨c :: more, by simpa using h⟩

/-- What an operation comes to is what a run comes to. -/
theorem Run.perform {first b : Board σ} {deeds : List Deed} (run : Run server first deeds b) (fuel : Nat)
    (op : Operation) : ∃ more : List Command,
      Run server first (deeds ++ .start op :: more.map .carry) (b.perform server fuel op) := by
  obtain ⟨more, h⟩ := (run.start op).settle fuel
  rw [List.append_assoc] at h
  exact ⟨more, h⟩

theorem Deed.Due.slots {d : Deed} {b b' : Board σ} (h : d.Due b b') : b'.session.slots = b.session.slots := by
  cases h <;> rfl

theorem Deed.Due.waiting {d : Deed} {b b' : Board σ} (h : d.Due b b') : b'.session.waiting = b.session.waiting := by
  cases h <;> rfl

theorem Deed.Due.names {d : Deed} {b b' : Board σ} (h : d.Due b b') : b'.session.names = b.session.names := by
  cases h <;> rfl

theorem Deed.Due.cache {d : Deed} {b b' : Board σ} (h : d.Due b b') : b'.session.cache = b.session.cache := by
  cases h <;> rfl

theorem Deed.Due.registry {d : Deed} {b b' : Board σ} (h : d.Due b b') :
    b'.session.registry = b.session.registry := by
  cases h <;> rfl

theorem Run.registry {first b : Board σ} {deeds : List Deed} (run : Run server first deeds b) :
    b.session.registry = first.session.registry := by
  induction run with
  | refl => rfl
  | next run due ih => rw [Deed.perform_registry, due.registry, ih]

/-! ## Invariants of slots -/

/-- A property of slots that new ones have and that no load breaks. -/
structure Slot.Invariant (r : Registry) (p : Slot → Prop) : Prop where
  fresh : ∀ panel, p (.ofPanel panel)
  started : ∀ t, p t → p t.startLoading
  after : ∀ (f : Fetched) (t : Slot), p t → p (Slot.after (f.outcome r) t)

namespace Slot.Invariant

variable {r : Registry} {p : Slot → Prop} (h : Invariant r p)
include h

theorem receive {s : Session} (hr : s.registry = r) (hs : ∀ t ∈ s.slots, p t) (f : Fetched) :
    ∀ t ∈ (s.receive f).slots, p t := by
  rw [Session.receive_slots, hr]
  exact Session.forall_changeFirst (h.after f) hs

theorem foldl_receive : ∀ (fetched : List Fetched) {s : Session}, s.registry = r → (∀ t ∈ s.slots, p t) →
    ∀ t ∈ (fetched.foldl (fun s f => s.receive f) s).slots, p t
  | [], _, _, hs => hs
  | f :: fetched, s, hr, hs =>
    foldl_receive fetched ((Session.loadFrame_receive f s).registry.trans hr) (h.receive hr hs f)

theorem changeEach : ∀ (panels : List String) {l : List Slot}, (∀ t ∈ l, p t) →
    ∀ t ∈ Session.changeEach Slot.startLoading panels l, p t
  | [], _, hl => hl
  | _ :: panels, _, hl => changeEach panels (Session.forall_changeFirst h.started hl)

theorem plan {b : Board σ} (hs : ∀ t ∈ b.session.slots, p t) (d : Deed) :
    ∀ t ∈ (d.plan server b).2.session.slots, p t := by
  rcases d.defines_or_plan_slots server b with ⟨panels, rfl⟩ | hslots
  · intro t ht
    obtain ⟨panel, -, rfl⟩ := List.mem_map.mp ht
    exact h.fresh panel
  · rwa [hslots]

theorem fetches {b : Board σ} (hs : ∀ t ∈ b.session.slots, p t) (d : Deed) :
    ∀ t ∈ (d.fetches server b).2.session.slots, p t := by
  obtain ⟨log, he⟩ := Board.fetched_session server (d.plan server b).1 (d.plan server b).2
  rw [Deed.fetches, he]
  exact h.changeEach _ (h.plan hs d)

theorem perform {b : Board σ} (hr : b.session.registry = r) (hs : ∀ t ∈ b.session.slots, p t) (d : Deed) :
    ∀ t ∈ (d.perform server b).session.slots, p t := by
  rw [Deed.perform_eq_receive]
  exact h.foldl_receive _ ((d.fetches_registry server b).trans hr) (h.fetches hs d)

theorem run {first b : Board σ} {deeds : List Deed} (run : Run server first deeds b) (hr : first.session.registry = r)
    (hs : ∀ t ∈ first.session.slots, p t) : ∀ t ∈ b.session.slots, p t := by
  induction run with
  | refl => exact hs
  | next run due ih => exact h.perform (due.registry.trans (run.registry.trans hr)) (due.slots ▸ ih) _

end Slot.Invariant

/-! ## Inside a load -/

/-- Sessions in the middle of the load that a deed has planned, with the answers still to be received. -/
inductive Receiving (server : Server σ) : Session → List Fetched → Prop
  | begin {b taken : Board σ} {d : Deed} (reach : Reachable server b) (due : d.Due b taken) :
    Receiving server (d.fetches server taken).2.session (d.fetches server taken).1
  | next {s : Session} {f : Fetched} {rest : List Fetched} (h : Receiving server s (f :: rest)) :
    Receiving server (s.receive f) rest

theorem known_of_receiving {s : Session} {fetched : List Fetched} (h : Receiving server s fetched) :
    ∀ f ∈ fetched, f.panel ∈ s.names := by
  induction h with
  | @begin b taken d reach due =>
    intro f hf
    have hm : f.panel ∈ (d.fetches server taken).1.map Fetched.panel := List.mem_map_of_mem hf
    unfold Deed.fetches at hm ⊢
    rw [Board.map_panel_fetched] at hm
    obtain ⟨r, hr, he⟩ := List.mem_map.mp hm
    rw [(Board.loadFrame_fetched server _ _).names, ← he]
    exact d.plan_known server taken r (List.mem_filter.mp hr).1
  | @next s f rest h ih =>
    intro g hg
    rw [(Session.loadFrame_receive f s).names]
    exact ih g (List.mem_cons_of_mem f hg)

end

/-- A server that gives these answers in turn, whatever is asked. -/
def Server.scripted : Server (List (Except Refusal String)) where
  get url answers := match answers with
    | [] => (.error (.status url 404 "Not Found"), [])
    | answer :: rest => (answer, rest)
  post url _ answers := match answers with
    | [] => (.error (.status url 404 "Not Found"), [])
    | answer :: rest => (answer, rest)

end Dashboard
