import Dashboard.Proofs.Settling

/-!
# Pressing buttons

A press by id presses all buttons with that id before anything that they queue
is carried out, while presses one by one are each carried out to the end. What
one press leaves behind can therefore be seen by the next one only if they are
made one by one. When each but the last leaves no trace, both come to the same
(`pressed_by_id`).
-/

namespace Dashboard

def Button.commands (extras : List Params) (b : Button) : List Command :=
  [.load b.pages extras, .send ⟨Event.buttonPressed, .ofList [("button", b.json)]⟩]

namespace Session

/-- The places of the buttons with an id, in their order on the board. -/
def indicesOf (id : String) (s : Session) : List Nat :=
  (List.range s.buttons.length).filter fun i => s.buttons[i]?.any fun b => b.id = id

def pressEachAt (indices : List Nat) (s : Session) : Session := indices.foldl (fun s i => s.pressAt i) s

theorem filterMap_places {α : Type} (p : α → Bool) : ∀ l : List α,
    ((List.range l.length).filter fun i => l[i]?.any p).filterMap (fun i => l[i]?) = l.filter p
  | [] => rfl
  | a :: l => by
    have ih := filterMap_places p l
    rw [List.length_cons, List.range_succ_eq_map, List.filter_cons, List.filter_map]
    cases hp : p a <;> simp [hp, List.filterMap_map, Function.comp_def, ih]

theorem pressAt_of_button {i : Nat} {s : Session} {b : Button} (h : s.buttons[i]? = some b) :
    s.pressAt i = s.press b := by
  simp only [pressAt, h]

theorem pressEachAt_eq : ∀ (indices : List Nat) (s : Session),
    s.pressEachAt indices = (indices.filterMap fun i => s.buttons[i]?).foldl (fun s b => s.press b) s
  | [], _ => rfl
  | i :: indices, s => by
    show (s.pressAt i).pressEachAt indices = _
    rw [pressEachAt_eq indices]
    cases h : s.buttons[i]? with
    | none =>
      have hnone : s.pressAt i = s := by simp only [pressAt, h]
      rw [hnone, List.filterMap_cons_none h]
    | some b =>
      rw [pressAt_of_button h, List.filterMap_cons_some h]
      rfl

theorem pressId_eq (id : String) (s : Session) : s.pressId id = s.pressEachAt (s.indicesOf id) := by
  rw [pressEachAt_eq, indicesOf, filterMap_places]
  rfl

end Session

namespace Board

open Session

variable {σ : Type} (server : Server σ)

/-! ## No command changes the buttons -/

theorem buttons_apply (c : Command) (b : Board σ) : (b.apply server c).session.buttons = b.session.buttons := by
  by_cases hc : (Deed.carry c).Quiet
  · cases c with
    | load | finish => cases hc
    | send | display => rfl
    | keepUndo response =>
      show (b.session.keepUndo response).buttons = b.session.buttons
      unfold keepUndo
      split <;> rfl
    | press id => exact foldl_press_keeps (p := Session.buttons) (fun _ _ => rfl) _ b.session
    | undo => exact (undoFrame_undoNewest server b).buttons
  · obtain ⟨slots, messages, waiting, hplan⟩ := Deed.plan_of_not_quiet server hc b
    have happly : b.apply server c = load server ((Deed.carry c).plan server b).1 ((Deed.carry c).plan server b).2 :=
      (Deed.carry c).perform_eq_load server b
    rw [happly, (loadFrame_load server _ _).buttons, hplan]
    rfl

theorem buttons_settle : ∀ (fuel : Nat) (b : Board σ), (b.settle server fuel).session.buttons = b.session.buttons
  | 0, _ => rfl
  | fuel + 1, b => by
    cases hq : b.session.queue with
    | nil => rw [settle_of_idle server hq]
    | cons c rest =>
      have hstep : (b.step server).session.buttons = b.session.buttons := by
        simp only [step, hq]
        exact buttons_apply server c _
      rw [settle_succ server (by simp [hq]), buttons_settle fuel (b.step server), hstep]

theorem start_defineButtons {buttons : List Button} (h : buttons.Pairwise fun b b' => b.sequence ≤ b'.sequence)
    (b : Board σ) : b.start server (.defineButtons buttons) = b.onSession fun s => { s with buttons } := by
  have harranged : Button.arranged buttons = buttons :=
    List.mergeSort_of_pairwise (h.imp fun hle => decide_eq_true hle)
  simp only [start, harranged]

/-! ## Presses at once -/

theorem ahead_foldl_press : ∀ (buttons : List Button) {b : Board σ}, b.session.screen.messages = [] →
    Ahead (buttons.flatMap (Button.commands b.session.provided)) b
      (b.onSession fun s => buttons.foldl (fun s b => s.press b) s)
  | [], b, _ => .refl b
  | button :: buttons, b, h => by
    have hcalls : ((b.session.activities.flatMap fun a => a.calls .provideParameters none).filterMap
        Effect.fetched?) = [] := by
      simp [List.filterMap_flatMap, fetched?_calls]
    have hclear : b.session.screen.clear = b.session.screen := by
      unfold Screen.clear
      rw [← h]
    have hone : Ahead (button.commands b.session.provided) b (b.onSession fun s => s.press button) := by
      refine ⟨rfl, ?_, rfl, ?_⟩
      · simp only [onSession, press, bare, enqueue, clearMessages, noteCalls, note, hclear]
      · simp only [onSession, press, gets, enqueue, clearMessages, noteCalls, note, List.filterMap_append, hcalls,
          List.append_nil]
    exact hone.trans (ahead_foldl_press buttons (b := b.onSession fun s => s.press button) rfl)

/-! ## Presses one by one -/

/-- The board once a press has been made and has carried out the load and the event of its button. -/
def pressedAt (i : Nat) (b : Board σ) : Board σ := (b.start server (.pressAt i)).settle server 2

theorem buttons_pressedAt (i : Nat) (b : Board σ) : (b.pressedAt server i).session.buttons = b.session.buttons := by
  unfold pressedAt
  rw [buttons_settle]
  show (b.session.pressAt i).buttons = b.session.buttons
  unfold pressAt
  split <;> rfl

/-- A press that queues nothing but a load and an event, shows no message and changes no parameters that other
presses are made with. -/
structure Traceless (i : Nat) (b : Board σ) : Prop where
  drained : (b.pressedAt server i).session.queue = []
  silent : (b.pressedAt server i).session.screen.messages = []
  provided : (b.pressedAt server i).session.provided = b.session.provided

def TracelessButLast : List Nat → Board σ → Prop
  | i :: j :: indices, b => Traceless server i b ∧ TracelessButLast (j :: indices) (b.pressedAt server i)
  | _, _ => True

/-- Presses made one by one, each carried out to the end before the next one. -/
inductive PressedEach : List Nat → Board σ → Board σ → Prop
  | nil (b : Board σ) : PressedEach [] b b
  | cons {i : Nat} {indices : List Nat} {b b' last : Board σ}
      (pressed : Settles server (b.start server (.pressAt i)) b')
    (rest : PressedEach indices b' last) : PressedEach (i :: indices) b last

variable {server} {b last : Board σ} {i : Nat}

theorem Traceless.settles (h : Traceless server i b) :
    Settles server (b.start server (.pressAt i)) (b.pressedAt server i) :=
  ⟨2, rfl, h.drained⟩

theorem ahead_pressEachAt {indices : List Nat} (h : b.session.screen.messages = []) :
    Ahead ((indices.filterMap fun i => b.session.buttons[i]?).flatMap (Button.commands b.session.provided)) b
      (b.onSession (pressEachAt indices)) := by
  simp only [onSession, pressEachAt_eq]
  exact ahead_foldl_press _ h

/-- What is pressed together with a press that leaves no trace might as well be pressed after it. -/
theorem Traceless.ahead (h : Traceless server i b) (hidle : b.session.queue = []) (hi : i < b.session.buttons.length)
    (indices : List Nat) : Ahead [] ((b.pressedAt server i).onSession (pressEachAt indices))
      (((b.start server (.pressAt i)).onSession (pressEachAt indices)).settle server 2) := by
  have hpress : b.start server (.pressAt i) = b.onSession fun s => s.press b.session.buttons[i] := by
    simp only [start, onSession, pressAt_of_button (List.getElem?_eq_getElem hi)]
  have hlength : 2 = (b.start server (.pressAt i)).session.queue.length := by
    rw [hpress]
    simp [onSession, press, enqueue, clearMessages, noteCalls, note, hidle]
  have hsilent : (b.start server (.pressAt i)).session.screen.messages = [] := by
    rw [hpress]
    rfl
  have hsame : (b.start server (.pressAt i)).session.buttons = b.session.buttons ∧
      (b.start server (.pressAt i)).session.provided = b.session.provided := by
    rw [hpress]
    exact ⟨rfl, rfl⟩
  -- both boards have the same commands more in their queues than the board after the first press
  have hlater : Ahead _ (b.pressedAt server i) ((b.pressedAt server i).onSession (pressEachAt indices)) :=
    ahead_pressEachAt h.silent
  have hatOnce : Ahead _ (b.start server (.pressAt i))
      ((b.start server (.pressAt i)).onSession (pressEachAt indices)) :=
    ahead_pressEachAt hsilent
  rw [buttons_pressedAt, h.provided] at hlater
  rw [hsame.1, hsame.2] at hatOnce
  exact hlater.meet (hatOnce.settle_of_drained hlength h.drained)

theorem PressedEach.atOnce : ∀ {indices : List Nat} {b last : Board σ}, PressedEach server indices b last →
    b.session.queue = [] → (∀ i ∈ indices, i < b.session.buttons.length) → TracelessButLast server indices b →
      ∃ last', Settles server (b.onSession (pressEachAt indices)) last' ∧ Ahead [] last last'
  | [], _, _, .nil b, hidle, _, _ => ⟨b, ⟨0, rfl, hidle⟩, .refl b⟩
  | [_], _, last, .cons pressed rest, _, _, _ => by
    cases rest
    exact ⟨last, pressed, .refl last⟩
  | i :: j :: indices, b, _, .cons pressed rest, hidle, hindices, htraceless => by
    obtain ⟨hfirst, hrest⟩ := htraceless
    obtain ⟨hi, hothers⟩ := List.forall_mem_cons.mp hindices
    obtain rfl := pressed.unique hfirst.settles
    rw [← buttons_pressedAt server i b] at hothers
    -- the other presses are made on a board with an empty queue, and two steps lead from all presses at once to them
    obtain ⟨each, heach, hlast⟩ := rest.atOnce hfirst.drained hothers hrest
    obtain ⟨once, honce, hsame⟩ := (hfirst.ahead hidle hi (j :: indices)).settles heach
    exact ⟨once, honce.after, hlast.trans hsame⟩

theorem settles_pressId (id : String) (hidle : b.session.queue = []) :
    Settles server (b.start server (.run (.press id))) last ↔
      Settles server (b.onSession (pressEachAt (b.session.indicesOf id))) last := by
  have hpressed : b.apply server (.press id) = b.onSession (pressEachAt (b.session.indicesOf id)) := by
    simp only [apply, onSession, pressId_eq]
  rw [settles_run hidle, hpressed]

/-- On a board with nothing queued, a press by id is the presses at all buttons with that id, in their order, with
nothing carried out before all are made. That is the press at the button if there is only one. If there are more, the
session and the server end as after presses that are made one by one, and the same GETs are made, as long as each of
these presses but the last leaves no trace; only the calls of parameter providers come sooner. -/
theorem pressed_by_id (id : String) {b : Board σ} (hidle : b.session.queue = []) :
    let indices := b.session.indicesOf id
    let pressed := b.start server (.run (.press id))
    (∀ last, Settles server pressed last ↔ Settles server (b.onSession (pressEachAt indices)) last) ∧
    (indices.length ≤ 1 → ∀ last, Settles server pressed last ↔ PressedEach server indices b last) ∧
    (TracelessButLast server indices b → ∀ last, PressedEach server indices b last →
      ∃ log, Settles server pressed (last.onSession fun s => { s with log }) ∧
        log.filterMap Effect.fetched? = last.session.gets) := by
  intro indices pressed
  have hall : ∀ last, Settles server pressed last ↔ Settles server (b.onSession (pressEachAt indices)) last :=
    fun _ => settles_pressId id hidle
  refine ⟨hall, ?_, ?_⟩
  · intro hone last
    rw [hall]
    match indices, hone with
    | [], _ =>
      constructor
      · rintro ⟨fuel, rfl, -⟩
        exact (settle_of_idle server hidle fuel).symm ▸ PressedEach.nil b
      · rintro ⟨⟩
        exact ⟨0, rfl, hidle⟩
    | [i], _ =>
      constructor
      · exact fun h => .cons h (.nil last)
      · rintro (_ | ⟨h, rest⟩)
        cases rest
        exact h
  · intro htraceless last each
    have hindices : ∀ i ∈ indices, i < b.session.buttons.length := fun i hi =>
      List.mem_range.mp (List.mem_filter.mp hi).1
    obtain ⟨last', hsettles, hsame⟩ := each.atOnce hidle hindices htraceless
    rw [← hall, hsame.eq_but_log] at hsettles
    exact ⟨last'.session.log, hsettles, hsame.gets⟩

/-- The first of two buttons only sends its event, so what the second one reports is there either way. -/
theorem presses_at_once_agree :
    let left : Button := ⟨"dup", "Left", none, none, Button.defaultSize, 10, []⟩
    let right : Button := ⟨"dup", "Right", none, none, Button.defaultSize, 20, [⟨"/x", "Q"⟩]⟩
    let b := (⟨.new .default .builtin, []⟩ : Board _).start Server.scripted (.defineButtons [left, right])
    let indices := b.session.indicesOf "dup"
    b.session.queue = [] ∧ indices = [0, 1] ∧ TracelessButLast Server.scripted indices b ∧
      ∃ each log, PressedEach Server.scripted indices b each ∧
        each.session.screen.messages = [(Failure.unknownPanel "Q" "load()").message] ∧
        Settles Server.scripted (b.start Server.scripted (.run (.press "dup")))
          (each.onSession fun s => { s with log }) ∧
        log.filterMap Effect.fetched? = each.session.gets := by
  intro left right b indices
  have hb : b = ⟨{ Session.new .default .builtin with buttons := [left, right] }, []⟩ :=
    start_defineButtons Server.scripted (by decide) _
  have hidle : b.session.queue = [] := rfl
  have hindices : indices = [0, 1] := by
    simp only [indices, hb]
    decide +kernel
  have htraceless : TracelessButLast Server.scripted indices b := by
    rw [hindices, hb]
    exact ⟨⟨rfl, rfl, rfl⟩, trivial⟩
  have heach : PressedEach Server.scripted indices b ((b.pressedAt Server.scripted 0).pressedAt Server.scripted 1) := by
    rw [hindices, hb]
    exact .cons ⟨2, rfl, rfl⟩ (.cons ⟨2, rfl, rfl⟩ (.nil _))
  have hmessages : ((b.pressedAt Server.scripted 0).pressedAt Server.scripted 1).session.screen.messages =
      [(Failure.unknownPanel "Q" "load()").message] := by
    rw [hb]
    decide +kernel
  obtain ⟨-, -, hseveral⟩ := pressed_by_id "dup" hidle
  obtain ⟨log, hsettles, hgets⟩ := hseveral htraceless _ heach
  exact ⟨hidle, hindices, htraceless, _, log, heach, hmessages, hsettles, hgets⟩

/-- The first of two buttons reports something. A press of the second one alone clears that, one of both does not. -/
theorem presses_at_once_differ :
    let left : Button := ⟨"dup", "Left", none, none, Button.defaultSize, 10, [⟨"/x", "Q"⟩]⟩
    let right : Button := ⟨"dup", "Right", none, none, Button.defaultSize, 20, []⟩
    let b := (⟨.new .default .builtin, []⟩ : Board _).start Server.scripted (.defineButtons [left, right])
    b.session.queue = [] ∧ b.session.indicesOf "dup" = [0, 1] ∧
      ∃ each once, PressedEach Server.scripted [0, 1] b each ∧
        Settles Server.scripted (b.start Server.scripted (.run (.press "dup"))) once ∧
        each.session.screen.messages = [] ∧
        once.session.screen.messages = [(Failure.unknownPanel "Q" "load()").message] := by
  intro left right b
  have hb : b = ⟨{ Session.new .default .builtin with buttons := [left, right] }, []⟩ :=
    start_defineButtons Server.scripted (by decide) _
  rw [hb]
  refine ⟨rfl, by decide +kernel, _, _, .cons ⟨2, rfl, ?_⟩ (.cons ⟨2, rfl, ?_⟩ (.nil _)),
    ⟨5, rfl, ?_⟩, ?_, ?_⟩
  · rfl
  · rfl
  · rfl
  · decide +kernel
  · decide +kernel

end Board

end Dashboard
