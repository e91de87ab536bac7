import Dashboard.Proofs.Answers
import Dashboard.Proofs.UndoReplay

/-!
# Carrying out a queue

A command reads neither the queue nor the log, it only adds to their ends. So
whatever stands in front of them stays there (`apply_behind`), and two boards
that are the same but for their logs stay so (`Ahead.settle`). A board with
more commands at the end of its queue keeps up with one without them for as long
as nothing new is queued (`Ahead.settle_of_drained`).
-/

namespace Dashboard

namespace Session

/-- The session with more in front of its queue and of its log. -/
def behind (queue : List Command) (log : List Effect) (s : Session) : Session :=
  { s with queue := queue ++ s.queue, log := log ++ s.log }

def bare (s : Session) : Session := { s with queue := [], log := [] }

section
variable (queue : List Command) (log : List Effect)

theorem behind_bare (s : Session) : s.bare.behind s.queue s.log = s := by
  simp [behind, bare]

theorem gets_behind (s : Session) : (s.behind queue log).gets = log.filterMap Effect.fetched? ++ s.gets := by
  simp [behind, gets]

/-! ## Deeds of a session -/

theorem deliver_behind (e : Event) (s : Session) :
    (s.behind queue log).deliver e = (s.deliver e).behind queue log := by
  simp [behind, deliver, noteCalls, note, activities]

theorem unread_behind : Unread (Session.behind queue log) := unread_preceded queue log []

theorem keepUndo_behind (response : Json) (s : Session) :
    (s.behind queue log).keepUndo response = (s.keepUndo response).behind queue log := by
  unfold keepUndo
  cases UndoAction.collect response <;> rfl

theorem press_behind (b : Button) (s : Session) : (s.behind queue log).press b = (s.press b).behind queue log := by
  simp [behind, press, noteCalls, note, enqueue, clearMessages, activities, provided]

theorem foldl_press_behind : ∀ (buttons : List Button) (s : Session),
    buttons.foldl (fun s b => s.press b) (s.behind queue log) =
      (buttons.foldl (fun s b => s.press b) s).behind queue log
  | [], _ => rfl
  | b :: buttons, s => by
    rw [List.foldl_cons, press_behind, foldl_press_behind buttons, List.foldl_cons]

theorem planPages_behind (pages : List Page) (extras : List Params) (s : Session) :
    (s.behind queue log).planPages pages extras =
      ((s.planPages pages extras).1, (s.planPages pages extras).2.behind queue log) := by
  rw [planPages_eq, planPages_eq]
  rfl

theorem planFinish_behind (request : Finish) (s : Session) :
    (s.behind queue log).planFinish request =
      ((s.planFinish request).1, (s.planFinish request).2.behind queue log) := by
  unfold planFinish
  have hslot : (s.behind queue log).slot? = s.slot? := rfl
  have hwaiting : (s.behind queue log).waiting = s.waiting := rfl
  rw [hslot, hwaiting]
  cases request.panel.bind s.slot? with
  | none => rfl
  | some slot =>
    simp only
    cases request.cancel with
    | true => rfl
    | false => cases s.waiting.next? slot.name <;> rfl

end

end Session

namespace Board

open Session

variable {σ : Type} (server : Server σ)

def behind (queue : List Command) (log : List Effect) (b : Board σ) : Board σ :=
  b.onSession (Session.behind queue log)

section
variable (queue : List Command) (log : List Effect)

/-! ## Commands -/

theorem load_behind (requests : List LoadRequest) (b : Board σ) :
    load server requests (b.behind queue log) = (load server requests b).behind queue log :=
  load_unread server (unread_behind queue log) requests b

theorem withdrawUndo_behind (s : Session) : withdrawUndo (s.behind queue log) = (withdrawUndo s).behind queue log := by
  unfold withdrawUndo
  have hundo : (s.behind queue log).undo = s.undo := rfl
  rw [hundo]
  split <;> rfl

theorem undoNewest_behind (b : Board σ) :
    (b.behind queue log).undoNewest server = (b.undoNewest server).behind queue log := by
  have hundo : (b.behind queue log).session.undo = b.session.undo := rfl
  cases h : b.session.undo.batches with
  | nil =>
    rw [undoNewest_of_empty server h, undoNewest_of_empty server (hundo ▸ h)]
    simp only [behind, onSession, withdrawUndo_behind]
  | cons batch older =>
    rw [undoNewest_of_batch server h, undoNewest_of_batch server (hundo ▸ h)]
    simp only [behind, onSession, ← withdrawUndo_behind]
    simp [Session.behind]

theorem apply_behind (c : Command) (b : Board σ) :
    (b.behind queue log).apply server c = (b.apply server c).behind queue log := by
  cases c with
  | finish request =>
    refine (Deed.finish_eq_load server request _).trans ?_
    show _ = (b.finish server request).behind queue log
    rw [Deed.finish_eq_load server request b, ← load_behind]
    simp only [behind, onSession, planFinish_behind]
  | load pages extras =>
    show load server (planPages pages extras (b.session.behind queue log)).1
        { b with session := (planPages pages extras (b.session.behind queue log)).2 } =
      (load server (planPages pages extras b.session).1
        { b with session := (planPages pages extras b.session).2 }).behind queue log
    rw [← load_behind, planPages_behind]
    rfl
  | send e => exact congrArg (Board.mk · b.server) (deliver_behind queue log e b.session)
  | display messages => rfl
  | keepUndo response => exact congrArg (Board.mk · b.server) (keepUndo_behind queue log response b.session)
  | press id => exact congrArg (Board.mk · b.server) (foldl_press_behind queue log _ b.session)
  | undo => exact undoNewest_behind server queue log b

end

/-! ## Steps -/

theorem apply_eq (c : Command) (b : Board σ) :
    b.apply server c = (apply server c ⟨b.session.bare, b.server⟩).behind b.session.queue b.session.log := by
  rw [← apply_behind]
  simp only [behind, onSession, behind_bare]

theorem step_eq {b : Board σ} {c : Command} {rest : List Command} (h : b.session.queue = c :: rest) :
    b.step server = (apply server c ⟨b.session.bare, b.server⟩).behind rest b.session.log := by
  simp only [step, h]
  exact apply_eq server c _

theorem step_queue {b : Board σ} {c : Command} {rest : List Command} (h : b.session.queue = c :: rest) :
    ∃ added, (b.step server).session.queue = rest ++ added :=
  ⟨_, by rw [step_eq server h]; rfl⟩

theorem settle_of_idle {b : Board σ} (h : b.session.queue = []) : ∀ fuel, b.settle server fuel = b
  | 0 => rfl
  | fuel + 1 => by simp [settle, h]

theorem settle_succ {b : Board σ} (h : b.session.queue ≠ []) (fuel : Nat) :
    b.settle server (fuel + 1) = (b.step server).settle server fuel := by
  simp [settle, h]

theorem length_settle : ∀ (fuel : Nat) (b : Board σ),
    b.session.queue.length ≤ (b.settle server fuel).session.queue.length + fuel
  | 0, _ => Nat.le_refl _
  | fuel + 1, b => by
    cases hq : b.session.queue with
    | nil => exact Nat.zero_le _
    | cons c rest =>
      obtain ⟨added, hadded⟩ := step_queue server hq
      have ih := length_settle fuel (b.step server)
      rw [hadded, List.length_append] at ih
      rw [settle_succ server (by simp [hq]), List.length_cons]
      omega

theorem settle_add : ∀ (first next : Nat) (b : Board σ),
    b.settle server (first + next) = (b.settle server first).settle server next
  | 0, next, b => by rw [Nat.zero_add, settle]
  | first + 1, next, b => by
    cases hq : b.session.queue with
    | nil => rw [settle_of_idle server hq, settle_of_idle server hq, settle_of_idle server hq]
    | cons c rest =>
      have hne : b.session.queue ≠ [] := by simp [hq]
      rw [Nat.add_right_comm, settle_succ server hne, settle_succ server hne]
      exact settle_add first next (b.step server)

theorem settle_behind : ∀ (queue : List Command) (b : Board σ),
    (b.behind queue []).settle server queue.length = queue.foldl (fun b c => b.apply server c) b
  | [], _ => rfl
  | c :: queue, b => by
    have hne : (b.behind (c :: queue) []).session.queue ≠ [] := List.cons_ne_nil c _
    have hstep : (b.behind (c :: queue) []).step server = (b.apply server c).behind queue [] :=
      apply_behind server queue [] c b
    rw [List.length_cons, settle_succ server hne, hstep, settle_behind queue, List.foldl_cons]

/-- What is put at the end of the queue is carried out once all that stood before it has been. -/
theorem settle_enqueue (more : List Command) (b : Board σ) :
    (b.onSession fun s => s.enqueue more).settle server (b.session.queue.length + more.length) =
      more.foldl (fun b c => b.apply server c) (b.settle server b.session.queue.length) := by
  have hqueue : b = behind b.session.queue [] (b.onSession fun s => { s with queue := [] }) := by
    simp [behind, onSession, Session.behind]
  have hmore : (b.onSession fun s => s.enqueue more) =
      behind (b.session.queue ++ more) [] (b.onSession fun s => { s with queue := [] }) := by
    simp [behind, onSession, Session.behind, Session.enqueue]
  have hbefore := settle_behind server b.session.queue (b.onSession fun s => { s with queue := [] })
  rw [← hqueue] at hbefore
  rw [hmore, ← List.length_append, settle_behind, List.foldl_append, hbefore]

/-- Carrying out what is queued on a board, and all that this queues, ends on another one. -/
def Settles (b b' : Board σ) : Prop := ∃ fuel, b.settle server fuel = b' ∧ b'.session.queue = []

variable {server} {b b' b'' : Board σ}

theorem Settles.unique (h : Settles server b b') (h' : Settles server b b'') : b' = b'' := by
  obtain ⟨first, rfl, hidle⟩ := h
  obtain ⟨next, rfl, hidle'⟩ := h'
  calc b.settle server first
    _ = (b.settle server first).settle server next := (settle_of_idle server hidle next).symm
    _ = (b.settle server next).settle server first := by rw [← settle_add, Nat.add_comm, settle_add]
    _ = b.settle server next := settle_of_idle server hidle' first

theorem Settles.after {first : Nat} (h : Settles server (b.settle server first) b') : Settles server b b' := by
  obtain ⟨next, rfl, hidle⟩ := h
  exact ⟨first + next, settle_add server first next b, hidle⟩

theorem settles_step (h : b.session.queue ≠ []) : Settles server b b' ↔ Settles server (b.step server) b' := by
  have hone : b.settle server 1 = b.step server := settle_succ server h 0
  constructor
  · rintro ⟨fuel, rfl, hidle⟩
    refine ⟨fuel, ?_, hidle⟩
    rw [← hone, ← settle_add, Nat.add_comm, settle_add, settle_of_idle server hidle]
  · intro hnext
    exact Settles.after (hone ▸ hnext)

/-- On a board with nothing queued, a command that is asked for is carried out at once. -/
theorem settles_run {c : Command} (hidle : b.session.queue = []) :
    Settles server (b.start server (.run c)) b' ↔ Settles server (b.apply server c) b' := by
  have hqueue : (b.start server (.run c)).session.queue = [c] := by
    simp [start, onSession, Session.enqueue, hidle]
  have hstep : (b.start server (.run c)).step server = b.apply server c := by
    simp only [step, hqueue]
    simp only [start, onSession, Session.enqueue, ← hidle]
  rw [settles_step (by simp [hqueue]), hstep]

/-! ## Boards that are ahead -/

/-- Two boards that are the same but for their logs, which tell of the same GETs, and for more commands at the end of
the second queue. -/
structure Ahead (more : List Command) (b b' : Board σ) : Prop where
  server : b'.server = b.server
  bare : b'.session.bare = b.session.bare
  queue : b'.session.queue = b.session.queue ++ more
  gets : b'.session.gets = b.session.gets

namespace Ahead

variable {more next : List Command}

theorem refl (b : Board σ) : Ahead [] b b := ⟨rfl, rfl, (List.append_nil _).symm, rfl⟩

theorem trans (h : Ahead more b b') (h' : Ahead next b' b'') : Ahead (more ++ next) b b'' :=
  ⟨h'.server.trans h.server, h'.bare.trans h.bare, by rw [h'.queue, h.queue, List.append_assoc],
    h'.gets.trans h.gets⟩

theorem meet (h : Ahead more b b') (h' : Ahead more b b'') : Ahead [] b' b'' :=
  ⟨h'.server.trans h.server.symm, h'.bare.trans h.bare.symm, by rw [h'.queue, h.queue, List.append_nil],
    h'.gets.trans h.gets.symm⟩

theorem eq_but_log (h : Ahead [] b b') : b' = b.onSession fun s => { s with log := b'.session.log } := by
  have hsession : b'.session = { b.session with log := b'.session.log } :=
    calc b'.session
      _ = b'.session.bare.behind b'.session.queue b'.session.log := (behind_bare b'.session).symm
      _ = b.session.bare.behind b.session.queue b'.session.log := by rw [h.bare, h.queue, List.append_nil]
      _ = { b.session with log := b'.session.log } := by simp [Session.behind, Session.bare]
  calc b'
    _ = ⟨b'.session, b'.server⟩ := rfl
    _ = b.onSession fun s => { s with log := b'.session.log } := by
      rw [h.server]
      exact congrArg (Board.mk · _) hsession

theorem step (h : Ahead more b b') {c : Command} {rest : List Command} (hq : b.session.queue = c :: rest)
    (hnew : more = [] ∨ (b.step server).session.queue = rest) : Ahead more (b.step server) (b'.step server) := by
  have hq' : b'.session.queue = c :: (rest ++ more) := by rw [h.queue, hq, List.cons_append]
  rw [step_eq server hq] at hnew
  rw [step_eq server hq, step_eq server hq', h.bare, h.server]
  refine ⟨rfl, rfl, ?_, ?_⟩
  · rcases hnew with rfl | hnew
    · simp [behind, onSession, Session.behind]
    · have hnone : (apply server c ⟨b.session.bare, b.server⟩).session.queue = [] :=
        List.self_eq_append_right.mp hnew.symm
      simp [behind, onSession, Session.behind, hnone]
  · have hlogs : b'.session.log.filterMap Effect.fetched? = b.session.log.filterMap Effect.fetched? := h.gets
    simp only [behind, onSession, gets_behind, hlogs]

theorem settle : ∀ (fuel : Nat) {b b' : Board σ},
    Ahead [] b b' → Ahead [] (b.settle server fuel) (b'.settle server fuel)
  | 0, _, _, h => h
  | fuel + 1, b, b', h => by
    have hqueue : b'.session.queue = b.session.queue := h.queue.trans (List.append_nil _)
    cases hq : b.session.queue with
    | nil => rwa [settle_of_idle server hq, settle_of_idle server (hqueue.trans hq)]
    | cons c rest =>
      rw [settle_succ server (by simp [hq]), settle_succ server (by simp [hqueue, hq])]
      exact Ahead.settle fuel (h.step hq (Or.inl rfl))

/-- If each command in a queue is carried out and nothing is left then, none of them has queued anything. -/
theorem settle_of_drained : ∀ {fuel : Nat} {b b' : Board σ}, Ahead more b b' → fuel = b.session.queue.length →
    (b.settle server fuel).session.queue = [] → Ahead more (b.settle server fuel) (b'.settle server fuel)
  | 0, _, _, h, _, _ => h
  | fuel + 1, b, b', h, hfuel, hidle => by
    cases hq : b.session.queue with
    | nil => simp [hq] at hfuel
    | cons c rest =>
      have hrest : fuel = rest.length := by simpa [hq] using hfuel
      rw [settle_succ server (by simp [hq])] at hidle
      rw [settle_succ server (by simp [hq]), settle_succ server (by simp [h.queue, hq])]
      have hnew : (b.step server).session.queue = rest := by
        obtain ⟨added, hadded⟩ := step_queue server hq
        have hlength := length_settle server fuel (b.step server)
        rw [hidle, hadded, List.length_append, List.length_nil, Nat.zero_add] at hlength
        have hnone : added = [] := List.eq_nil_of_length_eq_zero (by omega)
        rw [hadded, hnone, List.append_nil]
      exact settle_of_drained (h.step hq (Or.inr hnew)) (by rw [hnew, hrest]) hidle

theorem settles (h : Ahead [] b b') {last : Board σ} (hlast : Settles server b last) :
    ∃ last', Settles server b' last' ∧ Ahead [] last last' := by
  obtain ⟨fuel, rfl, hidle⟩ := hlast
  have hsettled : Ahead [] (b.settle server fuel) (b'.settle server fuel) := h.settle fuel
  exact ⟨_, ⟨fuel, rfl, by rw [hsettled.queue, hidle]; rfl⟩, hsettled⟩

end Ahead

end Board

end Dashboard
