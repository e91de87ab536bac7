import Mathlib
import Dashboard.Proofs.Courses
import Dashboard.Proofs.QuietDeeds

/-!
# Deliveries of events

Events are delivered by a command of their own, and while a panel is lent to an
activity that executes. Either way a delivery is an event in a session at that
moment, and `Delivers` says all that a stretch of deliveries does to the log,
the history and the queue. The stretches of a course join, so its history is
the end of all of them (`deliveries_of_course`).
-/

namespace Dashboard

/-! ## The history of many events -/

namespace History

def pushAll (h : History) (l : List Recorded) : History := l.foldl (fun h r => h.push r.event r.handledBy) h

theorem pushAll_append (h : History) (first next : List Recorded) :
    h.pushAll (first ++ next) = (h.pushAll first).pushAll next :=
  List.foldl_append

end History

/-! ## Deliveries -/

/-- An event and the session in which it is delivered. -/
structure Delivery where
  event : Event
  moment : Session

namespace Delivery

/-- The activities in panels at that moment, in the order of the panels, the active before the displaced one. -/
def receivers (d : Delivery) : List Activity :=
  d.moment.slots.flatMap fun t => t.active.toList ++ t.displaced.toList

def calls (d : Delivery) : List Effect := d.receivers.flatMap fun a => a.calls .handleEvent (some d.event)

def answers (d : Delivery) : List Command := d.receivers.flatMap fun a => (a.handle? d.event).getD []

def recorded (d : Delivery) : Recorded := ⟨d.event, d.calls.length⟩

end Delivery

theorem handlers_eq_length (e : Event) (receivers : List Activity) :
    e.handlers receivers = (receivers.flatMap fun a => a.calls .handleEvent (some e)).length := by
  unfold Event.handlers
  induction receivers with
  | nil => rfl
  | cons a receivers ih =>
    rw [List.countP_cons, List.flatMap_cons, List.length_append, ih, Nat.add_comm]
    congr 1
    obtain ⟨context, display, ⟨execute, handler, provided, scanned, script⟩, cached⟩ := a
    cases handler <;> rfl

namespace Session

/-- Between two sessions exactly these deliveries were made. -/
structure Delivers (s : Session) (deliveries : List Delivery) (t : Session) : Prop where
  handlings : t.handlings = s.handlings ++ deliveries.flatMap Delivery.calls
  history : t.history = s.history.pushAll (deliveries.map Delivery.recorded)
  queue : s.queue <+: t.queue
  answers : ∀ d ∈ deliveries, d.moment.queue ++ d.answers <+: t.queue

theorem Delivers.trans {s t u : Session} {first next : List Delivery} (h₁ : Delivers s first t)
    (h₂ : Delivers t next u) : Delivers s (first ++ next) u where
  handlings := by rw [h₂.handlings, h₁.handlings, List.flatMap_append, List.append_assoc]
  history := by rw [h₂.history, h₁.history, List.map_append, History.pushAll_append]
  queue := h₁.queue.trans h₂.queue
  answers d hd := by
    rcases List.mem_append.mp hd with hd | hd
    · exact (h₁.answers d hd).trans h₂.queue
    · exact h₂.answers d hd

theorem Unheard.delivers {s t : Session} (h : Unheard s t) : Delivers s [] t where
  handlings := h.handlings.trans (List.append_nil _).symm
  history := h.history
  queue := h.queue
  answers := by simp

theorem delivers_deliver (e : Event) (s : Session) : Delivers s [⟨e, s⟩] (s.deliver e) where
  handlings := by
    have h := handlings_note s (Delivery.mk e s).calls
    have hall : (Delivery.mk e s).calls.filter Effect.isHandling = (Delivery.mk e s).calls := by
      simp [Delivery.calls, List.filter_flatMap, filter_calls_handleEvent]
    rw [hall] at h
    rw [List.flatMap_singleton]
    exact h
  history := congrArg (s.history.push e) (handlers_eq_length e s.activities)
  queue := List.prefix_append _ _
  answers d hd := by
    rw [List.mem_singleton.mp hd]
    exact List.prefix_rfl

/-- Events that are delivered one after the other. -/
def deliveriesOf : List Event → Session → List Delivery
  | [], _ => []
  | e :: events, s => ⟨e, s⟩ :: deliveriesOf events (s.deliver e)

theorem delivers_foldl_deliver : ∀ (events : List Event) (s : Session),
    Delivers s (deliveriesOf events s) (events.foldl (fun s e => s.deliver e) s)
  | [], s => (Unheard.refl s).delivers
  | e :: events, s => (delivers_deliver e s).trans (delivers_foldl_deliver events (s.deliver e))

/-! ## Deliveries of a load -/

/-- The session while a panel is lent to an activity. -/
def lent (a : Activity) (s : Session) : Session :=
  (s.changeSlot a.panel (Slot.lentTo a)).note (a.calls .execute none ++ a.calls .postScript none)

/-- The deliveries of an activity that executes. -/
def windowDeliveries (a : Activity) (s : Session) : List Delivery :=
  match s.slot? a.panel with
  | some _ => deliveriesOf ((a.execute ++ a.postScript).filterMap Command.event?) (s.lent a)
  | none => []

theorem unheard_changeSlot (s : Session) (panel : String) (f : Slot → Slot) : Unheard s (s.changeSlot panel f) :=
  ⟨rfl, rfl, rfl, List.prefix_rfl⟩

theorem unheard_note {effects : List Effect} (h : effects.filter Effect.isHandling = []) (s : Session) :
    Unheard s (s.note effects) :=
  ⟨rfl, rfl, (handlings_note s effects).trans (by rw [h, List.append_nil]), List.prefix_rfl⟩

theorem unheard_lent (a : Activity) (s : Session) : Unheard s (s.lent a) := by
  have hcalls : (a.calls .execute none ++ a.calls .postScript none).filter Effect.isHandling = [] := by
    rw [List.filter_append, filter_calls_of_ne (by decide), filter_calls_of_ne (by decide), List.append_nil]
  exact (unheard_changeSlot s a.panel _).trans (unheard_note hcalls _)

theorem unheard_showActivity (a : Activity) (content : Json) (s : Session) : Unheard s (s.showActivity a content) := by
  have hdrawn : Unheard s { s with screen := s.screen.draw a.panel content } := ⟨rfl, rfl, rfl, List.prefix_rfl⟩
  have hscript : (a.calls .postScript none).filter Effect.isHandling = [] := filter_calls_of_ne (by decide) a none
  have hnoted := hdrawn.trans (unheard_note hscript _)
  exact (hnoted.trans (unheard_changeSlot _ a.panel _)).trans (unheard_enqueue _ _)

theorem delivers_runActivity (a : Activity) (s : Session) : Delivers s (s.windowDeliveries a) (s.runActivity a) := by
  unfold windowDeliveries runActivity
  cases s.slot? a.panel with
  | none => exact (Unheard.refl s).delivers
  | some slot =>
    have hwindow := (unheard_lent a s).delivers.trans
      (delivers_foldl_deliver ((a.execute ++ a.postScript).filterMap Command.event?) (s.lent a))
    have hafter := hwindow.trans
      ((unheard_enqueue _ ((a.execute ++ a.postScript).filter fun c => c.event?.isNone)).trans
      (unheard_changeSlot _ a.panel Slot.givenBack)).delivers
    rwa [List.nil_append, List.append_nil] at hafter

end Session

namespace Fetched

/-- The deliveries while an answer is received. -/
def deliveries (f : Fetched) (s : Session) : List Delivery :=
  match f.outcome s.registry with
  | .ok a => if a.isGui then [] else { s with cache := f.keptIn a s.cache }.windowDeliveries a
  | .error _ => []

def deliveriesOfAll : List Fetched → Session → List Delivery
  | [], _ => []
  | f :: fetched, s => f.deliveries s ++ deliveriesOfAll fetched (s.receive f)

end Fetched

namespace Session

theorem delivers_receive (f : Fetched) (s : Session) : Delivers s (f.deliveries s) (s.receive f) := by
  unfold Fetched.deliveries
  cases ho : f.outcome s.registry with
  | error failure =>
    rw [receive_of_error ho]
    exact ((unheard_changeSlot s f.panel _).trans (unheard_display _ _)).delivers
  | ok a =>
    have hkept : Unheard s { s with cache := f.keptIn a s.cache } := ⟨rfl, rfl, rfl, List.prefix_rfl⟩
    rw [receive_of_ok ho]
    cases hd : a.display with
    | some content =>
      simp only [Activity.isGui, hd, Option.isSome_some, if_true]
      exact (hkept.trans (unheard_showActivity a content _)).delivers
    | none =>
      simp only [Activity.isGui, hd, Option.isSome_none, Bool.false_eq_true, if_false]
      exact hkept.delivers.trans (delivers_runActivity a _)

theorem delivers_foldl_receive : ∀ (fetched : List Fetched) (s : Session),
    Delivers s (Fetched.deliveriesOfAll fetched s) (fetched.foldl (fun s f => s.receive f) s)
  | [], s => (Unheard.refl s).delivers
  | f :: fetched, s => (delivers_receive f s).trans (delivers_foldl_receive fetched (s.receive f))

end Session

/-! ## Deliveries of deeds -/

section
variable {σ : Type} (server : Server σ)

theorem Board.unheard_fetched (requests : List LoadRequest) (b : Board σ) :
    b.session.Unheard (b.fetched server requests).2.session := by
  unfold Board.fetched
  rw [Board.fetch_session, Session.prepare_eq, Session.startLoads_eq]
  have hfetches : ∀ prepared : List Prepared,
      (prepared.map fun p => Effect.fetched p.url).filter Effect.isHandling = [] := by
    intro prepared
    rw [List.filter_map]
    simp [Effect.isHandling, Function.comp_def]
  refine ⟨rfl, rfl, (Session.handlings_note _ _).trans ?_, List.prefix_rfl⟩
  rw [hfetches, List.append_nil]
  rfl

namespace Deed

/-- The deliveries that a deed makes, the first one first. -/
def deliveries (d : Deed) (b : Board σ) : List Delivery :=
  match d with
  | .carry (.send e) => [⟨e, b.session⟩]
  | d => Fetched.deliveriesOfAll (d.fetches server b).1 (d.fetches server b).2.session

def command? : Deed → Option Command
  | .carry c => some c
  | .start _ => none

theorem deliveries_eq {d : Deed} (hs : ∀ e, d ≠ .carry (.send e)) (b : Board σ) :
    d.deliveries server b = Fetched.deliveriesOfAll (d.fetches server b).1 (d.fetches server b).2.session := by
  unfold deliveries
  split
  · exact absurd rfl (hs _)
  · rfl

theorem delivers (d : Deed) (b : Board σ) :
    b.session.Delivers (d.deliveries server b) (d.perform server b).session := by
  by_cases hs : ∃ e, d = .carry (.send e)
  · obtain ⟨e, rfl⟩ := hs
    exact Session.delivers_deliver e b.session
  have hsend : ∀ e, d ≠ .carry (.send e) := fun e he => hs ⟨e, he⟩
  rw [deliveries_eq server hsend]
  by_cases hd : d.Quiet
  · rw [fetches_of_quiet server hd]
    -- the undo stack, which a quiet deed may move, is not looked at here
    have h := (unheard_of_quiet server hd hsend b).delivers
    exact ⟨h.handlings, h.history, h.queue, h.answers⟩
  · have hfetches := (unheard_plan server hd b).trans (Board.unheard_fetched server (d.plan server b).1 _)
    rw [perform_eq_receive]
    exact hfetches.delivers.trans (Session.delivers_foldl_receive _ _)

end Deed

end

/-! ## Deliveries of a course -/

section
variable {σ : Type} {server : Server σ} {first b : Board σ} {steps : List (Deed × Board σ)}

theorem Deed.Due.queue {d : Deed} {taken : Board σ} (h : d.Due b taken) :
    d.command?.toList ++ taken.session.queue = b.session.queue := by
  cases h with
  | start => rfl
  | carry hq => exact hq.symm

theorem Aside.unheard {b' : Board σ} (h : Aside server b b') : b.session.Unheard b'.session := by
  cases h with
  | ask => exact ⟨rfl, rfl, Session.handlings_noteCalls_of_ne (by decide) _ _, List.prefix_rfl⟩
  | post url body => exact Board.unheard_post server url body b

/-- The deliveries of a course, the first one first. -/
def allDeliveries (server : Server σ) (steps : List (Deed × Board σ)) : List Delivery :=
  steps.flatMap fun step => step.1.deliveries server step.2

/-- The commands that a course has carried out. -/
def carried (steps : List (Deed × Board σ)) : List Command := steps.filterMap fun step => step.1.command?

theorem carried_concat (steps : List (Deed × Board σ)) (d : Deed) (taken : Board σ) :
    carried (steps ++ [(d, taken)]) = carried steps ++ d.command?.toList := by
  unfold carried
  cases hc : d.command? <;> simp [hc]

theorem allDeliveries_concat (steps : List (Deed × Board σ)) (d : Deed) (taken : Board σ) :
    allDeliveries server (steps ++ [(d, taken)]) = allDeliveries server steps ++ d.deliveries server taken := by
  simp [allDeliveries]

theorem Course.handlings (course : Course server first steps b) :
    b.session.handlings = first.session.handlings ++ (allDeliveries server steps).flatMap Delivery.calls := by
  induction course with
  | refl => exact (List.append_nil _).symm
  | @next _ b taken d _ due ih =>
    have htaken : taken.session.handlings = b.session.handlings := by cases due <;> rfl
    rw [(d.delivers server taken).handlings, htaken, ih, allDeliveries_concat, List.flatMap_append, List.append_assoc]
  | aside _ h ih => rw [h.unheard.handlings, ih]

theorem Course.history (course : Course server first steps b) :
    b.session.history = first.session.history.pushAll ((allDeliveries server steps).map Delivery.recorded) := by
  induction course with
  | refl => rfl
  | @next _ b taken d _ due ih =>
    have htaken : taken.session.history = b.session.history := by cases due <;> rfl
    rw [(d.delivers server taken).history, htaken, ih, allDeliveries_concat, List.map_append, History.pushAll_append]
  | aside _ h ih => rw [h.unheard.history, ih]

/-- The commands carried out and those still queued only grow, and what a delivery adds stands where it was queued. -/
theorem Course.answers (course : Course server first steps b) : ∀ d ∈ allDeliveries server steps,
    ∃ before, before <+: carried steps ∧
      before ++ d.moment.queue ++ d.answers <+: carried steps ++ b.session.queue := by
  induction course with
  | refl => simp [allDeliveries]
  | @next steps b taken d _ due ih =>
    intro delivery hm
    have hdelivers := d.delivers server taken
    have hqueue : carried steps ++ b.session.queue = carried (steps ++ [(d, taken)]) ++ taken.session.queue := by
      rw [carried_concat, List.append_assoc, due.queue]
    rw [allDeliveries_concat] at hm
    rcases List.mem_append.mp hm with hm | hm
    · obtain ⟨before, hbefore, hstretch⟩ := ih delivery hm
      rw [hqueue] at hstretch
      refine ⟨before, hbefore.trans (carried_concat steps d taken ▸ List.prefix_append _ _), hstretch.trans ?_⟩
      exact (List.prefix_append_right_inj _).mpr hdelivers.queue
    · refine ⟨carried (steps ++ [(d, taken)]), List.prefix_rfl, ?_⟩
      rw [List.append_assoc]
      exact (List.prefix_append_right_inj _).mpr (hdelivers.answers delivery hm)
  | aside _ h ih =>
    intro delivery hm
    obtain ⟨before, hbefore, hstretch⟩ := ih delivery hm
    exact ⟨before, hbefore, hstretch.trans ((List.prefix_append_right_inj _).mpr h.unheard.queue)⟩

end

end Dashboard
