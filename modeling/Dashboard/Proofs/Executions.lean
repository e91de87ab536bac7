import Dashboard.Proofs.QuietDeeds
import Dashboard.Proofs.UndoReplay

/-!
# Executions

An activity is executed when the answer that makes it is received, and only if
it shows nothing: then once, and its commands are delivered or queued. One that
shows something is never executed, whatever its definition declares. No other
deed executes anything (`executed_unless_shown`).
-/

namespace Dashboard

/-! ## Calls of execute -/

/-- The calls of execute that come of an answer. -/
def Fetched.executions (r : Registry) (f : Fetched) : List Effect :=
  match f.outcome r with
  | .ok a => if a.isGui then [] else a.calls .execute none
  | .error _ => []

namespace Session

def executions (s : Session) : List Effect := s.log.filter (Effect.isCallOf .execute)

theorem executions_note (s : Session) (effects : List Effect) :
    (s.note effects).executions = s.executions ++ effects.filter (Effect.isCallOf .execute) :=
  List.filter_append s.log effects

theorem executions_note_map {α : Type} {effect : α → Effect} (h : ∀ x, (effect x).isCallOf .execute = false)
    (l : List α)
    (s : Session) : (s.note (l.map effect)).executions = s.executions := by
  simp [executions_note, List.filter_map, Function.comp_def, h]

theorem executions_noteCalls {capability : Capability} (h : capability ≠ .execute) (s : Session)
    (event : Option Event) : (s.noteCalls capability event).executions = s.executions := by
  simp [noteCalls, executions_note, List.filter_flatMap, filter_calls, h]

theorem executions_deliver (e : Event) (s : Session) : (s.deliver e).executions = s.executions :=
  executions_noteCalls (by decide) s (some e)

theorem executions_press (b : Button) (s : Session) : (s.press b).executions = s.executions :=
  executions_noteCalls (by decide) s none

theorem executions_pressAt (index : Nat) (s : Session) : (s.pressAt index).executions = s.executions := by
  unfold pressAt
  split
  · exact executions_press _ s
  · rfl

theorem executions_keepUndo (response : Json) (s : Session) : (s.keepUndo response).executions = s.executions := by
  unfold keepUndo
  split <;> rfl

/-! ## Receiving an answer -/

section
variable {f : Fetched} {s : Session} {a : Activity}

theorem receive_of_shown {content : Json} (ha : f.outcome s.registry = .ok a) (hd : a.display = some content) :
    (s.receive f).log = s.log ++ a.calls .postScript none ∧ (s.receive f).history = s.history ∧
      (s.receive f).queue = s.queue ++ a.postScript := by
  rw [receive_of_ok ha]
  simp only [hd]
  exact ⟨rfl, rfl, rfl⟩

theorem receive_of_executed (hknown : f.panel ∈ s.names) (ha : f.outcome s.registry = .ok a) (hd : a.display = none) :
    let commands := a.execute ++ a.postScript
    let events := commands.filterMap Command.event?
    let receivers := (changeFirst f.panel (Slot.lentTo a) s.slots).flatMap Slot.activities
    (s.receive f).log = s.log ++ (a.calls .execute none ++ a.calls .postScript none)
        ++ (events.flatMap fun e => receivers.flatMap fun r => r.calls .handleEvent (some e)) ∧
      (s.receive f).history = events.foldl (fun h e => h.push e (e.handlers receivers)) s.history ∧
      (s.receive f).queue = s.queue ++ events.flatMap (fun e => e.answers receivers)
        ++ commands.filter fun c => c.event?.isNone := by
  obtain ⟨slot, hs⟩ := mem_names_iff.mp hknown
  have hpanel : a.panel = f.panel := (outcome_context ha).1
  rw [receive_of_ok ha]
  simp only [hd]
  rw [runActivity_eq (hpanel ▸ hs), hpanel]
  exact ⟨rfl, rfl, rfl⟩

theorem executions_receive (hknown : f.panel ∈ s.names) :
    (s.receive f).executions = s.executions ++ f.executions s.registry := by
  unfold Fetched.executions
  cases ho : f.outcome s.registry with
  | error failure =>
    rw [receive_of_error ho]
    exact (List.append_nil _).symm
  | ok a =>
    cases hd : a.display with
    | some content =>
      have hlog := (receive_of_shown ho hd).1
      simp [executions, hlog, Activity.isGui, hd, filter_calls]
    | none =>
      have hlog := (receive_of_executed hknown ho hd).1
      simp [executions, hlog, Activity.isGui, hd, filter_calls, List.filter_flatMap]

end

theorem executions_foldl_receive : ∀ {fetched : List Fetched} {s : Session},
    (∀ f ∈ fetched, f.panel ∈ s.names) →
    (fetched.foldl (fun s f => s.receive f) s).executions =
      s.executions ++ fetched.flatMap (Fetched.executions s.registry)
  | [], s, _ => (List.append_nil _).symm
  | f :: fetched, s, hknown => by
    obtain ⟨hf, hrest⟩ := List.forall_mem_cons.mp hknown
    have hframe := loadFrame_receive f s
    rw [List.foldl_cons, executions_foldl_receive (hframe.names ▸ hrest), executions_receive hf, hframe.registry,
      List.flatMap_cons, List.append_assoc]

end Session

/-! ## Deeds -/

namespace Board

variable {σ : Type} (server : Server σ)

theorem executions_withdrawUndo (s : Session) : (withdrawUndo s).executions = s.executions := by
  unfold withdrawUndo
  split <;> rfl

theorem executions_undoNewest (b : Board σ) : (b.undoNewest server).session.executions = b.session.executions := by
  cases hb : b.session.undo.batches with
  | nil =>
    rw [undoNewest_of_empty server hb]
    exact executions_withdrawUndo b.session
  | cons batch older =>
    rw [undoNewest_of_batch server hb]
    refine (executions_withdrawUndo _).trans ?_
    exact Session.executions_note_map (fun (_ : UndoAction × Json) => rfl) _ b.session

theorem executions_postActivity (data : Params) (url panel : String) (arguments : Params) (b : Board σ) :
    (b.postActivity server data url panel arguments).session.executions = b.session.executions := by
  have hposted : ∀ target, (b.session.note [.posted target (.object data)]).executions = b.session.executions :=
    fun target => (Session.executions_note b.session _).trans (List.append_nil _)
  unfold postActivity
  simp only
  split <;> exact hposted _

theorem executions_fetched (requests : List LoadRequest) (b : Board σ) :
    (b.fetched server requests).2.session.executions = b.session.executions := by
  unfold fetched
  rw [fetch_session, Session.prepare_eq, Session.startLoads_eq]
  exact Session.executions_note_map (fun _ => rfl) _ _

end Board

namespace Deed

variable {σ : Type} {server : Server σ}

theorem executions_of_quiet {d : Deed} (hd : d.Quiet) (b : Board σ) :
    (d.perform server b).session.executions = b.session.executions := by
  cases d with
  | start op =>
    cases op with
    | definePanels | resetToDefaults => cases hd
    | load pages extras =>
      simp only [perform, Board.start, Board.onSession]
      split <;> rfl
    | pressAt index => exact Session.executions_pressAt index b.session
    | keepUndo response => exact Session.executions_keepUndo response b.session
    | postActivity data url panel arguments => exact Board.executions_postActivity server data url panel arguments b
    | defineButtons | addParameter | run | display | clearMessages => rfl
  | carry c =>
    cases c with
    | load | finish => cases hd
    | send e => exact Session.executions_deliver e b.session
    | display messages => rfl
    | keepUndo response => exact Session.executions_keepUndo response b.session
    | press id => exact Session.foldl_press_keeps Session.executions_press _ b.session
    | undo => exact Board.executions_undoNewest server b

theorem executions_fetches {d : Deed} (hd : ¬ d.Quiet) (b : Board σ) :
    (d.fetches server b).2.session.executions = b.session.executions := by
  obtain ⟨slots, messages, waiting, hplan⟩ := d.plan_of_not_quiet server hd b
  rw [fetches, Board.executions_fetched, hplan]
  rfl

end Deed

/-! ## Which activities are executed -/

section
variable {σ : Type} {server : Server σ} {b taken : Board σ} {d : Deed}

/-- In any deed the calls of execute are those that come of its answers. An activity that shows something is not
executed although its definition declares it, only its other script runs. One that shows nothing is executed once in
its own context; the events among its commands are delivered, the other commands are queued. -/
theorem executed_unless_shown (reach : Reachable server b) (due : d.Due b taken) :
    let registry := b.session.registry
    let fetched := (d.fetches server taken).1
    let begun := (d.fetches server taken).2.session
    (d.perform server taken).session.executions =
      b.session.executions ++ fetched.flatMap (Fetched.executions registry) ∧
    ∀ (before : List Fetched) (f : Fetched) (after : List Fetched) (a : Activity) (action : Named Action),
      fetched = before ++ f :: after → f.outcome registry = .ok a → a.capabilities.execute = some action →
      let s := before.foldl (fun s f => s.receive f) begun
      let called := Effect.called .execute action.name a.context none
      (a.isGui = true → f.executions registry = [] ∧ (s.receive f).log = s.log ++ a.calls .postScript none ∧
        (s.receive f).history = s.history ∧ (s.receive f).queue = s.queue ++ a.postScript) ∧
      (a.isGui = false →
        let commands := action.run a.context ++ a.postScript
        let events := commands.filterMap Command.event?
        let receivers := (Session.changeFirst f.panel (Slot.lentTo a) s.slots).flatMap Slot.activities
        f.executions registry = [called] ∧
        (s.receive f).log = s.log ++ (called :: a.calls .postScript none)
          ++ (events.flatMap fun e => receivers.flatMap fun r => r.calls .handleEvent (some e)) ∧
        (s.receive f).history = events.foldl (fun h e => h.push e (e.handlers receivers)) s.history ∧
        (s.receive f).queue = s.queue ++ events.flatMap (fun e => e.answers receivers)
          ++ commands.filter fun c => c.event?.isNone) := by
  intro registry fetched begun
  have hregistry : begun.registry = registry := (d.fetches_registry server taken).trans due.registry
  have hknown : ∀ f ∈ fetched, f.panel ∈ begun.names := known_of_receiving (.begin reach due)
  refine ⟨?_, ?_⟩
  · have htaken : taken.session.executions = b.session.executions := by cases due <;> rfl
    by_cases hd : d.Quiet
    · have hnone : fetched = [] := Deed.fetches_of_quiet server hd taken
      rw [Deed.executions_of_quiet hd, hnone, htaken]
      exact (List.append_nil _).symm
    · have hbegun : begun.executions = taken.session.executions := Deed.executions_fetches hd taken
      rw [Deed.perform_eq_receive, ← htaken, ← hbegun, ← hregistry]
      exact Session.executions_foldl_receive hknown
  · intro before f after a action hfetched ha haction s called
    have hframe : begun.LoadFrame s := Session.loadFrame_foldl_receive before begun
    have hf : f.panel ∈ s.names :=
      hframe.names ▸ hknown f (hfetched ▸ List.mem_append_right before List.mem_cons_self)
    have ho : f.outcome s.registry = .ok a := by rw [hframe.registry, hregistry, ha]
    have hexecute : a.execute = action.run a.context := by rw [Activity.execute, haction]
    have hcalls : a.calls .execute none = [called] := by simp [Activity.calls, Capabilities.name?, haction, called]
    constructor
    · intro hgui
      obtain ⟨content, hd⟩ := Option.isSome_iff_exists.mp hgui
      refine ⟨?_, Session.receive_of_shown ho hd⟩
      simp only [Fetched.executions, ha, hgui, if_true]
    · intro hgui commands events receivers
      have hd : a.display = none := by simpa [Activity.isGui] using hgui
      have hreceive := Session.receive_of_executed hf ho hd
      simp only [hexecute, hcalls] at hreceive
      refine ⟨?_, hreceive⟩
      simp [Fetched.executions, ha, hgui, hcalls]

end

/-- Of two activities that declare the same execute, one shows something and is not executed. -/
theorem shown_and_not_executed :
    let shown := "\x7b\"display\":\"X\",\"execute\":\"dashboard.finished\"\x7d"
    let run := "\x7b\"execute\":\"dashboard.finished\"\x7d"
    let load := Command.load [⟨some "/x", some "A"⟩, ⟨some "/y", some "B"⟩] []
    let b := ((⟨.new .default .builtin, [.ok shown, .ok run]⟩ : Board _).start Server.scripted
      (.definePanels [⟨"A", ""⟩, ⟨"B", ""⟩])).start Server.scripted (.run load)
    let taken : Board _ := { b with session := { b.session with queue := [] } }
    let url := fun panel locator => taken.session.address ⟨panel, locator, []⟩
    ∃ a, Registry.builtin.activity "A" (url "A" "/x") shown = .ok a ∧ .execute ∈ a.capabilities.declared ∧
      ((Deed.carry load).perform Server.scripted taken).session.executions =
        [.called .execute "dashboard.finished" ⟨"B", url "B" "/y", .null⟩ none] := by
  intro shown run load b taken url
  have reach : Reachable Server.scripted b :=
    ⟨.default, .builtin, [.ok shown, .ok run], _,
      (Run.refl.start (.definePanels [⟨"A", ""⟩, ⟨"B", ""⟩])).start (.run load)⟩
  have hshown : Definition.ofText shown =
      .ok ⟨some (.str "X"), some "dashboard.finished", none, none, none, none, false, .null⟩ := by
    simp only [shown]
    cbv
  have hrun : Definition.ofText run =
      .ok ⟨none, some "dashboard.finished", none, none, none, none, false, .null⟩ := by
    simp only [run]
    cbv
  obtain ⟨a, ha, hgui, haction⟩ : ∃ a, Registry.builtin.activity "A" (url "A" "/x") shown = .ok a ∧
      a.isGui = true ∧
      a.capabilities.execute = some ⟨"dashboard.finished", Registry.finishOwn⟩ :=
    ⟨_, activity_of_text hshown rfl "A" (url "A" "/x"), rfl, rfl⟩
  obtain ⟨c, hc, hcgui, hcontext, hcaction⟩ : ∃ c, Registry.builtin.activity "B" (url "B" "/y") run = .ok c ∧
      c.isGui = false ∧ c.context = ⟨"B", url "B" "/y", .null⟩ ∧
      c.capabilities.execute = some ⟨"dashboard.finished", Registry.finishOwn⟩ :=
    ⟨_, activity_of_text hrun rfl "B" (url "B" "/y"), rfl, rfl, rfl⟩
  obtain ⟨hall, heach⟩ := executed_unless_shown reach (.carry rfl : (Deed.carry load).Due b taken)
  have hfetched : ((Deed.carry load).fetches Server.scripted taken).1 =
      [⟨"A", url "A" "/x", .ok (shown, false)⟩, ⟨"B", url "B" "/y", .ok (run, false)⟩] := rfl
  rw [hfetched] at hall heach
  have hfirst := ((heach [] _ _ a _ rfl ha haction).1 hgui).1
  have hsecond := ((heach [_] _ [] c _ rfl hc hcaction).2 hcgui).1
  refine ⟨a, ha, ?_, ?_⟩
  · simp [Capabilities.declared, Capabilities.name?, haction]
  · rw [hall]
    simp only [List.flatMap_cons, List.flatMap_nil, hfirst, hsecond, hcontext]
    rfl

end Dashboard
