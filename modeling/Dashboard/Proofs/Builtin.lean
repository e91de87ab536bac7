import Dashboard.Proofs.Definitions
import Dashboard.Proofs.Runs

/-!
# What activities of the built-in registry ask for

A definition only names functions, so an activity of the built-in registry has
its three actions and its one handler to choose from. None of these loads
anything: they finish their own panel, send an event or show messages. So no
load queues any other command, and no undo does (`Session.Modest`).
-/

namespace Dashboard

namespace Definition

/-- The text of a definition that shows something and then finishes its panel or sends an event. -/
def Restless (text : String) : Prop :=
  ∃ d, ofText text = .ok d ∧ d.display.isSome ∧
    (d.postScript = some "dashboard.finished" ∨ d.postScript = some "dashboard.sendEvent")

end Definition

/-- The commands that activities of the built-in registry ask for. -/
def Command.Modest : Command → Prop
  | .finish request => request.cancel = false
  | .send _ => True
  | .display _ => True
  | _ => False

namespace Registry

/-- The activities that definitions can make. -/
def Makes (r : Registry) (a : Activity) : Prop := ∃ panel url text, r.activity panel url text = .ok a

theorem makes_of_outcome {r : Registry} {f : Fetched} {a : Activity} (h : f.outcome r = .ok a) : r.Makes a := by
  obtain ⟨text, -, -, ha⟩ := outcome_eq_ok_iff.mp h
  exact ⟨f.panel, f.url, text, ha⟩

section
variable {name : String} {a : Activity} {c : Command}

theorem builtin_action? {action : Named Action} (h : builtin.action? name = some action) :
    (name = "dashboard.finished" ∧ action.run = finishOwn) ∨
    (name = "dashboard.sendEvent" ∧ action.run = sendOwn) ∨
      (name = "dashboard.message" ∧ action.run = showOwn) := by
  simp only [action?, builtin, withAction, withProvider, withHandler, Dict.get?_insert, empty, Dict.get?_empty] at h
  split at h
  · cases h
    exact Or.inr (Or.inr ⟨‹_›, rfl⟩)
  split at h
  · cases h
    exact Or.inr (Or.inl ⟨‹_›, rfl⟩)
  split at h
  · cases h
    exact Or.inl ⟨‹_›, rfl⟩
  · cases h

theorem builtin_handler? {handler : Named Handler} (h : builtin.handler? name = some handler) :
    handler.run = finishOwnOn := by
  simp only [handler?, builtin, withAction, withProvider, withHandler, Dict.get?_insert, empty, Dict.get?_empty] at h
  split at h
  · cases h
    rfl
  · cases h

theorem modest_of_action {action : Named Action} (h : builtin.action? name = some action) (x : Context) :
    ∀ c ∈ action.run x, c.Modest := by
  intro c hc
  rcases builtin_action? h with ⟨-, hrun⟩ | ⟨-, hrun⟩ | ⟨-, hrun⟩ <;> rw [hrun] at hc
  · obtain rfl := List.mem_singleton.mp hc
    rfl
  · unfold sendOwn at hc
    split at hc
    · obtain rfl := List.mem_singleton.mp hc
      trivial
    · cases hc
  · unfold showOwn at hc
    split at hc
    · cases hc
    · obtain rfl := List.mem_singleton.mp hc
      trivial

theorem modest_of_makes (h : builtin.Makes a) (hc : c ∈ a.execute ++ a.postScript) : c.Modest := by
  obtain ⟨panel, url, text, h⟩ := h
  obtain ⟨d, caps, -, hcaps, rfl⟩ := activity_eq_ok_iff.mp h
  obtain ⟨hexecute, -, -, -, hscript⟩ := Definition.capabilities_eq_ok_iff.mp hcaps
  have hfield : ∀ {field : String} {name? : Option String} {action? : Option (Named Action)},
      Definition.resolve field builtin.action? name? = .ok action? →
        ∀ action, action? = some action → ∀ x, ∀ c ∈ action.run x, c.Modest := by
    rintro field name? action? hr action rfl
    obtain ⟨name, -, hname⟩ := Definition.resolve_eq_some hr
    exact modest_of_action hname
  rcases List.mem_append.mp hc with hc | hc
  · unfold Activity.execute at hc
    split at hc
    · exact hfield hexecute _ ‹_› _ c hc
    · cases hc
  · unfold Activity.postScript at hc
    split at hc
    · exact hfield hscript _ ‹_› _ c hc
    · cases hc

theorem handle?_of_makes (h : builtin.Makes a) (e : Event) :
    (a.handle? e).getD [] = [] ∨ (a.handle? e).getD [] = [.finish (.ofPanel a.panel)] := by
  obtain ⟨panel, url, text, h⟩ := h
  obtain ⟨d, caps, -, hcaps, rfl⟩ := activity_eq_ok_iff.mp h
  obtain ⟨-, hhandle, -⟩ := Definition.capabilities_eq_ok_iff.mp hcaps
  cases hc : caps.handleEvent with
  | none => exact Or.inl (by simp [Activity.handle?, hc])
  | some handler =>
    obtain ⟨name, -, hname⟩ := Definition.resolve_eq_some (hc ▸ hhandle)
    simp only [Activity.handle?, hc, Option.map_some, Option.getD_some, builtin_handler? hname]
    unfold finishOwnOn
    split
    · exact Or.inr rfl
    · exact Or.inl rfl

/-- What is shown shows messages at most, unless its definition is restless. -/
theorem postScript_of_calm {panel url text : String} (h : builtin.activity panel url text = .ok a)
    (hcalm : ¬ Definition.Restless text) (hd : a.display.isSome) :
    a.postScript = [] ∨ ∃ messages, a.postScript = [.display messages] := by
  obtain ⟨d, caps, htext, hcaps, rfl⟩ := activity_eq_ok_iff.mp h
  obtain ⟨-, -, -, -, hscript⟩ := Definition.capabilities_eq_ok_iff.mp hcaps
  cases hc : caps.postScript with
  | none => exact Or.inl (by simp [Activity.postScript, hc])
  | some action =>
    obtain ⟨name, hname, haction⟩ := Definition.resolve_eq_some (hc ▸ hscript)
    simp only [Activity.postScript, hc]
    rcases builtin_action? haction with ⟨rfl, -⟩ | ⟨rfl, -⟩ | ⟨-, hrun⟩
    · exact absurd ⟨d, htext, hd, Or.inl hname⟩ hcalm
    · exact absurd ⟨d, htext, hd, Or.inr hname⟩ hcalm
    · rw [hrun]
      unfold showOwn
      split
      · exact Or.inl rfl
      · exact Or.inr ⟨_, rfl⟩

end

end Registry

theorem Slot.makes_invariant (r : Registry) : Slot.Invariant r fun t => ∀ a ∈ t.activities, r.Makes a where
  fresh _ := by simp [ofPanel, activities]
  started _ h := h
  after f t h := by
    cases ho : f.outcome r with
    | error failure => exact h
    | ok a =>
      simp only [Slot.after]
      split
      · simpa [showing, activities] using Registry.makes_of_outcome ho
      · intro b hb
        refine h b (List.mem_append_left _ ?_)
        simpa [executed, activities] using hb

/-! ## What is queued -/

namespace Session

/-- Between two sessions only commands have been queued that activities of the built-in registry ask for. -/
structure Modest (s t : Session) : Prop where
  buttons : t.buttons = s.buttons
  queue : ∃ added, t.queue = s.queue ++ added ∧ ∀ c ∈ added, c.Modest

theorem Modest.of_queue {s t : Session} (hb : t.buttons = s.buttons) (hq : t.queue = s.queue) : s.Modest t :=
  ⟨hb, [], by simp [hq], by simp⟩

theorem Modest.trans {s t u : Session} (h₁ : s.Modest t) (h₂ : t.Modest u) : s.Modest u := by
  obtain ⟨first, hfirst, hm⟩ := h₁.queue
  obtain ⟨next, hnext, hm'⟩ := h₂.queue
  exact ⟨h₂.buttons.trans h₁.buttons, first ++ next, by rw [hnext, hfirst, List.append_assoc],
    List.forall_mem_append.mpr ⟨hm, hm'⟩⟩

theorem modest_of_answers {e : Event} {receivers : List Activity} (h : ∀ a ∈ receivers, Registry.builtin.Makes a) :
    ∀ c ∈ e.answers receivers, c.Modest := by
  intro c hc
  obtain ⟨a, ha, hc⟩ := List.mem_flatMap.mp hc
  rcases Registry.handle?_of_makes (h a ha) e with hnone | hone
  · rw [hnone] at hc
    cases hc
  · rw [hone] at hc
    obtain rfl := List.mem_singleton.mp hc
    rfl

structure Builtin (s : Session) : Prop where
  registry : s.registry = .builtin
  made : ∀ t ∈ s.slots, ∀ a ∈ t.activities, Registry.builtin.Makes a

theorem Builtin.activities {s : Session} (h : s.Builtin) : ∀ a ∈ s.activities, Registry.builtin.Makes a := by
  intro a ha
  obtain ⟨t, ht, ha⟩ := List.mem_flatMap.mp ha
  exact h.made t ht a ha

theorem Builtin.receive {s : Session} (h : s.Builtin) (f : Fetched) : (s.receive f).Builtin :=
  ⟨(loadFrame_receive f s).registry.trans h.registry,
    (Slot.makes_invariant .builtin).receive h.registry h.made f⟩

theorem Builtin.receivers {s : Session} (h : s.Builtin) {a : Activity} (ha : Registry.builtin.Makes a)
    (panel : String) :
    ∀ b ∈ (changeFirst panel (Slot.lentTo a) s.slots).flatMap Slot.activities, Registry.builtin.Makes b := by
  have hlent : ∀ t : Slot, (∀ b ∈ t.activities, Registry.builtin.Makes b) →
      ∀ b ∈ (t.lentTo a).activities, Registry.builtin.Makes b := by
    intro t ht b hb
    rcases List.mem_cons.mp hb with rfl | hb
    · exact ha
    · exact ht b (List.mem_append_left _ hb)
  intro b hb
  obtain ⟨t, ht, hb⟩ := List.mem_flatMap.mp hb
  exact forall_changeFirst hlent h.made t ht b hb

theorem modest_runActivity {s : Session} (h : s.Builtin) {a : Activity} (ha : Registry.builtin.Makes a) :
    s.Modest (s.runActivity a) := by
  cases hs : s.slot? a.panel with
  | none =>
    rw [runActivity_of_unknown hs]
    exact .of_queue rfl rfl
  | some slot =>
    rw [runActivity_eq hs]
    refine ⟨rfl, _, List.append_assoc _ _ _, List.forall_mem_append.mpr ⟨?_, ?_⟩⟩
    · intro c hc
      obtain ⟨e, -, hc⟩ := List.mem_flatMap.mp hc
      exact modest_of_answers (h.receivers ha a.panel) c hc
    · exact fun c hc => Registry.modest_of_makes ha (List.mem_filter.mp hc).1

theorem modest_receive {s : Session} (h : s.Builtin) (f : Fetched) : s.Modest (s.receive f) := by
  cases ho : f.outcome s.registry with
  | error failure =>
    rw [receive_of_error ho]
    exact .of_queue rfl rfl
  | ok a =>
    have ha : Registry.builtin.Makes a := Registry.makes_of_outcome (h.registry ▸ ho)
    have hkept : ({ s with cache := f.keptIn a s.cache } : Session).Builtin := ⟨h.registry, h.made⟩
    rw [receive_of_ok ho]
    cases a.display with
    | some content =>
      exact ⟨rfl, a.postScript, rfl, fun c hc => Registry.modest_of_makes ha (List.mem_append_right _ hc)⟩
    | none =>
      obtain ⟨hb, hq⟩ := modest_runActivity hkept ha
      exact ⟨hb, hq⟩

theorem modest_foldl_receive : ∀ (fetched : List Fetched) {s : Session}, s.Builtin →
    s.Modest (fetched.foldl (fun s f => s.receive f) s)
  | [], _, _ => .of_queue rfl rfl
  | f :: fetched, _, h => (modest_receive h f).trans (modest_foldl_receive fetched (h.receive f))

end Session

namespace Board

open Session

variable {σ : Type} (server : Server σ)

theorem modest_load (requests : List LoadRequest) {b : Board σ} (h : b.session.Builtin) :
    b.session.Modest (load server requests b).session := by
  obtain ⟨log, he⟩ := fetched_session server requests b
  have hfetched : (b.fetched server requests).2.session.Builtin := by
    rw [he]
    exact ⟨h.registry, (Slot.makes_invariant .builtin).changeEach _ h.made⟩
  have hsame : b.session.Modest (b.fetched server requests).2.session := by
    rw [he]
    exact .of_queue rfl rfl
  exact hsame.trans (modest_foldl_receive _ hfetched)

theorem modest_planned {requests : List LoadRequest} {b p : Board σ} (h : b.session.Builtin)
    (hp : ∃ messages waiting, p.session = { b.session.display messages with waiting := waiting }) :
    b.session.Modest (load server requests p).session := by
  obtain ⟨messages, waiting, he⟩ := hp
  have hbuiltin : p.session.Builtin := by
    rw [he]
    exact ⟨h.registry, h.made⟩
  have hsame : b.session.Modest p.session := by
    rw [he]
    exact .of_queue rfl rfl
  exact hsame.trans (modest_load server requests hbuiltin)

theorem modest_finish (request : Finish) {b : Board σ} (h : b.session.Builtin) :
    b.session.Modest (b.finish server request).session := by
  rw [Deed.finish_eq_load]
  exact modest_planned server h (planFinish_frame request b.session)

theorem modest_loadPages (pages : List Page) (extras : List Params) {b : Board σ} (h : b.session.Builtin) :
    b.session.Modest (b.loadPages server pages extras).session :=
  modest_planned server (p := ⟨(b.session.planPages pages extras).2, b.server⟩) h
    (planPages_frame pages extras b.session)

theorem modest_undoNewest (b : Board σ) : b.session.Modest (b.undoNewest server).session := by
  have h := undoFrame_undoNewest server b
  obtain ⟨events, hq⟩ := h.sends
  refine ⟨h.buttons, events.map .send, hq, fun c hc => ?_⟩
  obtain ⟨e, -, rfl⟩ := List.mem_map.mp hc
  trivial

end Board

end Dashboard
