import Dashboard.Proofs.Panels

/-!
# What a load does

A load runs in three parts, and each is given here as one equation or one list
of what it may change: preparing marks the panels, fetching talks to the
server, and receiving an answer changes the slot of one panel by the outcome
of that answer. Everything else about loads follows from these.
-/

namespace Dashboard

def LoadRequest.hasLocator (r : LoadRequest) : Bool := !r.locator.isEmpty

/-! ## The outcome of an answer -/

/-- The slot after an activity without content has executed in it. -/
def Slot.executed (t : Slot) : Slot := { t with mode := .nonGui, stage := .executed, displaced := none }

theorem Slot.givenBack_lentTo (a : Activity) (t : Slot) : (t.lentTo a).givenBack = t.executed := rfl

theorem Slot.keeps_executed : Slot.Keeps Slot.executed := fun _ => rfl

def Slot.after : Except Failure Activity → Slot → Slot
  | .error _ => abandonLoading
  | .ok a => if a.isGui then showing a else executed

theorem Slot.after_of_content {a : Activity} {content : Json} (hd : a.display = some content) :
    Slot.after (.ok a) = showing a :=
  if_pos (by rw [Activity.isGui, hd]; rfl)

theorem Slot.after_of_no_content {a : Activity} (hd : a.display = none) : Slot.after (.ok a) = executed :=
  if_neg (by rw [Activity.isGui, hd]; simp)

theorem Slot.keeps_after (o : Except Failure Activity) : Slot.Keeps (Slot.after o) := by
  intro t
  cases o with
  | error _ => rfl
  | ok a => simp only [Slot.after]; split <;> rfl

def Fetched.outcome (f : Fetched) (r : Registry) : Except Failure Activity :=
  match f.source with
  | .ok (source, _) => r.activity f.panel f.url source
  | .error refusal => .error (.refused refusal)

/-- The cache once the activity of an answer is there: new definitions are kept when they ask for it. -/
def Fetched.keptIn (f : Fetched) (a : Activity) (c : Cache) : Cache :=
  match f.source with
  | .ok (source, fromCache) => if a.cached && !fromCache then c.keep f.url source else c
  | .error _ => c

theorem mapError_eq_ok_iff {x : Except ε α} {f : ε → ε'} {a : α} : x.mapError f = .ok a ↔ x = .ok a := by
  cases x with
  | error e => constructor <;> intro h <;> cases h
  | ok b => constructor <;> intro h <;> cases h <;> rfl

theorem activity_eq_ok_iff {r : Registry} {panel url source : String} {a : Activity} :
    r.activity panel url source = .ok a ↔ ∃ d c, Definition.ofText source = .ok d ∧ d.capabilities r = .ok c ∧
      a = ⟨⟨panel, url, d.data⟩, d.display, c, d.cache⟩ := by
  unfold Registry.activity
  rw [mapError_eq_ok_iff]
  cases hd : Definition.ofText source with
  | error e => simp [bind, Except.bind]
  | ok d =>
    cases hc : d.capabilities r with
    | error e => simp [hc, bind, Except.bind]
    | ok c => simp [hc, bind, Except.bind, pure, Except.pure, eq_comm]

theorem activity_of_text {r : Registry} {source : String} {d : Definition} {c : Capabilities}
    (hd : Definition.ofText source = .ok d) (hc : d.capabilities r = .ok c) (panel url : String) :
    r.activity panel url source = .ok ⟨⟨panel, url, d.data⟩, d.display, c, d.cache⟩ :=
  activity_eq_ok_iff.mpr ⟨d, c, hd, hc, rfl⟩

theorem activity_context {r : Registry} {panel url source : String} {a : Activity}
    (h : r.activity panel url source = .ok a) : a.panel = panel ∧ a.url = url := by
  obtain ⟨d, c, -, -, rfl⟩ := activity_eq_ok_iff.mp h
  exact ⟨rfl, rfl⟩

theorem outcome_eq_ok_iff {f : Fetched} {r : Registry} {a : Activity} : f.outcome r = .ok a ↔
    ∃ text fromCache, f.source = .ok (text, fromCache) ∧ r.activity f.panel f.url text = .ok a := by
  unfold Fetched.outcome
  rcases f.source with refusal | ⟨text, fromCache⟩
  · simp
  · constructor
    · exact fun h => ⟨text, fromCache, rfl, h⟩
    · rintro ⟨_, _, hs, h⟩
      cases hs
      exact h

theorem outcome_context {f : Fetched} {r : Registry} {a : Activity} (h : f.outcome r = .ok a) :
    a.panel = f.panel ∧ a.url = f.url := by
  obtain ⟨text, fromCache, -, ha⟩ := outcome_eq_ok_iff.mp h
  exact activity_context ha

namespace Session

theorem note_note (s : Session) (first next : List Effect) : (s.note first).note next = s.note (first ++ next) := by
  simp [note, List.append_assoc]

/-! ## Events -/

/-- Events delivered one after the other all go to the same activities. -/
theorem foldl_deliver : ∀ (events : List Event) (s : Session),
    events.foldl (fun s e => s.deliver e) s =
      { s with
        queue := s.queue ++ events.flatMap fun e => e.answers s.activities
        history := events.foldl (fun h e => h.push e (e.handlers s.activities)) s.history
        log := s.log ++ events.flatMap fun e => s.activities.flatMap fun a => a.calls .handleEvent (some e) }
  | [], s => by simp
  | e :: events, s => by
    rw [List.foldl_cons, foldl_deliver events]
    simp [deliver, noteCalls, note, activities, List.append_assoc]

/-! ## Receiving an answer -/

theorem runActivity_eq {a : Activity} {s : Session} {slot : Slot} (h : s.slot? a.panel = some slot) :
    s.runActivity a =
      let commands := a.execute ++ a.postScript
      let events := commands.filterMap Command.event?
      let receivers := (changeFirst a.panel (Slot.lentTo a) s.slots).flatMap Slot.activities
      { s with
        slots := changeFirst a.panel Slot.executed s.slots
        queue := s.queue ++ events.flatMap (fun e => e.answers receivers)
          ++ commands.filter fun c => c.event?.isNone
        history := events.foldl (fun h e => h.push e (e.handlers receivers)) s.history
        log := s.log ++ (a.calls .execute none ++ a.calls .postScript none)
          ++ events.flatMap fun e => receivers.flatMap fun r => r.calls .handleEvent (some e) } := by
  unfold runActivity
  simp only [h, foldl_deliver]
  simp only [changeSlot, note, enqueue, activities, changeFirst_changeFirst (Slot.keeps_lentTo a),
    Slot.givenBack_lentTo]

theorem runActivity_of_unknown {a : Activity} {s : Session} (h : s.slot? a.panel = none) :
    s.runActivity a = s := by
  simp only [runActivity, h]

theorem runActivity_slots (a : Activity) (s : Session) :
    (s.runActivity a).slots = changeFirst a.panel Slot.executed s.slots := by
  cases hs : s.slot? a.panel with
  | some slot => rw [runActivity_eq hs]
  | none =>
    rw [runActivity_of_unknown hs]
    exact (changeFirst_of_unknown (not_mem_names_iff.mpr hs)).symm

theorem runActivity_screen (a : Activity) (s : Session) : (s.runActivity a).screen = s.screen := by
  cases hs : s.slot? a.panel with
  | some slot => rw [runActivity_eq hs]
  | none => rw [runActivity_of_unknown hs]

theorem runActivity_cache (a : Activity) (s : Session) : (s.runActivity a).cache = s.cache := by
  cases hs : s.slot? a.panel with
  | some slot => rw [runActivity_eq hs]
  | none => rw [runActivity_of_unknown hs]

theorem receive_of_error {f : Fetched} {s : Session} {failure : Failure} (h : f.outcome s.registry = .error failure) :
    s.receive f = (s.changeSlot f.panel Slot.abandonLoading).report failure := by
  unfold Fetched.outcome at h
  unfold receive
  cases hf : f.source with
  | error refusal => rw [hf] at h; cases h; rfl
  | ok p =>
    obtain ⟨source, fromCache⟩ := p
    rw [hf] at h
    simp only [install, h]

theorem receive_of_ok {f : Fetched} {s : Session} {a : Activity} (h : f.outcome s.registry = .ok a) :
    s.receive f =
      let s := { s with cache := f.keptIn a s.cache }
      match a.display with
      | some content => s.showActivity a content
      | none => s.runActivity a := by
  unfold Fetched.outcome at h
  unfold receive Fetched.keptIn
  cases hf : f.source with
  | error refusal => rw [hf] at h; cases h
  | ok p =>
    obtain ⟨source, fromCache⟩ := p
    rw [hf] at h
    simp only [install, h]
    cases hk : a.cached && !fromCache <;> cases a.display <;> rfl

theorem receive_slots (s : Session) (f : Fetched) :
    (s.receive f).slots = changeFirst f.panel (Slot.after (f.outcome s.registry)) s.slots := by
  cases ho : f.outcome s.registry with
  | error failure => rw [receive_of_error ho]; rfl
  | ok a =>
    rw [receive_of_ok ho, ← (outcome_context ho).1]
    cases hd : a.display with
    | some content => simp [showActivity, changeSlot, note, enqueue, Slot.after, Activity.isGui, hd]
    | none => simp [runActivity_slots, Slot.after, Activity.isGui, hd]

/-! ## What no load changes -/

/-- Two sessions that differ by what loads do: slots keep their panels, and commands are only added. -/
structure LoadFrame (s t : Session) : Prop where
  panels : t.panels = s.panels
  pagePath : t.pagePath = s.pagePath
  pageQuery : t.pageQuery = s.pageQuery
  registry : t.registry = s.registry
  buttons : t.buttons = s.buttons
  waiting : t.waiting = s.waiting
  undo : t.undo = s.undo
  params : t.params = s.params
  queue : s.queue <+: t.queue

theorem LoadFrame.refl (s : Session) : LoadFrame s s :=
  ⟨rfl, rfl, rfl, rfl, rfl, rfl, rfl, rfl, List.prefix_rfl⟩

theorem LoadFrame.trans {s t u : Session} (h₁ : LoadFrame s t) (h₂ : LoadFrame t u) : LoadFrame s u :=
  ⟨h₂.panels.trans h₁.panels, h₂.pagePath.trans h₁.pagePath, h₂.pageQuery.trans h₁.pageQuery,
    h₂.registry.trans h₁.registry, h₂.buttons.trans h₁.buttons, h₂.waiting.trans h₁.waiting,
    h₂.undo.trans h₁.undo, h₂.params.trans h₁.params, h₁.queue.trans h₂.queue⟩

theorem LoadFrame.names {s t : Session} (h : LoadFrame s t) : t.names = s.names := names_congr h.panels

theorem loadFrame_changeSlot {f : Slot → Slot} (hf : Slot.Keeps f) (s : Session) (panel : String) :
    LoadFrame s (s.changeSlot panel f) :=
  ⟨map_panel_changeFirst hf s.slots, rfl, rfl, rfl, rfl, rfl, rfl, rfl, List.prefix_rfl⟩

theorem loadFrame_display (s : Session) (messages : List Message) : LoadFrame s (s.display messages) :=
  ⟨rfl, rfl, rfl, rfl, rfl, rfl, rfl, rfl, List.prefix_rfl⟩

theorem loadFrame_showActivity (a : Activity) (content : Json) (s : Session) :
    LoadFrame s (s.showActivity a content) :=
  ⟨map_panel_changeFirst (Slot.keeps_showing a) s.slots, rfl, rfl, rfl, rfl, rfl, rfl, rfl,
    List.prefix_append _ _⟩

theorem loadFrame_runActivity (a : Activity) (s : Session) : LoadFrame s (s.runActivity a) := by
  cases hs : s.slot? a.panel with
  | none => rw [runActivity_of_unknown hs]; exact LoadFrame.refl s
  | some slot =>
    rw [runActivity_eq hs]
    refine ⟨map_panel_changeFirst Slot.keeps_executed s.slots, rfl, rfl, rfl, rfl, rfl, rfl, rfl, ?_⟩
    simp only [List.append_assoc]
    exact List.prefix_append _ _

theorem loadFrame_receive (f : Fetched) (s : Session) : LoadFrame s (s.receive f) := by
  cases ho : f.outcome s.registry with
  | error failure =>
    rw [receive_of_error ho]
    exact (loadFrame_changeSlot Slot.keeps_abandonLoading s f.panel).trans (loadFrame_display _ _)
  | ok a =>
    rw [receive_of_ok ho]
    have hc : LoadFrame s { s with cache := f.keptIn a s.cache } :=
      ⟨rfl, rfl, rfl, rfl, rfl, rfl, rfl, rfl, List.prefix_rfl⟩
    cases a.display with
    | some content => exact hc.trans (loadFrame_showActivity a content _)
    | none => exact hc.trans (loadFrame_runActivity a _)

theorem loadFrame_foldl_receive : ∀ (fetched : List Fetched) (s : Session),
    LoadFrame s (fetched.foldl (fun s f => s.receive f) s)
  | [], s => LoadFrame.refl s
  | f :: fetched, s => (loadFrame_receive f s).trans (loadFrame_foldl_receive fetched (s.receive f))

/-! ## What a load leaves alone in other panels -/

theorem slot?_receive (s : Session) (f : Fetched) (other : String) : (s.receive f).slot? other =
    if other = f.panel then (s.slot? f.panel).map (Slot.after (f.outcome s.registry)) else s.slot? other := by
  unfold slot?
  rw [receive_slots]
  exact find?_changeFirst (Slot.keeps_after _) f.panel other s.slots

/-- Two sessions that agree on one panel: what is in it, what waits for it and what it shows. -/
structure SameAt (panel : String) (s t : Session) : Prop where
  slot : t.slot? panel = s.slot? panel
  urls : t.waiting.urls panel = s.waiting.urls panel
  shown : t.screen.panels.get? panel = s.screen.panels.get? panel
  drawn : t.screen.drawn.get? panel = s.screen.drawn.get? panel

theorem SameAt.refl (panel : String) (s : Session) : SameAt panel s s := ⟨rfl, rfl, rfl, rfl⟩

theorem SameAt.trans {panel : String} {s t u : Session} (h₁ : SameAt panel s t) (h₂ : SameAt panel t u) :
    SameAt panel s u :=
  ⟨h₂.slot.trans h₁.slot, h₂.urls.trans h₁.urls, h₂.shown.trans h₁.shown, h₂.drawn.trans h₁.drawn⟩

theorem sameAt_receive {f : Fetched} {other : String} (h : other ≠ f.panel) (s : Session) :
    SameAt other s (s.receive f) := by
  have hslot : (s.receive f).slot? other = s.slot? other := by rw [slot?_receive, if_neg h]
  have hurls := congrArg (Waiting.urls · other) (loadFrame_receive f s).waiting
  cases ho : f.outcome s.registry with
  | error failure => exact ⟨hslot, hurls, by rw [receive_of_error ho]; rfl, by rw [receive_of_error ho]; rfl⟩
  | ok a =>
    have hne : other ≠ a.panel := (outcome_context ho).1 ▸ h
    have hscreen : (s.receive f).screen = (match a.display with
        | some content => s.screen.draw a.panel content
        | none => s.screen) := by
      rw [receive_of_ok ho]
      cases a.display with
      | some content => rfl
      | none => exact runActivity_screen a _
    refine ⟨hslot, hurls, ?_, ?_⟩ <;> rw [hscreen] <;> cases a.display with
    | some content => simp [Screen.draw, Dict.get?_insert, hne]
    | none => rfl

theorem sameAt_foldl_receive {other : String} : ∀ {fetched : List Fetched} (s : Session),
    other ∉ fetched.map Fetched.panel → SameAt other s (fetched.foldl (fun s f => s.receive f) s)
  | [], s, _ => SameAt.refl other s
  | f :: fetched, s, h => by
    simp only [List.map_cons, List.mem_cons, not_or] at h
    exact (sameAt_receive h.1 s).trans (sameAt_foldl_receive (s.receive f) h.2)

/-! ## Preparing -/

def ready (s : Session) (r : LoadRequest) : Prepared := ⟨r.panel, s.address r, s.cache.find? (s.address r)⟩

def startLoads (s : Session) : List String → Session
  | [] => s
  | panel :: panels => (s.changeSlot panel Slot.startLoading).startLoads panels

theorem startLoads_eq : ∀ (panels : List String) (s : Session),
    s.startLoads panels = { s with slots := changeEach Slot.startLoading panels s.slots }
  | [], _ => rfl
  | panel :: panels, s => startLoads_eq panels (s.changeSlot panel Slot.startLoading)

theorem prepare_eq : ∀ (requests : List LoadRequest) (s : Session),
    s.prepare requests = ((requests.filter LoadRequest.hasLocator).map s.ready,
      s.startLoads ((requests.filter LoadRequest.hasLocator).map LoadRequest.panel))
  | [], s => rfl
  | r :: requests, s => by
    cases hr : r.locator.isEmpty with
    | true => simp [prepare, hr, prepare_eq requests, LoadRequest.hasLocator]
    | false =>
      have hready : (s.changeSlot r.panel Slot.startLoading).ready = s.ready := rfl
      simp [prepare, hr, prepare_eq requests, LoadRequest.hasLocator, hready, startLoads]
      rfl

/-- A change of a session that loads neither read nor touch. -/
structure Unread (f : Session → Session) : Prop where
  note : ∀ effects s, (f s).note effects = f (s.note effects)
  prepare : ∀ requests s, (f s).prepare requests = ((s.prepare requests).1, f (s.prepare requests).2)
  receive : ∀ g s, (f s).receive g = f (s.receive g)

theorem Unread.foldl_receive {f : Session → Session} (h : Unread f) : ∀ (fetched : List Fetched) (s : Session),
    fetched.foldl (fun s g => s.receive g) (f s) = f (fetched.foldl (fun s g => s.receive g) s)
  | [], _ => rfl
  | g :: fetched, s => by
    rw [List.foldl_cons, h.receive, h.foldl_receive fetched, List.foldl_cons]

/-- The session with more in front of its queue, its log and the messages on its screen. -/
def preceded (queue : List Command) (log : List Effect) (messages : List Message) (s : Session) : Session :=
  { s with
    queue := queue ++ s.queue
    log := log ++ s.log
    screen := { s.screen with messages := messages ++ s.screen.messages } }

section
variable (queue : List Command) (log : List Effect) (messages : List Message)

theorem runActivity_preceded (a : Activity) (s : Session) :
    (s.preceded queue log messages).runActivity a = (s.runActivity a).preceded queue log messages := by
  have hslots : (s.preceded queue log messages).slot? a.panel = s.slot? a.panel := rfl
  cases hs : s.slot? a.panel with
  | none => rw [runActivity_of_unknown hs, runActivity_of_unknown (hslots.trans hs)]
  | some slot =>
    rw [runActivity_eq hs, runActivity_eq (hslots.trans hs)]
    simp [preceded]

theorem receive_preceded (f : Fetched) (s : Session) :
    (s.preceded queue log messages).receive f = (s.receive f).preceded queue log messages := by
  have hregistry : (s.preceded queue log messages).registry = s.registry := rfl
  cases ho : f.outcome s.registry with
  | error failure =>
    rw [receive_of_error ho, receive_of_error (hregistry ▸ ho)]
    simp [preceded, report, display, Screen.display, changeSlot]
  | ok a =>
    rw [receive_of_ok ho, receive_of_ok (hregistry ▸ ho)]
    cases a.display with
    | some content => simp [preceded, showActivity, changeSlot, note, enqueue, Screen.draw, Screen.drawnTimes]
    | none => exact runActivity_preceded queue log messages a { s with cache := f.keptIn a s.cache }

theorem unread_preceded : Unread (preceded queue log messages) where
  note effects s := by simp [preceded, note]
  prepare requests s := by
    rw [prepare_eq, prepare_eq, startLoads_eq, startLoads_eq]
    rfl
  receive f s := receive_preceded queue log messages f s

end

end Session

/-! ## Fetching -/

namespace Board

variable {σ : Type} (server : Server σ)

/-- What a load fetches, and the board on which that is then received. -/
def fetched (requests : List LoadRequest) (b : Board σ) : List Fetched × Board σ :=
  fetch server (b.session.prepare requests).1 { b with session := (b.session.prepare requests).2 }

theorem load_eq (requests : List LoadRequest) (b : Board σ) :
    load server requests b = (b.fetched server requests).2.onSession fun s =>
      (b.fetched server requests).1.foldl (fun s f => s.receive f) s := rfl

section
variable {f : Session → Session}

theorem fetch_unread (h : Session.Unread f) : ∀ (prepared : List Prepared) (b : Board σ),
    fetch server prepared (b.onSession f) = ((fetch server prepared b).1, (fetch server prepared b).2.onSession f)
  | [], _ => rfl
  | p :: prepared, b => by
    unfold fetch
    cases p.kept with
    | some source => simp [fetch_unread h prepared]
    | none =>
      have ih := fetch_unread h prepared ⟨b.session.note [.fetched p.url], (server.get p.url b.server).2⟩
      simp only [onSession] at ih ⊢
      simp only [h.note, ih]

theorem load_unread (h : Session.Unread f) (requests : List LoadRequest) (b : Board σ) :
    load server requests (b.onSession f) = (load server requests b).onSession f := by
  have hfetched := fetch_unread server h (b.session.prepare requests).1
    { b with session := (b.session.prepare requests).2 }
  simp only [onSession] at hfetched
  unfold load
  simp only [onSession, h.prepare, hfetched, h.foldl_receive]

end

theorem not_mem_real {requests : List LoadRequest} {other : String} (h : other ∉ requests.map LoadRequest.panel) :
    other ∉ (requests.filter LoadRequest.hasLocator).map LoadRequest.panel := fun hm =>
  h ((List.filter_sublist.map LoadRequest.panel).subset hm)

theorem map_panel_fetch : ∀ (prepared : List Prepared) (b : Board σ),
    (fetch server prepared b).1.map Fetched.panel = prepared.map Prepared.panel
  | [], _ => rfl
  | p :: prepared, b => by
    unfold fetch
    cases p.kept <;> simp [map_panel_fetch prepared]

theorem fetch_session : ∀ (prepared : List Prepared) (b : Board σ),
    (fetch server prepared b).2.session =
      b.session.note ((prepared.filter fun p => p.kept.isNone).map fun p => .fetched p.url)
  | [], b => by simp [fetch, Session.note]
  | p :: prepared, b => by
    unfold fetch
    cases hp : p.kept with
    | some source => simp [fetch_session prepared, hp]
    | none =>
      have h := fetch_session prepared ⟨b.session.note [.fetched p.url], (server.get p.url b.server).2⟩
      rw [Session.note_note] at h
      simpa [hp] using h

theorem fetched_session (requests : List LoadRequest) (b : Board σ) : ∃ log, (b.fetched server requests).2.session =
    { b.session with
      slots := Session.changeEach Slot.startLoading ((requests.filter LoadRequest.hasLocator).map LoadRequest.panel)
        b.session.slots
      log } := by
  unfold fetched
  rw [fetch_session, Session.prepare_eq, Session.startLoads_eq]
  exact ⟨_, rfl⟩

theorem map_panel_fetched (requests : List LoadRequest) (b : Board σ) :
    (b.fetched server requests).1.map Fetched.panel =
      (requests.filter LoadRequest.hasLocator).map LoadRequest.panel := by
  unfold fetched
  rw [map_panel_fetch, Session.prepare_eq, List.map_map]
  rfl

theorem loadFrame_fetched (requests : List LoadRequest) (b : Board σ) :
    b.session.LoadFrame (b.fetched server requests).2.session := by
  obtain ⟨log, h⟩ := fetched_session server requests b
  rw [h]
  exact ⟨Session.map_panel_changeEach Slot.keeps_startLoading _ _,
    rfl, rfl, rfl, rfl, rfl, rfl, rfl, List.prefix_rfl⟩

theorem loadFrame_load (requests : List LoadRequest) (b : Board σ) :
    b.session.LoadFrame (load server requests b).session :=
  (loadFrame_fetched server requests b).trans (Session.loadFrame_foldl_receive _ _)

theorem load_without_locator {r : LoadRequest} (hr : r.hasLocator = false) (b : Board σ) : load server [r] b = b := by
  have hempty : r.locator.isEmpty = true := by simpa [LoadRequest.hasLocator] using hr
  simp [load, Session.prepare, hempty, fetch, onSession]

theorem load_single {r : LoadRequest} (hr : r.hasLocator = true) (b : Board σ) : ∃ (f : Fetched) (s : Session),
    (b.fetched server [r]).1 = [f] ∧ f.panel = r.panel ∧ (load server [r] b).session = s.receive f ∧
      s.slots = Session.changeFirst r.panel Slot.startLoading b.session.slots ∧ s.queue = b.session.queue ∧
      s.registry = b.session.registry := by
  have hreal : [r].filter LoadRequest.hasLocator = [r] := by simp [hr]
  have hpanels := map_panel_fetched server [r] b
  obtain ⟨log, hsession⟩ := fetched_session server [r] b
  rw [hreal] at hpanels hsession
  obtain ⟨f, hf, hp⟩ := List.map_eq_singleton_iff.mp hpanels
  refine ⟨f, (b.fetched server [r]).2.session, hf, hp, ?_, ?_⟩
  · rw [load_eq, hf]
    rfl
  · rw [hsession]
    exact ⟨rfl, rfl, rfl⟩

theorem sameAt_load {requests : List LoadRequest} {other : String} (h : other ∉ requests.map LoadRequest.panel)
    (b : Board σ) : b.session.SameAt other (load server requests b).session := by
  have hreal := not_mem_real h
  have hfetched : b.session.SameAt other (b.fetched server requests).2.session := by
    obtain ⟨log, h⟩ := fetched_session server requests b
    rw [h]
    exact ⟨Session.find?_changeEach Slot.keeps_startLoading hreal _, rfl, rfl, rfl⟩
  exact hfetched.trans (Session.sameAt_foldl_receive _ (map_panel_fetched server requests b ▸ hreal))

end Board

/-! ## The slots of a load

A load for different panels, none of them named twice, comes to each slot at
most once, so what it makes of all slots can be said slot by slot.
-/

def Slot.afterAll (fetched : List Fetched) (r : Registry) (t : Slot) : Slot :=
  match fetched.find? fun f => f.panel = t.name with
  | some f => Slot.after (f.outcome r) t
  | none => t

namespace Session

theorem startLoads_slots : ∀ {panels : List String} {s : Session}, s.names.Nodup → panels.Nodup →
    (s.startLoads panels).slots = s.slots.map fun t => if t.name ∈ panels then t.startLoading else t
  | [], s, _, _ => by simp [startLoads]
  | panel :: panels, s, hn, hp => by
    obtain ⟨hpanel, hp⟩ := List.nodup_cons.mp hp
    have hframe := loadFrame_changeSlot Slot.keeps_startLoading s panel
    rw [startLoads, startLoads_slots (hframe.names ▸ hn) hp]
    simp only [changeSlot]
    rw [changeFirst_eq_map hn, List.map_map]
    apply List.map_congr_left
    intro t _
    by_cases ht : t.name = panel
    · have hstart : t.startLoading.name = panel := ht
      simp [ht, hstart, hpanel]
    · simp [ht]

theorem foldl_receive_slots : ∀ {fetched : List Fetched} {s : Session}, s.names.Nodup →
    (fetched.map Fetched.panel).Nodup →
    (fetched.foldl (fun s f => s.receive f) s).slots = s.slots.map (Slot.afterAll fetched s.registry)
  | [], s, _, _ => by
    have hid : Slot.afterAll [] s.registry = id := rfl
    simp [hid]
  | f :: fetched, s, hn, hp => by
    obtain ⟨hf, hp⟩ := List.nodup_cons.mp hp
    have hframe := loadFrame_receive f s
    rw [List.foldl_cons, foldl_receive_slots (hframe.names ▸ hn) hp, receive_slots, hframe.registry,
      changeFirst_eq_map hn, List.map_map]
    apply List.map_congr_left
    intro t _
    by_cases ht : t.name = f.panel
    -- no other answer is for this panel
    · have hnone : (fetched.find? fun g => g.panel = f.panel) = none := by
        rw [List.find?_eq_none]
        intro g hg
        have hne : g.panel ≠ f.panel := fun e => hf (e ▸ List.mem_map_of_mem hg)
        simpa using hne
      have hafter : (Slot.after (f.outcome s.registry) t).name = f.panel :=
        ((Slot.keeps_after _).name t).trans ht
      simp [Slot.afterAll, ht, hafter, hnone]
    · simp [Slot.afterAll, ht, Ne.symm ht]

end Session

namespace Board

open Session

variable {σ : Type} (server : Server σ)

theorem load_slots {requests : List LoadRequest} {b : Board σ} (hn : b.session.names.Nodup)
    (hp : ((requests.filter LoadRequest.hasLocator).map LoadRequest.panel).Nodup) :
    (load server requests b).session.slots = b.session.slots.map fun t =>
      if t.name ∈ (requests.filter LoadRequest.hasLocator).map LoadRequest.panel then
        t.startLoading.afterAll (b.fetched server requests).1 b.session.registry
      else t := by
  have hframe := loadFrame_fetched server requests b
  have hpanels := map_panel_fetched server requests b
  have hslots : (b.fetched server requests).2.session.slots =
      (b.session.startLoads ((requests.filter LoadRequest.hasLocator).map LoadRequest.panel)).slots := by
    obtain ⟨log, h⟩ := fetched_session server requests b
    rw [h, startLoads_eq]
  rw [load_eq]
  simp only [onSession]
  rw [foldl_receive_slots (hframe.names ▸ hn) (hpanels ▸ hp), hslots, startLoads_slots hn hp, hframe.registry,
    List.map_map]
  apply List.map_congr_left
  intro t _
  by_cases ht : t.name ∈ (requests.filter LoadRequest.hasLocator).map LoadRequest.panel
  · simp [ht]
  · have hnone : ((b.fetched server requests).1.find? fun f => f.panel = t.name) = none := by
      rw [List.find?_eq_none]
      intro f hf
      have hne : f.panel ≠ t.name := fun e => ht (hpanels ▸ e ▸ List.mem_map_of_mem hf)
      simpa using hne
    simp [ht, Slot.afterAll, hnone]

end Board

end Dashboard
