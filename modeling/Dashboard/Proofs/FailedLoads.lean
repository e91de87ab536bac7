import Mathlib
import Dashboard.Proofs.Answers

/-!
# Failed requests of a load

A request that fails puts its panel back as it was and shows one message. Until
then its panel is marked as loading, but neither what the other answers do nor
what their events are answered with depends on that (`receive_unseen`). So a
load comes to the same as the load without them (`failures_isolated`).
-/

namespace Dashboard

/-- A slot without the stage that is kept for a load that fails. -/
def Slot.unmarked (t : Slot) : Slot := { t with priorStage := .empty }

theorem Slot.keeps_unmarked : Slot.Keeps Slot.unmarked := fun _ => rfl

theorem Screen.eq_display {s t : Screen} {messages : List Message} (h : s.clear = t.clear)
    (hm : s.messages = t.messages ++ messages) : s = t.display messages := by
  obtain ⟨panels, drawn, shown, enabled⟩ := s
  simp only [clear, Screen.mk.injEq, true_and] at h
  simp only [display, Screen.mk.injEq]
  exact ⟨h.1, h.2.1, hm, h.2.2⟩

namespace Session

theorem slot?_unmarked (s : Session) (panel : String) : (s.slot? panel).map Slot.unmarked =
    (s.slots.map Slot.unmarked).find? fun t => t.name = panel := by
  rw [List.find?_map]
  rfl

/-! ## Loads that come to nothing -/

/-- Loads that are started in several panels and abandoned in some of these leave only their marks there. -/
theorem abandon_started (p : LoadRequest → Bool) : ∀ {requests : List LoadRequest} (l : List Slot),
    (requests.map LoadRequest.panel).Nodup →
      (changeEach Slot.abandonLoading ((requests.filter p).map LoadRequest.panel)
        (changeEach Slot.startLoading (requests.map LoadRequest.panel) l)).map Slot.unmarked =
      (changeEach Slot.startLoading ((requests.filter fun r => !p r).map LoadRequest.panel) l).map Slot.unmarked
  | [], _, _ => rfl
  | r :: requests, l, h => by
    obtain ⟨hr, hrest⟩ := List.nodup_cons.mp h
    cases hp : p r with
    | false => simpa [hp, changeEach] using abandon_started p (changeFirst r.panel Slot.startLoading l) hrest
    | true =>
      -- the start and the end of this load meet, and what they leave is only a mark
      have hmeet : changeFirst r.panel Slot.abandonLoading
            (changeEach Slot.startLoading (requests.map LoadRequest.panel)
              (changeFirst r.panel Slot.startLoading l)) =
          changeEach Slot.startLoading (requests.map LoadRequest.panel)
            (changeFirst r.panel (fun t => t.startLoading.abandonLoading) l) := by
        rw [← changeEach_changeFirst Slot.keeps_startLoading Slot.keeps_abandonLoading _ hr,
          changeFirst_changeFirst Slot.keeps_startLoading]
      have hmark : (changeFirst r.panel (fun t => t.startLoading.abandonLoading) l).map Slot.unmarked =
          l.map Slot.unmarked := by
        rw [map_changeFirst (f := fun t => t.startLoading.abandonLoading) (g := id) Slot.keeps_unmarked fun _ => rfl,
          changeFirst_id]
      simp only [hp, List.filter_cons, List.map_cons, changeEach, Bool.not_true, if_true,
        Bool.false_eq_true, if_false]
      have hstart := map_changeEach (f := Slot.startLoading) (g := fun t => t.startLoading.unmarked)
        Slot.keeps_unmarked fun _ => rfl
      rw [hmeet, abandon_started p _ hrest, hstart, hmark, ← hstart]

/-! ## What the answers do not see -/

/-- A change of the slots that an activity made in this panel neither sees nor touches. -/
structure Unseen (panel : String) (change : List Slot → List Slot) : Prop where
  panels : ∀ l, (change l).map Slot.panel = l.map Slot.panel
  showing : ∀ a l, change (changeFirst panel (Slot.showing a) l) = changeFirst panel (Slot.showing a) (change l)
  executed : ∀ l, change (changeFirst panel Slot.executed l) = changeFirst panel Slot.executed (change l)
  receivers : ∀ a l, (changeFirst panel (Slot.lentTo a) (change l)).flatMap Slot.activities =
    (changeFirst panel (Slot.lentTo a) l).flatMap Slot.activities

variable {panel : String}

theorem unseen_unmarked (panel : String) : Unseen panel (List.map Slot.unmarked) where
  panels l := by
    rw [List.map_map]
    exact List.map_congr_left fun t _ => rfl
  showing a l := map_changeFirst (f := Slot.showing a) (g := Slot.showing a) Slot.keeps_unmarked (fun _ => rfl) l
  executed l := map_changeFirst (f := Slot.executed) (g := Slot.executed) Slot.keeps_unmarked (fun _ => rfl) l
  receivers a l := by
    rw [← map_changeFirst (f := Slot.lentTo a) Slot.keeps_unmarked (fun _ => rfl), List.flatMap_map]
    rfl

theorem unseen_changeEach {f : Slot → Slot} {panels : List String} (hf : Slot.Keeps f)
    (ha : ∀ t, (f t).activities = t.activities) (h : panel ∉ panels) : Unseen panel (changeEach f panels) where
  panels := map_panel_changeEach hf panels
  showing a l := changeEach_changeFirst hf (Slot.keeps_showing a) l h
  executed l := changeEach_changeFirst hf Slot.keeps_executed l h
  receivers a l := by
    rw [← changeEach_changeFirst hf (Slot.keeps_lentTo a) l h, flatMap_changeEach ha]

theorem Unseen.comp {change next : List Slot → List Slot} (h : Unseen panel change) (hn : Unseen panel next) :
    Unseen panel (next ∘ change) where
  panels l := (hn.panels _).trans (h.panels l)
  showing a l := (congrArg next (h.showing a l)).trans (hn.showing a _)
  executed l := (congrArg next (h.executed l)).trans (hn.executed _)
  receivers a l := (hn.receivers a _).trans (h.receivers a l)

/-- A session without messages and log, after a change of its slots. -/
def seen (change : List Slot → List Slot) (s : Session) : Session :=
  { s with slots := change s.slots, screen := { s.screen with messages := [] }, log := [] }

theorem receive_unseen {f : Fetched} {s : Session} {a : Activity} {change : List Slot → List Slot}
    (h : Unseen f.panel change) (ho : f.outcome s.registry = .ok a) :
    ((s.seen change).receive f).seen id = (s.receive f).seen change := by
  have hpanel : a.panel = f.panel := (outcome_context ho).1
  have ho' : f.outcome (s.seen change).registry = .ok a := ho
  rw [receive_of_ok ho, receive_of_ok ho']
  cases hd : a.display with
  | some content =>
    simp only [showActivity, changeSlot, note, enqueue, seen, hpanel, h.showing]
    rfl
  | none =>
    simp only
    -- the panel is known in both sessions or in neither
    have hnames : (s.seen change).names = s.names := names_congr (h.panels s.slots)
    cases hs : s.slot? f.panel with
    | none =>
      have hs' : (s.seen change).slot? f.panel = none := by rw [← not_mem_names_iff, hnames, not_mem_names_iff, hs]
      rw [runActivity_of_unknown (hpanel ▸ hs'), runActivity_of_unknown (hpanel ▸ hs)]
      rfl
    | some slot =>
      obtain ⟨slot', hs'⟩ := mem_names_iff.mp (hnames ▸ mem_names_iff.mpr ⟨slot, hs⟩)
      rw [runActivity_eq (hpanel ▸ hs'), runActivity_eq (hpanel ▸ hs)]
      simp only [seen, hpanel, h.executed, h.receivers]
      rfl

/-- A session without messages, log and the marks of loads. -/
def core (s : Session) : Session := s.seen (List.map Slot.unmarked)

def abandonEach (panels : List String) (s : Session) : Session :=
  { s with slots := changeEach Slot.abandonLoading panels s.slots }

theorem registry_of_core {s t : Session} (h : s.core = t.core) : s.registry = t.registry :=
  show s.core.registry = t.core.registry from congrArg registry h

theorem receive_core {f : Fetched} {s t : Session} {a : Activity} (h : s.core = t.core)
    (ho : f.outcome s.registry = .ok a) : (s.receive f).core = (t.receive f).core :=
  calc (s.receive f).core
    _ = (s.core.receive f).seen id := (receive_unseen (unseen_unmarked f.panel) ho).symm
    _ = (t.core.receive f).seen id := by rw [h]
    _ = (t.receive f).core := receive_unseen (unseen_unmarked f.panel) (registry_of_core h ▸ ho)

theorem foldl_receive_core : ∀ {fetched : List Fetched} {s t : Session}, s.core = t.core →
    (∀ f ∈ fetched, f.complaint? s.registry = none) →
    (fetched.foldl (fun s f => s.receive f) s).core = (fetched.foldl (fun s f => s.receive f) t).core
  | [], _, _, h, _ => h
  | f :: fetched, s, t, h, hc => by
    obtain ⟨hf, hrest⟩ := List.forall_mem_cons.mp hc
    obtain ⟨a, ho⟩ := Fetched.outcome_of_no_complaint hf
    have hnext : ∀ g ∈ fetched, g.complaint? (s.receive f).registry = none := by
      rwa [(loadFrame_receive f s).registry]
    rw [List.foldl_cons, List.foldl_cons]
    exact foldl_receive_core (receive_core h ho) hnext

theorem receive_abandonEach {f : Fetched} {s : Session} {a : Activity} {panels : List String}
    (ho : f.outcome s.registry = .ok a) (h : f.panel ∉ panels) :
    ((s.receive f).abandonEach panels).core = ((s.abandonEach panels).receive f).core := by
  have hunseen := (unseen_changeEach Slot.keeps_abandonLoading (fun _ => rfl) h).comp (unseen_unmarked f.panel)
  exact (receive_unseen hunseen ho).symm.trans (receive_unseen (s := s.abandonEach panels) (unseen_unmarked f.panel) ho)

/-- The answers that make no activity only end the loads in their panels, at whatever time. -/
theorem foldl_receive_failing : ∀ {fetched : List Fetched} (s : Session), (fetched.map Fetched.panel).Nodup →
    (fetched.foldl (fun s f => s.receive f) s).core =
      ((fetched.filter fun f => (f.complaint? s.registry).isNone).foldl (fun s f => s.receive f)
        (s.abandonEach ((fetched.filter fun f => (f.complaint? s.registry).isSome).map Fetched.panel))).core
  | [], _, _ => rfl
  | f :: fetched, s, h => by
    obtain ⟨hf, hrest⟩ := List.nodup_cons.mp h
    have hgood : ∀ g ∈ fetched.filter (fun f => (f.complaint? s.registry).isNone), g.complaint? s.registry = none :=
      fun g hg => by simpa using (List.mem_filter.mp hg).2
    have ih := foldl_receive_failing (s.receive f) hrest
    rw [(loadFrame_receive f s).registry] at ih
    rw [List.foldl_cons, ih]
    cases hc : f.complaint? s.registry with
    | none =>
      obtain ⟨a, ho⟩ := Fetched.outcome_of_no_complaint hc
      have hother : f.panel ∉ (fetched.filter fun f => (f.complaint? s.registry).isSome).map Fetched.panel :=
        fun hm => hf ((List.filter_sublist.map Fetched.panel).subset hm)
      simp only [List.filter_cons, hc, Option.isNone_none, Option.isSome_none, if_true, Bool.false_eq_true, if_false,
        List.foldl_cons]
      refine foldl_receive_core (receive_abandonEach ho hother) ?_
      rwa [show ((s.receive f).abandonEach _).registry = s.registry from (loadFrame_receive f s).registry]
    | some message =>
      simp only [List.filter_cons, hc, Option.isNone_some, Option.isSome_some, if_true, Bool.false_eq_true, if_false,
        List.map_cons]
      rw [receive_of_complaint hc]
      exact foldl_receive_core rfl hgood

end Session

/-! ## Servers with one answer for each address -/

namespace Session

/-- What a request brings when the server answers each address in one way. -/
def answered (answer : String → Except Refusal String) (s : Session) (r : LoadRequest) : Fetched :=
  ⟨r.panel, s.address r, match s.cache.find? (s.address r) with
    | some text => .ok (text, true)
    | none => (answer (s.address r)).map (·, false)⟩

/-- Why a request makes no activity, if it does not. -/
def failure? (answer : String → Except Refusal String) (s : Session) (r : LoadRequest) : Option Failure :=
  if r.hasLocator then
    match (s.answered answer r).outcome s.registry with
    | .ok _ => none
    | .error failure => some failure
  else none

section
variable {answer : String → Except Refusal String} {s : Session}

theorem failure?_of_refused {r : LoadRequest} {refusal : Refusal} (hr : r.hasLocator = true)
    (hc : s.cache.find? (s.address r) = none) (h : answer (s.address r) = .error refusal) :
    s.failure? answer r = some (.refused refusal) := by
  simp [failure?, hr, answered, hc, h, Fetched.outcome, Except.map]

theorem failure?_of_made {r : LoadRequest} {text : String} {a : Activity}
    (hc : s.cache.find? (s.address r) = none) (h : answer (s.address r) = .ok text)
    (ha : s.registry.activity r.panel (s.address r) text = .ok a) : s.failure? answer r = none := by
  simp [failure?, answered, hc, h, Fetched.outcome, Except.map, ha]

theorem complaint?_answered {r : LoadRequest} (h : r.hasLocator = true) :
    (s.answered answer r).complaint? s.registry = (s.failure? answer r).map Failure.message := by
  unfold Fetched.complaint? failure?
  rw [if_pos h]
  cases (s.answered answer r).outcome s.registry <;> rfl

theorem filter_answered (requests : List LoadRequest) :
    ((requests.filter LoadRequest.hasLocator).map (s.answered answer)).filter
        (fun f => (f.complaint? s.registry).isNone) =
      ((requests.filter fun r => (s.failure? answer r).isNone).filter LoadRequest.hasLocator).map
        (s.answered answer) := by
  rw [List.filter_map, List.filter_filter, List.filter_filter]
  congr 1
  apply List.filter_congr
  intro r _
  cases hr : r.hasLocator with
  | false => simp
  | true => simp [complaint?_answered hr]

theorem filter_failing (requests : List LoadRequest) :
    (((requests.filter LoadRequest.hasLocator).map (s.answered answer)).filter
        fun f => (f.complaint? s.registry).isSome).map Fetched.panel =
      ((requests.filter LoadRequest.hasLocator).filter fun r => (s.failure? answer r).isSome).map
        LoadRequest.panel := by
  rw [List.filter_map, List.map_map]
  have hfilter : (requests.filter LoadRequest.hasLocator).filter
        ((fun f => (f.complaint? s.registry).isSome) ∘ s.answered answer) =
      (requests.filter LoadRequest.hasLocator).filter fun r => (s.failure? answer r).isSome := by
    apply List.filter_congr
    intro r hr
    simp [complaint?_answered (List.mem_filter.mp hr).2]
  rw [hfilter]
  rfl

theorem complaints_answered (requests : List LoadRequest) :
    ((requests.filter LoadRequest.hasLocator).map (s.answered answer)).filterMap (Fetched.complaint? s.registry) =
      (requests.filterMap (s.failure? answer)).map Failure.message := by
  rw [List.filterMap_map, List.filterMap_filter, List.map_filterMap]
  congr 1
  funext r
  cases hr : r.hasLocator with
  | false => simp [failure?, hr]
  | true => simp [complaint?_answered hr]

end

end Session

namespace Board

open Session

section
variable {σ : Type} {server : Server σ} {answer : String → Except Refusal String}

theorem fetched_of_steady (hsteady : ∀ url state, (server.get url state).1 = answer url) (requests : List LoadRequest)
    (b : Board σ) :
    (b.fetched server requests).1 = (requests.filter LoadRequest.hasLocator).map (b.session.answered answer) := by
  symm
  rw [← List.forall₂_eq_eq_eq, List.forall₂_map_left_iff]
  refine (fetched_answers server requests b).imp ?_
  rintro r ⟨panel, url, source⟩ ⟨hpanel, hurl, hkept, hasked⟩
  unfold answered
  simp only at hpanel hurl hkept hasked
  subst hpanel hurl
  cases hc : b.session.cache.find? (b.session.address r) with
  | some text => simp [hkept hc]
  | none =>
    obtain ⟨state, h⟩ := hasked hc
    simp [h, hsteady]

theorem load_core (hsteady : ∀ url state, (server.get url state).1 = answer url) {requests : List LoadRequest}
    (b : Board σ) (hp : (requests.map LoadRequest.panel).Nodup) :
    (load server requests b).session.core =
      (load server (requests.filter fun r => (b.session.failure? answer r).isNone) b).session.core := by
  let good := requests.filter fun r => (b.session.failure? answer r).isNone
  have hreal : ((requests.filter LoadRequest.hasLocator).map LoadRequest.panel).Nodup :=
    hp.sublist (List.filter_sublist.map _)
  have hstarted : good.filter LoadRequest.hasLocator =
      (requests.filter LoadRequest.hasLocator).filter fun r => !(b.session.failure? answer r).isSome := by
    simp only [good, List.filter_filter, Option.not_isSome, Bool.and_comm]
  have hregistry := (loadFrame_fetched server requests b).registry
  obtain ⟨log, hall⟩ := fetched_session server requests b
  obtain ⟨log', hrest⟩ := fetched_session server good b
  have hgood : ∀ f ∈ (b.fetched server good).1, f.complaint? b.session.registry = none := by
    rw [fetched_of_steady hsteady, ← filter_answered]
    intro f hf
    simpa using (List.mem_filter.mp hf).2
  rw [load_eq, load_eq]
  refine (foldl_receive_failing _ (map_panel_fetched server requests b ▸ hreal)).trans ?_
  rw [hregistry, fetched_of_steady hsteady, filter_answered, filter_failing, ← fetched_of_steady hsteady]
  refine foldl_receive_core ?_ ?_
  · have hslots := abandon_started (fun r => (b.session.failure? answer r).isSome) b.session.slots hreal
    rw [hall, hrest, hstarted]
    simp only [abandonEach, core, seen, hslots]
  · rwa [show ((b.fetched server requests).2.session.abandonEach _).registry = b.session.registry from hregistry]

/-- The requests that fail, in a load for different panels from a server that answers each address in one way,
leave no trace but their messages. -/
theorem failures_isolated (hsteady : ∀ url state, (server.get url state).1 = answer url) {requests : List LoadRequest}
    (b : Board σ) (hp : (requests.map LoadRequest.panel).Nodup) :
    let failure? := b.session.failure? answer
    let all := (load server requests b).session
    let rest := (load server (requests.filter fun r => (failure? r).isNone) b).session
    all.slots.map Slot.unmarked = rest.slots.map Slot.unmarked ∧ all.waiting = rest.waiting ∧
      all.cache = rest.cache ∧ all.queue = rest.queue ∧ all.history = rest.history ∧ all.undo = rest.undo ∧
      all.screen = rest.screen.display ((requests.filterMap failure?).map Failure.message) ∧
      ∀ r ∈ requests, (failure? r).isSome →
        (all.slot? r.panel).map Slot.unmarked = (b.session.slot? r.panel).map Slot.unmarked := by
  intro failure? all rest
  have hcore : all.core = rest.core := load_core hsteady b hp
  have hmessages : all.screen.messages =
      rest.screen.messages ++ (requests.filterMap failure?).map Failure.message := by
    have hnone : (requests.filter fun r => (failure? r).isNone).filterMap failure? = [] :=
      List.filterMap_eq_nil_iff.mpr fun r hr => by simpa using (List.mem_filter.mp hr).2
    rw [load_messages, load_messages, fetched_of_steady hsteady, fetched_of_steady hsteady, complaints_answered,
      complaints_answered, hnone, List.map_nil, List.append_nil]
  simp only [core, seen, Session.mk.injEq] at hcore
  obtain ⟨-, -, -, hslots, -, hwaiting, hcache, hhistory, hundo, hscreen, -, hqueue, -⟩ := hcore
  refine ⟨hslots, hwaiting, hcache, hqueue, hhistory, hundo, Screen.eq_display hscreen hmessages, ?_⟩
  intro r hr hfail
  -- no request of the load without the failed ones is for this panel
  have hother : r.panel ∉ (requests.filter fun r => (failure? r).isNone).map LoadRequest.panel := by
    intro hm
    obtain ⟨r', hr', he⟩ := List.mem_map.mp hm
    obtain ⟨hmem, hnone⟩ := List.mem_filter.mp hr'
    obtain rfl : r' = r := List.inj_on_of_nodup_map hp hmem hr he
    simp [Option.isNone_iff_eq_none.mp hnone] at hfail
  rw [slot?_unmarked, hslots, ← slot?_unmarked, (sameAt_load server hother b).slot]

end

/-- One panel is refused its load, and in another one an activity executes. -/
theorem failures_isolated_of_refusal :
    let first := Session.new .default .builtin
    let refused : LoadRequest := ⟨"A", "/x", []⟩
    let executed : LoadRequest := ⟨"B", "/y", []⟩
    let answer := fun url => if url = first.address refused then .error (.status url 503 "Busy")
      else .ok "\x7b\"execute\":\"dashboard.finished\"\x7d"
    let server : Server Unit := ⟨fun url state => (answer url, state), fun url _ state => (answer url, state)⟩
    let b := (⟨first, ()⟩ : Board _).start server (.definePanels [⟨"A", ""⟩, ⟨"B", ""⟩])
    let all := (load server [refused, executed] b).session
    let rest := (load server [executed] b).session
    (∀ url state, (server.get url state).1 = answer url) ∧ ["A", "B"].Nodup ∧
      all.slots.map Slot.unmarked = rest.slots.map Slot.unmarked ∧ all.queue = rest.queue ∧
      all.screen = rest.screen.display [(Failure.refused (.status (first.address refused) 503 "Busy")).message] := by
  intro first refused executed answer server b all rest
  have hrefused : b.session.failure? answer refused = some (.refused (.status (first.address refused) 503 "Busy")) :=
    failure?_of_refused rfl rfl (if_pos rfl)
  have hexecuted : b.session.failure? answer executed = none := by
    have hread : Definition.ofText "\x7b\"execute\":\"dashboard.finished\"\x7d" =
        .ok ⟨none, some "dashboard.finished", none, none, none, none, false, .null⟩ := by cbv
    have ha := activity_of_text (r := .builtin) hread rfl "B" (b.session.address executed)
    exact failure?_of_made rfl (if_neg (by decide +kernel)) ha
  have hsteady : ∀ url state, (server.get url state).1 = answer url := fun _ _ => rfl
  have hdistinct : ([refused, executed].map LoadRequest.panel).Nodup := by decide
  obtain ⟨hslots, -, -, hqueue, -, -, hscreen, -⟩ := failures_isolated hsteady b hdistinct
  simp only [List.filter_cons, hexecuted, hrefused, List.filterMap_cons, List.filter_nil, List.filterMap_nil]
    at hslots hqueue hscreen
  exact ⟨hsteady, by decide, hslots, hqueue, hscreen⟩

end Board

end Dashboard
