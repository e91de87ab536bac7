import Mathlib.Data.List.Forall2
import Dashboard.Proofs.Runs

/-!
# The answers of a load

Each request with a locator is answered in its place: from the cache when the
key of its address is kept there as the load begins, else by the server
(`fetched_answers`). Nothing else is asked of the server (`load_gets`). A trace
is a run together with the answers that its deeds have brought.
-/

namespace Dashboard

theorem forall₂_filterMap {α β : Type} {R : α → β → Prop} {f : α → Option β} : ∀ {l : List α},
    (∀ a ∈ l, ∃ b, f a = some b ∧ R a b) → List.Forall₂ R l (l.filterMap f)
  | [], _ => .nil
  | a :: l, h => by
    obtain ⟨b, hb, hr⟩ := h a (by simp)
    rw [List.filterMap_cons_some hb]
    exact .cons hr (forall₂_filterMap fun a ha => h a (List.mem_cons_of_mem _ ha))

/-! ## Requests and their answers -/

section
variable {σ : Type} (server : Server σ)

/-- An answer to a request that was ready to be sent in this session. -/
structure Fetched.Answers (s : Session) (r : LoadRequest) (f : Fetched) : Prop where
  panel : f.panel = r.panel
  url : f.url = s.address r
  kept : ∀ {text}, s.cache.find? (s.address r) = some text → f.source = .ok (text, true)
  asked : s.cache.find? (s.address r) = none →
    ∃ state, f.source = (server.get (s.address r) state).1.map (·, false)

theorem fetch_answers (s : Session) : ∀ (requests : List LoadRequest) (b : Board σ),
    List.Forall₂ (Fetched.Answers server s) requests (Board.fetch server (requests.map s.ready) b).1
  | [], _ => .nil
  | r :: requests, b => by
    rw [List.map_cons, Board.fetch]
    cases hk : (s.ready r).kept with
    | some text =>
      have hfind : s.cache.find? (s.address r) = some text := hk
      refine .cons ⟨rfl, rfl, fun h => ?_, fun h => ?_⟩ (fetch_answers s requests b)
      · rw [hfind] at h
        rw [Option.some.inj h]
      · rw [hfind] at h
        cases h
    | none =>
      have hfind : s.cache.find? (s.address r) = none := hk
      refine .cons ⟨rfl, rfl, fun h => ?_, fun _ => ⟨b.server, rfl⟩⟩ (fetch_answers s requests _)
      rw [hfind] at h
      cases h

theorem Board.fetched_answers (requests : List LoadRequest) (b : Board σ) :
    List.Forall₂ (Fetched.Answers server b.session) (requests.filter LoadRequest.hasLocator)
      (b.fetched server requests).1 := by
  unfold Board.fetched
  rw [Session.prepare_eq]
  exact fetch_answers server b.session _ _

theorem Board.request_of_fetched {requests : List LoadRequest} {b : Board σ} {f : Fetched}
    (hf : f ∈ (b.fetched server requests).1) :
    ∃ r ∈ requests, r.hasLocator = true ∧ f.Answers server b.session r := by
  obtain ⟨i, hi, rfl⟩ := List.getElem_of_mem hf
  have h := Board.fetched_answers server requests b
  have hr : i < (requests.filter LoadRequest.hasLocator).length := h.length_eq ▸ hi
  obtain ⟨hm, hl⟩ := List.mem_filter.mp (List.getElem_mem hr)
  exact ⟨_, hm, hl, h.get hr hi⟩

end

/-! ## What the server is asked -/

def Effect.fetched? : Effect → Option String
  | .fetched url => some url
  | _ => none

theorem fetched?_calls (a : Activity) (capability : Capability) (event : Option Event) :
    (a.calls capability event).filterMap Effect.fetched? = [] := by
  unfold Activity.calls
  split <;> rfl

theorem fetched?_deliveries (events : List Event) (receivers : List Activity) :
    (events.flatMap fun e => receivers.flatMap fun a => a.calls .handleEvent (some e)).filterMap Effect.fetched? =
      [] := by
  rw [List.filterMap_eq_nil_iff]
  intro effect he
  obtain ⟨e, -, he⟩ := List.mem_flatMap.mp he
  obtain ⟨a, -, he⟩ := List.mem_flatMap.mp he
  exact List.filterMap_eq_nil_iff.mp (fetched?_calls a .handleEvent (some e)) effect he

namespace Session

/-- The addresses that the server has been asked for, the last one last. -/
def gets (s : Session) : List String := s.log.filterMap Effect.fetched?

theorem gets_showActivity (a : Activity) (content : Json) (s : Session) : (s.showActivity a content).gets = s.gets := by
  simp only [gets, showActivity, changeSlot, note, enqueue, List.filterMap_append, fetched?_calls, List.append_nil]

theorem gets_runActivity (a : Activity) (s : Session) : (s.runActivity a).gets = s.gets := by
  cases hs : s.slot? a.panel with
  | none => rw [runActivity_of_unknown hs]
  | some slot =>
    rw [runActivity_eq hs]
    simp only [gets, List.filterMap_append, fetched?_calls, fetched?_deliveries, List.append_nil]

theorem gets_receive (f : Fetched) (s : Session) : (s.receive f).gets = s.gets := by
  cases ho : f.outcome s.registry with
  | error failure =>
    rw [receive_of_error ho]
    rfl
  | ok a =>
    rw [receive_of_ok ho]
    cases a.display with
    | some content => exact gets_showActivity a content _
    | none => exact gets_runActivity a _

theorem gets_foldl_receive : ∀ (fetched : List Fetched) (s : Session),
    (fetched.foldl (fun s f => s.receive f) s).gets = s.gets
  | [], _ => rfl
  | f :: fetched, s => (gets_foldl_receive fetched (s.receive f)).trans (gets_receive f s)

/-- The requests that a load puts to the server. -/
def asks (s : Session) (requests : List LoadRequest) : List LoadRequest :=
  (requests.filter LoadRequest.hasLocator).filter fun r => (s.cache.find? (s.address r)).isNone

end Session

theorem Board.load_gets {σ : Type} (server : Server σ) (requests : List LoadRequest) (b : Board σ) :
    (Board.load server requests b).session.gets =
      b.session.gets ++ (b.session.asks requests).map b.session.address := by
  rw [Board.load_eq]
  refine (Session.gets_foldl_receive _ _).trans ?_
  unfold Board.fetched
  rw [Board.fetch_session, Session.prepare_eq]
  simp only [Session.gets, Session.note, Session.startLoads_eq, List.filterMap_append, List.filter_map, List.map_map,
    List.filterMap_map, Session.asks]
  rw [← List.filterMap_eq_map]
  rfl

/-! ## Complaints -/

/-- The message that an answer comes to when it makes no activity. -/
def Fetched.complaint? (r : Registry) (f : Fetched) : Option Message :=
  match f.outcome r with
  | .ok _ => none
  | .error failure => some failure.message

theorem Fetched.outcome_of_no_complaint {r : Registry} {f : Fetched} (h : f.complaint? r = none) :
    ∃ a, f.outcome r = .ok a := by
  unfold Fetched.complaint? at h
  cases ho : f.outcome r with
  | ok a => exact ⟨a, rfl⟩
  | error failure => rw [ho] at h; cases h

namespace Session

theorem receive_of_complaint {f : Fetched} {s : Session} {message : Message}
    (h : f.complaint? s.registry = some message) :
    s.receive f = (s.changeSlot f.panel Slot.abandonLoading).display [message] := by
  unfold Fetched.complaint? at h
  cases ho : f.outcome s.registry with
  | ok a => rw [ho] at h; cases h
  | error failure =>
    rw [ho] at h
    obtain rfl := Option.some.inj h
    exact receive_of_error ho

theorem receive_messages (f : Fetched) (s : Session) :
    (s.receive f).screen.messages = s.screen.messages ++ (f.complaint? s.registry).toList := by
  cases hc : f.complaint? s.registry with
  | some message =>
    rw [receive_of_complaint hc]
    rfl
  | none =>
    obtain ⟨a, ho⟩ := Fetched.outcome_of_no_complaint hc
    rw [receive_of_ok ho, Option.toList_none, List.append_nil]
    cases a.display with
    | some content => rfl
    | none => exact congrArg Screen.messages (runActivity_screen a _)

theorem foldl_receive_messages : ∀ (fetched : List Fetched) (s : Session),
    (fetched.foldl (fun s f => s.receive f) s).screen.messages =
      s.screen.messages ++ fetched.filterMap (Fetched.complaint? s.registry)
  | [], s => (List.append_nil _).symm
  | f :: fetched, s => by
    rw [List.foldl_cons, foldl_receive_messages fetched, receive_messages, (loadFrame_receive f s).registry,
      List.append_assoc]
    congr 1
    cases hf : f.complaint? s.registry <;> simp [hf]

end Session

theorem Board.load_messages {σ : Type} (server : Server σ) (requests : List LoadRequest) (b : Board σ) :
    (Board.load server requests b).session.screen.messages =
      b.session.screen.messages ++
        (b.fetched server requests).1.filterMap (Fetched.complaint? b.session.registry) := by
  have hframe := Board.loadFrame_fetched server requests b
  have hscreen : (b.fetched server requests).2.session.screen = b.session.screen := by
    obtain ⟨log, h⟩ := Board.fetched_session server requests b
    rw [h]
  rw [Board.load_eq]
  refine (Session.foldl_receive_messages _ _).trans ?_
  rw [hscreen, hframe.registry]

/-! ## Traces -/

/-- A deed that was done, and what its load brought. -/
structure Done where
  deed : Deed
  brought : List Fetched

/-- The address and the text of a definition that came from the server. -/
def Fetched.got? (f : Fetched) : Option (String × String) :=
  match f.source with
  | .ok (text, false) => some (f.url, text)
  | _ => none

/-- The definitions that GETs brought, with the addresses that they were asked from. -/
def Done.got (done : List Done) : List (String × String) := done.flatMap fun d => d.brought.filterMap Fetched.got?

section
variable {σ : Type} (server : Server σ)

/-- Runs that keep what was brought. -/
inductive Trace (first : Board σ) : List Done → Board σ → Prop
  | refl : Trace first [] first
  | next {done : List Done} {b b' : Board σ} {d : Deed} (trace : Trace first done b) (due : d.Due b b') :
    Trace first (done ++ [⟨d, (d.fetches server b').1⟩]) (d.perform server b')

variable {server} {first b : Board σ} {done : List Done}

theorem Trace.run (trace : Trace server first done b) : Run server first (done.map Done.deed) b := by
  induction trace with
  | refl => exact .refl
  | next trace due ih =>
    rw [List.map_append]
    exact ih.next due

theorem Run.trace {deeds : List Deed} (run : Run server first deeds b) :
    ∃ done, done.map Done.deed = deeds ∧ Trace server first done b := by
  induction run with
  | refl => exact ⟨[], rfl, .refl⟩
  | next run due ih =>
    obtain ⟨done, rfl, trace⟩ := ih
    exact ⟨_, by rw [List.map_append]; rfl, trace.next due⟩

theorem Done.got_concat (done : List Done) (d : Done) :
    Done.got (done ++ [d]) = Done.got done ++ d.brought.filterMap Fetched.got? := by
  simp [Done.got]

theorem Fetched.got?_eq_some_iff {f : Fetched} {url text : String} :
    f.got? = some (url, text) ↔ f.url = url ∧ f.source = .ok (text, false) := by
  unfold Fetched.got?
  split <;> simp_all

theorem Fetched.Answers.fresh {s : Session} {r : LoadRequest} {f : Fetched} (h : f.Answers server s r) {text : String}
    {fromCache : Bool} (hk : s.cache.find? (s.address r) = none) (hs : f.source = .ok (text, fromCache)) :
    fromCache = false := by
  obtain ⟨state, he⟩ := h.asked hk
  cases ha : (server.get (s.address r) state).1 <;> rw [he, ha] at hs <;> cases hs
  rfl

theorem Fetched.Answers.sent {s : Session} {r : LoadRequest} {f : Fetched} (h : f.Answers server s r) {text : String}
    (hs : f.source = .ok (text, false)) : ∃ state, (server.get f.url state).1 = .ok text := by
  cases hk : s.cache.find? (s.address r) with
  | some kept =>
    rw [h.kept hk] at hs
    cases hs
  | none =>
    obtain ⟨state, he⟩ := h.asked hk
    refine ⟨state, ?_⟩
    rw [h.url]
    cases ha : (server.get (s.address r) state).1 <;> rw [he, ha] at hs <;> cases hs
    rfl

theorem Trace.sent (trace : Trace server first done b) {url text : String} (h : (url, text) ∈ Done.got done) :
    ∃ state, (server.get url state).1 = .ok text := by
  induction trace with
  | refl => cases h
  | @next done b b' d trace due ih =>
    rw [Done.got_concat] at h
    rcases List.mem_append.mp h with h | h
    · exact ih h
    · obtain ⟨f, hf, hgot⟩ := List.mem_filterMap.mp h
      obtain ⟨rfl, hs⟩ := Fetched.got?_eq_some_iff.mp hgot
      obtain ⟨r, -, -, hr⟩ := Board.request_of_fetched server hf
      exact hr.sent hs

end

end Dashboard
