import Mathlib
import Dashboard.Proofs.Answers

/-!
# What the cache holds

A definition makes an activity whichever panel and address it is for, or for
none. So what is kept is of use to every later request with its key, and since
such a request is not put to the server, nothing kept is ever replaced
(`cache_sound_and_lasting`).
-/

namespace Dashboard

/-! ## Definitions -/

/-- A definition that makes an activity for every panel and address, and asks to be kept. -/
def Registry.Reuses (r : Registry) (text : String) : Prop :=
  ∀ panel url, ∃ a, r.activity panel url text = .ok a ∧ a.cached = true

/-- Panel and address of an activity come from its request, and all else from its definition. -/
theorem activity_elsewhere {r : Registry} {panel url text : String} {a : Activity}
    (h : r.activity panel url text = .ok a) (panel' url' : String) :
    r.activity panel' url' text = .ok { a with context := ⟨panel', url', a.context.data⟩ } := by
  obtain ⟨d, c, hd, hc, rfl⟩ := activity_eq_ok_iff.mp h
  exact activity_eq_ok_iff.mpr ⟨d, c, hd, hc, rfl⟩

theorem reuses_of_activity {r : Registry} {panel url text : String} {a : Activity}
    (h : r.activity panel url text = .ok a) (ha : a.cached = true) : r.Reuses text :=
  fun panel' url' => ⟨_, activity_elsewhere h panel' url', ha⟩

/-! ## Soundness -/

/-- All that is kept came from an address with its key, and can be used again. -/
def Cache.Sound (r : Registry) (got : List (String × String)) (c : Cache) : Prop :=
  ∀ key text, c.get? key = some text → (∃ url, (url, text) ∈ got ∧ Cache.key url = key) ∧ r.Reuses text

theorem Cache.Sound.mono {r : Registry} {got more : List (String × String)} {c : Cache} (h : c.Sound r got)
    (hmore : got ⊆ more) : c.Sound r more := by
  intro key text hk
  obtain ⟨⟨url, hm, hu⟩, hr⟩ := h key text hk
  exact ⟨⟨url, hmore hm, hu⟩, hr⟩

theorem Cache.get?_keep (c : Cache) (url text key : String) :
    (c.keep url text).get? key = if key = Cache.key url then some text else c.get? key :=
  Dict.get?_insert c (Cache.key url) text key

theorem Cache.Sound.keep {r : Registry} {got : List (String × String)} {c : Cache} {url text : String}
    (h : c.Sound r got) (hm : (url, text) ∈ got) (hr : r.Reuses text) : (c.keep url text).Sound r got := by
  intro key text' hk
  rw [Cache.get?_keep] at hk
  by_cases he : key = Cache.key url
  · rw [if_pos he] at hk
    obtain rfl := Option.some.inj hk
    exact ⟨⟨url, hm, he.symm⟩, hr⟩
  · rw [if_neg he] at hk
    exact h key text' hk

namespace Session

theorem receive_cache_of_ok {f : Fetched} {s : Session} {a : Activity} (h : f.outcome s.registry = .ok a) :
    (s.receive f).cache = f.keptIn a s.cache := by
  rw [receive_of_ok h]
  cases a.display with
  | some content => rfl
  | none => exact runActivity_cache a _

theorem receive_kept {f : Fetched} {s : Session} {a : Activity} {text : String} (ho : f.outcome s.registry = .ok a)
    (hf : f.source = .ok (text, false)) (hc : a.cached = true) :
    (s.receive f).cache.get? (Cache.key f.url) = some text := by
  have hkeep : f.keptIn a s.cache = s.cache.keep f.url text := by simp [Fetched.keptIn, hf, hc]
  rw [receive_cache_of_ok ho, hkeep, Cache.get?_keep, if_pos rfl]

theorem receive_cache (f : Fetched) (s : Session) : (s.receive f).cache = s.cache ∨
    ∃ text, f.source = .ok (text, false) ∧ s.registry.Reuses text ∧
      (s.receive f).cache = s.cache.keep f.url text := by
  cases ho : f.outcome s.registry with
  | error failure =>
    rw [receive_of_error ho]
    exact Or.inl rfl
  | ok a =>
    rw [receive_cache_of_ok ho]
    obtain ⟨text, fromCache, hf, hmade⟩ := outcome_eq_ok_iff.mp ho
    simp only [Fetched.keptIn, hf]
    cases hk : a.cached && !fromCache with
    | false => exact Or.inl rfl
    | true =>
      obtain ⟨ha, rfl⟩ : a.cached = true ∧ fromCache = false := by simpa using hk
      exact Or.inr ⟨text, rfl, reuses_of_activity hmade ha, rfl⟩

theorem sound_receive {got : List (String × String)} {s : Session} (h : s.cache.Sound s.registry got) (f : Fetched) :
    (s.receive f).cache.Sound (s.receive f).registry (got ++ f.got?.toList) := by
  rw [(loadFrame_receive f s).registry]
  have hmore := h.mono (List.subset_append_left got f.got?.toList)
  rcases receive_cache f s with hc | ⟨text, hf, hr, hc⟩
  · rw [hc]
    exact hmore
  · rw [hc]
    refine hmore.keep (List.mem_append_right got ?_) hr
    simp [Fetched.got?, hf]

theorem sound_foldl_receive : ∀ (fetched : List Fetched) {got : List (String × String)} {s : Session},
    s.cache.Sound s.registry got →
      (fetched.foldl (fun s f => s.receive f) s).cache.Sound s.registry (got ++ fetched.filterMap Fetched.got?)
  | [], got, s, h => by simpa using h
  | f :: fetched, got, s, h => by
    have hrest := sound_foldl_receive fetched (sound_receive h f)
    rw [(loadFrame_receive f s).registry, List.append_assoc] at hrest
    refine hrest.mono fun e he => ?_
    cases hg : f.got? <;> simpa [hg] using he

theorem foldl_receive_keeps {key text : String} : ∀ (fetched : List Fetched) (s : Session),
    (∀ f ∈ fetched, ∀ t, f.source = .ok (t, false) → Cache.key f.url ≠ key) →
    s.cache.get? key = some text →
      (fetched.foldl (fun s f => s.receive f) s).cache.get? key = some text
  | [], _, _, h => h
  | f :: fetched, s, hf, h => by
    obtain ⟨hfirst, hrest⟩ := List.forall_mem_cons.mp hf
    refine foldl_receive_keeps fetched (s.receive f) hrest ?_
    rcases receive_cache f s with hc | ⟨t, ht, -, hc⟩
    · rw [hc]
      exact h
    · rw [hc, Cache.get?_keep, if_neg (Ne.symm (hfirst t ht))]
      exact h

end Session

/-! ## Loads and runs -/

section
variable {σ : Type} (server : Server σ)

theorem Board.fetched_cache (requests : List LoadRequest) (b : Board σ) :
    (b.fetched server requests).2.session.cache = b.session.cache := by
  obtain ⟨log, h⟩ := Board.fetched_session server requests b
  rw [h]

theorem Board.load_sound {got : List (String × String)} {b : Board σ}
    (h : b.session.cache.Sound b.session.registry got)
    (requests : List LoadRequest) : (Board.load server requests b).session.cache.Sound b.session.registry
      (got ++ (b.fetched server requests).1.filterMap Fetched.got?) := by
  rw [Board.load_eq, ← (Board.loadFrame_fetched server requests b).registry]
  refine Session.sound_foldl_receive _ ?_
  rw [Board.fetched_cache, (Board.loadFrame_fetched server requests b).registry]
  exact h

theorem Board.load_keeps {key text : String} {b : Board σ} (h : b.session.cache.get? key = some text)
    (requests : List LoadRequest) : (Board.load server requests b).session.cache.get? key = some text := by
  rw [Board.load_eq]
  refine Session.foldl_receive_keeps _ _ (fun f hf t ht he => ?_) (Board.fetched_cache server requests b ▸ h)
  -- an answer with this key would have been asked for, but such a request is answered from the cache
  obtain ⟨r, -, -, hr⟩ := Board.request_of_fetched server hf
  have hkept : b.session.cache.find? (b.session.address r) = some text := by
    rw [← hr.url, Cache.find?, he]
    exact h
  rw [hr.kept hkept] at ht
  cases ht

theorem Deed.perform_keeps {key text : String} {b : Board σ} (d : Deed) (h : b.session.cache.get? key = some text) :
    (d.perform server b).session.cache.get? key = some text := by
  rw [Deed.perform_eq_load]
  refine Board.load_keeps server ?_ _
  rw [(d.plan_store server b).1]
  exact h

variable {server} {first b : Board σ}

theorem Trace.sound {done : List Done} (trace : Trace server first done b)
    (h : first.session.cache.Sound first.session.registry []) :
    b.session.cache.Sound b.session.registry (Done.got done) := by
  induction trace with
  | refl => exact h
  | @next done b b' d trace due ih =>
    have hplan : (d.plan server b').2.session.cache.Sound (d.plan server b').2.session.registry (Done.got done) := by
      rw [(d.plan_store server b').1, (d.plan_store server b').2.1, due.cache, due.registry]
      exact ih
    have hload := Board.load_sound server hplan (d.plan server b').1
    rw [(d.plan_store server b').2.1] at hload
    rw [Done.got_concat, Deed.perform_registry, Deed.perform_eq_load]
    exact hload

theorem Trace.got_of_answer {done : List Done} (trace : Trace server first done b)
    (h : first.session.cache.Sound first.session.registry []) {d : Deed} {taken : Board σ} (due : d.Due b taken)
    {f : Fetched} (hf : f ∈ (d.fetches server taken).1) {text : String} {fromCache : Bool}
    (hs : f.source = .ok (text, fromCache)) :
    ∃ url, (url, text) ∈ Done.got (done ++ [⟨d, (d.fetches server taken).1⟩]) := by
  rw [Done.got_concat]
  obtain ⟨r, -, -, hr⟩ := Board.request_of_fetched server hf
  cases hk : (d.plan server taken).2.session.cache.find? ((d.plan server taken).2.session.address r) with
  | some kept =>
    obtain rfl : kept = text := by
      rw [hr.kept hk] at hs
      cases hs
      rfl
    rw [(d.plan_store server taken).1, due.cache] at hk
    obtain ⟨⟨url, hm, -⟩, -⟩ := trace.sound h _ _ hk
    exact ⟨url, List.mem_append_left _ hm⟩
  | none =>
    obtain rfl : fromCache = false := hr.fresh hk hs
    exact ⟨f.url,
      List.mem_append_right _ (List.mem_filterMap.mpr ⟨f, hf, Fetched.got?_eq_some_iff.mpr ⟨rfl, hs⟩⟩)⟩

theorem Run.keeps {deeds : List Deed} {key text : String} (run : Run server first deeds b)
    (h : first.session.cache.get? key = some text) : b.session.cache.get? key = some text := by
  induction run with
  | refl => exact h
  | next run due ih => exact Deed.perform_keeps server _ (due.cache ▸ ih)

theorem answer_of_kept {r : Registry} {got : List (String × String)} {s : Session} {request : LoadRequest}
    {f : Fetched}
    {text : String} (h : s.cache.Sound r got) (hf : f.Answers server s request)
    (hk : s.cache.find? (s.address request) = some text) :
    f = ⟨request.panel, s.address request, .ok (text, true)⟩ ∧ f.complaint? r = none ∧
      ∃ a, f.outcome r = .ok a ∧ a.panel = request.panel ∧ a.url = s.address request := by
  obtain ⟨panel, url, source⟩ := f
  obtain rfl : panel = request.panel := hf.panel
  obtain rfl : url = s.address request := hf.url
  obtain rfl : source = .ok (text, true) := hf.kept hk
  obtain ⟨a, ha, -⟩ := (h _ text hk).2 request.panel (s.address request)
  refine ⟨rfl, ?_, a, ha, activity_context ha⟩
  simp only [Fetched.complaint?, Fetched.outcome, ha]

end

section
variable {σ : Type} {server : Server σ} {settings : Settings} {registry : Registry} {state : σ} {done : List Done}
variable {b : Board σ}

/-- Whatever is registered and whatever the server answers: all that is kept came from the server and makes
an activity anywhere, it stays kept with the same text for ever, and requests with its key are answered by
it and not put to the server. -/
theorem cache_sound_and_lasting (trace : Trace server ⟨.new settings registry, state⟩ done b) :
    (∀ key text, b.session.cache.get? key = some text →
      (∃ url, (url, text) ∈ Done.got done ∧ Cache.key url = key) ∧
        ∀ panel url, ∃ a, registry.activity panel url text = .ok a ∧ a.cached = true) ∧
    (∀ deeds b', Run server b deeds b' → ∀ key text, b.session.cache.get? key = some text →
      b'.session.cache.get? key = some text) ∧
    ∀ (d : Deed) taken, d.Due b taken →
      let requests := (d.plan server taken).1
      let s := (d.plan server taken).2.session
      let answers := (d.fetches server taken).1
      (d.perform server taken).session.gets = s.gets ++ (s.asks requests).map s.address ∧
      (d.perform server taken).session.screen.messages =
        s.screen.messages ++ answers.filterMap (Fetched.complaint? registry) ∧
      List.Forall₂ (fun r f => ∀ text, s.cache.find? (s.address r) = some text →
        r ∉ s.asks requests ∧ f = ⟨r.panel, s.address r, .ok (text, true)⟩ ∧ f.complaint? registry = none ∧
          ∃ a, f.outcome registry = .ok a ∧ a.panel = r.panel ∧ a.url = s.address r)
        (requests.filter LoadRequest.hasLocator) answers := by
  have hregistry : b.session.registry = registry := trace.run.registry
  have hsound : b.session.cache.Sound registry (Done.got done) := by
    rw [← hregistry]
    exact trace.sound (by simp [Cache.Sound, Session.new])
  refine ⟨hsound, fun deeds b' run key text h => run.keeps h, ?_⟩
  intro d taken due requests s answers
  have hr : s.registry = registry := by rw [(d.plan_store server taken).2.1, due.registry, hregistry]
  have hc : s.cache.Sound registry (Done.got done) := by
    rw [(d.plan_store server taken).1, due.cache]
    exact hsound
  rw [Deed.perform_eq_load]
  refine ⟨Board.load_gets server _ _, hr ▸ Board.load_messages server _ _, ?_⟩
  refine (Board.fetched_answers server requests (d.plan server taken).2).imp fun r f hf text hk => ?_
  have hnot : r ∉ s.asks requests := by
    intro hm
    have hnone := (List.mem_filter.mp hm).2
    rw [hk] at hnone
    cases hnone
  exact ⟨hnot, answer_of_kept hc hf hk⟩

end

/-- A definition that asks to be kept is kept once its load has been carried out. -/
theorem cache_sound_after_load :
    let source := "\x7b\"display\":\"X\",\"cache\":true\x7d"
    let load := Command.load [⟨some "/x", some "A"⟩] []
    let first : Board _ := ⟨.new .default .builtin, [.ok source]⟩
    let b := ((first.start Server.scripted (.definePanels [⟨"A", ""⟩])).start Server.scripted (.run load)).step
      Server.scripted
    ∃ done key, Trace Server.scripted first done b ∧ b.session.cache.get? key = some source ∧
      (∃ url, (url, source) ∈ Done.got done ∧ Cache.key url = key) ∧
      ∀ panel url, ∃ a, Registry.builtin.activity panel url source = .ok a ∧ a.cached = true := by
  intro source load first b
  let ready := (first.start Server.scripted (.definePanels [⟨"A", ""⟩])).start Server.scripted (.run load)
  let taken : Board _ := { ready with session := { ready.session with queue := [] } }
  let f : Fetched := ⟨"A", taken.session.address ⟨"A", "/x", []⟩, .ok (source, false)⟩
  let s := ((Deed.carry load).fetches Server.scripted taken).2.session
  have due : (Deed.carry load).Due ready taken := .carry rfl
  have trace : Trace Server.scripted first _ b :=
    ((Trace.refl.next (.start (.definePanels [⟨"A", ""⟩]) _)).next (.start (.run load) _)).next due
  have hread : Definition.ofText source = .ok ⟨some (.str "X"), none, none, none, none, none, true, .null⟩ := by
    simp only [source]
    cbv
  have hkept : b.session.cache.get? (Cache.key f.url) = some source := by
    obtain ⟨a, ha, hc⟩ : ∃ a, Registry.builtin.activity "A" f.url source = .ok a ∧ a.cached = true :=
      ⟨_, activity_of_text hread rfl "A" f.url, rfl⟩
    have ho : f.outcome s.registry = .ok a := ha
    have hreceive : b.session = s.receive f := rfl
    rw [hreceive]
    exact Session.receive_kept ho rfl hc
  obtain ⟨hsound, -⟩ := cache_sound_and_lasting trace
  exact ⟨_, _, trace, hkept, hsound _ _ hkept⟩

end Dashboard
