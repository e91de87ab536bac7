import Dashboard.Proofs.CacheSound
import Dashboard.Proofs.Deliveries
import Dashboard.Proofs.FinishHistory

/-!
# What a command touches

A command names at most the panels that it loads, and it leaves all others as
they are. While an activity executes, events do reach handlers in every panel,
but handlers only add commands. What a command may change besides panels is
the business of a few of them: the undo stack, the history and the cache each
have their own (`commands_touch_what_they_name`).
-/

namespace Dashboard

/-! ## Names -/

/-- A page asks for something in a panel. -/
def Page.Names (panel : String) (p : Page) : Prop := p.panel = some panel ∧ ∃ url, p.url = some url ∧ url ≠ ""

namespace Command

/-- A finish names its panel and a load the panels of its pages with a url. No other command names any. -/
def Names (panel : String) : Command → Prop
  | .finish request => request.panel = some panel
  | .load pages _ => ∃ page ∈ pages, page.Names panel
  | _ => False

def Loads : Command → Prop
  | .finish _ => True
  | .load _ _ => True
  | _ => False

theorem quiet_carry_iff {c : Command} : (Deed.carry c).Quiet ↔ ¬ c.Loads := by
  cases c <;> simp [Deed.Quiet, Loads]

end Command

theorem Page.names_of_entry {panel : Option String} {name url : String} {p : Page} (h : p.entry? = some (panel, url))
    (hp : panel = some name) : p.Names name := by
  unfold entry? at h
  cases hu : p.url with
  | none =>
    rw [hu] at h
    cases h
  | some url' =>
    by_cases he : url' = ""
    · simp [hu, he] at h
    · obtain ⟨rfl, rfl⟩ : p.panel = panel ∧ url' = url := by simpa [hu, he] using h
      exact ⟨hp, url', hu, he⟩

theorem Page.urlsOf_of_unnamed {panel : String} {pages : List Page} (h : ∀ p ∈ pages, ¬ p.Names panel) :
    urlsOf (some panel) pages = [] := by
  rw [urlsOf, List.map_eq_nil_iff, List.filter_eq_nil_iff]
  intro e he hp
  obtain ⟨p, hm, hentry⟩ := List.mem_filterMap.mp he
  exact h p hm (names_of_entry hentry (by simpa using hp))

/-! ## Other panels -/

namespace Session

/-- All slots of a panel, should its name be repeated. -/
def slotsOf (panel : String) (s : Session) : List Slot := s.slots.filter fun t => t.name = panel

section
variable {f : Slot → Slot} {panel other : String}

theorem filter_changeFirst (hf : Slot.Keeps f) (h : other ≠ panel) : ∀ l : List Slot,
    (changeFirst panel f l).filter (fun t => t.name = other) = l.filter fun t => t.name = other
  | [] => rfl
  | t :: l => by
    by_cases hp : t.name = panel
    · have hne : panel ≠ other := Ne.symm h
      simp [changeFirst, hp, hf.name, hne]
    · simp [changeFirst, hp, List.filter_cons, filter_changeFirst hf h l]

theorem filter_changeEach (hf : Slot.Keeps f) : ∀ {panels : List String}, other ∉ panels → ∀ l : List Slot,
    (changeEach f panels l).filter (fun t => t.name = other) = l.filter fun t => t.name = other
  | [], _, _ => rfl
  | first :: panels, h, l => by
    simp only [List.mem_cons, not_or] at h
    rw [changeEach, filter_changeEach hf h.2, filter_changeFirst hf h.1]

end

theorem slotsOf_foldl_receive {other : String} : ∀ {fetched : List Fetched} (s : Session),
    other ∉ fetched.map Fetched.panel → (fetched.foldl (fun s f => s.receive f) s).slotsOf other = s.slotsOf other
  | [], _, _ => rfl
  | f :: fetched, s, h => by
    simp only [List.map_cons, List.mem_cons, not_or] at h
    rw [List.foldl_cons, slotsOf_foldl_receive (s.receive f) h.2, slotsOf, receive_slots]
    exact filter_changeFirst (Slot.keeps_after _) h.1 s.slots

theorem SamePanels.sameAt {s t : Session} (h : SamePanels s t) (panel : String) : SameAt panel s t where
  slot := by rw [slot?, slot?, h.slots]
  urls := by rw [h.waiting]
  shown := by rw [h.shown]
  drawn := by rw [h.drawn]

theorem sameAt_planPages {panel : String} {pages : List Page} (h : Page.urlsOf (some panel) pages = [])
    (extras : List Params) (s : Session) : SameAt panel s (s.planPages pages extras).2 := by
  have hurls := planPages_of_unnamed pages extras s h
  obtain ⟨messages, waiting, hp⟩ := planPages_frame pages extras s
  rw [hp] at hurls ⊢
  exact ⟨rfl, hurls, rfl, rfl⟩

end Session

section
variable {σ : Type} (server : Server σ) {panel : String} {c : Command}

theorem Board.slotsOf_load {requests : List LoadRequest} (h : panel ∉ requests.map LoadRequest.panel) (b : Board σ) :
    (load server requests b).session.slotsOf panel = b.session.slotsOf panel := by
  have hreal := not_mem_real h
  have hfetched : (b.fetched server requests).2.session.slotsOf panel = b.session.slotsOf panel := by
    obtain ⟨log, h⟩ := fetched_session server requests b
    rw [h]
    exact Session.filter_changeEach Slot.keeps_startLoading hreal _
  exact (Session.slotsOf_foldl_receive _ (map_panel_fetched server requests b ▸ hreal)).trans hfetched

namespace Command

theorem plan_unnamed (h : ¬ c.Names panel) (b : Board σ) :
    panel ∉ ((Deed.carry c).plan server b).1.map LoadRequest.panel := by
  intro hm
  obtain ⟨r, hr, rfl⟩ := List.mem_map.mp hm
  cases c with
  | load pages extras =>
    have hnone : Page.urlsOf (some r.panel) pages = [] :=
      Page.urlsOf_of_unnamed fun p hp hn => h ⟨p, hp, hn⟩
    obtain ⟨-, -, hfirst⟩ := Session.planPages_requests pages extras b.session r hr
    rw [hnone] at hfirst
    cases hfirst
  | finish request =>
    rcases Session.planFinish_requests request b.session with hp | ⟨r', hp, hpanel, -⟩
    · simp [Deed.plan, hp] at hr
    · obtain rfl : r = r' := by simpa [Deed.plan, hp] using hr
      exact h hpanel
  | send | display | keepUndo | press | undo => cases hr

theorem sameAt_plan (h : ¬ c.Names panel) (b : Board σ) :
    b.session.SameAt panel ((Deed.carry c).plan server b).2.session := by
  by_cases hc : c.Loads
  · cases c with
    | load pages extras =>
      exact Session.sameAt_planPages (Page.urlsOf_of_unnamed fun p hp hn => h ⟨p, hp, hn⟩) extras b.session
    | finish request => exact Session.sameAt_planFinish request h b.session
    | _ => cases hc
  · have hquiet := quiet_carry_iff.mpr hc
    rw [Deed.plan_of_quiet server hquiet]
    exact (Deed.samePanels_of_quiet server hquiet b).sameAt panel

/-- A command leaves alone the panels that it does not name. -/
theorem sameAt_apply (h : ¬ c.Names panel) (b : Board σ) : b.session.SameAt panel (b.apply server c).session ∧
    (b.apply server c).session.slotsOf panel = b.session.slotsOf panel := by
  have hperform : b.apply server c =
      Board.load server ((Deed.carry c).plan server b).1 ((Deed.carry c).plan server b).2 :=
    (Deed.carry c).perform_eq_load server b
  have hslots : ((Deed.carry c).plan server b).2.session.slots = b.session.slots := Deed.plan_slots server (by simp) b
  have hrequests := plan_unnamed server h b
  rw [hperform]
  refine ⟨(sameAt_plan server h b).trans (Board.sameAt_load server hrequests _), ?_⟩
  rw [Board.slotsOf_load server hrequests, Session.slotsOf, hslots, Session.slotsOf]

end Command

/-! ## History and undo stack -/

theorem Fetched.deliveriesOfAll_of_gui : ∀ {fetched : List Fetched} {s : Session},
    (∀ f ∈ fetched, ∀ a, f.outcome s.registry = .ok a → a.isGui = true) → deliveriesOfAll fetched s = []
  | [], _, _ => rfl
  | f :: fetched, s, h => by
    obtain ⟨hf, hrest⟩ := List.forall_mem_cons.mp h
    have hnone : f.deliveries s = [] := by
      unfold deliveries
      cases ho : f.outcome s.registry with
      | error failure => rfl
      | ok a => exact if_pos (hf a ho)
    have hregistry : (s.receive f).registry = s.registry := (Session.loadFrame_receive f s).registry
    rw [deliveriesOfAll, hnone, List.nil_append, deliveriesOfAll_of_gui (hregistry ▸ hrest)]

theorem Deed.history_perform {d : Deed} (hs : ∀ e, d ≠ .carry (.send e)) {b : Board σ}
    (h : ∀ f ∈ (d.fetches server b).1, ∀ a, f.outcome b.session.registry = .ok a → a.isGui = true) :
    (d.perform server b).session.history = b.session.history := by
  have hnone : d.deliveries server b = [] := by
    rw [deliveries_eq server hs]
    exact Fetched.deliveriesOfAll_of_gui (d.fetches_registry server b ▸ h)
  rw [(d.delivers server b).history, hnone]
  rfl

theorem Command.undo_apply (c : Command) (b : Board σ) : (b.apply server c).session.undo = b.session.undo ∨
    (∃ response, c = .keepUndo response) ∨ c = .undo := by
  have h : (b.apply server c).session.undo = (Deed.carry c).moved b.session.undo := (Deed.carry c).perform_undo server b
  cases c with
  | keepUndo response => exact Or.inr (Or.inl ⟨response, rfl⟩)
  | undo => exact Or.inr (Or.inr rfl)
  | finish | load | send | display | press => exact Or.inl h

theorem Command.history_apply (c : Command) (b : Board σ) : (b.apply server c).session.history = b.session.history ∨
    (∃ e, c = .send e) ∨ c.Loads ∧ ∃ f ∈ ((Deed.carry c).fetches server b).1, ∃ a,
      f.outcome b.session.registry = .ok a ∧ a.isGui = false := by
  by_cases hs : ∃ e, c = .send e
  · exact Or.inr (Or.inl hs)
  by_cases hf : ∃ f ∈ ((Deed.carry c).fetches server b).1,
      ∃ a, f.outcome b.session.registry = .ok a ∧ a.isGui = false
  · refine Or.inr (Or.inr ⟨Classical.byContradiction fun hc => ?_, hf⟩)
    obtain ⟨f, hm, -⟩ := hf
    rw [Deed.fetches_of_quiet server (quiet_carry_iff.mpr hc)] at hm
    cases hm
  · refine Or.inl (Deed.history_perform server (fun e he => hs ⟨e, Deed.carry.inj he⟩) fun f hm a ho => ?_)
    cases hg : a.isGui with
    | true => rfl
    | false => exact absurd ⟨f, hm, a, ho, hg⟩ hf

/-! ## Commands -/

/-- On any board, a command leaves the slots, the waiting urls, the content and the drawings of panels that
it does not name. Only commands about undo move the undo stack, the history grows by events and by activities
without content that are loaded, and the cache only grows, and only by loads. -/
theorem commands_touch_what_they_name (c : Command) (b : Board σ) :
    let s := b.session
    let after := (b.apply server c).session
    (∀ panel, ¬ c.Names panel → s.SameAt panel after ∧ after.slotsOf panel = s.slotsOf panel) ∧
    (after.undo = s.undo ∨ (∃ response, c = .keepUndo response) ∨ c = .undo) ∧
    (after.history = s.history ∨ (∃ e, c = .send e) ∨
      c.Loads ∧ ∃ f ∈ ((Deed.carry c).fetches server b).1,
        ∃ a, f.outcome s.registry = .ok a ∧ a.isGui = false) ∧
    (∀ key text, s.cache.get? key = some text → after.cache.get? key = some text) ∧
    (after.cache = s.cache ∨ c.Loads) := by
  intro s after
  refine ⟨fun panel h => Command.sameAt_apply server h b, c.undo_apply server b, c.history_apply server b,
    fun key text h => Deed.perform_keeps server (.carry c) h, ?_⟩
  by_cases hc : c.Loads
  · exact Or.inr hc
  · exact Or.inl (Deed.samePanels_of_quiet server (Command.quiet_carry_iff.mpr hc) b).cache

end

/-- A load that brings nothing for a panel leaves alone what it shows, and what was kept for it. -/
theorem shown_and_kept_past_load :
    let source := "\x7b\"display\":\"X\",\"cache\":true\x7d"
    let first : Board _ := ⟨.new .default .builtin, [.ok source, .ok source]⟩
    let b := first.start Server.scripted (.definePanels [⟨"A", ""⟩, ⟨"B", "/b"⟩])
    let load := Command.load [⟨some "/x", some "A"⟩, ⟨some "", some "B"⟩] []
    let after := (b.apply Server.scripted load).session
    b.session.SameAt "B" after ∧ after.slotsOf "B" = b.session.slotsOf "B" ∧ after.screen.drawnTimes "B" = 1 ∧
      ∃ key, after.cache.get? key = some source := by
  intro source first b load after
  let f : Fetched := ⟨"B", first.session.address ⟨"B", "/b", []⟩, .ok (source, false)⟩
  let s := ((Deed.start (.definePanels [⟨"A", ""⟩, ⟨"B", "/b"⟩])).fetches Server.scripted first).2.session
  have hread : Definition.ofText source = .ok ⟨some (.str "X"), none, none, none, none, none, true, .null⟩ := by
    simp only [source]
    cbv
  obtain ⟨a, ha, hd, hc⟩ : ∃ a, Registry.builtin.activity "B" f.url source = .ok a ∧
      a.display = some (.str "X") ∧
      a.cached = true := ⟨_, activity_of_text hread rfl "B" f.url, rfl, rfl⟩
  have ho : f.outcome s.registry = .ok a := ha
  have hreceive : b.session = s.receive f := rfl
  have hkept : b.session.cache.get? (Cache.key f.url) = some source := by
    rw [hreceive]
    exact Session.receive_kept ho rfl hc
  have hdrawn : b.session.screen.drawn.get? "B" = some 1 := by
    have hpanel : a.panel = "B" := (outcome_context ho).1
    simp only [hreceive, Session.receive_of_ok ho, hd, Session.showActivity, hpanel]
    exact (Dict.get?_insert s.screen.drawn "B" 1 "B").trans (if_pos rfl)
  obtain ⟨hpanels, -, -, hlasting, -⟩ := commands_touch_what_they_name Server.scripted load b
  have hunnamed : ¬ load.Names "B" := by
    simp [load, Command.Names, Page.Names]
  obtain ⟨hsame, hslots⟩ := hpanels "B" hunnamed
  refine ⟨hsame, hslots, ?_, _, hlasting _ _ hkept⟩
  rw [Screen.drawnTimes, hsame.drawn, hdrawn]
  rfl

end Dashboard
