import Dashboard.Proofs.Courses
import Dashboard.Proofs.FinishHistory

/-!
# What the screen shows

Only an answer that makes an activity with content draws, and it draws that
content in its panel. So a panel shows the last content ever made in it, and
was drawn once for each (`Draws`), however often panels were defined in
between. The activity that is active in a panel is one that was drawn there and
none was drawn since (`Faithful`).
-/

namespace Dashboard

/-! ## Drawings -/

namespace Screen

theorem get?_draw (s : Screen) (panel : String) (content : Json) (p : String) :
    (s.draw panel content).panels.get? p = if p = panel then some content else s.panels.get? p :=
  Dict.get?_insert s.panels panel content p

theorem drawnTimes_draw (s : Screen) (panel : String) (content : Json) (p : String) :
    (s.draw panel content).drawnTimes p = if p = panel then s.drawnTimes p + 1 else s.drawnTimes p := by
  unfold drawnTimes draw
  rw [Dict.get?_insert]
  by_cases h : p = panel
  · rw [if_pos h, if_pos h, h]
    rfl
  · rw [if_neg h, if_neg h]

end Screen

theorem Activity.length_filterMap_display (made : List Activity) :
    (made.filterMap display).length = made.countP isGui :=
  List.length_filterMap_eq_countP

/-- The contents that answers bring for a panel, the last one last. -/
def Fetched.contentsIn (r : Registry) (panel : String) (fetched : List Fetched) : List Json :=
  (madeIn r panel fetched).filterMap Activity.display

theorem Fetched.contentsIn_cons (r : Registry) (panel : String) (f : Fetched) (fetched : List Fetched) :
    contentsIn r panel (f :: fetched) = contentsIn r panel [f] ++ contentsIn r panel fetched := by
  simp [contentsIn, madeIn]

namespace Session

theorem receive_screen_of_ok {f : Fetched} {s : Session} {a : Activity} (h : f.outcome s.registry = .ok a) :
    (s.receive f).screen = a.display.elim s.screen (s.screen.draw a.panel) := by
  rw [receive_of_ok h]
  cases a.display with
  | some content => rfl
  | none => exact runActivity_screen a _

/-- Between two sessions exactly these contents were drawn in a panel. -/
structure Draws (panel : String) (s : Session) (contents : List Json) (t : Session) : Prop where
  shown : t.screen.panels.get? panel = contents.getLast?.or (s.screen.panels.get? panel)
  drawn : t.screen.drawnTimes panel = s.screen.drawnTimes panel + contents.length

variable {panel : String}

theorem Draws.trans {s t u : Session} {first next : List Json} (h₁ : Draws panel s first t)
    (h₂ : Draws panel t next u) : Draws panel s (first ++ next) u where
  shown := by rw [h₂.shown, h₁.shown, List.getLast?_append, Option.or_assoc]
  drawn := by rw [h₂.drawn, h₁.drawn, List.length_append, Nat.add_assoc]

theorem draws_nothing {s t : Session} (hp : t.screen.panels = s.screen.panels) (hd : t.screen.drawn = s.screen.drawn) :
    Draws panel s [] t where
  shown := by rw [hp]; rfl
  drawn := by rw [Screen.drawnTimes, hd]; rfl

theorem SamePanels.draws {s t : Session} (h : SamePanels s t) : Draws panel s [] t := draws_nothing h.shown h.drawn

theorem draws_receive (f : Fetched) (s : Session) :
    Draws panel s (Fetched.contentsIn s.registry panel [f]) (s.receive f) := by
  cases ho : f.outcome s.registry with
  | error failure =>
    have hnone : Fetched.contentsIn s.registry panel [f] = [] := by
      simp [Fetched.contentsIn, Fetched.madeIn, ho, Except.toOption]
    rw [hnone, receive_of_error ho]
    exact draws_nothing rfl rfl
  | ok a =>
    have hcontents : Fetched.contentsIn s.registry panel [f] = if a.panel = panel then a.display.toList else [] := by
      rw [(outcome_context ho).1]
      by_cases hp : f.panel = panel <;> cases hd : a.display <;>
        simp [Fetched.contentsIn, Fetched.madeIn, ho, Except.toOption, hp, hd]
    have hscreen := receive_screen_of_ok ho
    rw [hcontents]
    cases hd : a.display with
    | none =>
      rw [hd] at hscreen
      rw [Option.toList_none, ite_self]
      exact draws_nothing (congrArg Screen.panels hscreen) (congrArg Screen.drawn hscreen)
    | some content =>
      rw [hd] at hscreen
      by_cases hp : a.panel = panel
      · subst hp
        exact ⟨by simp [hscreen, Screen.get?_draw], by simp [hscreen, Screen.drawnTimes_draw]⟩
      · have hne : panel ≠ a.panel := Ne.symm hp
        exact ⟨by simp [hscreen, Screen.get?_draw, hp, hne], by simp [hscreen, Screen.drawnTimes_draw, hp, hne]⟩

theorem draws_foldl_receive : ∀ (fetched : List Fetched) (s : Session),
    Draws panel s (Fetched.contentsIn s.registry panel fetched) (fetched.foldl (fun s f => s.receive f) s)
  | [], _ => draws_nothing rfl rfl
  | f :: fetched, s => by
    have hrest := draws_foldl_receive fetched (s.receive f)
    rw [(loadFrame_receive f s).registry] at hrest
    rw [Fetched.contentsIn_cons]
    exact (draws_receive f s).trans hrest

end Session

/-! ## Active activities -/

/-- Of two slots with one name the later stays without activity. -/
def Slot.Precedes (t u : Slot) : Prop := t.name = u.name → u.active = none

namespace Session

section
variable {f : Slot → Slot} {panel : String}

theorem mem_changeFirst {u : Slot} : ∀ {l : List Slot}, l.Pairwise Slot.Precedes → u ∈ changeFirst panel f l →
    (u ∈ l ∧ (u.name = panel → u.active = none)) ∨ ∃ t ∈ l, t.name = panel ∧ u = f t
  | t :: l, hl, hu => by
    obtain ⟨ht, hl⟩ := List.pairwise_cons.mp hl
    by_cases hp : t.name = panel
    · simp only [changeFirst, if_pos hp, List.mem_cons] at hu
      rcases hu with rfl | hu
      · exact Or.inr ⟨t, List.mem_cons_self, hp, rfl⟩
      · exact Or.inl ⟨List.mem_cons_of_mem t hu, fun h => ht u hu (hp.trans h.symm)⟩
    · simp only [changeFirst, if_neg hp, List.mem_cons] at hu
      rcases hu with rfl | hu
      · exact Or.inl ⟨List.mem_cons_self, fun h => absurd h hp⟩
      · rcases mem_changeFirst hl hu with ⟨hm, ha⟩ | ⟨v, hv, hvp, rfl⟩
        · exact Or.inl ⟨List.mem_cons_of_mem t hm, ha⟩
        · exact Or.inr ⟨v, List.mem_cons_of_mem t hv, hvp, rfl⟩

theorem pairwise_changeFirst (hf : Slot.Keeps f) : ∀ {l : List Slot}, l.Pairwise Slot.Precedes →
    (changeFirst panel f l).Pairwise Slot.Precedes
  | [], h => h
  | t :: l, h => by
    obtain ⟨ht, hl⟩ := List.pairwise_cons.mp h
    by_cases hp : t.name = panel
    · rw [changeFirst, if_pos hp]
      exact List.pairwise_cons.mpr ⟨fun u hu he => ht u hu ((hf.name t).symm.trans he), hl⟩
    · rw [changeFirst, if_neg hp]
      refine List.pairwise_cons.mpr ⟨fun u hu he => ?_, pairwise_changeFirst hf hl⟩
      rcases mem_changeFirst hl hu with ⟨hm, -⟩ | ⟨v, -, hvp, rfl⟩
      · exact ht u hm he
      · exact absurd (he.trans ((hf.name v).trans hvp)) hp

end

/-- What is active in a panel has content, and the screen shows it. -/
structure Faithful (s : Session) : Prop where
  single : s.slots.Pairwise Slot.Precedes
  shown : ∀ t ∈ s.slots, ∀ a, t.active = some a →
    ∃ content, a.display = some content ∧ s.screen.panels.get? t.name = some content

theorem Faithful.congr {s t : Session} (h : Faithful s) (hslots : t.slots = s.slots)
    (hp : t.screen.panels = s.screen.panels) : Faithful t := by
  obtain ⟨hsingle, hshown⟩ := h
  rw [← hslots] at hsingle hshown
  rw [← hp] at hshown
  exact ⟨hsingle, hshown⟩

/-- The change of a slot is shown if what is active in that slot afterwards is. -/
theorem Faithful.change {s t : Session} {f : Slot → Slot} {panel : String} (h : Faithful s) (hf : Slot.Keeps f)
    (hslots : t.slots = changeFirst panel f s.slots)
    (hother : ∀ p, p ≠ panel → t.screen.panels.get? p = s.screen.panels.get? p)
    (hchanged : ∀ u ∈ s.slots, u.name = panel → ∀ a, (f u).active = some a →
      ∃ content, a.display = some content ∧ t.screen.panels.get? panel = some content) : Faithful t where
  single := hslots ▸ pairwise_changeFirst hf h.single
  shown u hu a ha := by
    rw [hslots] at hu
    rcases mem_changeFirst h.single hu with ⟨hm, hnone⟩ | ⟨v, hv, hvp, rfl⟩
    -- a further slot with the name of the changed one has nothing active
    · have hne : u.name ≠ panel := fun he => by
        rw [hnone he] at ha
        cases ha
      rw [hother u.name hne]
      exact h.shown u hm a ha
    · rw [hf.name, hvp]
      exact hchanged v hv hvp a ha

theorem Faithful.change_stage {s t : Session} {f : Slot → Slot} {panel : String} (h : Faithful s) (hf : Slot.Keeps f)
    (hactive : ∀ u, (f u).active = u.active) (hslots : t.slots = changeFirst panel f s.slots)
    (hp : t.screen.panels = s.screen.panels) : Faithful t := by
  refine h.change hf hslots (fun p _ => by rw [hp]) fun u hu hn a ha => ?_
  rw [hactive] at ha
  rw [hp, ← hn]
  exact h.shown u hu a ha

theorem Faithful.startLoads : ∀ (panels : List String) {s : Session}, Faithful s → Faithful (s.startLoads panels)
  | [], _, h => h
  | _ :: panels, _, h => startLoads panels (h.change_stage Slot.keeps_startLoading (fun _ => rfl) rfl rfl)

theorem Faithful.receive {s : Session} (h : Faithful s) (f : Fetched) : Faithful (s.receive f) := by
  have hslots := receive_slots s f
  cases ho : f.outcome s.registry with
  | error failure =>
    rw [ho] at hslots
    exact h.change_stage Slot.keeps_abandonLoading (fun _ => rfl) hslots (by rw [receive_of_error ho]; rfl)
  | ok a =>
    have hscreen := receive_screen_of_ok ho
    rw [ho] at hslots
    cases hd : a.display with
    | none =>
      rw [Slot.after_of_no_content hd] at hslots
      rw [hd] at hscreen
      exact h.change_stage Slot.keeps_executed (fun _ => rfl) hslots (congrArg Screen.panels hscreen)
    | some content =>
      rw [Slot.after_of_content hd] at hslots
      rw [hd, (outcome_context ho).1] at hscreen
      have hget : ∀ p, (s.receive f).screen.panels.get? p =
          if p = f.panel then some content else s.screen.panels.get? p := by
        intro p
        rw [hscreen]
        exact Screen.get?_draw s.screen f.panel content p
      refine h.change (Slot.keeps_showing a) hslots (fun p hp => by rw [hget, if_neg hp]) fun u _ _ a' ha' => ?_
      obtain rfl : a = a' := Option.some.inj ha'
      exact ⟨content, hd, by rw [hget, if_pos rfl]⟩

theorem Faithful.foldl_receive : ∀ (fetched : List Fetched) {s : Session}, Faithful s →
    Faithful (fetched.foldl (fun s f => s.receive f) s)
  | [], _, h => h
  | f :: fetched, _, h => foldl_receive fetched (h.receive f)

theorem faithful_define (panels : List Panel) (s : Session) : Faithful (s.define panels) := by
  have hempty : ∀ t ∈ panels.map Slot.ofPanel, t.active = none := by
    intro t ht
    obtain ⟨p, -, rfl⟩ := List.mem_map.mp ht
    rfl
  refine ⟨List.pairwise_of_forall_mem_list fun _ _ u hu _ => hempty u hu, fun t ht a ha => ?_⟩
  rw [hempty t ht] at ha
  cases ha

end Session

/-! ## Deeds -/

section
variable {σ : Type} (server : Server σ)

theorem Board.fetched_screen (requests : List LoadRequest) (b : Board σ) :
    (b.fetched server requests).2.session.screen = b.session.screen := by
  obtain ⟨log, h⟩ := Board.fetched_session server requests b
  rw [h]

theorem Board.faithful_fetched {b : Board σ} (h : b.session.Faithful) (requests : List LoadRequest) :
    (b.fetched server requests).2.session.Faithful := by
  obtain ⟨log, he⟩ := Board.fetched_session server requests b
  refine (h.startLoads ((requests.filter LoadRequest.hasLocator).map LoadRequest.panel)).congr ?_ ?_ <;>
    rw [he, Session.startLoads_eq]

namespace Deed

theorem draws (panel : String) (d : Deed) (b : Board σ) : b.session.Draws panel
    (Fetched.contentsIn b.session.registry panel (d.fetches server b).1) (d.perform server b).session := by
  obtain ⟨-, -, hp, hd⟩ := d.plan_store server b
  have hscreen : (d.fetches server b).2.session.screen = (d.plan server b).2.session.screen :=
    Board.fetched_screen server _ _
  have hbefore : b.session.Draws panel [] (d.fetches server b).2.session :=
    Session.draws_nothing ((congrArg Screen.panels hscreen).trans hp) ((congrArg Screen.drawn hscreen).trans hd)
  rw [perform_eq_receive, ← d.fetches_registry server b]
  exact hbefore.trans (Session.draws_foldl_receive _ _)

theorem faithful {b : Board σ} (h : b.session.Faithful) (d : Deed) : (d.perform server b).session.Faithful := by
  have hplan : (d.plan server b).2.session.Faithful := by
    rcases d.defines_or_plan_slots server b with ⟨panels, rfl⟩ | hslots
    · exact Session.faithful_define panels b.session
    · exact h.congr hslots (d.plan_store server b).2.2.1
  rw [perform_eq_receive]
  exact (Board.faithful_fetched server hplan _).foldl_receive _

end Deed

end

/-! ## Courses -/

section
variable {σ : Type} {server : Server σ} {first b : Board σ} {steps : List (Deed × Board σ)}

/-- The activities that a course has made in a panel, the last one last. -/
def madeAlong (server : Server σ) (r : Registry) (panel : String) (steps : List (Deed × Board σ)) : List Activity :=
  steps.flatMap fun step => Fetched.madeIn r panel (step.1.fetches server step.2).1

theorem Course.draws (course : Course server first steps b) (panel : String) : first.session.Draws panel
    ((madeAlong server first.session.registry panel steps).filterMap Activity.display) b.session := by
  induction course with
  | refl => exact Session.draws_nothing rfl rfl
  | @next steps b taken d course due ih =>
    have hregistry : taken.session.registry = first.session.registry := due.registry.trans course.registry
    have hdeed := d.draws server panel taken
    rw [hregistry] at hdeed
    simpa [madeAlong, Fetched.contentsIn] using (ih.trans due.samePanels.draws).trans hdeed
  | aside _ h ih => simpa using ih.trans h.samePanels.draws

theorem Course.faithful (course : Course server first steps b) (h : first.session.Faithful) : b.session.Faithful := by
  induction course with
  | refl => exact h
  | next _ due ih => exact Deed.faithful server (ih.congr due.samePanels.slots due.samePanels.shown) _
  | aside _ h ih => exact ih.congr h.samePanels.slots h.samePanels.shown

/-- Along a course the screen shows in each panel the activity that is active there. Every activity with content
that was made in a panel was drawn once, and the panel shows the last of them. Nothing else draws: where none is
made in a panel it stays as it was, quiet deeds draw in no panel, and a scan is a course whose own deeds are quiet. -/
theorem screen_of_course {settings : Settings} {registry : Registry} {state : σ}
    (course : Course server ⟨.new settings registry, state⟩ steps b) :
    let screen := b.session.screen
    (∀ t ∈ b.session.slots, ∀ a, t.active = some a →
      ∃ content, a.display = some content ∧ screen.panels.get? t.name = some content) ∧
    (∀ panel, let made := madeAlong server registry panel steps
      screen.drawnTimes panel = made.countP Activity.isGui ∧
      screen.panels.get? panel = (made.filterMap Activity.display).getLast?) ∧
    (∀ panel, (screen.panels.get? panel).isSome ↔ 0 < screen.drawnTimes panel) ∧
    (∀ more b', Course server b more b' → ∀ panel,
      (∀ a ∈ madeAlong server registry panel more, a.isGui = false) →
        b'.session.screen.panels.get? panel = screen.panels.get? panel ∧
        b'.session.screen.drawnTimes panel = screen.drawnTimes panel) ∧
    (∀ (d : Deed) taken, d.Due b taken → d.Quiet →
      (d.perform server taken).session.screen.panels = screen.panels ∧
      (d.perform server taken).session.screen.drawn = screen.drawn) ∧
    ∀ fuel service barcode, ∃ more, Course server b more (b.scan server fuel service barcode) ∧
      ∀ step ∈ more, step.1.Quiet ∨ ∃ c, step.1 = .carry c := by
  intro screen
  have hcounted : ∀ panel, let made := madeAlong server registry panel steps
      screen.drawnTimes panel = made.countP Activity.isGui ∧
      screen.panels.get? panel = (made.filterMap Activity.display).getLast? := by
    intro panel made
    have hdraws := course.draws panel
    refine ⟨?_, hdraws.shown.trans Option.or_none⟩
    exact (hdraws.drawn.trans (Nat.zero_add _)).trans (Activity.length_filterMap_display made)
  have hfirst : (Session.new settings registry).Faithful := Session.faithful_define [] (.new settings registry)
  refine ⟨(course.faithful hfirst).shown, hcounted, fun panel => ?_, fun more b' onward panel hmade => ?_,
    fun d taken due hd => ?_, fun fuel service barcode => leads_scan fuel service barcode b⟩
  · obtain ⟨hdrawn, hshown⟩ := hcounted panel
    rw [hdrawn, hshown, List.getLast?_isSome, ← Activity.length_filterMap_display]
    exact List.length_pos_iff.symm
  · have hnone : (madeAlong server b.session.registry panel more).filterMap Activity.display = [] := by
      rw [course.registry]
      exact List.filterMap_eq_nil_iff.mpr fun a ha => by simpa [Activity.isGui] using hmade a ha
    have hdraws := onward.draws panel
    rw [hnone] at hdraws
    exact ⟨hdraws.shown, hdraws.drawn⟩
  · have hsame := due.samePanels.trans (Deed.samePanels_of_quiet server hd taken)
    exact ⟨hsame.shown, hsame.drawn⟩

end

/-- A panel that is defined anew has no activity, and still shows what was drawn in it. -/
theorem content_outlasts_activity :
    let source := "\x7b\"display\":\"X\"\x7d"
    let first : Board _ := ⟨.new .default .builtin, [.ok source]⟩
    let shown := first.start Server.scripted (.definePanels [⟨"A", "/home"⟩])
    let again := shown.start Server.scripted (.definePanels [⟨"A", ""⟩])
    (∃ t ∈ shown.session.slots, ∃ a, t.active = some a ∧ a.display = some (.str "X")) ∧
      (∀ t ∈ again.session.slots, t.active = none) ∧
      again.session.screen.panels.get? "A" = some (.str "X") ∧ again.session.screen.drawnTimes "A" = 1 := by
  intro source first shown again
  let define := Deed.start (.definePanels [⟨"A", "/home"⟩])
  let f : Fetched := ⟨"A", first.session.address ⟨"A", "/home", []⟩, .ok (source, false)⟩
  let s := (define.fetches Server.scripted first).2.session
  have hread : Definition.ofText source = .ok ⟨some (.str "X"), none, none, none, none, none, false, .null⟩ := by
    simp only [source]
    cbv
  obtain ⟨a, ha, hd⟩ : ∃ a, Registry.builtin.activity "A" f.url source = .ok a ∧ a.display = some (.str "X") :=
    ⟨_, activity_of_text hread rfl "A" f.url, rfl⟩
  have ho : f.outcome .builtin = .ok a := ha
  have hgui : a.isGui = true := by rw [Activity.isGui, hd]; rfl
  have hslots : shown.session.slots = Session.changeFirst "A" (Slot.showing a) s.slots := by
    have hreceive : shown.session = s.receive f := rfl
    have houtcome : f.outcome s.registry = .ok a := ho
    rw [hreceive, Session.receive_slots, houtcome, Slot.after_of_content hd]
  obtain ⟨t, ht, hn, hactive⟩ : ∃ t ∈ shown.session.slots, t.name = "A" ∧ t.active = some a :=
    hslots ▸ ⟨_, List.mem_cons_self, rfl, rfl⟩
  have course : Course Server.scripted first [(define, first)] shown := Course.refl.next (.start _ first)
  have onward : Course Server.scripted shown [(.start (.definePanels [⟨"A", ""⟩]), shown)] again :=
    Course.refl.next (.start _ shown)
  obtain ⟨hshown, hcounted, -, honward, -⟩ := screen_of_course course
  obtain ⟨content, hcontent, hget⟩ := hshown t ht a hactive
  obtain ⟨hpanel, hdrawn⟩ := honward _ _ onward "A" (fun a ha => by cases ha)
  have hcount : shown.session.screen.drawnTimes "A" = 1 := by
    have hmadeAlong : madeAlong Server.scripted .builtin "A" [(define, first)] = [a] := by
      have hin : Fetched.madeIn .builtin "A" [f] = [a] := by simp [Fetched.madeIn, ho, Except.toOption, f]
      exact (List.append_nil _).trans hin
    rw [(hcounted "A").1, hmadeAlong, List.countP_singleton, if_pos hgui]
  have hnone : (⟨"A", "", []⟩ : LoadRequest).hasLocator = false := by decide
  have hagain : again = shown.onSession (Session.define [⟨"A", ""⟩]) :=
    Board.load_without_locator Server.scripted hnone (shown.onSession (Session.define [⟨"A", ""⟩]))
  refine ⟨⟨t, ht, a, hactive, hd⟩, fun u hu => ?_, ?_, hdrawn.trans hcount⟩
  · rw [hagain] at hu
    rw [List.mem_singleton.mp hu]
    rfl
  · rw [hpanel, ← hn, hget, ← hcontent, hd]

end Dashboard
