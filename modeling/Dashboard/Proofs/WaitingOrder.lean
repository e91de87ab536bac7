import Dashboard.Proofs.Runs

/-!
# What waits for a panel

The urls that wait for a panel are taken away when a load names the panel, when
it is cancelled and when panels are defined; else they change only with each
finish, which takes the first of them. Along a run in which nothing takes them
away, the finishes so far say what still waits (`Run.urls`), and the last load
says which parameters it will be loaded with (`Run.extras`).
-/

namespace Dashboard

/-! ## Deeds -/

namespace Deed

/-- Deeds that take away what waits for a panel: a load that names it, a cancel of it, new panels. -/
def Disturbs (panel : String) : Deed → Prop
  | .start (.definePanels _) => True
  | .carry (.load pages _) => Page.urlsOf (some panel) pages ≠ []
  | .carry (.finish request) => request.panel = some panel ∧ request.cancel = true
  | _ => False

def finishes (panel : String) : Deed → Bool
  | .carry (.finish request) => request.panel = some panel && !request.cancel
  | _ => false

def load? : Deed → Option (List Page × List Params)
  | .carry (.load pages extras) => some (pages, extras)
  | _ => none

def remembered (names : List String) (pages : List Page) (extras : List Params) : List Params :=
  if Page.leavesWaiting names pages then extras else []

/-- The parameters remembered after deeds: those of the last load among them, else the earlier ones. -/
def recalled (names : List String) (earlier : List Params) (deeds : List Deed) : List Params :=
  match (deeds.filterMap load?).getLast? with
  | some (pages, extras) => remembered names pages extras
  | none => earlier

theorem recalled_concat (names : List String) (earlier : List Params) (deeds : List Deed) (d : Deed) :
    recalled names earlier (deeds ++ [d]) =
      match d.load? with
      | some (pages, extras) => remembered names pages extras
      | none => recalled names earlier deeds := by
  unfold recalled
  rw [List.filterMap_append]
  cases hd : d.load? with
  | none => simp [hd]
  | some load => simp [hd]

theorem recalled_eq_iff {names : List String} {earlier : List Params} {deeds : List Deed} :
    recalled names earlier deeds = earlier ↔
      ∀ pages extras, (deeds.filterMap load?).getLast? = some (pages, extras) →
      if Page.leavesWaiting names pages then extras = earlier else earlier = [] := by
  unfold recalled
  cases (deeds.filterMap load?).getLast? with
  | none => simp
  | some load =>
    obtain ⟨pages, extras⟩ := load
    simp only [remembered, Option.some.injEq, Prod.mk.injEq]
    cases hw : Page.leavesWaiting names pages with
    | true => simp [hw]
    | false =>
      constructor
      · rintro h _ _ ⟨rfl, rfl⟩
        simp [hw, ← h]
      · intro h
        have hnil : earlier = [] := by simpa [hw] using h pages extras ⟨rfl, rfl⟩
        simp [hnil]

/-- What a deed has loaded on its own account: the first url that a load brings for a panel, and at a
finish the next url that waits for that panel. -/
def Brings (d : Deed) (s : Session) (r : LoadRequest) : Prop :=
  match d with
  | .carry (.load pages _) => (Page.urlsOf (some r.panel) pages).head? = some r.locator
  | .carry (.finish request) =>
    request.panel = some r.panel ∧ request.cancel = false ∧ (s.waiting.urls r.panel).head? = some r.locator
  | _ => False

theorem brings_or_default {σ : Type} (server : Server σ) (d : Deed) (b : Board σ) : ∀ r ∈ (d.plan server b).1,
    d.Brings b.session r ∨ r ∈ (d.plan server b).2.session.defaults := by
  intro r hr
  rcases d.sort with hq | ⟨panels, rfl⟩ | rfl | ⟨pages, extras, rfl⟩ | ⟨request, rfl⟩
  · simp [plan_of_quiet server hq] at hr
  · exact Or.inr hr
  · exact Or.inr hr
  · exact Or.inl (Session.planPages_requests pages extras b.session r hr).2.2
  · rcases Session.planFinish_requests request b.session with h | ⟨r', h, hpanel, -, hfrom⟩
    · simp [plan, h] at hr
    · obtain rfl : r = r' := by simpa [plan, h] using hr
      rcases hfrom with hdefault | ⟨hc, hfirst⟩
      · refine Or.inr ?_
        rw [Session.defaults, plan_slots server (by simp) b]
        exact hdefault
      · exact Or.inl ⟨hpanel, hc, hfirst⟩

theorem finishes_of_quiet {d : Deed} (hd : d.Quiet) (panel : String) : d.finishes panel = false := by
  cases d with
  | start op => rfl
  | carry c => cases c <;> first | rfl | cases hd

theorem load?_of_quiet {d : Deed} (hd : d.Quiet) : d.load? = none := by
  cases d with
  | start op => rfl
  | carry c => cases c <;> first | rfl | cases hd

section
variable {σ : Type} (server : Server σ) {panel : String} {d : Deed} (hd : ¬ d.Disturbs panel) (b : Board σ)
include hd

theorem ne_definePanels (panels : List Panel) : d ≠ .start (.definePanels panels) := by
  rintro rfl
  exact hd trivial

theorem perform_urls (hp : panel ∈ b.session.names) :
    (d.perform server b).session.waiting.urls panel =
      if d.finishes panel then (b.session.waiting.urls panel).tail else b.session.waiting.urls panel := by
  rw [perform_eq_load, (Board.loadFrame_load server _ _).waiting]
  rcases d.sort with hq | ⟨panels, rfl⟩ | rfl | ⟨pages, extras, rfl⟩ | ⟨request, rfl⟩
  · rw [plan_of_quiet server hq, (samePanels_of_quiet server hq b).waiting, finishes_of_quiet hq]
    rfl
  · exact absurd trivial hd
  · rfl
  · exact Session.planPages_of_unnamed pages extras b.session (Decidable.not_not.mp hd)
  · simp only [plan, Session.planFinish_urls hp hd, finishes]
    by_cases hr : request.panel = some panel
    · have hc : request.cancel = false := Bool.eq_false_iff.mpr fun h => hd ⟨hr, h⟩
      simp [hr, hc]
    · simp [hr]

theorem perform_extras (h : (d.perform server b).session.waiting.urls panel ≠ []) :
    (d.perform server b).session.waiting.extras.getD [] =
      match d.load? with
      | some (pages, extras) => remembered b.session.names pages extras
      | none => b.session.waiting.extras.getD [] := by
  rw [perform_eq_load, (Board.loadFrame_load server _ _).waiting] at h ⊢
  rcases d.sort with hq | ⟨panels, rfl⟩ | rfl | ⟨pages, extras, rfl⟩ | ⟨request, rfl⟩
  · rw [plan_of_quiet server hq, (samePanels_of_quiet server hq b).waiting, load?_of_quiet hq]
  · exact absurd trivial hd
  · rfl
  · simp only [plan, load?, Session.planPages_extras, remembered]
    split <;> rfl
  · simp only [plan, load?]
    rw [Session.planFinish_extras h]

end

end Deed

/-! ## Runs -/

section
variable {σ : Type} {server : Server σ} {first b : Board σ} {deeds : List Deed} {panel : String}

theorem Run.names (run : Run server first deeds b) (hd : ∀ d ∈ deeds, ¬ d.Disturbs panel) :
    b.session.names = first.session.names := by
  induction run with
  | refl => rfl
  | @next deeds b b' d run due ih =>
    obtain ⟨hinit, hlast⟩ := List.forall_mem_append.mp hd
    have hdefine := Deed.ne_definePanels (hlast d List.mem_cons_self)
    rw [Deed.perform_names server hdefine b', due.names]
    exact ih hinit

theorem Run.urls (run : Run server first deeds b) (hd : ∀ d ∈ deeds, ¬ d.Disturbs panel)
    (hp : panel ∈ first.session.names) : b.session.waiting.urls panel =
      (first.session.waiting.urls panel).drop (deeds.countP fun d => d.finishes panel) := by
  induction run with
  | refl => rfl
  | @next deeds b b' d run due ih =>
    obtain ⟨hinit, hlast⟩ := List.forall_mem_append.mp hd
    have hlast : ¬ d.Disturbs panel := hlast d List.mem_cons_self
    have hp' : panel ∈ b'.session.names := by
      rw [due.names, run.names hinit]
      exact hp
    rw [Deed.perform_urls server hlast b' hp', due.waiting, ih hinit, List.countP_append]
    cases hf : d.finishes panel <;> simp [hf]

/-- What waited all along a run will be loaded with the parameters of the last load, whichever panels
that load was for. -/
theorem Run.extras (run : Run server first deeds b) (hd : ∀ d ∈ deeds, ¬ d.Disturbs panel)
    (hp : panel ∈ first.session.names) (h : b.session.waiting.urls panel ≠ []) :
    b.session.waiting.extras.getD [] =
      Deed.recalled first.session.names (first.session.waiting.extras.getD []) deeds := by
  induction run with
  | refl => rfl
  | @next deeds b b' d run due ih =>
    obtain ⟨hinit, hlast⟩ := List.forall_mem_append.mp hd
    have hlast : ¬ d.Disturbs panel := hlast d List.mem_cons_self
    have hnames : b'.session.names = first.session.names := due.names.trans (run.names hinit)
    -- what waits after the deed waited before it, so the parameters were not forgotten on the way
    have hu : b'.session.waiting.urls panel ≠ [] := by
      intro hnil
      rw [Deed.perform_urls server hlast b' (hnames ▸ hp), hnil] at h
      simp at h
    rw [Deed.perform_extras server hlast b' h, Deed.recalled_concat, hnames, due.waiting]
    rw [due.waiting] at hu
    rw [ih hinit hu]

/-- The next command shows messages, leaves this waiting and loads these requests. -/
def Board.Starts (server : Server σ) (b : Board σ) (requests : List LoadRequest) (waiting : Waiting) : Prop :=
  ∃ messages, b.step server =
    Board.load server requests
      ⟨{ b.session.display messages with queue := b.session.queue.tail, waiting }, b.server⟩

theorem Board.Starts.waiting {requests : List LoadRequest} {waiting : Waiting}
    (h : b.Starts server requests waiting) : (b.step server).session.waiting = waiting := by
  obtain ⟨messages, h⟩ := h
  rw [h]
  exact (Board.loadFrame_load server _ _).waiting

theorem Board.starts_of_plan {c : Command} {rest : List Command} {requests : List LoadRequest}
    {messages : List Message} {waiting : Waiting} (hq : b.session.queue = c :: rest)
    (h : (Deed.carry c).plan server { b with session := { b.session with queue := rest } } =
      (requests, ⟨{ b.session.display messages with queue := rest, waiting }, b.server⟩)) :
    b.Starts server requests waiting :=
  ⟨messages, by rw [step_eq_perform hq, Deed.perform_eq_load, h, hq]; rfl⟩

theorem Board.starts_load {pages : List Page} {extras : List Params} {rest : List Command}
    (hq : b.session.queue = .load pages extras :: rest) :
    let s := { b.session with queue := rest }
    b.Starts server (s.planPages pages extras).1 (s.planPages pages extras).2.waiting := by
  intro s
  obtain ⟨messages, waiting, h⟩ := Session.planPages_frame pages extras s
  exact Board.starts_of_plan hq (by simp only [Deed.plan]; rw [h]; rfl)

theorem Board.starts_finish {request : Finish} {rest : List Command} {url : String} {urls : List String}
    (hp : panel ∈ b.session.names) (hq : b.session.queue = .finish request :: rest)
    (hr : request.panel = some panel) (hc : request.cancel = false)
    (hu : b.session.waiting.urls panel = url :: urls) :
    b.Starts server [⟨panel, url, b.session.waiting.extras.getD []⟩]
      (b.session.waiting.replace panel urls).settled := by
  have h := Session.planFinish_of_urls (s := { b.session with queue := rest }) hp hr hc hu
  exact Board.starts_of_plan hq (by simp only [Deed.plan]; rw [h]; rfl)

theorem Run.next_url {urls : List String} {next : String} (run : Run server first deeds b)
    (hd : ∀ d ∈ deeds, ¬ d.Disturbs panel) (hp : panel ∈ first.session.names)
    (hu : first.session.waiting.urls panel = urls)
    (hn : urls[deeds.countP fun d => d.finishes panel]? = some next) :
    b.session.waiting.urls panel = next :: urls.drop ((deeds.countP fun d => d.finishes panel) + 1) := by
  obtain ⟨hlt, he⟩ := List.getElem?_eq_some_iff.mp hn
  rw [run.urls hd hp, hu, List.drop_eq_getElem_cons hlt, he]

end

/-! ## After a load -/

section
variable {σ : Type} {server : Server σ} {b : Board σ} {panel : String} {pages : List Page} {extras : List Params}
variable {rest : List Command} (hq : b.session.queue = .load pages extras :: rest)
include hq

theorem names_after_load : (b.step server).session.names = b.session.names := by
  rw [step_eq_perform hq]
  exact Deed.perform_names server (by simp) _

variable {url : String} {urls : List String} (hp : panel ∈ b.session.names)
variable (hu : Page.urlsOf (some panel) pages = url :: urls)
include hp hu

theorem urls_after_load : (b.step server).session.waiting.urls panel = urls := by
  rw [(Board.starts_load hq).waiting]
  exact (Session.planPages_of_named pages extras { b.session with queue := rest } hp hu).1

theorem extras_after_load (hmore : urls ≠ []) : (b.step server).session.waiting.extras = some extras := by
  have hmany : Page.leavesWaiting b.session.names pages = true := by
    refine List.any_eq_true.mpr ⟨panel, hp, decide_eq_true ?_⟩
    rw [hu, List.length_cons]
    exact Nat.succ_lt_succ (List.length_pos_iff.mpr hmore)
  rw [(Board.starts_load hq).waiting, Session.planPages_extras]
  exact if_pos hmany

end

section
variable {σ : Type} {server : Server σ} {b : Board σ} {panel : String} {pages : List Page} {extras : List Params}
variable {rest : List Command} {url : String} {urls : List String}

/-- A load of several urls in one panel starts the first and leaves the others to the finishes of the
panel, one to each, whatever happens in other panels and however the server answers. -/
theorem each_finish_starts_next (hp : panel ∈ b.session.names) (hq : b.session.queue = .load pages extras :: rest)
    (hu : Page.urlsOf (some panel) pages = url :: urls) :
    (∃ requests waiting, b.Starts server requests waiting ∧ waiting.urls panel = urls ∧
      (requests.filter fun r => r.panel = panel) = [⟨panel, url, extras⟩] ∧
      ∀ r ∈ requests, r.extras = extras ∧ (Page.urlsOf (some r.panel) pages).head? = some r.locator) ∧
    ∀ deeds b', Run server (b.step server) deeds b' → (∀ d ∈ deeds, ¬ d.Disturbs panel) →
      let finished := deeds.countP fun d => d.finishes panel
      b'.session.waiting.urls panel = urls.drop finished ∧
      (∀ request more next, b'.session.queue = .finish request :: more → request.panel = some panel →
        request.cancel = false → urls[finished]? = some next → ∃ params waiting,
          b'.Starts server [⟨panel, next, params⟩] waiting ∧ waiting.urls panel = urls.drop (finished + 1)) ∧
      ∀ (d : Deed) taken, d.Due b' taken → ∀ r ∈ (d.plan server taken).1,
        d.Brings taken.session r ∨ r ∈ (d.plan server taken).2.session.defaults := by
  obtain ⟨hleft, hfirst⟩ := Session.planPages_of_named pages extras { b.session with queue := rest } hp hu
  have hrequests := Session.planPages_requests pages extras { b.session with queue := rest }
  refine ⟨⟨_, _, Board.starts_load hq, hleft, hfirst, fun r hr => (hrequests r hr).2⟩, ?_⟩
  intro deeds b' run hd finished
  have hknown : panel ∈ (b.step server).session.names := names_after_load hq ▸ hp
  have hwait : (b.step server).session.waiting.urls panel = urls := urls_after_load hq hp hu
  refine ⟨by rw [run.urls hd hknown, hwait], ?_, fun d taken _ => d.brings_or_default server taken⟩
  intro request more next hq' hr hc hn
  have hnext := run.next_url hd hknown hwait hn
  refine ⟨_, _, Board.starts_finish (run.names hd ▸ hknown) hq' hr hc hnext, ?_⟩
  simp [finished, Waiting.urls_settled, Waiting.urls_replace]

end

/-- The first of two urls is refused, and the finish of the panel starts the second. -/
theorem next_starts_after_refusal :
    let pages : List Page := [⟨some "/x", some "A"⟩, ⟨some "/z", some "B"⟩, ⟨some "/y", some "A"⟩]
    let b := ((⟨.new .default .builtin, []⟩ : Board _).start Server.scripted
      (.definePanels [⟨"A", ""⟩, ⟨"B", ""⟩])).start Server.scripted (.run (.load pages []))
    let b' := (b.step Server.scripted).start Server.scripted (.run (.finish (.ofPanel "A")))
    "A" ∈ b.session.names ∧ b.session.queue = [.load pages []] ∧ Page.urlsOf (some "A") pages = ["/x", "/y"] ∧
      b'.session.queue = [.finish (.ofPanel "A")] ∧
      ∃ params waiting, b'.Starts Server.scripted [⟨"A", "/y", params⟩] waiting ∧ waiting.urls "A" = [] := by
  intro pages b b'
  have hp : "A" ∈ b.session.names := List.mem_cons_self
  have hu : Page.urlsOf (some "A") pages = ["/x", "/y"] := by decide
  have run : Run Server.scripted (b.step Server.scripted) [.start (.run (.finish (.ofPanel "A")))] b' :=
    Run.refl.start _
  obtain ⟨-, h, -⟩ := (each_finish_starts_next hp rfl hu).2 _ _ run (by simp [Deed.Disturbs])
  exact ⟨hp, rfl, hu, rfl, h (.ofPanel "A") [] "/y" rfl rfl rfl rfl⟩

section
variable {σ : Type} {server : Server σ} {b : Board σ} {panel : String} {pages : List Page} {extras : List Params}
variable {rest : List Command} {url : String} {urls : List String}

/-- What a load leaves waiting in a panel is found with the parameters of the last load there was before
its finish. It is found with those of its own load exactly if that last load left something waiting, in
whichever panel, and had the same parameters, or left nothing and there were none to forget. -/
theorem found_with_last_parameters (hp : panel ∈ b.session.names) (hq : b.session.queue = .load pages extras :: rest)
    (hu : Page.urlsOf (some panel) pages = url :: urls)
    {deeds : List Deed} {b' : Board σ} (run : Run server (b.step server) deeds b')
    (hd : ∀ d ∈ deeds, ¬ d.Disturbs panel) {request : Finish} {more : List Command} {next : String}
    (hq' : b'.session.queue = .finish request :: more) (hr : request.panel = some panel)
    (hc : request.cancel = false) (hn : urls[deeds.countP fun d => d.finishes panel]? = some next) :
    let found := Deed.recalled b.session.names extras deeds
    (∃ waiting, b'.session.waiting.next? panel = some (next, found, waiting) ∧
      b'.Starts server [⟨panel, next, found⟩] waiting) ∧
    (found = extras ↔ ∀ pages' extras', (deeds.filterMap Deed.load?).getLast? = some (pages', extras') →
      if Page.leavesWaiting b.session.names pages' then extras' = extras else extras = []) := by
  intro found
  have hnames : (b.step server).session.names = b.session.names := names_after_load hq
  have hknown : panel ∈ (b.step server).session.names := hnames ▸ hp
  have hmore : urls ≠ [] := by
    rintro rfl
    simp at hn
  have hnext := run.next_url hd hknown (urls_after_load hq hp hu) hn
  have hfound : b'.session.waiting.extras.getD [] = found := by
    rw [run.extras hd hknown (by simp [hnext]), hnames, extras_after_load hq hp hu hmore]
    rfl
  exact ⟨⟨_, hfound ▸ Waiting.next?_of_urls hnext,
    hfound ▸ Board.starts_finish (run.names hd ▸ hknown) hq' hr hc hnext⟩, Deed.recalled_eq_iff⟩

end

/-- What waits loses its parameters when something is loaded in another panel. -/
theorem parameters_lost_to_other_panel :
    let pages : List Page := [⟨some "/x", some "A"⟩, ⟨some "/y", some "A"⟩]
    let extras := [Dict.ofList [("order", Json.str "M1")]]
    let other := Command.load [⟨some "/z", some "B"⟩] []
    let b := ((⟨.new .default .builtin, []⟩ : Board _).start Server.scripted
      (.definePanels [⟨"A", ""⟩, ⟨"B", ""⟩])).start Server.scripted (.run (.load pages extras))
    let b' := (((b.step Server.scripted).start Server.scripted (.run other)).step Server.scripted).start
      Server.scripted (.run (.finish (.ofPanel "A")))
    "A" ∈ b.session.names ∧ b.session.queue = [.load pages extras] ∧
      Page.urlsOf (some "A") pages = ["/x", "/y"] ∧ b'.session.queue = [.finish (.ofPanel "A")] ∧
      ∃ waiting, b'.session.waiting.next? "A" = some ("/y", [], waiting) ∧
        b'.Starts Server.scripted [⟨"A", "/y", []⟩] waiting := by
  intro pages extras other b b'
  have hp : "A" ∈ b.session.names := List.mem_cons_self
  have hu : Page.urlsOf (some "A") pages = ["/x", "/y"] := by decide
  have run : Run Server.scripted (b.step Server.scripted)
      [.start (.run other), .carry other, .start (.run (.finish (.ofPanel "A")))] b' :=
    ((Run.refl.start (.run other)).step rfl).start _
  have hd : ∀ d ∈ [Deed.start (.run other), .carry other, .start (.run (.finish (.ofPanel "A")))],
      ¬ d.Disturbs "A" := by
    have hother : Page.urlsOf (some "A") [⟨some "/z", some "B"⟩] = [] := by decide
    simp [Deed.Disturbs, other, hother]
  have hq : b'.session.queue = [.finish (.ofPanel "A")] := rfl
  obtain ⟨h, -⟩ := found_with_last_parameters hp rfl hu run hd hq rfl rfl rfl
  exact ⟨hp, rfl, hu, hq, h⟩

end Dashboard
