import Dashboard.Proofs.Addresses
import Dashboard.Proofs.Answers
import Dashboard.Proofs.Courses
import Dashboard.Proofs.JsonValues
import Dashboard.Proofs.UndoReplay

/-!
# The parameters of a load

The parameters of a load come from three places, and a name that stands in
several of them gets its value from one (`get?_gather`). The session gives two of
them: those of its page never change, and the others are those that were added to
it (`Course.given`). So along a course it can be said from the deeds alone what
stands in each address that is requested.
-/

namespace Dashboard

theorem Dict.get?_merge {α : Type} (d e : Dict α) (key : String) :
    (d.merge e).get? key = (e.get? key).or (d.get? key) :=
  get?_insertMany key e.ascending.nodup d

namespace Params

/-! ## Precedence -/

/-- The value of a name: the last of the extra parameters with this name has it, else the base, else the page. -/
def effective? (base : Params) (extras : List Params) (page : Params) (name : String) : Option Json :=
  ((extras.filterMap fun extra => extra.get? name).getLast?.or (base.get? name)).or (page.get? name)

theorem get?_foldl_merge (name : String) : ∀ (extras : List Params) (base : Params),
    (extras.foldl Dict.merge base).get? name =
      (extras.filterMap fun extra => extra.get? name).getLast?.or (base.get? name)
  | [], _ => rfl
  | extra :: extras, base => by
    rw [List.foldl_cons, get?_foldl_merge name extras, Dict.get?_merge]
    cases he : extra.get? name with
    | none => simp [he]
    | some value =>
      simp only [List.filterMap_cons, he, List.getLast?_cons]
      cases (extras.filterMap fun extra => extra.get? name).getLast? <;> rfl

theorem get?_gather (base : Params) (extras : List Params) (page : Params) (name : String) :
    (gather base extras page).get? name = effective? base extras page name := by
  rw [gather, Dict.get?_merge, get?_foldl_merge, effective?]

theorem gather_gather (base : Params) (extras : List Params) (page : Params) :
    gather (gather base extras page) [] page = gather base extras page := by
  apply Dict.ext_get?
  intro name
  rw [get?_gather, effective?, List.filterMap_nil, List.getLast?_nil, Option.none_or, get?_gather, effective?,
    Option.or_assoc, Option.or_self]

end Params

namespace Locator

/-! ## Pieces of an address -/

/-- An argument with the separator before it. -/
def piece (separator : Char) (name value : String) : String :=
  String.singleton separator ++ name ++ "=" ++ Text.Percent.encode value

theorem tagged_eq {locator : String} (hl : locator ≠ "") (panel page : String) : tagged locator panel page =
    locator ++ piece (opening locator) "_panel" panel ++ piece (separator locator) "_variable" ("_" ++ panel) ++
      piece (separator locator) "_pageSrc" page := by
  have htags : tagged locator panel page = withArguments locator (tags panel page) := rfl
  rw [htags, tags, ← String.toList_inj, toList_withArguments hl]
  simp [piece, written, Json.argument]

theorem request_eq_tagged {locator : String} (hl : locator ≠ "") (panel page : String) (params : Params) :
    request locator panel page params = tagged locator panel page ++
      String.join (params.entries.map fun (name, value) => piece (separator locator) name value.argument) := by
  rw [tagged_eq hl, ← String.toList_inj, toList_request hl]
  simp [List.flatMap_def, piece, written, Json.argument, Function.comp_def]

end Locator

/-! ## What a course gives to its loads -/

namespace Session

/-- What all loads of a session are given: the path and the parameters of its page, and those added to it. -/
def given (s : Session) : String × Params × Params := (s.pagePath, s.pageQuery, s.params)

theorem LoadFrame.given {s t : Session} (h : LoadFrame s t) : t.given = s.given := by
  unfold Session.given
  rw [h.pagePath, h.pageQuery, h.params]

theorem given_pressAt (index : Nat) (s : Session) : (s.pressAt index).given = s.given := by
  unfold pressAt
  split <;> rfl

theorem given_keepUndo (response : Json) (s : Session) : (s.keepUndo response).given = s.given := by
  unfold keepUndo
  split <;> rfl

end Session

namespace Board

open Session

variable {σ : Type} (server : Server σ)

theorem given_withdrawUndo (s : Session) : (withdrawUndo s).given = s.given := by
  unfold withdrawUndo
  split <;> rfl

theorem given_undoNewest (b : Board σ) : (b.undoNewest server).session.given = b.session.given := by
  cases hb : b.session.undo.batches with
  | nil =>
    rw [undoNewest_of_empty server hb]
    exact given_withdrawUndo b.session
  | cons batch older =>
    rw [undoNewest_of_batch server hb]
    exact given_withdrawUndo _

theorem given_postActivity (data : Params) (url panel : String) (arguments : Params) (b : Board σ) :
    (b.postActivity server data url panel arguments).session.given = b.session.given := by
  unfold postActivity post
  cases server.post (Locator.withArguments url arguments.entries) (.object data) b.server with
  | mk answer state => cases answer <;> rfl

end Board

namespace Deed

variable {σ : Type} (server : Server σ)

/-- The parameters of a session after a deed. -/
def added : Deed → Params → Params
  | .start (.addParameter name value), params => params.insert name value
  | _, params => params

theorem added_of_not_quiet {d : Deed} (hd : ¬ d.Quiet) (params : Params) : d.added params = params := by
  cases d with
  | start op => cases op <;> first | rfl | exact absurd trivial hd
  | carry c => rfl

theorem given_of_quiet {d : Deed} (hd : d.Quiet) (b : Board σ) : (d.perform server b).session.given =
    (b.session.pagePath, b.session.pageQuery, d.added b.session.params) := by
  cases d with
  | start op =>
    cases op with
    | definePanels | resetToDefaults => cases hd
    | load pages extras =>
      simp only [perform, Board.start, Board.onSession]
      split <;> rfl
    | pressAt index => exact Session.given_pressAt index b.session
    | keepUndo response => exact Session.given_keepUndo response b.session
    | postActivity data url panel arguments => exact Board.given_postActivity server data url panel arguments b
    | defineButtons | addParameter | run | display | clearMessages => rfl
  | carry c =>
    cases c with
    | load | finish => cases hd
    | send | display => rfl
    | keepUndo response => exact Session.given_keepUndo response b.session
    | press id => exact Session.foldl_press_keeps (fun _ _ => rfl) _ b.session
    | undo => exact Board.given_undoNewest server b

theorem given_plan {d : Deed} (hd : ¬ d.Quiet) (b : Board σ) :
    (d.plan server b).2.session.given = b.session.given := by
  obtain ⟨slots, messages, waiting, h⟩ := d.plan_of_not_quiet server hd b
  rw [h]
  rfl

theorem given_perform (d : Deed) (b : Board σ) : (d.perform server b).session.given =
    (b.session.pagePath, b.session.pageQuery, d.added b.session.params) := by
  by_cases hd : d.Quiet
  · exact given_of_quiet server hd b
  · rw [perform_eq_load, (Board.loadFrame_load server _ _).given, given_plan server hd, added_of_not_quiet hd]
    rfl

end Deed

section
variable {σ : Type} {server : Server σ} {settings : Settings} {registry : Registry} {state : σ} {b : Board σ}
  {steps : List (Deed × Board σ)}

/-- The parameters that the deeds of a course have added to its session. -/
def addedAlong (steps : List (Deed × Board σ)) : Params := steps.foldl (fun params step => step.1.added params) .empty

theorem addedAlong_concat (steps : List (Deed × Board σ)) (step : Deed × Board σ) :
    addedAlong (steps ++ [step]) = step.1.added (addedAlong steps) := by
  rw [addedAlong, List.foldl_append]
  rfl

theorem Deed.Due.given {d : Deed} {b taken : Board σ} (h : d.Due b taken) : taken.session.given = b.session.given := by
  cases h <;> rfl

theorem Course.given (course : Course server ⟨.new settings registry, state⟩ steps b) :
    b.session.given = (settings.pagePath, settings.pageQuery, addedAlong steps) := by
  induction course with
  | refl => rfl
  | @next steps b taken d course due ih =>
    obtain ⟨hpath, hquery, hparams⟩ : taken.session.pagePath = settings.pagePath ∧
        taken.session.pageQuery = settings.pageQuery ∧ taken.session.params = addedAlong steps := by
      simpa [Session.given] using due.given.trans ih
    rw [Deed.given_perform, hpath, hquery, hparams, addedAlong_concat]
  | aside _ h ih =>
    obtain ⟨effects, hs⟩ := h.session
    rw [hs]
    exact ih

theorem Session.address_of_given {s : Session} {base : Params}
    (h : s.given = (settings.pagePath, settings.pageQuery, base)) :
    s.address = fun r => Locator.request r.locator r.panel settings.pagePath
      (Params.gather base r.extras settings.pageQuery) := by
  obtain ⟨hpath, hquery, hparams⟩ : s.pagePath = settings.pagePath ∧ s.pageQuery = settings.pageQuery ∧
      s.params = base := by
    simpa [Session.given] using h
  funext r
  rw [Session.address, hpath, hquery, hparams]

theorem Course.address (course : Course server ⟨.new settings registry, state⟩ steps b)
    {d : Deed} {taken : Board σ}
    (hd : ¬ d.Quiet) (due : d.Due b taken) {r : LoadRequest} (hl : r.locator ≠ "") :
    (d.plan server taken).2.session.address r = Locator.tagged r.locator r.panel settings.pagePath ++
      String.join ((Params.gather (addedAlong steps) r.extras settings.pageQuery).entries.map
        fun (name, value) => Locator.piece (Locator.separator r.locator) name value.argument) := by
  rw [Session.address_of_given ((d.given_plan server hd taken).trans (due.given.trans course.given))]
  exact Locator.request_eq_tagged hl r.panel settings.pagePath _

theorem Board.map_url_fetch : ∀ (prepared : List Prepared) (b : Board σ),
    (fetch server prepared b).1.map Fetched.url = prepared.map Prepared.url
  | [], _ => rfl
  | p :: prepared, b => by
    unfold fetch
    cases p.kept <;> simp [map_url_fetch prepared]

theorem Board.map_url_fetched (requests : List LoadRequest) (b : Board σ) :
    (b.fetched server requests).1.map Fetched.url = (requests.filter LoadRequest.hasLocator).map b.session.address := by
  unfold fetched
  rw [map_url_fetch, Session.prepare_eq, List.map_map]
  rfl

/-- In a load each name has the value that comes first: of the extra parameters the last one that has it, then what
was added to the session, then the page; to gather what was gathered changes nothing. The address of each request is
its tagged locator and behind it one argument for each name that has a value, in ascending order of the names. -/
theorem parameters_of_course (course : Course server ⟨.new settings registry, state⟩ steps b) :
    (∀ (base : Params) (extras : List Params) (page : Params),
      let params := Params.gather base extras page
      (∀ name, params.get? name = Params.effective? base extras page name) ∧
        Params.gather params [] page = params) ∧
    (∀ locator panel page : String, locator ≠ "" →
      let separator := Locator.separator locator
      Locator.tagged locator panel page = locator ++ Locator.piece (Locator.opening locator) "_panel" panel ++
        Locator.piece separator "_variable" ("_" ++ panel) ++ Locator.piece separator "_pageSrc" page) ∧
    ∀ (d : Deed) (taken : Board σ), d.Due b taken →
      let requests := (d.plan server taken).1
      let loading := (d.plan server taken).2.session
      let arguments := fun r : LoadRequest => (Params.gather (addedAlong steps) r.extras settings.pageQuery).entries
      let url := fun r : LoadRequest => Locator.tagged r.locator r.panel settings.pagePath ++ String.join
        ((arguments r).map fun (name, value) => Locator.piece (Locator.separator r.locator) name value.argument)
      (∀ r, (arguments r).Pairwise (fun a b => a.1 < b.1) ∧ ∀ name value, (name, value) ∈ arguments r ↔
        Params.effective? (addedAlong steps) r.extras settings.pageQuery name = some value) ∧
      (d.fetches server taken).1.map Fetched.url = (requests.filter LoadRequest.hasLocator).map url ∧
      (d.perform server taken).session.gets = loading.gets ++ (loading.asks requests).map url := by
  refine ⟨?_, ?_, ?_⟩
  · intro base extras page params
    exact ⟨Params.get?_gather base extras page, Params.gather_gather base extras page⟩
  · intro locator panel page hl
    exact Locator.tagged_eq hl panel page
  · intro d taken due requests loading arguments url
    refine ⟨?_, ?_⟩
    · intro r
      refine ⟨Dict.ascending _, ?_⟩
      intro name value
      rw [← Params.get?_gather, Dict.get?_eq_some_iff]
    by_cases hd : d.Quiet
    · have hplan : d.plan server taken = ([], d.perform server taken) := d.plan_of_quiet server hd taken
      have hrequests : requests = [] := congrArg Prod.fst hplan
      have hloading : loading = (d.perform server taken).session := congrArg (fun p => p.2.session) hplan
      rw [d.fetches_of_quiet server hd, hrequests, hloading]
      exact ⟨rfl, (List.append_nil _).symm⟩
    · have hurl : ∀ r ∈ requests.filter LoadRequest.hasLocator, loading.address r = url r := by
        intro r hr
        have hl : r.locator ≠ "" := by simpa [LoadRequest.hasLocator] using (List.mem_filter.mp hr).2
        exact course.address hd due hl
      constructor
      · rw [Deed.fetches, Board.map_url_fetched]
        exact List.map_congr_left hurl
      · rw [Deed.perform_eq_load, Board.load_gets]
        congr 1
        exact List.map_congr_left fun r hr => hurl r (List.mem_filter.mp hr).1

end

/-- An order is named by the page, by the session and by two maps of a load, the last of them with null. -/
theorem null_order_requested :
    let settings := { Settings.default with
      pageQuery := .ofList [("order", .str "FROM_PAGE"), ("workCenter", .str "WC1")] }
    let first : Board _ := ⟨.new settings .builtin, []⟩
    let load := Command.load [⟨some "/x?lot=1", some "A"⟩]
      [.ofList [("order", .str "M1")], .ofList [("order", .null)]]
    let ready := ((((first.start Server.scripted (.definePanels [⟨"A", ""⟩])).start Server.scripted
      (.addParameter "mode" (.str "a b"))).start Server.scripted (.addParameter "order" (.str "BASE"))).start
      Server.scripted (.run load))
    (∃ steps, Course Server.scripted first steps ready) ∧
      (ready.step Server.scripted).session.gets =
        ["/x?lot=1&_panel=A&_variable=_A&_pageSrc=%2Fdashboard&mode=a%20b&order=&workCenter=WC1"] := by
  intro settings first load ready
  let defined := first.start Server.scripted (.definePanels [⟨"A", ""⟩])
  let moded := defined.start Server.scripted (.addParameter "mode" (.str "a b"))
  let ordered := moded.start Server.scripted (.addParameter "order" (.str "BASE"))
  let taken : Board _ := { ready with session := { ready.session with queue := [] } }
  have course : Course Server.scripted first _ ready :=
    (((Course.refl.next (.start (.definePanels [⟨"A", ""⟩]) first)).next
      (.start (.addParameter "mode" (.str "a b")) defined)).next
      (.start (.addParameter "order" (.str "BASE")) moded)).next (.start (.run load) ordered)
  have due : (Deed.carry load).Due ready taken := .carry rfl
  obtain ⟨-, -, hloads⟩ := parameters_of_course course
  obtain ⟨-, -, hgets⟩ := hloads (.carry load) taken due
  refine ⟨⟨_, course⟩, ?_⟩
  have hstep : ready.step Server.scripted = (Deed.carry load).perform Server.scripted taken := step_eq_perform rfl
  rw [hstep, hgets]
  decide +kernel

end Dashboard
