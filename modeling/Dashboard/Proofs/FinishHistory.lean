import Mathlib
import Dashboard.Proofs.Answers

/-!
# What a finish loads

A finish without anything waiting looks at the mode of its panel. The mode is
that of the activity last made in the panel since it was defined
(`Trace.mode`): answers that make none leave it, and lending the panel does not
bring back the mode of the activity that comes back. So the run says what each
finish loads (`finish_fixed_by_history`).
-/

namespace Dashboard

/-! ## Modes -/

namespace Activity

def mode (a : Activity) : Mode := if a.isGui then .gui else .nonGui

/-- The mode after these activities were made one after the other. -/
def modeAfter (made : List Activity) (m : Mode) : Mode := (made.getLast?.map mode).getD m

theorem modeAfter_append (first next : List Activity) (m : Mode) :
    modeAfter (first ++ next) m = modeAfter next (modeAfter first m) := by
  unfold modeAfter
  rw [List.getLast?_append]
  cases next.getLast? <;> rfl

end Activity

open Activity (modeAfter)

theorem Slot.mode_after (o : Except Failure Activity) (t : Slot) :
    (Slot.after o t).mode = modeAfter o.toOption.toList t.mode := by
  cases o with
  | error failure => rfl
  | ok a =>
    simp only [Slot.after]
    by_cases ha : a.isGui = true
    · simp [ha, modeAfter, Activity.mode, Except.toOption, showing]
    · simp [ha, modeAfter, Activity.mode, Except.toOption, executed]

def Fetched.madeIn (r : Registry) (panel : String) (fetched : List Fetched) : List Activity :=
  fetched.flatMap fun f => if f.panel = panel then (f.outcome r).toOption.toList else []

namespace Session

def mode? (s : Session) (panel : String) : Option Mode := (s.slot? panel).map Slot.mode

theorem mode?_changeSlot {f : Slot → Slot} (hf : Slot.Keeps f) (hm : ∀ t, (f t).mode = t.mode) (s : Session)
    (panel other : String) : (s.changeSlot panel f).mode? other = s.mode? other := by
  unfold mode?
  rw [slot?_changeSlot hf]
  by_cases h : other = panel
  · rw [if_pos h, h, Option.map_map]
    congr 1
    funext t
    exact hm t
  · rw [if_neg h]

theorem mode?_startLoads (panel : String) : ∀ (panels : List String) (s : Session),
    (s.startLoads panels).mode? panel = s.mode? panel
  | [], _ => rfl
  | first :: panels, s =>
    (mode?_startLoads panel panels _).trans (mode?_changeSlot Slot.keeps_startLoading (fun _ => rfl) s first panel)

theorem mode?_receive (panel : String) (f : Fetched) (s : Session) :
    (s.receive f).mode? panel = (s.mode? panel).map (modeAfter (Fetched.madeIn s.registry panel [f])) := by
  unfold mode?
  rw [slot?_receive]
  by_cases h : panel = f.panel
  · subst h
    rw [if_pos rfl, Option.map_map, Option.map_map]
    congr 1
    funext t
    simp [Slot.mode_after, Fetched.madeIn]
  · have hnone : Fetched.madeIn s.registry panel [f] = [] := by simp [Fetched.madeIn, Ne.symm h]
    rw [if_neg h, hnone]
    exact Option.map_id'.symm

theorem mode?_foldl_receive (panel : String) : ∀ (fetched : List Fetched) (s : Session),
    (fetched.foldl (fun s f => s.receive f) s).mode? panel =
      (s.mode? panel).map (modeAfter (Fetched.madeIn s.registry panel fetched))
  | [], s => Option.map_id'.symm
  | f :: fetched, s => by
    have hcons : Fetched.madeIn s.registry panel (f :: fetched) =
        Fetched.madeIn s.registry panel [f] ++ Fetched.madeIn s.registry panel fetched := by
      simp [Fetched.madeIn]
    rw [List.foldl_cons, mode?_foldl_receive panel fetched, mode?_receive, (loadFrame_receive f s).registry,
      Option.map_map, hcons]
    congr 1
    funext m
    exact (Activity.modeAfter_append _ _ m).symm

end Session

/-! ## Modes along a run -/

def Deed.defines : Deed → Bool
  | .start (.definePanels _) => true
  | _ => false

theorem Deed.defines_iff {d : Deed} : d.defines = true ↔ ∃ panels, d = .start (.definePanels panels) := by
  cases d with
  | start op => cases op <;> simp [defines]
  | carry c => simp [defines]

namespace Done

/-- The deeds since panels were last defined, that deed included. -/
def sinceDefined : List Done → List Done
  | [] => []
  | d :: done => if done.any (·.deed.defines) then sinceDefined done else d :: done

theorem sinceDefined_of_defines {d : Done} (hd : d.deed.defines = true) :
    ∀ done : List Done, sinceDefined (done ++ [d]) = [d]
  | [] => rfl
  | first :: done => by simp [sinceDefined, hd, sinceDefined_of_defines hd done]

theorem sinceDefined_of_not_defines {d : Done} (hd : d.deed.defines = false) :
    ∀ done : List Done, sinceDefined (done ++ [d]) = sinceDefined done ++ [d]
  | [] => rfl
  | first :: done => by
    simp only [List.cons_append, sinceDefined, List.any_append, List.any_cons, hd, List.any_nil, Bool.or_false]
    split
    · exact sinceDefined_of_not_defines hd done
    · rfl

/-- The activities made in a panel since panels were last defined, the last one last. -/
def madeIn (r : Registry) (panel : String) (done : List Done) : List Activity :=
  (sinceDefined done).flatMap fun d => Fetched.madeIn r panel d.brought

end Done

section
variable {σ : Type} (server : Server σ)

theorem Deed.mode?_perform (d : Deed) (b : Board σ) (panel : String) :
    (d.perform server b).session.mode? panel = ((d.plan server b).2.session.mode? panel).map
      (modeAfter (Fetched.madeIn b.session.registry panel (d.fetches server b).1)) := by
  have hmode : (d.fetches server b).2.session.mode? panel = (d.plan server b).2.session.mode? panel := by
    unfold Deed.fetches Board.fetched
    rw [Board.fetch_session, Session.prepare_eq]
    exact Session.mode?_startLoads panel _ _
  rw [Deed.perform_eq_receive]
  simp only [Board.onSession]
  rw [Session.mode?_foldl_receive, d.fetches_registry, hmode]

theorem Session.mode?_define (panels : List Panel) (s : Session) (panel : String) :
    ∀ m, (s.define panels).mode? panel = some m → m = .gui := by
  intro m h
  obtain ⟨t, ht, rfl⟩ := Option.map_eq_some_iff.mp h
  obtain ⟨p, -, rfl⟩ := List.mem_map.mp (List.mem_of_find?_eq_some ht)
  rfl

variable {server} {first b : Board σ} {done : List Done} {panel : String}

/-- The mode of a panel is that of the activity last made in it, and at first that of panels with content. -/
theorem Trace.mode (trace : Trace server first done b) (h : first.session.slots = []) :
    ∀ m, b.session.mode? panel = some m → m = modeAfter (Done.madeIn first.session.registry panel done) .gui := by
  induction trace with
  | refl =>
    intro m hm
    simp [Session.mode?, Session.slot?, h] at hm
  | @next done b b' d trace due ih =>
    intro m hm
    have hregistry : b'.session.registry = first.session.registry := due.registry.trans trace.run.registry
    rw [Deed.mode?_perform, hregistry] at hm
    obtain ⟨m', hm', rfl⟩ := Option.map_eq_some_iff.mp hm
    by_cases hd : d.defines = true
    · obtain ⟨panels, rfl⟩ := Deed.defines_iff.mp hd
      obtain rfl : m' = .gui := Session.mode?_define panels b'.session panel m' hm'
      rw [Done.madeIn, Done.sinceDefined_of_defines hd, List.flatMap_singleton]
    · have hslots := Deed.plan_slots server (fun panels he => hd (Deed.defines_iff.mpr ⟨panels, he⟩)) b'
      have hbefore : b.session.mode? panel = some m' := by
        rw [Session.mode?, Session.slot?, hslots, due.slots] at hm'
        exact hm'
      rw [Done.madeIn, Done.sinceDefined_of_not_defines (Bool.eq_false_iff.mpr hd), List.flatMap_append,
        List.flatMap_singleton, Activity.modeAfter_append, ih m' hbefore, Done.madeIn]

end

/-! ## Finishes -/

section
variable (request : Finish)

theorem Session.planFinish_of_known {s : Session} {panel : String} {slot : Slot} (hr : request.panel = some panel)
    (hs : s.slot? panel = some slot) :
    ∃ waiting, waiting.urls panel = (if request.cancel then [] else (s.waiting.urls panel).tail) ∧
      s.planFinish request =
        (if request.cancel then [⟨panel, slot.panel.defaultUrl, []⟩]
          else match s.waiting.urls panel, slot.mode with
            | url :: _, _ => [⟨panel, url, s.waiting.extras.getD []⟩]
            | [], .gui => [⟨panel, slot.panel.defaultUrl, []⟩]
            | [], .nonGui => [],
          { s.display request.messages with waiting }) := by
  obtain rfl := name_of_slot? hs
  rcases planFinish_cases request s with ⟨hnone, -⟩ | ⟨slot', hr', hs', hcase⟩
  · rw [hr, Option.bind_some, hs] at hnone
    cases hnone
  have hname : slot'.name = slot.name := Option.some.inj (hr'.symm.trans hr)
  obtain rfl : slot' = slot := Option.some.inj (hs'.symm.trans (hname ▸ hs))
  rcases hcase with ⟨hc, hp⟩ | ⟨url, urls, hc, hu, hp⟩ | ⟨hc, hu, hp⟩
  · refine ⟨s.waiting.clear slot'.name, ?_, by rw [hp]; simp [hc]⟩
    rw [Waiting.urls_clear, if_pos rfl, if_pos hc]
  · refine ⟨(s.waiting.replace slot'.name urls).settled, ?_, by rw [hp]; simp [hc, hu]⟩
    simp [Waiting.urls_settled, Waiting.urls_replace, hc, hu]
  · refine ⟨s.waiting, by simp [hc, hu], ?_⟩
    rw [hp]
    cases hm : slot'.mode <;> simp [hc, hu] <;> rfl

theorem Session.sameAt_planFinish {other : String} (h : request.panel ≠ some other) (s : Session) :
    s.SameAt other (s.planFinish request).2 := by
  have hurls : (s.planFinish request).2.waiting.urls other = s.waiting.urls other := by
    rcases planFinish_cases request s with ⟨-, hp⟩ | ⟨slot, hr, -, hcase⟩
    · rw [hp]
      rfl
    have hne : other ≠ slot.name := fun e => h (e ▸ hr)
    rcases hcase with ⟨-, hp⟩ | ⟨url, urls, -, -, hp⟩ | ⟨-, -, hp⟩ <;> rw [hp]
    · exact (Waiting.urls_clear _ _ _).trans (if_neg hne)
    · exact (Waiting.urls_settled _ _).trans ((Waiting.urls_replace _ _ _ _).trans (if_neg hne))
    · rfl
  obtain ⟨messages, waiting, hp⟩ := planFinish_frame request s
  rw [hp] at hurls ⊢
  exact ⟨rfl, hurls, rfl, rfl⟩

theorem Board.sameAt_finish {σ : Type} (server : Server σ) {other : String} (h : request.panel ≠ some other)
    (b : Board σ) : b.session.SameAt other (b.finish server request).session := by
  have hrequests : other ∉ (b.session.planFinish request).1.map LoadRequest.panel := by
    rcases Session.planFinish_requests request b.session with hr | ⟨r, hr, hp, -⟩
    · simp [hr]
    · have hne : other ≠ r.panel := fun e => h (e ▸ hp)
      simpa [hr] using hne
  rw [Deed.finish_eq_load]
  exact (Session.sameAt_planFinish request h b.session).trans
    (Board.sameAt_load server hrequests ⟨(b.session.planFinish request).2, b.server⟩)

end

section
variable {σ : Type} {server : Server σ} {settings : Settings} {registry : Registry} {state : σ} {done : List Done}
variable {b : Board σ}

/-- What a finish loads when it is carried out, with whatever commands behind it: nothing but a message if
its panel is not known; the default after a cancel; else the next url that waits; else the default again,
unless the activity last made in the panel had no content. -/
theorem finish_fixed_by_history (trace : Trace server ⟨.new settings registry, state⟩ done b) (request : Finish)
    (queue : List Command) :
    let shown := { b.session.display request.messages with queue }
    let after := Board.finish server request { b with session := { b.session with queue } }
    (request.panel.bind b.session.slot? = none →
      after = ⟨shown.report (.unknownPanel request.panel "finished()"), b.server⟩) ∧
    (∀ panel slot, request.panel = some panel → b.session.slot? panel = some slot →
      let default : LoadRequest := ⟨panel, slot.panel.defaultUrl, []⟩
      let next : Option LoadRequest :=
        if request.cancel then some default
        else match b.session.waiting.urls panel, (Done.madeIn registry panel done).getLast? with
          | url :: _, _ => some ⟨panel, url, b.session.waiting.extras.getD []⟩
          | [], none => some default
          | [], some a => if a.isGui then some default else none
      (∃ waiting, after = Board.load server next.toList ⟨{ shown with waiting }, b.server⟩) ∧
      after.session.waiting.urls panel = (if request.cancel then [] else (b.session.waiting.urls panel).tail) ∧
      (slot.panel.defaultUrl = "" → ∀ board : Board σ, Board.load server [default] board = board)) ∧
    ∀ other, request.panel ≠ some other → b.session.SameAt other after.session := by
  intro shown after
  let s : Session := { b.session with queue }
  have hafter : after = Board.load server (s.planFinish request).1 ⟨(s.planFinish request).2, b.server⟩ :=
    Deed.finish_eq_load server request ⟨s, b.server⟩
  refine ⟨fun hnone => ?_, fun panel slot hr hs => ?_, fun other h => ?_⟩
  · rcases Session.planFinish_cases request s with ⟨-, hp⟩ | ⟨slot, hr, hs, -⟩
    · rw [hafter, hp]
      rfl
    · have hknown : request.panel.bind b.session.slot? = some slot := Option.bind_eq_some_iff.mpr ⟨_, hr, hs⟩
      rw [hnone] at hknown
      cases hknown
  · obtain rfl := Session.name_of_slot? hs
    intro default next
    have hmode : slot.mode = ((Done.madeIn registry slot.name done).getLast?.map Activity.mode).getD .gui :=
      trace.mode rfl slot.mode (by rw [Session.mode?, hs]; rfl)
    obtain ⟨waiting, hu, hp⟩ := Session.planFinish_of_known (s := s) request hr hs
    have hnext : (s.planFinish request).1 = next.toList := by
      rw [hp, hmode]
      cases hc : request.cancel with
      | true => simp [next, default, hc]
      | false =>
        cases hw : b.session.waiting.urls slot.name with
        | cons url urls => simp [s, next, hc, hw]
        | nil =>
          cases hlast : (Done.madeIn registry slot.name done).getLast? with
          | none => simp [next, default, hc, hw, hlast]
          | some a => cases ha : a.isGui <;> simp [next, default, hc, hw, hlast, Activity.mode, ha]
    rw [hp] at hafter hnext
    refine ⟨⟨waiting, by rw [hafter, hnext]; rfl⟩, ?_, ?_⟩
    · rw [hafter, (Board.loadFrame_load server _ _).waiting]
      exact hu
    · intro hd board
      simp only [default, hd]
      exact Board.load_without_locator server rfl board
  · obtain ⟨hslot, hurls, hshown, hdrawn⟩ := Board.sameAt_finish request server h ⟨s, b.server⟩
    exact ⟨hslot, hurls, hshown, hdrawn⟩

end

/-- The default of a panel executes when the panel is defined, and the finish of the panel then loads nothing. -/
theorem nothing_loaded_after_execution :
    let source := "\x7b\"execute\":\"dashboard.message\"\x7d"
    let define := Operation.definePanels [⟨"A", "/home"⟩]
    let first : Board _ := ⟨.new .default .builtin, [.ok source]⟩
    let b := first.start Server.scripted define
    ∃ done a, Trace Server.scripted first done b ∧ (Done.madeIn .builtin "A" done).getLast? = some a ∧
      a.isGui = false ∧
        ∃ waiting, b.finish Server.scripted (.ofPanel "A") = ⟨{ b.session with waiting }, b.server⟩ := by
  intro source define first b
  let f : Fetched := ⟨"A", first.session.address ⟨"A", "/home", []⟩, .ok (source, false)⟩
  have trace : Trace Server.scripted first [⟨.start define, [f]⟩] b := Trace.refl.next (.start define _)
  have hread : Definition.ofText source =
      .ok ⟨none, some "dashboard.message", none, none, none, none, false, .null⟩ := by
    simp only [source]
    cbv
  obtain ⟨a, ha, hgui⟩ : ∃ a, Registry.builtin.activity "A" f.url source = .ok a ∧ a.isGui = false :=
    ⟨_, activity_of_text hread rfl "A" f.url, rfl⟩
  have hlast : (Done.madeIn .builtin "A" [⟨.start define, [f]⟩]).getLast? = some a := by
    have ho : f.outcome .builtin = .ok a := ha
    simp [Done.madeIn, Done.sinceDefined, Fetched.madeIn, ho, Except.toOption, f]
  have hframe := Board.loadFrame_load Server.scripted ((Session.define [⟨"A", "/home"⟩] first.session).defaults)
    (first.onSession (Session.define [⟨"A", "/home"⟩]))
  obtain ⟨slot, hs⟩ : ∃ slot, b.session.slot? "A" = some slot :=
    Session.mem_names_iff.mp (hframe.names ▸ List.mem_cons_self)
  have hempty : b.session.waiting.urls "A" = [] := congrArg (Waiting.urls · "A") hframe.waiting
  obtain ⟨-, hfinish, -⟩ := finish_fixed_by_history trace (.ofPanel "A") b.session.queue
  obtain ⟨⟨waiting, h⟩, -⟩ := hfinish "A" slot rfl hs
  rw [hempty, hlast] at h
  simp only [hgui, Finish.ofPanel, Bool.false_eq_true, if_false, Option.toList_none, Session.display_nil] at h
  exact ⟨_, a, trace, hlast, hgui, waiting, h⟩

end Dashboard
