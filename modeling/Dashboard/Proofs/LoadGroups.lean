import Mathlib.Data.List.Induction
import Dashboard.Proofs.Answers

/-!
# Loads by groups

A load goes through the groups of its pages: a group for a known panel starts
one load and the rest of it waits, any other group comes to one message. Loads
do not read the messages on the screen (`load_after_messages`), so these groups
change nothing for the others (`load_by_groups`).
-/

namespace Dashboard

namespace Page

/-! ## Groups of pages -/

/-- An empty url asks for nothing. -/
def asked? (p : Page) : Option String := p.url.filter fun url => !url.isEmpty

structure SortedOut (pages : List Page) (groups : List (Option String × List String)) : Prop where
  distinct : (groups.map Prod.fst).Nodup
  inOrder : groups.map Prod.fst = ((pages.filter fun p => p.asked?.isSome).map Page.panel).eraseDups
  filled : ∀ g ∈ groups, g.2 ≠ []
  urls : ∀ g ∈ groups, g.2 = (pages.filter fun p => p.panel = g.1).filterMap asked?
  whole : (groups.flatMap Prod.snd).Perm (pages.filterMap asked?)

theorem entries_cons (p : Page) (pages : List Page) :
    entries (p :: pages) = (p.asked?.map fun url => (p.panel, url)).toList ++ entries pages := by
  have hentry : p.entry? = p.asked?.map fun url => (p.panel, url) := by
    unfold entry? asked?
    cases p.url with
    | none => rfl
    | some url => by_cases hu : url.isEmpty = true <;> simp [Option.filter_some, hu]
  unfold entries
  rw [List.filterMap_cons, hentry]
  cases p.asked? <;> rfl

theorem map_fst_entries (pages : List Page) :
    (entries pages).map Prod.fst = (pages.filter fun p => p.asked?.isSome).map Page.panel := by
  induction pages with
  | nil => rfl
  | cons p pages ih => cases h : p.asked? <;> simp [entries_cons, h, ih]

theorem map_snd_entries (pages : List Page) : (entries pages).map Prod.snd = pages.filterMap asked? := by
  induction pages with
  | nil => rfl
  | cons p pages ih => cases h : p.asked? <;> simp [entries_cons, h, ih]

theorem entries_filter (q : Option String → Bool) (pages : List Page) :
    entries (pages.filter fun p => q p.panel) = (entries pages).filter fun e => q e.1 := by
  induction pages with
  | nil => rfl
  | cons p pages ih => cases hq : q p.panel <;> cases h : p.asked? <;> simp [entries_cons, hq, h, ih]

theorem urlsOf_eq (panel : Option String) (pages : List Page) :
    urlsOf panel pages = (pages.filter fun p => p.panel = panel).filterMap asked? := by
  unfold urlsOf
  rw [← entries_filter (fun key => key = panel), map_snd_entries]

theorem flatMap_addTo (panel : Option String) (url : String) : ∀ groups : List (Option String × List String),
    ((addTo panel url groups).flatMap Prod.snd).Perm (groups.flatMap Prod.snd ++ [url])
  | [] => .refl _
  | (p, urls) :: groups => by
    unfold addTo
    by_cases hp : p = panel
    · -- the url comes before those of the groups behind this one
      rw [if_pos hp, List.flatMap_cons, List.flatMap_cons, List.append_assoc, List.append_assoc]
      exact .append_left urls List.perm_append_comm
    · rw [if_neg hp, List.flatMap_cons, List.flatMap_cons, List.append_assoc]
      exact .append_left urls (flatMap_addTo panel url groups)

theorem filter_addTo (q : Option String → Bool) (panel : Option String) (url : String) :
    ∀ groups : List (Option String × List String), (addTo panel url groups).filter (fun g => q g.1) =
      if q panel then addTo panel url (groups.filter fun g => q g.1) else groups.filter fun g => q g.1
  | [] => by cases hq : q panel <;> simp [addTo, hq]
  | (p, urls) :: groups => by
    have ih := filter_addTo q panel url groups
    by_cases hp : p = panel
    · subst hp
      cases hq : q p <;> simp [addTo, hq]
    · cases hq : q p <;> cases hq' : q panel <;> simp [addTo, hp, hq, hq', ih]

theorem flatMap_groupsOf (l : List (Option String × String)) :
    ((groupsOf l).flatMap Prod.snd).Perm (l.map Prod.snd) := by
  induction l using List.reverseRecOn with
  | nil => exact .refl _
  | append_singleton l e ih =>
    rw [← addTo_groupsOf, List.map_append]
    exact (flatMap_addTo e.1 e.2 _).trans (ih.append_right _)

theorem groupsOf_filter (q : Option String → Bool) (l : List (Option String × String)) :
    groupsOf (l.filter fun e => q e.1) = (groupsOf l).filter fun g => q g.1 := by
  induction l using List.reverseRecOn with
  | nil => rfl
  | append_singleton l e ih =>
    rw [← addTo_groupsOf, filter_addTo, ← ih, List.filter_append]
    cases hq : q e.1 with
    | false => simp [hq]
    | true => simp [hq, addTo_groupsOf]

theorem grouped_filter (q : Option String → Bool) (pages : List Page) :
    grouped (pages.filter fun p => q p.panel) = (grouped pages).filter fun g => q g.1 := by
  rw [grouped_eq_groupsOf, grouped_eq_groupsOf, entries_filter, groupsOf_filter]

theorem sortedOut_grouped (pages : List Page) : SortedOut pages (grouped pages) where
  distinct := map_fst_grouped pages ▸ nodup_panelsOf pages
  inOrder := by rw [map_fst_grouped, panelsOf, map_fst_entries]
  filled g hg := (mem_grouped_iff.mp hg).2
  urls g hg := urlsOf_eq g.1 pages ▸ (mem_grouped_iff.mp hg).1
  whole := by
    rw [grouped_eq_groupsOf, ← map_snd_entries]
    exact flatMap_groupsOf (entries pages)

theorem SortedOut.ne_empty {pages : List Page} {groups : List (Option String × List String)}
    (h : SortedOut pages groups) {g : Option String × List String} (hg : g ∈ groups)
    {url : String} (hu : url ∈ g.2) :
    url ≠ "" := by
  rw [h.urls g hg] at hu
  obtain ⟨p, -, hp⟩ := List.mem_filterMap.mp hu
  obtain ⟨-, hne⟩ := Option.filter_eq_some_iff.mp hp
  simpa using hne

end Page

namespace Session

/-! ## Groups that are loaded -/

def knows (s : Session) (panel : Option String) : Bool := panel.any (· ∈ s.names)

def strays (s : Session) (groups : List (Option String × List String)) : List Message :=
  (groups.filter fun g => !s.knows g.1).map fun g => (Failure.unknownPanel g.1 "load()").message

variable (s : Session) (extras : List Params)

theorem complaints_eq_strays (groups : List (Option String × List String)) :
    groups.filterMap (complaint? s.names) = s.strays groups := by
  unfold strays
  rw [← List.filterMap_eq_map, List.filterMap_filter]
  congr 1
  funext g
  unfold complaint? knows
  cases g.1.any (· ∈ s.names) <;> simp

theorem requests_of_known (groups : List (Option String × List String)) : groups.filterMap (request? s.names extras) =
    (groups.filter fun g => s.knows g.1).filterMap (request? s.names extras) := by
  rw [List.filterMap_filter]
  congr 1
  funext g
  cases h : s.knows g.1 with
  | false => exact request?_of_unknown h g.2
  | true => simp

theorem fill_of_known (groups : List (Option String × List String)) (w : Waiting) :
    groups.foldl (fill s.names extras) w =
      (groups.filter fun g => s.knows g.1).foldl (fill s.names extras) w := by
  rw [List.foldl_filter]
  congr 1
  funext w g
  cases h : s.knows g.1 with
  | false => exact fill_of_unknown h g.2 w
  | true => simp

theorem planPages_of_known (pages : List Page) :
    let known := (Page.grouped pages).filter fun g => s.knows g.1
    s.planPages pages extras = (known.filterMap (request? s.names extras),
      { s.display (s.strays (Page.grouped pages)) with
        waiting := known.foldl (fill s.names extras) s.waiting.forget }) := by
  rw [planPages_eq, complaints_eq_strays, requests_of_known, fill_of_known]

theorem groups_of_known {pages : List Page} {g : Option String × List String}
    (hg : g ∈ (Page.grouped pages).filter fun g => s.knows g.1) :
    ∃ panel url urls, panel ∈ s.names ∧ g = (some panel, url :: urls) := by
  obtain ⟨key, urls⟩ := g
  obtain ⟨hmem, hname⟩ := List.mem_filter.mp hg
  obtain ⟨panel, rfl, hpanel⟩ := (Option.any_eq_true _ _).mp hname
  obtain ⟨url, rest, rfl⟩ := List.exists_cons_of_ne_nil ((Page.sortedOut_grouped pages).filled _ hmem)
  exact ⟨panel, url, rest, by simpa using hpanel, rfl⟩

/-- Each known group is taken apart: its first url is requested and the others wait. -/
theorem taken_groups (pages : List Page) (w : Waiting) :
    let known := (Page.grouped pages).filter fun g => s.knows g.1
    List.Forall₂ (fun g r => g.1 = some r.panel ∧ r.extras = extras ∧
        g.2 = r.locator :: (known.foldl (fill s.names extras) w).urls r.panel)
      known (known.filterMap (request? s.names extras)) := by
  intro known
  have hdistinct : (known.map Prod.fst).Nodup :=
    (Page.sortedOut_grouped pages).distinct.sublist (List.filter_sublist.map Prod.fst)
  refine forall₂_filterMap fun g hg => ?_
  obtain ⟨panel, url, urls, hpanel, rfl⟩ := s.groups_of_known hg
  obtain ⟨hurls, -⟩ : (known.foldl (fill s.names extras) w).urls panel = urls ∧ _ :=
    group_of_mem hdistinct hg hpanel w
  exact ⟨⟨panel, url, extras⟩, if_pos hpanel, rfl, rfl, congrArg (url :: ·) hurls.symm⟩

theorem hasLocator_of_taken {pages : List Page} {r : LoadRequest}
    (hr : r ∈ ((Page.grouped pages).filter fun g => s.knows g.1).filterMap (request? s.names extras)) :
    r.hasLocator = true := by
  obtain ⟨g, hg, hgr⟩ := List.mem_filterMap.mp hr
  obtain ⟨-, -, -, hfirst⟩ := request?_eq_some_iff.mp hgr
  have hne := (Page.sortedOut_grouped pages).ne_empty (List.mem_filter.mp hg).1 (List.mem_of_head? hfirst)
  simpa [LoadRequest.hasLocator] using hne

/-- The pages of the known groups are planned just so, without the complaints. -/
theorem planPages_of_named_only (pages : List Page) :
    let known := (Page.grouped pages).filter fun g => s.knows g.1
    s.planPages (pages.filter fun p => s.knows p.panel) extras = (known.filterMap (request? s.names extras),
      { s with waiting := known.foldl (fill s.names extras) s.waiting.forget }) := by
  intro known
  have hall : known.filter (fun g => s.knows g.1) = known :=
    List.filter_eq_self.mpr fun g hg => (List.mem_filter.mp hg).2
  have hnone : s.strays known = [] := by
    unfold strays
    rw [List.map_eq_nil_iff, List.filter_eq_nil_iff]
    intro g hg
    simp [(List.mem_filter.mp hg).2]
  rw [planPages_of_known, Page.grouped_filter, hall, hnone, display_nil]

end Session

namespace Board

open Session

variable {σ : Type} (server : Server σ)

theorem loadPages_eq {pages : List Page} {extras : List Params} {b : Board σ} {requests : List LoadRequest}
    {s : Session} (h : b.session.planPages pages extras = (requests, s)) :
    b.apply server (.load pages extras) = load server requests ⟨s, b.server⟩ := by
  show load server (b.session.planPages pages extras).1 ⟨(b.session.planPages pages extras).2, b.server⟩ = _
  rw [h]

/-- What is shown before a load only stands in front of what it shows itself. -/
theorem load_after_messages (requests : List LoadRequest) (more : List Message) (b : Board σ) :
    ∃ own, (load server requests b).session.screen.messages = b.session.screen.messages ++ own ∧
      load server requests (b.onSession fun s => s.display more) = (load server requests b).onSession fun s =>
        { s with screen := { s.screen with messages := b.session.screen.messages ++ more ++ own } } := by
  -- both loads are the one from a screen without messages, behind those that were there
  let unseen := b.onSession Session.clearMessages
  have hwithout : b = unseen.onSession (preceded [] [] b.session.screen.messages) := by
    simp [unseen, onSession, preceded, clearMessages, Screen.clear]
  have hwith : (b.onSession fun s => s.display more) =
      unseen.onSession (preceded [] [] (b.session.screen.messages ++ more)) := by
    simp [unseen, onSession, preceded, clearMessages, Screen.clear, display, Screen.display]
  have hbehind : ∀ messages, load server requests (unseen.onSession (preceded [] [] messages)) =
      (load server requests unseen).onSession (preceded [] [] messages) :=
    fun messages => load_unread server (unread_preceded [] [] messages) requests unseen
  have hload := (congrArg (load server requests) hwithout).trans (hbehind _)
  refine ⟨(load server requests unseen).session.screen.messages, ?_, ?_⟩
  · rw [hload]
    rfl
  · rw [hwith, hbehind, hload]
    rfl

/-- A load starts one load for each group of a known panel, in their order, with the rest of the group left waiting, and
complains once about each other group. Without the pages of these it would do all the same but complain. -/
theorem load_by_groups (pages : List Page) (extras : List Params) (b : Board σ) :
    let groups := Page.grouped pages
    let known := groups.filter fun g => b.session.knows g.1
    let strays := b.session.strays groups
    let loaded := b.apply server (.load pages extras)
    let others := b.apply server (.load (pages.filter fun p => b.session.knows p.panel) extras)
    Page.SortedOut pages groups ∧
    (∃ (requests : List LoadRequest) (waiting : Waiting),
      let taken := b.onSession fun s => { s.display strays with waiting := waiting }
      loaded = load server requests taken ∧
      List.Forall₂ (fun g r => g.1 = some r.panel ∧ r.extras = extras ∧ g.2 = r.locator :: waiting.urls r.panel)
        known requests ∧
      List.Forall₂ (Fetched.Answers server taken.session) requests (taken.fetched server requests).1 ∧
      ∀ panel, some panel ∉ known.map Prod.fst → waiting.urls panel = b.session.waiting.urls panel) ∧
    ∃ own, others.session.screen.messages = b.session.screen.messages ++ own ∧
      loaded = others.onSession fun s =>
        { s with screen := { s.screen with messages := b.session.screen.messages ++ strays ++ own } } := by
  intro groups known strays loaded others
  let requests := known.filterMap (request? b.session.names extras)
  let waiting := known.foldl (fill b.session.names extras) b.session.waiting.forget
  let taken := b.onSession fun s => { s.display strays with waiting := waiting }
  have hloaded : loaded = load server requests taken := loadPages_eq server (b.session.planPages_of_known extras pages)
  have hothers : others = load server requests (b.onSession fun s => { s with waiting := waiting }) :=
    loadPages_eq server (b.session.planPages_of_named_only extras pages)
  refine ⟨Page.sortedOut_grouped pages, ⟨requests, waiting, hloaded,
    b.session.taken_groups extras pages _, ?_, ?_⟩, ?_⟩
  · have hasked : requests.filter LoadRequest.hasLocator = requests :=
      List.filter_eq_self.mpr fun r hr => b.session.hasLocator_of_taken extras hr
    have hanswers := fetched_answers server requests taken
    rwa [hasked] at hanswers
  · intro panel hpanel
    exact urls_foldl_fill _ hpanel
  · obtain ⟨own, hown, hmore⟩ :=
      load_after_messages server requests strays (b.onSession fun s => { s with waiting := waiting })
    rw [← hothers] at hown hmore
    exact ⟨own, hown, hloaded.trans hmore⟩

end Board

end Dashboard
