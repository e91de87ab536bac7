import Dashboard.Proofs.Groups
import Dashboard.Proofs.Panels
import Dashboard.Session.Operation

/-!
# Plans of loads and finishes

Loads and finishes first decide what is loaded. That shows messages and changes
what waits, and nothing else. A load takes the first url of each group for a
known panel and lets the others wait (`planLoad_eq`); a finish does one of four
things (`planFinish_cases`).
-/

namespace Dashboard

/-! ## Queues -/

namespace Waiting

theorem urls_replace (w : Waiting) (panel : String) (urls : List String) (p : String) :
    (w.replace panel urls).urls p = if p = panel then urls else w.urls p := by
  simp only [Waiting.urls, replace, Dict.get?_insert]
  split <;> rfl

theorem urls_settled (w : Waiting) (p : String) : w.settled.urls p = w.urls p := by
  unfold settled
  split <;> rfl

theorem urls_clear (w : Waiting) (panel p : String) :
    (w.clear panel).urls p = if p = panel then [] else w.urls p := by
  unfold clear
  rw [urls_settled]
  simp only [Waiting.urls, Dict.get?_erase]
  split <;> rfl

/-- While something waits, the parameters are not forgotten. -/
theorem settled_of_urls {w : Waiting} {p : String} (h : w.urls p ≠ []) : w.settled = w := by
  have hd : w.isDrained = false := by
    unfold Waiting.urls at h
    cases hq : w.queues.get? p with
    | none => simp [hq] at h
    | some urls =>
      simp only [hq, Option.getD_some] at h
      have hm : urls ∈ w.queues.values := List.mem_map.mpr ⟨(p, urls), Dict.get?_eq_some_iff.mp hq, rfl⟩
      unfold isDrained
      rw [List.all_eq_false]
      exact ⟨urls, hm, by simpa using h⟩
  simp [settled, hd]

theorem extras_settled {w : Waiting} {p : String} (h : w.settled.urls p ≠ []) : w.settled.extras = w.extras := by
  rw [urls_settled] at h
  rw [settled_of_urls h]

theorem next?_of_urls {w : Waiting} {panel url : String} {rest : List String} (h : w.urls panel = url :: rest) :
    w.next? panel = some (url, w.extras.getD [], (w.replace panel rest).settled) := by
  simp only [next?, h]

theorem next?_of_nil {w : Waiting} {panel : String} (h : w.urls panel = []) : w.next? panel = none := by
  simp only [next?, h]

end Waiting

/-- Whether pages bring a known panel more than it can show at once. -/
def Page.leavesWaiting (names : List String) (pages : List Page) : Bool :=
  names.any fun name => 1 < (urlsOf (some name) pages).length

namespace Session

/-! ## Plans -/

def defaults (s : Session) : List LoadRequest :=
  s.slots.map fun slot => ⟨slot.name, slot.panel.defaultUrl, []⟩

theorem map_panel_defaults (s : Session) : s.defaults.map LoadRequest.panel = s.names := by
  simp only [defaults, names, List.map_map]
  rfl

def define (panels : List Panel) (s : Session) : Session :=
  { s with slots := panels.map Slot.ofPanel, waiting := .empty }

def planPages (pages : List Page) (extras : List Params) (s : Session) : List LoadRequest × Session :=
  Board.planLoad extras (Page.grouped pages) { s with waiting := s.waiting.forget }

def planFinish (request : Finish) (s : Session) : List LoadRequest × Session :=
  match request.panel.bind s.slot? with
  | none => ([], (s.display request.messages).report (.unknownPanel request.panel "finished()"))
  | some slot =>
    if request.cancel then
      ([⟨slot.name, slot.panel.defaultUrl, []⟩],
        { s.display request.messages with waiting := s.waiting.clear slot.name })
    else
      match s.waiting.next? slot.name with
      | some (url, extras, waiting) =>
        ([⟨slot.name, url, extras⟩], { s.display request.messages with waiting := waiting })
      | none =>
        (match slot.mode with
          | .nonGui => []
          | .gui => [⟨slot.name, slot.panel.defaultUrl, []⟩], s.display request.messages)

theorem display_nil (s : Session) : s.display [] = s := by
  simp [display, Screen.display]

theorem display_display (s : Session) (first next : List Message) :
    (s.display first).display next = s.display (first ++ next) := by
  simp [display, Screen.display, List.append_assoc]

/-! ## Groups of a load -/

def request? (names : List String) (extras : List Params) : Option String × List String → Option LoadRequest
  | (some panel, url :: _) => if panel ∈ names then some ⟨panel, url, extras⟩ else none
  | _ => none

/-- What waits once the rest of a group does. -/
def fill (names : List String) (extras : List Params) (w : Waiting) : Option String × List String → Waiting
  | (some panel, _ :: rest) =>
    if panel ∈ names then (if rest.isEmpty then w else w.remember extras).replace panel rest else w
  | _ => w

def complaint? (names : List String) (group : Option String × List String) : Option Message :=
  if group.1.any (· ∈ names) then none else some (Failure.unknownPanel group.1 "load()").message

section
variable {names : List String} {extras : List Params}

theorem request?_eq_some_iff {g : Option String × List String} {r : LoadRequest} :
    request? names extras g = some r ↔
      r.panel ∈ names ∧ r.extras = extras ∧ g.1 = some r.panel ∧ g.2.head? = some r.locator := by
  obtain ⟨key, urls⟩ := g
  cases key with
  | none => simp [request?]
  | some panel =>
    cases urls with
    | nil => simp [request?]
    | cons url rest =>
      by_cases hp : panel ∈ names
      · simp only [request?, if_pos hp, List.head?_cons, Option.some.injEq]
        constructor
        · rintro rfl
          exact ⟨hp, rfl, rfl, rfl⟩
        · rintro ⟨-, rfl, rfl, rfl⟩
          rfl
      · simp only [request?, if_neg hp]
        constructor
        · intro h
          cases h
        · rintro ⟨hr, -, he, -⟩
          exact absurd (Option.some.inj he ▸ hr) hp

theorem request?_of_unknown {key : Option String} (h : key.any (· ∈ names) = false) (urls : List String) :
    request? names extras (key, urls) = none := by
  rw [Option.eq_none_iff_forall_ne_some]
  intro r hr
  obtain ⟨hp, -, hkey, -⟩ := request?_eq_some_iff.mp hr
  simp only at hkey
  simp [hkey, hp] at h

theorem fill_of_unknown {key : Option String} (h : key.any (· ∈ names) = false) (urls : List String) (w : Waiting) :
    fill names extras w (key, urls) = w := by
  cases key with
  | none => rfl
  | some panel =>
    have hp : panel ∉ names := by simpa using h
    cases urls with
    | nil => rfl
    | cons url rest => exact if_neg hp

theorem planLoad_eq : ∀ (groups : List (Option String × List String)) (s : Session),
    Board.planLoad extras groups s = (groups.filterMap (request? s.names extras),
      { s.display (groups.filterMap (complaint? s.names)) with
        waiting := groups.foldl (fill s.names extras) s.waiting })
  | [], s => by
    rw [List.filterMap_nil, List.filterMap_nil, display_nil]
    rfl
  | (key, urls) :: groups, s => by
    unfold Board.planLoad
    rw [List.foldl_cons]
    cases hk : key.bind s.slot? with
    | none =>
      have hunknown : key.any (· ∈ s.names) = false := by
        cases key with
        | none => rfl
        | some name => simpa using not_mem_names_iff.mpr hk
      have hcomplaint : complaint? s.names (key, urls) = some (Failure.unknownPanel key "load()").message := by
        simp [complaint?, hunknown]
      rw [List.filterMap_cons_none (request?_of_unknown hunknown urls), List.filterMap_cons_some hcomplaint,
        fill_of_unknown hunknown]
      simp only [planLoad_eq groups, report, display_display]
      rfl
    | some slot =>
      obtain ⟨name, rfl, hs⟩ := Option.bind_eq_some_iff.mp hk
      obtain rfl := name_of_slot? hs
      have hknown : slot.name ∈ s.names := mem_names_iff.mpr ⟨slot, hs⟩
      have hcomplaint : complaint? s.names (some slot.name, urls) = none := by simp [complaint?, hknown]
      rw [List.filterMap_cons_none hcomplaint]
      cases urls with
      | nil => exact planLoad_eq groups s
      | cons first rest =>
        have hrequest : request? s.names extras (some slot.name, first :: rest) = some ⟨slot.name, first, extras⟩ :=
          if_pos hknown
        have hfill : fill s.names extras s.waiting (some slot.name, first :: rest) =
            (if rest.isEmpty then s.waiting else s.waiting.remember extras).replace slot.name rest := if_pos hknown
        rw [List.filterMap_cons_some hrequest, hfill]
        simp only [planLoad_eq groups]
        rfl

variable {panel url : String} {urls : List String} {groups : List (Option String × List String)}

theorem nodup_requests (hn : (groups.map (·.1)).Nodup) :
    ((groups.filterMap (request? names extras)).map LoadRequest.panel).Nodup := by
  refine List.pairwise_map.mpr (List.pairwise_filterMap.mpr ((List.pairwise_map.mp hn).imp ?_))
  intro g g' hne r hr r' hr' he
  obtain ⟨-, -, hkey, -⟩ := request?_eq_some_iff.mp hr
  obtain ⟨-, -, hkey', -⟩ := request?_eq_some_iff.mp hr'
  exact hne (by rw [hkey, hkey', he])

theorem requests_of_not_mem (h : some panel ∉ groups.map (·.1)) :
    (groups.filterMap (request? names extras)).filter (fun r => r.panel = panel) = [] := by
  rw [List.filter_eq_nil_iff]
  intro r hr hp
  obtain ⟨g, hg, hgr⟩ := List.mem_filterMap.mp hr
  obtain ⟨-, -, hkey, -⟩ := request?_eq_some_iff.mp hgr
  obtain rfl : r.panel = panel := by simpa using hp
  exact h (List.mem_map.mpr ⟨g, hg, hkey⟩)

theorem urls_fill_of_ne {key : Option String} (h : key ≠ some panel) (us : List String) (w : Waiting) :
    (fill names extras w (key, us)).urls panel = w.urls panel := by
  cases key with
  | none => rfl
  | some name =>
    have hne : panel ≠ name := fun e => h (e ▸ rfl)
    cases us with
    | nil => rfl
    | cons first rest =>
      simp only [fill]
      split
      · rw [Waiting.urls_replace, if_neg hne]
        split <;> rfl
      · rfl

theorem urls_foldl_fill : ∀ {groups : List (Option String × List String)} (w : Waiting),
    some panel ∉ groups.map (·.1) → (groups.foldl (fill names extras) w).urls panel = w.urls panel
  | [], w, _ => rfl
  | (key, us) :: groups, w, h => by
    simp only [List.map_cons, List.mem_cons, not_or] at h
    rw [List.foldl_cons, urls_foldl_fill _ h.2, urls_fill_of_ne (Ne.symm h.1)]

theorem group_of_mem (hn : (groups.map (·.1)).Nodup) (hm : (some panel, url :: urls) ∈ groups) (hp : panel ∈ names)
    (w : Waiting) : (groups.foldl (fill names extras) w).urls panel = urls ∧
      (groups.filterMap (request? names extras)).filter (fun r => r.panel = panel) = [⟨panel, url, extras⟩] := by
  -- the groups around this one are for other panels
  obtain ⟨before, after, rfl⟩ := List.append_of_mem hm
  rw [List.map_append, List.map_cons] at hn
  obtain ⟨hbefore, hafter⟩ : some panel ∉ before.map (·.1) ∧ some panel ∉ after.map (·.1) := by
    have h := List.perm_middle.nodup_iff.mp hn
    rw [List.nodup_cons, List.mem_append, not_or] at h
    exact h.1
  constructor
  · rw [List.foldl_append, List.foldl_cons, urls_foldl_fill _ hafter]
    simp [fill, hp, Waiting.urls_replace]
  · rw [List.filterMap_append, List.filter_append, requests_of_not_mem hbefore]
    have hrequest : request? names extras (some panel, url :: urls) = some ⟨panel, url, extras⟩ := if_pos hp
    rw [List.filterMap_cons_some hrequest, List.filter_cons_of_pos (by simp), requests_of_not_mem hafter]
    rfl

theorem extras_foldl_fill : ∀ (groups : List (Option String × List String)) (w : Waiting),
    (groups.foldl (fill names extras) w).extras =
      if groups.any fun g => g.1.any (· ∈ names) && 1 < g.2.length then some extras else w.extras
  | [], w => rfl
  | (key, us) :: groups, w => by
    rw [List.foldl_cons, extras_foldl_fill groups, List.any_cons]
    cases hk : key.any (· ∈ names) with
    | false =>
      rw [fill_of_unknown hk, Bool.false_and, Bool.false_or]
    | true =>
      obtain ⟨name, rfl, hname⟩ := (Option.any_eq_true _ _).mp hk
      have hknown : name ∈ names := by simpa using hname
      match us with
      | [] => rfl
      | [first] =>
        have hone : (fill names extras w (some name, [first])).extras = w.extras := by
          simp [fill, hknown, Waiting.replace]
        rw [hone]
        rfl
      | first :: next :: rest => simp [fill, hknown, Waiting.replace, Waiting.remember]

end

/-! ## Loads -/

section
variable (pages : List Page) (extras : List Params) (s : Session) {panel : String}

theorem planPages_eq : s.planPages pages extras = ((Page.grouped pages).filterMap (request? s.names extras),
    { s.display ((Page.grouped pages).filterMap (complaint? s.names)) with
      waiting := (Page.grouped pages).foldl (fill s.names extras) s.waiting.forget }) :=
  planLoad_eq (Page.grouped pages) { s with waiting := s.waiting.forget }

theorem planPages_frame : ∃ messages waiting,
    (s.planPages pages extras).2 = { s.display messages with waiting := waiting } :=
  ⟨_, _, by rw [planPages_eq]⟩

theorem planPages_nodup : ((s.planPages pages extras).1.map LoadRequest.panel).Nodup := by
  rw [planPages_eq]
  exact nodup_requests (Page.map_fst_grouped pages ▸ Page.nodup_panelsOf pages)

theorem planPages_requests : ∀ r ∈ (s.planPages pages extras).1,
    r.panel ∈ s.names ∧ r.extras = extras ∧ (Page.urlsOf (some r.panel) pages).head? = some r.locator := by
  intro r hr
  rw [planPages_eq] at hr
  obtain ⟨⟨key, urls⟩, hg, hgr⟩ := List.mem_filterMap.mp hr
  obtain ⟨hknown, hextras, rfl, hfirst⟩ := request?_eq_some_iff.mp hgr
  refine ⟨hknown, hextras, ?_⟩
  rw [← (Page.mem_grouped_iff.mp hg).1]
  exact hfirst

theorem planPages_of_unnamed (h : Page.urlsOf (some panel) pages = []) :
    (s.planPages pages extras).2.waiting.urls panel = s.waiting.urls panel := by
  have hm : some panel ∉ (Page.grouped pages).map (·.1) := by
    rw [Page.map_fst_grouped, ← Page.urlsOf_ne_nil_iff]
    exact fun hne => hne h
  rw [planPages_eq]
  exact urls_foldl_fill s.waiting.forget hm

theorem planPages_of_named {url : String} {urls : List String} (hp : panel ∈ s.names)
    (h : Page.urlsOf (some panel) pages = url :: urls) :
    (s.planPages pages extras).2.waiting.urls panel = urls ∧
      (s.planPages pages extras).1.filter (fun r => r.panel = panel) = [⟨panel, url, extras⟩] := by
  have hn : ((Page.grouped pages).map (·.1)).Nodup := Page.map_fst_grouped pages ▸ Page.nodup_panelsOf pages
  have hm : (some panel, url :: urls) ∈ Page.grouped pages := Page.mem_grouped_iff.mpr ⟨h.symm, by simp⟩
  rw [planPages_eq]
  exact group_of_mem hn hm hp s.waiting.forget

theorem planPages_extras : (s.planPages pages extras).2.waiting.extras =
    if Page.leavesWaiting s.names pages then some extras else none := by
  have hany : ((Page.grouped pages).any fun g => g.1.any (· ∈ s.names) && 1 < g.2.length) =
      Page.leavesWaiting s.names pages := by
    rw [Bool.eq_iff_iff]
    simp only [Page.leavesWaiting, List.any_eq_true, Bool.and_eq_true, decide_eq_true_eq, Option.any_eq_true]
    constructor
    · rintro ⟨⟨key, urls⟩, hm, ⟨name, rfl, hn⟩, hl⟩
      exact ⟨name, hn, (Page.mem_grouped_iff.mp hm).1 ▸ hl⟩
    · rintro ⟨name, hn, hl⟩
      have hne : Page.urlsOf (some name) pages ≠ [] := List.ne_nil_of_length_pos (Nat.lt_trans Nat.zero_lt_one hl)
      exact ⟨(some name, _), Page.mem_grouped_iff.mpr ⟨rfl, hne⟩, ⟨name, rfl, hn⟩, hl⟩
  rw [planPages_eq, ← hany]
  exact extras_foldl_fill (Page.grouped pages) s.waiting.forget

end

/-! ## Finishes -/

section
variable (request : Finish) (s : Session) {panel : String}

theorem planFinish_cases :
    (request.panel.bind s.slot? = none ∧
      s.planFinish request = ([], (s.display request.messages).report (.unknownPanel request.panel "finished()"))) ∨
    ∃ slot, request.panel = some slot.name ∧ s.slot? slot.name = some slot ∧
      ((request.cancel = true ∧ s.planFinish request = ([⟨slot.name, slot.panel.defaultUrl, []⟩],
          { s.display request.messages with waiting := s.waiting.clear slot.name })) ∨
        (∃ url urls, request.cancel = false ∧ s.waiting.urls slot.name = url :: urls ∧
          s.planFinish request = ([⟨slot.name, url, s.waiting.extras.getD []⟩],
            { s.display request.messages with waiting := (s.waiting.replace slot.name urls).settled })) ∨
        (request.cancel = false ∧ s.waiting.urls slot.name = [] ∧
          s.planFinish request = (match slot.mode with
            | .nonGui => []
            | .gui => [⟨slot.name, slot.panel.defaultUrl, []⟩], s.display request.messages))) := by
  cases h : request.panel.bind s.slot? with
  | none => exact Or.inl ⟨rfl, by simp only [planFinish, h]⟩
  | some slot =>
    obtain ⟨name, hr, hs⟩ := Option.bind_eq_some_iff.mp h
    obtain rfl := name_of_slot? hs
    refine Or.inr ⟨slot, hr, hs, ?_⟩
    cases hc : request.cancel with
    | true => exact Or.inl ⟨rfl, by simp only [planFinish, h, hc, ite_true]⟩
    | false =>
      refine Or.inr ?_
      cases hu : s.waiting.urls slot.name with
      | cons url urls => exact Or.inl ⟨url, urls, rfl, rfl, by simp [planFinish, h, hc, Waiting.next?_of_urls hu]⟩
      | nil => exact Or.inr ⟨rfl, rfl, by simp [planFinish, h, hc, Waiting.next?_of_nil hu]⟩

theorem planFinish_frame : ∃ messages waiting,
    (s.planFinish request).2 = { s.display messages with waiting := waiting } := by
  rcases planFinish_cases request s with
    ⟨-, h⟩ | ⟨slot, -, -, ⟨-, h⟩ | ⟨url, urls, -, -, h⟩ | ⟨-, -, h⟩⟩
  · exact ⟨_, s.waiting, by rw [h]; exact display_display _ _ _⟩
  · exact ⟨_, _, by rw [h]⟩
  · exact ⟨_, _, by rw [h]⟩
  · exact ⟨_, s.waiting, by rw [h]; rfl⟩

theorem planFinish_requests : (s.planFinish request).1 = [] ∨
    ∃ r, (s.planFinish request).1 = [r] ∧ request.panel = some r.panel ∧ r.panel ∈ s.names ∧
      (r ∈ s.defaults ∨ (request.cancel = false ∧ (s.waiting.urls r.panel).head? = some r.locator)) := by
  rcases planFinish_cases request s with ⟨-, h⟩ | ⟨slot, hr, hs, hcase⟩
  · exact Or.inl (by rw [h])
  have hname : slot.name ∈ s.names := mem_names_iff.mpr ⟨slot, hs⟩
  have hdefault : (⟨slot.name, slot.panel.defaultUrl, []⟩ : LoadRequest) ∈ s.defaults :=
    List.mem_map.mpr ⟨slot, List.mem_of_find?_eq_some hs, rfl⟩
  rcases hcase with ⟨-, h⟩ | ⟨url, urls, hc, hu, h⟩ | ⟨-, -, h⟩
  · exact Or.inr ⟨_, by rw [h], hr, hname, Or.inl hdefault⟩
  · exact Or.inr ⟨_, by rw [h], hr, hname, Or.inr ⟨hc, by rw [hu]; rfl⟩⟩
  · cases hm : slot.mode with
    | nonGui => exact Or.inl (by rw [h, hm])
    | gui => exact Or.inr ⟨_, by rw [h, hm], hr, hname, Or.inl hdefault⟩

variable {request s}

theorem planFinish_of_urls (hp : panel ∈ s.names) (hr : request.panel = some panel) (hc : request.cancel = false)
    {url : String} {urls : List String} (h : s.waiting.urls panel = url :: urls) :
    s.planFinish request = ([⟨panel, url, s.waiting.extras.getD []⟩],
      { s.display request.messages with waiting := (s.waiting.replace panel urls).settled }) := by
  obtain ⟨slot, hs⟩ := mem_names_iff.mp hp
  obtain rfl := name_of_slot? hs
  simp [planFinish, hr, hs, hc, Waiting.next?_of_urls h]

/-- A finish takes the first url of its own panel, unless it cancels, and nothing of other panels. -/
theorem planFinish_urls (hp : panel ∈ s.names) (hd : ¬ (request.panel = some panel ∧ request.cancel = true)) :
    (s.planFinish request).2.waiting.urls panel =
      if request.panel = some panel then (s.waiting.urls panel).tail else s.waiting.urls panel := by
  rcases planFinish_cases request s with ⟨hnone, h⟩ | ⟨slot, hr, hs, hcase⟩
  · have hne : request.panel ≠ some panel := by
      intro hr
      rw [hr, Option.bind_some] at hnone
      exact not_mem_names_iff.mpr hnone hp
    rw [h, if_neg hne]
    rfl
  have hiff : request.panel = some panel ↔ panel = slot.name := by rw [hr, Option.some.injEq, eq_comm]
  simp only [hiff] at hd ⊢
  rcases hcase with ⟨hc, h⟩ | ⟨url, urls, -, hu, h⟩ | ⟨-, hu, h⟩
  · have hne : panel ≠ slot.name := fun e => hd ⟨e, hc⟩
    simp [h, Waiting.urls_clear, hne]
  · by_cases hp : panel = slot.name
    · simp [h, Waiting.urls_settled, Waiting.urls_replace, hp, hu]
    · simp [h, Waiting.urls_settled, Waiting.urls_replace, hp]
  · by_cases hp : panel = slot.name
    · simp [h, hp, hu, display]
    · simp [h, hp, display]

/-- No finish forgets the parameters as long as something waits after it. -/
theorem planFinish_extras (hu : (s.planFinish request).2.waiting.urls panel ≠ []) :
    (s.planFinish request).2.waiting.extras = s.waiting.extras := by
  rcases planFinish_cases request s with
    ⟨-, h⟩ | ⟨slot, -, -, ⟨-, h⟩ | ⟨url, urls, -, -, h⟩ | ⟨-, -, h⟩⟩ <;> rw [h] at hu ⊢
  · rfl
  · exact Waiting.extras_settled hu
  · exact Waiting.extras_settled hu
  · rfl

end

end Session

end Dashboard
