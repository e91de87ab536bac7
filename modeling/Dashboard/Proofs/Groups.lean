import Dashboard.Page

/-!
# Pages sorted out by panel

`grouped_eq` gives the groups of a load outright: the panels that pages with a
url ask for, in the order in which they come first, each with its urls in the
order of the pages. No panel has two groups and no group is empty.
-/

namespace Dashboard

theorem nodup_eraseDups [BEq α] [LawfulBEq α] : ∀ l : List α, l.eraseDups.Nodup
  | [] => by simp
  | a :: l => by
    rw [List.eraseDups_cons, List.nodup_cons]
    refine ⟨fun h => ?_, nodup_eraseDups _⟩
    simp at h
termination_by l => l.length
decreasing_by exact Nat.lt_succ_of_le (List.length_filter_le _ _)

theorem eraseDups_concat [BEq α] [LawfulBEq α] (l : List α) (a : α) :
    (l ++ [a]).eraseDups = if a ∈ l then l.eraseDups else l.eraseDups ++ [a] := by
  rw [List.eraseDups_append]
  by_cases h : a ∈ l <;> simp [List.removeAll, List.eraseDups_cons, h]

namespace Page

/-! ## Entries -/

def entry? (p : Page) : Option (Option String × String) :=
  match p.url with
  | some url => if url.isEmpty then none else some (p.panel, url)
  | none => none

def entries (pages : List Page) : List (Option String × String) := pages.filterMap entry?

/-- The urls that pages bring for a panel, in their order. -/
def urlsOf (panel : Option String) (pages : List Page) : List String :=
  ((entries pages).filter fun e => e.1 = panel).map (·.2)

def panelsOf (pages : List Page) : List (Option String) := ((entries pages).map (·.1)).eraseDups

theorem nodup_panelsOf (pages : List Page) : (panelsOf pages).Nodup := nodup_eraseDups _

theorem urlsOf_ne_nil_iff {panel : Option String} {pages : List Page} :
    urlsOf panel pages ≠ [] ↔ panel ∈ panelsOf pages := by
  unfold urlsOf panelsOf
  rw [List.mem_eraseDups, List.mem_map, Ne, List.map_eq_nil_iff, List.filter_eq_nil_iff]
  simp

/-! ## Groups -/

theorem addTo_of_mem {panel : Option String} {url : String} {g : Option String → List String} :
    ∀ {keys : List (Option String)}, keys.Nodup → panel ∈ keys →
      addTo panel url (keys.map fun k => (k, g k)) =
        keys.map fun k => (k, if k = panel then g k ++ [url] else g k)
  | [], _, h => absurd h (by simp)
  | k :: keys, hn, h => by
    obtain ⟨hk, hn⟩ := List.nodup_cons.mp hn
    simp only [List.map_cons, addTo]
    by_cases hp : k = panel
    · subst hp
      have hrest : (keys.map fun k' => (k', if k' = k then g k' ++ [url] else g k')) =
          keys.map fun k' => (k', g k') := by
        apply List.map_congr_left
        intro k' hk'
        have hne : k' ≠ k := fun e => hk (e ▸ hk')
        simp [hne]
      simp [hrest]
    · have hm : panel ∈ keys := by
        rcases List.mem_cons.mp h with h | h
        · exact absurd h.symm hp
        · exact h
      simp [hp, addTo_of_mem hn hm]

theorem addTo_of_not_mem {panel : Option String} {url : String} {g : Option String → List String} :
    ∀ {keys : List (Option String)}, panel ∉ keys →
      addTo panel url (keys.map fun k => (k, g k)) = (keys.map fun k => (k, g k)) ++ [(panel, [url])]
  | [], _ => rfl
  | k :: keys, h => by
    simp only [List.mem_cons, not_or] at h
    simp only [List.map_cons, addTo, if_neg (Ne.symm h.1), addTo_of_not_mem h.2, List.cons_append]

def groupsOf (l : List (Option String × String)) : List (Option String × List String) :=
  (l.map (·.1)).eraseDups.map fun k => (k, (l.filter fun e => e.1 = k).map (·.2))

theorem addTo_groupsOf (l : List (Option String × String)) (e : Option String × String) :
    addTo e.1 e.2 (groupsOf l) = groupsOf (l ++ [e]) := by
  unfold groupsOf
  rw [List.map_append, List.map_cons, List.map_nil, eraseDups_concat]
  by_cases h : e.1 ∈ l.map (·.1)
  · rw [addTo_of_mem (nodup_eraseDups _) (List.mem_eraseDups.mpr h), if_pos h]
    apply List.map_congr_left
    intro k _
    by_cases hk : k = e.1
    · simp [hk]
    · simp [hk, Ne.symm hk]
  · rw [addTo_of_not_mem (fun hm => h (List.mem_eraseDups.mp hm)), if_neg h, List.map_append]
    have hnone : (l.filter fun e' => e'.1 = e.1) = [] := by
      rw [List.filter_eq_nil_iff]
      intro e' he' hp
      exact h (List.mem_map.mpr ⟨e', he', by simpa using hp⟩)
    congr 1
    · apply List.map_congr_left
      intro k hk
      have hne : e.1 ≠ k := fun he => h (List.mem_eraseDups.mp (he ▸ hk))
      simp [hne]
    · simp [hnone]

theorem foldl_addTo : ∀ (rest l : List (Option String × String)),
    rest.foldl (fun groups e => addTo e.1 e.2 groups) (groupsOf l) = groupsOf (l ++ rest)
  | [], l => by simp
  | e :: rest, l => by
    rw [List.foldl_cons, addTo_groupsOf, foldl_addTo rest, List.append_assoc]
    rfl

theorem grouped_eq_groupsOf (pages : List Page) : grouped pages = groupsOf (entries pages) := by
  have h : grouped pages = (entries pages).foldl (fun groups e => addTo e.1 e.2 groups) [] := by
    unfold grouped entries
    rw [List.foldl_filterMap]
    congr 1
    funext groups page
    unfold entry?
    cases page.url with
    | none => rfl
    | some url => by_cases hu : url.isEmpty = true <;> simp [hu]
  rw [h]
  exact foldl_addTo (entries pages) []

theorem grouped_eq (pages : List Page) :
    grouped pages = (panelsOf pages).map fun panel => (panel, urlsOf panel pages) :=
  grouped_eq_groupsOf pages

example : grouped [⟨some "/x", some "A"⟩, ⟨some "/z", none⟩, ⟨none, some "B"⟩, ⟨some "/y", some "A"⟩] =
    [(some "A", ["/x", "/y"]), (none, ["/z"])] := by
  decide

theorem map_fst_grouped (pages : List Page) : (grouped pages).map (·.1) = panelsOf pages := by
  rw [grouped_eq, List.map_map]
  exact List.map_id _

theorem mem_grouped_iff {pages : List Page} {panel : Option String} {urls : List String} :
    (panel, urls) ∈ grouped pages ↔ urls = urlsOf panel pages ∧ urls ≠ [] := by
  rw [grouped_eq, List.mem_map]
  constructor
  · rintro ⟨k, hk, he⟩
    obtain ⟨rfl, rfl⟩ := Prod.mk.inj he
    exact ⟨rfl, urlsOf_ne_nil_iff.mpr hk⟩
  · rintro ⟨rfl, h⟩
    exact ⟨panel, urlsOf_ne_nil_iff.mp h, rfl⟩

end Page

end Dashboard
