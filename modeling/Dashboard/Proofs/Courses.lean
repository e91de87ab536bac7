import Dashboard.Proofs.Runs
import Dashboard.Scan.Service

/-!
# Courses: runs with scans

A scan is made of operations, but between them it asks the activities for
parameters and posts the barcode itself. A course is a run in which such asides
may come between the deeds (`leads_scan`). It keeps each deed with the board on
which it was done, so what the deed fetched and whom its events reached can be
read off it.
-/

namespace Dashboard

section
variable {σ : Type} (server : Server σ)

/-- What a scan does past the operations of the board. -/
inductive Aside : Board σ → Board σ → Prop
  | ask (b : Board σ) : Aside b (b.onSession fun s => s.noteCalls .provideScanParameters none)
  | post (url : String) (body : Json) (b : Board σ) : Aside b (b.post server url body).2

/-- Runs with asides, each deed kept with the board on which it was done. -/
inductive Course (first : Board σ) : List (Deed × Board σ) → Board σ → Prop
  | refl : Course first [] first
  | next {steps : List (Deed × Board σ)} {b taken : Board σ} {d : Deed} (course : Course first steps b)
    (due : d.Due b taken) : Course first (steps ++ [(d, taken)]) (d.perform server taken)
  | aside {steps : List (Deed × Board σ)} {b b' : Board σ} (course : Course first steps b) (h : Aside server b b') :
    Course first steps b'

/-- A course leads from one board to another on which only commands load or define anything. -/
def Leads (b b' : Board σ) : Prop :=
  ∃ steps, Course server b steps b' ∧ ∀ step ∈ steps, step.1.Quiet ∨ ∃ c, step.1 = .carry c

variable {server} {first b b' b'' : Board σ} {steps more : List (Deed × Board σ)}

theorem Aside.session (h : Aside server b b') : ∃ effects, b'.session = b.session.note effects := by
  cases h with
  | ask => exact ⟨_, rfl⟩
  | post => exact ⟨_, rfl⟩

theorem Deed.Due.samePanels {d : Deed} (h : d.Due b b') : b.session.SamePanels b'.session := by
  cases h <;> exact ⟨rfl, rfl, rfl, rfl, rfl, rfl⟩

theorem Aside.samePanels (h : Aside server b b') : b.session.SamePanels b'.session := by
  obtain ⟨effects, hs⟩ := h.session
  rw [hs]
  exact ⟨rfl, rfl, rfl, rfl, rfl, rfl⟩

theorem Course.trans (course : Course server first steps b) (onward : Course server b more b') :
    Course server first (steps ++ more) b' := by
  induction onward with
  | refl => simpa using course
  | next _ due ih =>
    rw [← List.append_assoc]
    exact ih.next due
  | aside _ h ih => exact ih.aside h

theorem Course.registry (course : Course server first steps b) : b.session.registry = first.session.registry := by
  induction course with
  | refl => rfl
  | next _ due ih => rw [Deed.perform_registry, due.registry, ih]
  | aside _ h ih => exact h.samePanels.registry.trans ih

theorem Run.course {deeds : List Deed} (run : Run server first deeds b) :
    ∃ steps, steps.map Prod.fst = deeds ∧ Course server first steps b := by
  induction run with
  | refl => exact ⟨[], rfl, .refl⟩
  | next run due ih =>
    obtain ⟨steps, rfl, course⟩ := ih
    exact ⟨_, by rw [List.map_append]; rfl, course.next due⟩

/-! ## Where courses lead -/

theorem Leads.refl (b : Board σ) : Leads server b b := ⟨[], .refl, by simp⟩

theorem Leads.trans (h₁ : Leads server b b') (h₂ : Leads server b' b'') : Leads server b b'' := by
  obtain ⟨steps, course, hsteps⟩ := h₁
  obtain ⟨more, onward, hmore⟩ := h₂
  exact ⟨steps ++ more, course.trans onward, List.forall_mem_append.mpr ⟨hsteps, hmore⟩⟩

theorem leads_start (op : Operation) (h : (Deed.start op).Quiet) (b : Board σ) : Leads server b (b.start server op) :=
  ⟨_, Course.refl.next (.start op b), by simpa using h⟩

theorem leads_aside (h : Aside server b b') : Leads server b b' := ⟨_, Course.refl.aside h, by simp⟩

theorem leads_settle : ∀ (fuel : Nat) (b : Board σ), Leads server b (b.settle server fuel)
  | 0, b => .refl b
  | fuel + 1, b => by
    unfold Board.settle
    cases hq : b.session.queue with
    | nil => exact .refl b
    | cons c rest =>
      have hstep : Leads server b (b.step server) := by
        rw [step_eq_perform hq]
        exact ⟨_, Course.refl.next (.carry hq), by simp⟩
      exact hstep.trans (leads_settle fuel _)

theorem leads_perform (fuel : Nat) (op : Operation) (h : (Deed.start op).Quiet) (b : Board σ) :
    Leads server b (b.perform server fuel op) :=
  (leads_start op h b).trans (leads_settle fuel _)

theorem leads_performActions (fuel : Nat) : ∀ (actions : List Json) (b : Board σ),
    Leads server b (b.performActions server fuel actions)
  | [], b => .refl b
  | action :: actions, b => by
    unfold Board.performActions
    split
    · exact (leads_perform fuel (.run _) trivial b).trans (leads_performActions fuel actions _)
    · exact leads_performActions fuel actions b

theorem leads_scanResponse (fuel : Nat) (response : Json) (b : Board σ) :
    Leads server b (b.scanResponse server fuel response) := by
  unfold Board.scanResponse
  split
  · split
    · exact leads_start (.display _) trivial b
    · exact .refl b
  · rename_i raw _
    split
    · exact .refl b
    · rename_i scan _
      have hshown : Leads server b (b.onSession fun s => s.display scan.messages) :=
        leads_start (.display _) trivial b
      exact (hshown.trans (leads_performActions fuel scan.actions _)).trans (leads_start (.keepUndo raw) trivial _)

theorem leads_scan (fuel : Nat) (service : ScanService) (barcode : String) (b : Board σ) :
    Leads server b (b.scan server fuel service barcode) := by
  have hcleared : Leads server b (b.onSession Session.clearMessages) := leads_start .clearMessages trivial b
  have hasked := hcleared.trans (leads_aside (.ask _))
  have hposted := hasked.trans
    (leads_aside (.post (service.url ++ service.urlSuffix) (b.session.scanRequest barcode) _))
  unfold Board.scan
  simp only
  split
  · exact hposted.trans (leads_start (.display [_]) trivial _)
  · split
    · exact hposted.trans (leads_scanResponse fuel _ _)
    · exact hposted

end

end Dashboard
