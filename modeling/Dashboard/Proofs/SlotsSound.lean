import Dashboard.Proofs.Runs

/-!
# Slots between deeds

A load passes every slot it comes to through a stage in which the slot agrees
with nothing else in it. `Sound` says what agrees between deeds. A slot that is
loading would be sound again if the load were abandoned, and every outcome of
an answer makes such a slot sound; so each deed leaves all slots sound
(`slots_sound`).
-/

namespace Dashboard

/-- A slot of which stage, mode, url and activities agree. -/
structure Slot.Sound (t : Slot) : Prop where
  settled : t.stage ≠ .loading
  undisplaced : t.displaced = none
  own : ∀ a, t.active = some a → a.isGui = true ∧ a.panel = t.name
  url : t.currentUrl = t.active.map Activity.url
  mode : t.mode = .nonGui ↔ t.stage = .executed
  shown : t.stage = .displayed → t.active ≠ none
  blank : t.stage = .empty → t.active = none

namespace Slot

theorem sound_ofPanel (p : Panel) : (ofPanel p).Sound where
  settled := by simp [ofPanel]
  undisplaced := rfl
  own := by simp [ofPanel]
  url := rfl
  mode := by simp [ofPanel]
  shown := by simp [ofPanel]
  blank := fun _ => rfl

theorem sound_showing {a : Activity} {t : Slot} (ha : a.isGui = true) (hp : a.panel = t.name) :
    (t.showing a).Sound where
  settled := by simp [showing]
  undisplaced := rfl
  own := by
    intro a' h
    obtain rfl : a = a' := by simpa [showing] using h
    exact ⟨ha, hp⟩
  url := rfl
  mode := by simp [showing]
  shown := by simp [showing]
  blank := by simp [showing]

/-- An activity without content leaves the slot to the activity that was in it. -/
theorem sound_executed {t : Slot} (h : t.abandonLoading.Sound) : t.executed.Sound where
  settled := by simp [executed]
  undisplaced := rfl
  own := h.own
  url := h.url
  mode := by simp [executed]
  shown := by simp [executed]
  blank := by simp [executed]

/-- A load that is abandoned leaves the slot as it was. -/
theorem sound_startLoading {t : Slot} (h : t.Sound) : t.startLoading.abandonLoading.Sound :=
  ⟨h.settled, h.undisplaced, h.own, h.url, h.mode, h.shown, h.blank⟩

theorem sound_after {o : Except Failure Activity} {t : Slot} (h : t.abandonLoading.Sound)
    (ho : ∀ a, o = .ok a → a.panel = t.name) : (Slot.after o t).Sound := by
  cases o with
  | error failure => exact h
  | ok a =>
    simp only [after]
    by_cases ha : a.isGui = true
    · rw [if_pos ha]
      exact sound_showing ha (ho a rfl)
    · rw [if_neg ha]
      exact sound_executed h

theorem sound_afterAll {fetched : List Fetched} {r : Registry} {t : Slot} (h : t.Sound)
    (ht : t.name ∈ fetched.map Fetched.panel) : (t.startLoading.afterAll fetched r).Sound := by
  have hname : t.startLoading.name = t.name := rfl
  unfold afterAll
  rw [hname]
  cases hf : fetched.find? fun f => f.panel = t.name with
  | none =>
    obtain ⟨f, hm, hp⟩ := List.mem_map.mp ht
    exact absurd hp (by simpa using List.find?_eq_none.mp hf f hm)
  | some f =>
    have hpanel : f.panel = t.name := by simpa using List.find?_some hf
    refine sound_after (sound_startLoading h) fun a ha => ?_
    exact (outcome_context ha).1.trans hpanel

end Slot

/-! ## Boards -/

section
variable {σ : Type} {server : Server σ}

def Deed.Distinct : Deed → Prop
  | .start (.definePanels panels) => (panels.map Panel.name).Nodup
  | _ => True

structure Session.SlotsSound (s : Session) : Prop where
  distinct : s.names.Nodup
  sound : ∀ t ∈ s.slots, t.Sound

theorem slotsSound_congr {s t : Session} (h : t.slots = s.slots) (hs : s.SlotsSound) : t.SlotsSound := by
  refine ⟨?_, h ▸ hs.sound⟩
  unfold Session.names
  exact h ▸ hs.distinct

theorem slotsSound_define {panels : List Panel} (h : (panels.map Panel.name).Nodup) (s : Session) :
    (s.define panels).SlotsSound where
  distinct := by
    have hname : (s.define panels).names = panels.map Panel.name := by
      simp only [Session.names, Session.define, List.map_map]
      rfl
    exact hname ▸ h
  sound := by
    intro t ht
    obtain ⟨p, -, rfl⟩ := List.mem_map.mp ht
    exact Slot.sound_ofPanel p

theorem slotsSound_load {requests : List LoadRequest} {b : Board σ} (h : b.session.SlotsSound)
    (hp : (requests.map LoadRequest.panel).Nodup) : (Board.load server requests b).session.SlotsSound where
  distinct := (Board.loadFrame_load server requests b).names ▸ h.distinct
  sound := by
    have hreal : ((requests.filter LoadRequest.hasLocator).map LoadRequest.panel).Nodup :=
      (List.filter_sublist.map LoadRequest.panel).nodup hp
    rw [Board.load_slots server h.distinct hreal]
    intro t ht
    obtain ⟨u, hu, rfl⟩ := List.mem_map.mp ht
    by_cases hm : u.name ∈ (requests.filter LoadRequest.hasLocator).map LoadRequest.panel
    · rw [if_pos hm]
      exact Slot.sound_afterAll (h.sound u hu) (Board.map_panel_fetched server requests b ▸ hm)
    · rw [if_neg hm]
      exact h.sound u hu

theorem slotsSound_plan {d : Deed} (hd : d.Distinct) {b : Board σ} (h : b.session.SlotsSound) :
    (d.plan server b).2.session.SlotsSound := by
  rcases d.defines_or_plan_slots server b with ⟨panels, rfl⟩ | hslots
  · exact slotsSound_define hd b.session
  · exact slotsSound_congr hslots h

theorem slotsSound_perform {d : Deed} (hd : d.Distinct) {b : Board σ} (h : b.session.SlotsSound) :
    (d.perform server b).session.SlotsSound := by
  rw [Deed.perform_eq_load]
  have hplan : (d.plan server b).2.session.SlotsSound := slotsSound_plan hd h
  exact slotsSound_load hplan (Deed.plan_nodup server hplan.distinct)

theorem slotsSound_run {first b : Board σ} {deeds : List Deed} (run : Run server first deeds b)
    (h : first.session.SlotsSound) (hd : ∀ d ∈ deeds, d.Distinct) : b.session.SlotsSound := by
  induction run with
  | refl => exact h
  | next run due ih =>
    obtain ⟨hinit, hlast⟩ := List.forall_mem_append.mp hd
    exact slotsSound_perform (List.forall_mem_singleton.mp hlast) (slotsSound_congr due.slots (ih hinit))

/-- Whatever is registered and whatever the server answers: after every deed of a run in which no panel
is defined twice, all slots are sound. -/
theorem slots_sound {settings : Settings} {registry : Registry} {state : σ} {deeds : List Deed} {b : Board σ}
    (run : Run server ⟨.new settings registry, state⟩ deeds b) (hd : ∀ d ∈ deeds, d.Distinct) :
    ∀ t ∈ b.session.slots, t.Sound :=
  (slotsSound_run run ⟨List.nodup_nil, by simp [Session.new]⟩ hd).sound

end

/-- One panel executes and the answer for the other is missing. -/
theorem slots_sound_after_execution :
    let first : Board _ := ⟨.new .default .builtin, [.ok "\x7b\"execute\":\"dashboard.finished\"\x7d"]⟩
    let panels := Operation.definePanels [⟨"A", ""⟩, ⟨"B", ""⟩]
    let load := Command.load [⟨some "/x", some "A"⟩, ⟨some "/y", some "B"⟩] []
    let b := ((first.start Server.scripted panels).start Server.scripted (.run load)).step Server.scripted
    (∀ d ∈ [Deed.start panels, .start (.run load), .carry load], d.Distinct) ∧
      ∀ t ∈ b.session.slots, t.Sound := by
  intro first panels load b
  have hd : ∀ d ∈ [Deed.start panels, .start (.run load), .carry load], d.Distinct := by
    simp [Deed.Distinct, panels, load]
  have run : Run Server.scripted first [.start panels, .start (.run load), .carry load] b :=
    ((Run.refl.start panels).start (.run load)).step rfl
  exact ⟨hd, slots_sound run hd⟩

end Dashboard
