import Mathlib
import Dashboard.Proofs.Runs

/-!
# While a panel is lent

An activity without content takes its panel while its events are delivered,
and between deeds and between the answers of a load no panel is lent to
anyone. So the activity that was in the panel comes back before any command is
carried out (`execution_window`), whatever its handlers or those of other
panels ask for.
-/

namespace Dashboard

/-! ## Nothing displaced -/

theorem Slot.undisplaced_invariant (r : Registry) : Slot.Invariant r fun t => t.displaced = none where
  fresh _ := rfl
  started _ h := h
  after f t h := by
    cases f.outcome r with
    | error failure => exact h
    | ok a => simp only [Slot.after]; split <;> rfl

theorem Slot.activities_of_undisplaced {t : Slot} (h : t.displaced = none) : t.activities = t.active.toList := by
  simp [Slot.activities, h]

theorem flatMap_activities {slots : List Slot} (h : ∀ t ∈ slots, t.displaced = none) :
    slots.flatMap Slot.activities = slots.flatMap fun t => t.active.toList :=
  congrArg List.flatten (List.map_congr_left fun t ht => Slot.activities_of_undisplaced (h t ht))

def Session.Undisplaced (s : Session) : Prop := ∀ t ∈ s.slots, t.displaced = none

section
variable {σ : Type} {server : Server σ}

theorem undisplaced_of_reachable {b : Board σ} (h : Reachable server b) : b.session.Undisplaced := by
  obtain ⟨settings, registry, state, deeds, run⟩ := h
  exact (Slot.undisplaced_invariant registry).run run rfl (by simp [Session.new])

theorem undisplaced_of_receiving {s : Session} {fetched : List Fetched} (h : Receiving server s fetched) :
    s.Undisplaced := by
  induction h with
  | @begin b taken d reach due =>
    have htaken : ∀ t ∈ taken.session.slots, t.displaced = none := due.slots ▸ undisplaced_of_reachable reach
    exact (Slot.undisplaced_invariant taken.session.registry).fetches htaken d
  | @next s f rest h ih => exact (Slot.undisplaced_invariant s.registry).receive rfl ih f

/-! ## The window -/

/-- In the middle of a load, an answer makes an activity without content. Its events go to the activities
of the panels in their order, and in its own panel to it and then to the activity that was there. Nothing
is carried out: their answers are queued, then its other commands. The panel is as it was, but executed. -/
theorem execution_window {s : Session} {f : Fetched} {rest : List Fetched} {a : Activity}
    (h : Receiving server s (f :: rest)) (ha : f.outcome s.registry = .ok a) (hd : a.display = none) :
    ∃ before slot after, s.slots = before ++ slot :: after ∧ (∀ t ∈ before, t.name ≠ f.panel) ∧
      slot.name = f.panel ∧ (∀ t ∈ s.slots, t.displaced = none) ∧
      let commands := a.execute ++ a.postScript
      let events := commands.filterMap Command.event?
      let receivers := (before.flatMap fun t => t.active.toList) ++ a :: slot.active.toList
        ++ after.flatMap fun t => t.active.toList
      s.receive f =
        { s with
          slots := before ++ { slot with mode := .nonGui, stage := .executed } :: after
          cache := f.keptIn a s.cache
          queue := s.queue ++ events.flatMap (fun e => e.answers receivers)
            ++ commands.filter fun c => c.event?.isNone
          history := events.foldl (fun h e => h.push e (e.handlers receivers)) s.history
          log := s.log ++ (a.calls .execute none ++ a.calls .postScript none)
            ++ events.flatMap fun e => receivers.flatMap fun r => r.calls .handleEvent (some e) } := by
  have hund : ∀ t ∈ s.slots, t.displaced = none := undisplaced_of_receiving h
  obtain ⟨slot, hs⟩ := Session.mem_names_iff.mp (known_of_receiving h f List.mem_cons_self)
  obtain ⟨hname, before, after, hslots, hbefore⟩ := Session.slot?_split hs
  refine ⟨before, slot, after, hslots, hbefore, hname, hund, ?_⟩
  intro commands events receivers
  have hpanel : a.panel = f.panel := (outcome_context ha).1
  -- no slot around this one has a second activity, and this one has none until it is lent
  have hbeforeRecs := flatMap_activities fun t ht => hund t (hslots ▸ List.mem_append_left _ ht)
  have hafterRecs := flatMap_activities fun t ht => hund t
    (hslots ▸ List.mem_append_right before (List.mem_cons_of_mem slot ht))
  have hlent : (Session.changeFirst a.panel (Slot.lentTo a) s.slots).flatMap Slot.activities = receivers := by
    rw [hpanel, hslots, Session.changeFirst_append hbefore hname, List.flatMap_append, List.flatMap_cons, hbeforeRecs,
      hafterRecs]
    exact (List.append_assoc _ _ _).symm
  have hback : slot.executed = { slot with mode := .nonGui, stage := .executed } := by
    have hnone : slot.displaced = none := hund slot (by simp [hslots])
    simp only [Slot.executed, hnone]
  have hexecuted : Session.changeFirst a.panel Slot.executed s.slots = before ++ slot.executed :: after := by
    rw [hpanel, hslots, Session.changeFirst_append hbefore hname]
  rw [Session.receive_of_ok ha]
  simp only [hd]
  rw [Session.runActivity_eq (hpanel ▸ hs)]
  simp only [hlent, hexecuted, hback]
  rfl

end

/-- A panel that shows an activity is lent to a sender. Its event is handled by that activity and by the one in the
other panel, and what the sender asks for itself comes after their answers. -/
theorem execution_window_of_sender :
    let shown := "\x7b\"display\":\"X\",\"handleEvent\":\"dashboard.finishOnEvent\"," ++
      "\"data\":\x7b\"finishOn\":\"READY\"\x7d\x7d"
    let sender := "\x7b\"execute\":\"dashboard.sendEvent\",\"postScript\":\"dashboard.finished\"," ++
      "\"data\":\x7b\"event\":\x7b\"type\":\"READY\"\x7d\x7d\x7d"
    let panels : List Panel := [⟨"A", "/home"⟩, ⟨"B", "/home"⟩]
    let load := Command.load [⟨some "/x", some "A"⟩] []
    let first : Board _ := ⟨.new .default .builtin, [.ok shown, .ok shown, .ok sender]⟩
    let defined := first.start Server.scripted (.definePanels panels)
    let b := defined.start Server.scripted (.run load)
    let taken : Board _ := { b with session := { b.session with queue := [] } }
    let s := ((Deed.carry load).fetches Server.scripted taken).2.session
    let f : Fetched := ⟨"A", taken.session.address ⟨"A", "/x", []⟩, .ok (sender, false)⟩
    ∃ a left right lent other, Receiving Server.scripted s [f] ∧
      f.outcome s.registry = .ok a ∧ a.display = none ∧
      s.slots = [lent, other] ∧ lent.active = some left ∧ other.active = some right ∧
      left.isGui = true ∧ right.isGui = true ∧
      let last := s.receive f
      last.slots = [{ lent with mode := .nonGui, stage := .executed }, other] ∧
        last.activities = [left, right] ∧
        last.queue = [.finish (.ofPanel "A"), .finish (.ofPanel "B"), .finish (.ofPanel "A")] ∧
        last.history.recorded = [⟨⟨"READY", .empty⟩, 2⟩] := by
  intro shown sender panels load first defined b taken s f
  have hshown : Definition.ofText shown = .ok ⟨some (.str "X"), none, some "dashboard.finishOnEvent", none, none,
      none, false, .obj [("finishOn", .str "READY")]⟩ := by
    simp only [shown]
    cbv
  have hsender : Definition.ofText sender = .ok ⟨none, some "dashboard.sendEvent", none, none, none,
      some "dashboard.finished", false, .obj [("event", .obj [("type", .str "READY")])]⟩ := by
    simp only [sender]
    cbv
  let home := fun panel => first.session.address ⟨panel, "/home", []⟩
  let finisher := fun panel : String => ({
    context := ⟨panel, home panel, .obj [("finishOn", .str "READY")]⟩
    display := some (.str "X")
    capabilities := { Capabilities.none with handleEvent := some ⟨"dashboard.finishOnEvent", Registry.finishOwnOn⟩ }
    cached := false } : Activity)
  let started := ((Deed.start (.definePanels panels)).fetches Server.scripted first).2.session
  let both := (started.showActivity (finisher "A") (.str "X")).showActivity (finisher "B") (.str "X")
  have hdefined : defined = ⟨both, [.ok sender]⟩ := by
    let answer := fun panel : String => (⟨panel, home panel, .ok (shown, false)⟩ : Fetched)
    have hanswer : ∀ panel (s : Session), s.registry = .builtin →
        s.receive (answer panel) = s.showActivity (finisher panel) (.str "X") := by
      intro panel s hs
      have ha := activity_of_text (r := .builtin) hshown rfl panel (home panel)
      have ho : (answer panel).outcome s.registry = .ok (finisher panel) := by
        rw [hs]
        exact ha
      rw [Session.receive_of_ok ho]
      rfl
    have hboth : defined = ⟨(started.receive (answer "A")).receive (answer "B"), [.ok sender]⟩ := rfl
    rw [hboth, hanswer "A" started rfl, hanswer "B" _ rfl]
  have reach : Reachable Server.scripted b :=
    ⟨.default, .builtin, _, _, (Run.refl.start (.definePanels panels)).start (.run load)⟩
  -- from here on no definition is read but that of the sender
  clear_value defined
  subst hdefined
  have h : Receiving Server.scripted s [f] := Receiving.begin reach (.carry rfl)
  have ha := activity_of_text (r := .builtin) hsender rfl "A" f.url
  let lent := ((Slot.ofPanel ⟨"A", "/home"⟩).startLoading.showing (finisher "A")).startLoading
  let other := (Slot.ofPanel ⟨"B", "/home"⟩).startLoading.showing (finisher "B")
  have hs : s.slots = [lent, other] := rfl
  obtain ⟨before, slot, after, hslots, hbefore, -, -, hreceive⟩ := execution_window h ha rfl
  rw [hs] at hslots
  obtain ⟨rfl, rfl, rfl⟩ : before = [] ∧ lent = slot ∧ [other] = after := by
    cases before with
    | nil => exact ⟨rfl, List.cons.inj hslots⟩
    | cons t before =>
      obtain ⟨rfl, -⟩ := List.cons.inj hslots
      exact absurd rfl (hbefore lent List.mem_cons_self)
  refine ⟨_, finisher "A", finisher "B", lent, other, h, ha, rfl, hs, rfl, rfl, rfl, rfl, ?_⟩
  intro last
  have hlast : last = _ := hreceive
  rw [hlast]
  refine ⟨rfl, rfl, ?_, ?_⟩
  · rfl
  · rfl

end Dashboard
