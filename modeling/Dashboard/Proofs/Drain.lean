import Mathlib
import Dashboard.Proofs.Builtin
import Dashboard.Proofs.CacheSound
import Dashboard.Proofs.Window

/-!
# The queue comes to its end

Commands queue commands: finishes load, what is loaded executes, and its events
are answered with more finishes. But with the built-in registry each command
lowers one of four numbers and raises none of those before it
(`carry_work_lt`): the commands that no activity asks for, the urls that wait,
the panels that show something, and the chores in the queue. The exception are
activities that finish their panel as soon as they are shown, or that send an
event then (`Definition.Restless`); where the server sends none of these, every
operation is carried out to the end (`queue_drains`).
-/

namespace Dashboard

/-! ## Work -/

/-- Commands that come from outside count, for the loads and the commands that they bring. -/
def Command.outer (buttons : Nat) : Command → Nat
  | .press _ => buttons + 1
  | .load _ _ => 1
  | .undo => 1
  | .finish request => if request.cancel then 1 else 0
  | _ => 0

/-- What is left to do when no activity is made anew: an event may be answered in every panel, and what
finishes a panel may show a message. -/
def Command.weight (panels : Nat) : Command → Nat
  | .send _ => 2 * panels + 1
  | .finish _ => 2
  | _ => 1

theorem Command.outer_of_modest {c : Command} (h : c.Modest) (buttons : Nat) : c.outer buttons = 0 := by
  cases c with
  | finish request =>
    have hc : request.cancel = false := h
    simp [outer, hc]
  | send | display => rfl
  | load | keepUndo | press | undo => cases h

namespace Session

def outerWork (s : Session) : Nat := (s.queue.map (Command.outer s.buttons.length)).sum

def waitingWork (s : Session) : Nat := (s.names.map fun panel => (s.waiting.urls panel).length).sum

def guiPanels (s : Session) : Nat := s.slots.countP fun t => t.mode = .gui

def chores (s : Session) : Nat := (s.queue.map (Command.weight s.slots.length)).sum

def work (s : Session) : Nat ×ₗ Nat ×ₗ Nat ×ₗ Nat :=
  toLex (s.outerWork, toLex (s.waitingWork, toLex (s.guiPanels, s.chores)))

section
variable {s t : Session}

theorem work_lt_iff : t.work < s.work ↔ t.outerWork < s.outerWork ∨ t.outerWork = s.outerWork ∧
    (t.waitingWork < s.waitingWork ∨ t.waitingWork = s.waitingWork ∧
      (t.guiPanels < s.guiPanels ∨ t.guiPanels = s.guiPanels ∧ t.chores < s.chores)) := by
  simp only [work, Prod.Lex.toLex_lt_toLex]

theorem Modest.outerWork (h : s.Modest t) : t.outerWork = s.outerWork := by
  obtain ⟨added, hq, hm⟩ := h.queue
  have hzero : (added.map (Command.outer s.buttons.length)).sum = 0 :=
    List.sum_eq_zero fun n hn => by
      obtain ⟨c, hc, rfl⟩ := List.mem_map.mp hn
      exact Command.outer_of_modest (hm c hc) _
  simp only [Session.outerWork, h.buttons, hq, List.map_append, List.sum_append, hzero, Nat.add_zero]

def before (c : Command) (s : Session) : Session := { s with queue := c :: s.queue }

variable {c : Command}

theorem outerWork_before : (s.before c).outerWork = c.outer s.buttons.length + s.outerWork := by
  simp [Session.outerWork, before]

theorem chores_before : (s.before c).chores = c.weight s.slots.length + s.chores := by
  simp [chores, before]

theorem work_lt_of_outer (hc : 0 < c.outer s.buttons.length) (h : s.Modest t) : t.work < (s.before c).work := by
  refine work_lt_iff.mpr (Or.inl ?_)
  rw [outerWork_before, h.outerWork]
  omega

theorem outerWork_of_inner (hc : c.outer s.buttons.length = 0) (h : s.Modest t) :
    t.outerWork = (s.before c).outerWork := by
  rw [outerWork_before, h.outerWork, hc, Nat.zero_add]

theorem chores_lt {added : List Command} (hl : t.slots.length = s.slots.length) (ht : t.queue = s.queue ++ added)
    (h : (added.map (Command.weight s.slots.length)).sum < c.weight s.slots.length) :
    t.chores < (s.before c).chores := by
  rw [chores_before]
  simp only [chores, hl, ht, List.map_append, List.sum_append]
  omega

/-- A command that leaves the panels alone only has to be heavier than what it queues. -/
theorem work_lt_of_samePanels {added : List Command} (hc : c.outer s.buttons.length = 0) (hs : SamePanels s t)
    (hb : t.buttons = s.buttons) (ht : t.queue = s.queue ++ added) (hm : ∀ c ∈ added, c.Modest)
    (h : (added.map (Command.weight s.slots.length)).sum < c.weight s.slots.length) : t.work < (s.before c).work := by
  have hwaiting : t.waitingWork = s.waitingWork := by simp only [waitingWork, names, hs.slots, hs.waiting]
  have hgui : t.guiPanels = s.guiPanels := by simp only [guiPanels, hs.slots]
  exact work_lt_iff.mpr (Or.inr ⟨outerWork_of_inner hc ⟨hb, added, ht, hm⟩, Or.inr ⟨hwaiting, Or.inr
    ⟨hgui, chores_lt (congrArg List.length hs.slots) ht h⟩⟩⟩)

theorem length_activities_le : ∀ {l : List Slot}, (∀ t ∈ l, t.displaced = none) →
    (l.flatMap Slot.activities).length ≤ l.length
  | [], _ => Nat.le_refl 0
  | t :: l, h => by
    obtain ⟨ht, hl⟩ := List.forall_mem_cons.mp h
    have hone : t.activities.length ≤ 1 := by
      rw [Slot.activities_of_undisplaced ht]
      cases t.active <;> simp
    have hrest := length_activities_le hl
    simp only [List.flatMap_cons, List.length_append, List.length_cons]
    omega

theorem weight_answers_le (e : Event) (panels : Nat) : ∀ {receivers : List Activity},
    (∀ a ∈ receivers, Registry.builtin.Makes a) →
      ((e.answers receivers).map (Command.weight panels)).sum ≤ 2 * receivers.length
  | [], _ => Nat.le_refl 0
  | a :: receivers, h => by
    obtain ⟨ha, hrest⟩ := List.forall_mem_cons.mp h
    have hone : (((a.handle? e).getD []).map (Command.weight panels)).sum ≤ 2 := by
      rcases Registry.handle?_of_makes ha e with hnone | hone
      · simp [hnone]
      · simp [hone, Command.weight]
    have ih := weight_answers_le e panels hrest
    simp only [Event.answers, List.flatMap_cons, List.map_append, List.sum_append, List.length_cons] at ih ⊢
    omega

theorem work_press (b : Button) (s : Session) : (s.press b).outerWork = s.outerWork + 1 := by
  simp [Session.outerWork, press, noteCalls, note, clearMessages, enqueue, Command.outer]

theorem work_foldl_press : ∀ (buttons : List Button) (s : Session),
    (buttons.foldl (fun s b => s.press b) s).outerWork = s.outerWork + buttons.length
  | [], _ => rfl
  | b :: buttons, s => by
    rw [List.foldl_cons, work_foldl_press buttons, work_press, List.length_cons]
    omega

theorem guiPanels_change {f : Slot → Slot} {panel : String} {slot : Slot} (hs : s.slot? panel = some slot)
    (hm : slot.mode = .gui) (ht : t.slots = changeFirst panel f s.slots) :
    if (f slot).mode = .gui then t.guiPanels = s.guiPanels else t.guiPanels < s.guiPanels := by
  obtain ⟨hname, before, after, hslots, hbefore⟩ := slot?_split hs
  simp only [guiPanels, ht, hslots, changeFirst_append hbefore hname, List.countP_append, List.countP_cons, hm]
  split
  · simp [*]
  · simp [*]

end

end Session

/-! ## Steps -/

def Fetched.Calm (f : Fetched) : Prop :=
  ∀ text fromCache, f.source = .ok (text, fromCache) → ¬ Definition.Restless text

namespace Board

open Session

section
variable {σ : Type} {server : Server σ}

/-- The default of a panel that shows something either executes, and the panel shows nothing new, or it
brings at most some messages. -/
theorem load_default {b : Board σ} {slot : Slot} {panel url : String} {t : Session} (hb : b.session.Builtin)
    (hs : b.session.slot? panel = some slot) (hm : slot.mode = .gui)
    (hcalm : ∀ f ∈ (b.fetched server [⟨panel, url, []⟩]).1, f.Calm)
    (ht : t = (load server [⟨panel, url, []⟩] b).session) :
    t.guiPanels < b.session.guiPanels ∨ t.guiPanels = b.session.guiPanels ∧
      ∃ added, t.queue = b.session.queue ++ added ∧ ∀ n, (added.map (Command.weight n)).sum ≤ 1 := by
  cases hr : (⟨panel, url, []⟩ : LoadRequest).hasLocator with
  | false =>
    rw [ht, load_without_locator server hr b]
    exact Or.inr ⟨rfl, [], by simp, by simp⟩
  | true =>
    obtain ⟨f, s, hf, hp, hload, hstarted, hqueue, hregistry⟩ := load_single server hr b
    rw [hb.registry] at hregistry
    have hslots : t.slots = changeFirst panel (fun u => Slot.after (f.outcome .builtin) u.startLoading)
        b.session.slots := by
      rw [ht, hload, receive_slots, hregistry, hstarted, hp]
      exact changeFirst_changeFirst Slot.keeps_startLoading _
    -- the panel shows something before, so only what executes in it changes their number
    have hgui := guiPanels_change hs hm hslots
    rw [ht, hload, ← hqueue]
    rw [ht, hload] at hgui
    cases ho : f.outcome .builtin with
    | error failure =>
      rw [ho] at hgui
      refine Or.inr ⟨by simpa [Slot.after, Slot.abandonLoading, Slot.startLoading, hm] using hgui, [], ?_, by simp⟩
      rw [receive_of_error (hregistry ▸ ho)]
      exact (List.append_nil _).symm
    | ok a =>
      rw [ho] at hgui
      obtain ⟨text, fromCache, hsource, ha⟩ := outcome_eq_ok_iff.mp ho
      cases hd : a.display with
      | none => exact Or.inl (by simpa [Slot.after, Activity.isGui, hd, Slot.executed] using hgui)
      | some content =>
        refine Or.inr ⟨by simpa [Slot.after, Activity.isGui, hd, Slot.showing] using hgui, a.postScript, ?_, ?_⟩
        · rw [receive_of_ok (hregistry ▸ ho), hd]
          rfl
        · intro n
          have hquiet : f.Calm := hcalm f (hf ▸ List.mem_singleton_self f)
          rcases Registry.postScript_of_calm ha (hquiet text fromCache hsource) (by simp [hd]) with
            hnone | ⟨messages, hone⟩
          · simp [hnone]
          · simp [hone, Command.weight]

theorem waitingWork_lt {s t : Session} {panel url : String} {urls : List String} (hn : t.names = s.names)
    (hp : panel ∈ s.names) (hu : s.waiting.urls panel = url :: urls)
    (ht : ∀ other, t.waiting.urls other = if other = panel then urls else s.waiting.urls other) :
    t.waitingWork < s.waitingWork := by
  unfold waitingWork
  rw [hn]
  apply List.sum_lt_sum
  · intro other _
    rw [ht]
    split
    · simp [*]
    · exact Nat.le_refl _
  · exact ⟨panel, hp, by simp [ht, hu]⟩

theorem default_work_lt {request : Finish} {b : Board σ} {slot : Slot} {panel url : String} (hb : b.session.Builtin)
    (hs : b.session.slot? panel = some slot) (hm : slot.mode = .gui)
    (hcalm : ∀ f ∈ (b.fetched server [⟨panel, url, []⟩]).1, f.Calm)
    (houter : (load server [⟨panel, url, []⟩] b).session.outerWork =
      (b.session.before (.finish request)).outerWork) :
    (load server [⟨panel, url, []⟩] b).session.work < (b.session.before (.finish request)).work := by
  have hframe := loadFrame_load server [⟨panel, url, []⟩] b
  have hwaiting : (load server [⟨panel, url, []⟩] b).session.waitingWork = b.session.waitingWork := by
    simp only [waitingWork, hframe.names, hframe.waiting]
  refine work_lt_iff.mpr (Or.inr ⟨houter, Or.inr ⟨hwaiting, ?_⟩⟩)
  rcases load_default hb hs hm hcalm rfl with hlt | ⟨heq, added, hq, hweight⟩
  · exact Or.inl hlt
  · have hlength : (load server [⟨panel, url, []⟩] b).session.slots.length = b.session.slots.length := by
      simpa [panels] using congrArg List.length hframe.panels
    exact Or.inr ⟨heq, chores_lt hlength hq (Nat.lt_succ_of_le (hweight _))⟩

theorem finish_work_lt {request : Finish} {b : Board σ} (hb : b.session.Builtin)
    (hcalm : ∀ f ∈ ((Deed.carry (.finish request)).fetches server b).1, f.Calm) :
    (b.finish server request).session.work < (b.session.before (.finish request)).work := by
  have hmodest : b.session.Modest (b.finish server request).session := modest_finish server request hb
  cases hc : request.cancel with
  | true => exact work_lt_of_outer (by simp [Command.outer, hc]) hmodest
  | false =>
    have hinner : (Command.finish request).outer b.session.buttons.length = 0 := by simp [Command.outer, hc]
    have houter := outerWork_of_inner hinner hmodest
    rw [Deed.finish_eq_load] at hmodest houter ⊢
    have hframe := loadFrame_load server (b.session.planFinish request).1
      ⟨(b.session.planFinish request).2, b.server⟩
    -- a finish that loads nothing only shows messages
    have hnothing : ∀ messages, (b.session.display messages).work < (b.session.before (.finish request)).work :=
      fun messages =>
        work_lt_of_samePanels hinner (samePanels_display _ messages) rfl (List.append_nil _).symm (by simp)
        Nat.two_pos
    rcases planFinish_cases request b.session with
      ⟨-, h⟩ | ⟨slot, hr, hs, ⟨hcancel, -⟩ | ⟨url, urls, -, hu, h⟩ | ⟨-, hu, h⟩⟩
    · rw [h, report, display_display]
      exact hnothing _
    · simp [hc] at hcancel
    · rw [h] at hframe houter ⊢
      refine work_lt_iff.mpr (Or.inr ⟨houter, Or.inl ?_⟩)
      refine waitingWork_lt (s := b.session) hframe.names (mem_names_iff.mpr ⟨slot, hs⟩) hu fun other => ?_
      rw [hframe.waiting]
      exact (Waiting.urls_settled _ _).trans (Waiting.urls_replace _ _ _ _)
    · simp only [Deed.fetches, Deed.plan, h] at hcalm
      rw [h] at houter hmodest ⊢
      cases hm : slot.mode with
      | nonGui => exact hnothing request.messages
      | gui =>
        rw [hm] at hcalm houter
        exact default_work_lt (b := ⟨b.session.display request.messages, b.server⟩)
          ⟨hb.registry, hb.made⟩ hs hm hcalm
          houter

theorem carry_work_lt (c : Command) {b : Board σ} (hb : b.session.Builtin) (hund : b.session.Undisplaced)
    (hcalm : ∀ f ∈ ((Deed.carry c).fetches server b).1, f.Calm) :
    ((Deed.carry c).perform server b).session.work < (b.session.before c).work := by
  cases c with
  | finish request => exact finish_work_lt hb hcalm
  | load pages extras => exact work_lt_of_outer Nat.one_pos (modest_loadPages server pages extras hb)
  | undo => exact work_lt_of_outer Nat.one_pos (modest_undoNewest server b)
  | press id =>
    refine work_lt_iff.mpr (Or.inl ?_)
    have hpressed := work_foldl_press (b.session.buttons.filter fun button => button.id = id) b.session
    have hsome := List.length_filter_le (fun button : Button => button.id = id) b.session.buttons
    rw [outerWork_before]
    show (b.session.pressId id).outerWork < _
    simp only [pressId, hpressed, Command.outer]
    omega
  | send e =>
    refine work_lt_of_samePanels rfl ⟨rfl, rfl, rfl, rfl, rfl, rfl⟩ rfl rfl (modest_of_answers hb.activities) ?_
    have hanswers := weight_answers_le e b.session.slots.length hb.activities
    have hactivities : b.session.activities.length ≤ b.session.slots.length := length_activities_le hund
    simp only [Command.weight]
    omega
  | display messages =>
    exact work_lt_of_samePanels rfl (samePanels_display _ messages) rfl (List.append_nil _).symm (by simp) Nat.one_pos
  | keepUndo response =>
    have hkept : (b.session.keepUndo response).buttons = b.session.buttons ∧
        (b.session.keepUndo response).queue = b.session.queue := by
      unfold keepUndo
      split <;> exact ⟨rfl, rfl⟩
    exact work_lt_of_samePanels rfl (samePanels_keepUndo _ response) hkept.1 (hkept.2.trans (List.append_nil _).symm)
      (by simp) Nat.one_pos

theorem settle_of_step {p : Board σ → Prop} (hp : ∀ (b : Board σ) (c : Command) (rest : List Command), p b →
    b.session.queue = c :: rest → p (b.step server) ∧ (b.step server).session.work < b.session.work) (b : Board σ)
    (hb : p b) : ∃ fuel, (b.settle server fuel).session.queue = [] := by
  cases hq : b.session.queue with
  | nil => exact ⟨0, hq⟩
  | cons c rest =>
    obtain ⟨hnext, hlt⟩ := hp b c rest hb hq
    obtain ⟨fuel, h⟩ := settle_of_step hp (b.step server) hnext
    exact ⟨fuel + 1, by simpa [settle, hq] using h⟩
termination_by b.session.work
decreasing_by exact hlt

end

end Board

/-! ## Operations -/

section
variable {σ : Type} (server : Server σ)

/-- What has been done on the way to this board: an operation after all that was done before it, and then only
commands. -/
structure Carrying (first : Board σ) (done : List Done) (op : Operation) (more : List Done) (b : Board σ) : Prop where
  trace : Trace server first (done ++ more) b
  deeds : ∃ carried : List Command, more.map Done.deed = .start op :: carried.map .carry

variable {server} {first b : Board σ} {done more : List Done} {op : Operation}

theorem Trace.carrying (trace : Trace server first done b) (op : Operation) :
    ∃ brought, Carrying server first done op [⟨.start op, brought⟩] (b.start server op) :=
  ⟨_, trace.next (.start op b), [], rfl⟩

theorem Carrying.step (h : Carrying server first done op more b) {c : Command} {rest : List Command}
    (hq : b.session.queue = c :: rest) :
    Carrying server first done op (more ++ [⟨.carry c, ((Deed.carry c).fetches server
      { b with session := { b.session with queue := rest } }).1⟩]) (b.step server) := by
  obtain ⟨carried, hdeeds⟩ := h.deeds
  refine ⟨?_, carried ++ [c], by simp [hdeeds]⟩
  rw [← List.append_assoc, step_eq_perform hq]
  exact h.trace.next (.carry hq)

variable {settings : Settings} {state : σ}

theorem Trace.work_lt (trace : Trace server ⟨.new settings .builtin, state⟩ done b)
    {c : Command} {rest : List Command}
    (hq : b.session.queue = c :: rest)
    (hcalm : ∀ url text, (url, text) ∈ Done.got (done ++ [⟨.carry c, ((Deed.carry c).fetches server
      { b with session := { b.session with queue := rest } }).1⟩]) → ¬ Definition.Restless text) :
    (b.step server).session.work < b.session.work := by
  have due : (Deed.carry c).Due b { b with session := { b.session with queue := rest } } := .carry hq
  have hbefore : ({ b.session with queue := rest } : Session).before c = b.session := by
    rw [Session.before, ← hq]
  have run : Run server ⟨.new settings .builtin, state⟩ (done.map Done.deed) b := trace.run
  have hmade := (Slot.makes_invariant .builtin).run run rfl (by simp [Session.new])
  have hund := (Slot.undisplaced_invariant .builtin).run run rfl (by simp [Session.new])
  rw [step_eq_perform hq, ← hbefore]
  refine Board.carry_work_lt c ⟨run.registry, hmade⟩ hund fun f hf text fromCache hs => ?_
  -- an answer from the cache was sent by the server before
  obtain ⟨url, hm⟩ := trace.got_of_answer (by simp [Cache.Sound, Session.new]) due hf hs
  exact hcalm url text hm

/-- Whatever panels and buttons there are, whatever was done before and however the answers of the server
change: as long as none of the definitions that it sends is restless, an operation of the board with the
built-in registry is carried out with finitely many commands, and none is left. -/
theorem queue_drains (trace : Trace server ⟨.new settings .builtin, state⟩ done b) (op : Operation)
    (hcalm : ∀ more b', Carrying server ⟨.new settings .builtin, state⟩ done op more b' →
      ∀ url text, (url, text) ∈ Done.got (done ++ more) → ¬ Definition.Restless text) :
    ∃ fuel, (b.perform server fuel op).session.queue = [] := by
  have hstep : ∀ (b' : Board σ) (c : Command) (rest : List Command),
      (∃ more, Carrying server ⟨.new settings .builtin, state⟩ done op more b') →
      b'.session.queue = c :: rest →
        (∃ more, Carrying server ⟨.new settings .builtin, state⟩ done op more (b'.step server)) ∧
          (b'.step server).session.work < b'.session.work := by
    rintro b' c rest ⟨more, carrying⟩ hq
    refine ⟨⟨_, carrying.step hq⟩, carrying.trace.work_lt hq ?_⟩
    rw [List.append_assoc]
    exact hcalm _ _ (carrying.step hq)
  obtain ⟨brought, started⟩ := trace.carrying op
  exact Board.settle_of_step hstep (b.start server op) ⟨_, started⟩

end

/-- The default of a panel finishes it whenever it is loaded, and its finish is carried out to the end. -/
theorem queue_drains_with_default :
    let source := "\x7b\"execute\":\"dashboard.finished\"\x7d"
    let server : Server Unit := ⟨fun _ state => (.ok source, state), fun _ _ state => (.ok "", state)⟩
    let first : Board Unit := ⟨.new .default .builtin, ()⟩
    let b := first.start server (.definePanels [⟨"A", "/home"⟩])
    (∃ done, Trace server first done b) ∧ ¬ Definition.Restless source ∧
      ∃ fuel, (b.perform server fuel (.run (.finish (.ofPanel "A")))).session.queue = [] := by
  intro source server first b
  have trace : ∃ done, Trace server first done b :=
    ⟨_, Trace.refl.next (.start (.definePanels [⟨"A", "/home"⟩]) first)⟩
  have hcalm : ¬ Definition.Restless source := by
    have hread : Definition.ofText source =
        .ok ⟨none, some "dashboard.finished", none, none, none, none, false, .null⟩ := by
      simp only [source]
      cbv
    rintro ⟨d, hd, hsome, -⟩
    obtain rfl := Except.ok.inj (hread.symm.trans hd)
    cases hsome
  obtain ⟨done, trace⟩ := trace
  have hdrains := queue_drains trace (.run (.finish (.ofPanel "A"))) fun more b' carrying url text hm => by
    obtain ⟨_, hs⟩ := carrying.trace.sent hm
    obtain rfl : source = text := Except.ok.inj hs
    exact hcalm
  exact ⟨⟨done, trace⟩, hcalm, hdrains⟩

end Dashboard
