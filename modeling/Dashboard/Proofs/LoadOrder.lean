import Mathlib
import Dashboard.Proofs.FailedLoads
import Dashboard.Proofs.ScreenContent

/-!
# Loads in any order

An answer that makes a silent activity, one that shows something and has no
script, does three separate things: it changes the slot of its panel, may keep
its definition, and draws (`Fetched.place`). So does an answer that makes none,
up to its message. For different panels and keys each of these commutes with
what other answers do (`place_comm`), and a load of silent activities comes to
the same in every order of its requests (`load_in_any_order`).
-/

namespace Dashboard

namespace Session

/-! ## Starting -/

theorem changeEach_of_perm {f : Slot → Slot} (hf : Slot.Keeps f) {panels others : List String}
    (h : panels.Perm others) : ∀ l : List Slot, changeEach f panels l = changeEach f others l := by
  induction h with
  | nil => intro l; rfl
  | cons panel _ ih => intro l; exact ih (changeFirst panel f l)
  | swap panel other panels =>
    intro l
    by_cases hp : panel = other
    · rw [hp]
    · simp only [changeEach, changeFirst_comm hp hf hf]
  | trans _ _ ih₁ ih₂ => intro l; rw [ih₁, ih₂]

end Session

/-! ## Silent answers -/

/-- An activity that shows something and has no script. -/
def Activity.Silent (a : Activity) : Prop := a.isGui = true ∧ a.capabilities.postScript = none

namespace Fetched

def cached (r : Registry) (f : Fetched) (c : Cache) : Cache :=
  match f.outcome r with
  | .ok a => f.keptIn a c
  | .error _ => c

/-- The screen once an answer is there, its message apart. -/
def drawn (r : Registry) (f : Fetched) (screen : Screen) : Screen :=
  match f.outcome r with
  | .ok a => a.display.elim screen (screen.draw f.panel)
  | .error _ => screen

/-- What an answer that makes a silent activity, or none, does but for its message. -/
def place (r : Registry) (s : Session) (f : Fetched) : Session :=
  { s with
    slots := Session.changeFirst f.panel (Slot.after (f.outcome r)) s.slots
    cache := f.cached r s.cache
    screen := f.drawn r s.screen }

theorem keptIn_comm {f g : Fetched} (h : Cache.key f.url ≠ Cache.key g.url) (a a' : Activity) (c : Cache) :
    g.keptIn a' (f.keptIn a c) = f.keptIn a (g.keptIn a' c) := by
  unfold keptIn
  cases f.source with
  | error refusal => rfl
  | ok p =>
    cases g.source with
    | error refusal => rfl
    | ok q =>
      simp only
      split <;> split <;> simp only [Cache.keep, Dict.insert_comm h]

theorem cached_comm (r : Registry) {f g : Fetched} (h : Cache.key f.url ≠ Cache.key g.url) (c : Cache) :
    g.cached r (f.cached r c) = f.cached r (g.cached r c) := by
  unfold cached
  cases f.outcome r with
  | error failure => rfl
  | ok a =>
    cases g.outcome r with
    | error failure => rfl
    | ok a' => exact keptIn_comm h a a' c

theorem draw_comm {panel other : String} (h : panel ≠ other) (content next : Json) (screen : Screen) :
    (screen.draw panel content).draw other next = (screen.draw other next).draw panel content := by
  have hcount : (screen.draw panel content).drawnTimes other = screen.drawnTimes other := by
    rw [Screen.drawnTimes_draw, if_neg (Ne.symm h)]
  have hcount' : (screen.draw other next).drawnTimes panel = screen.drawnTimes panel := by
    rw [Screen.drawnTimes_draw, if_neg h]
  unfold Screen.draw at hcount hcount' ⊢
  simp only [hcount, hcount', Dict.insert_comm h]

theorem drawn_comm (r : Registry) {f g : Fetched} (h : f.panel ≠ g.panel) (screen : Screen) :
    g.drawn r (f.drawn r screen) = f.drawn r (g.drawn r screen) := by
  unfold drawn
  cases f.outcome r with
  | error failure => rfl
  | ok a =>
    cases g.outcome r with
    | error failure => rfl
    | ok a' =>
      simp only
      cases a.display with
      | none => rfl
      | some content =>
        cases a'.display with
        | none => rfl
        | some next => exact draw_comm h content next screen

theorem place_comm (r : Registry) {f g : Fetched} (hp : f.panel ≠ g.panel)
    (hk : Cache.key f.url ≠ Cache.key g.url) (s : Session) : place r (place r s f) g = place r (place r s g) f := by
  unfold place
  simp only [cached_comm r hk, drawn_comm r hp, Session.changeFirst_comm hp (Slot.keeps_after _) (Slot.keeps_after _)]

theorem foldl_place_of_perm (r : Registry) {fetched others : List Fetched} (h : fetched.Perm others)
    (hp : (fetched.map panel).Nodup) (hk : (fetched.map fun f => Cache.key f.url).Nodup) (s : Session) :
    fetched.foldl (place r) s = others.foldl (place r) s := by
  apply h.foldl_eq'
  intro f hf g hg z
  by_cases he : f = g
  · rw [he]
  · have hpanel : f.panel ≠ g.panel := fun e => he (List.inj_on_of_nodup_map hp hf hg e)
    have hkey : Cache.key f.url ≠ Cache.key g.url := fun e => he (List.inj_on_of_nodup_map hk hf hg e)
    exact place_comm r hpanel hkey z

end Fetched

namespace Session

theorem receive_of_silent {f : Fetched} {s : Session} (h : ∀ a, f.outcome s.registry = .ok a → a.Silent) :
    (s.receive f).seen id = Fetched.place s.registry (s.seen id) f := by
  cases ho : f.outcome s.registry with
  | error failure =>
    rw [receive_of_error ho]
    simp only [Fetched.place, Fetched.cached, Fetched.drawn, ho]
    rfl
  | ok a =>
    obtain ⟨hgui, hscript⟩ := h a ho
    obtain ⟨content, hd⟩ := Option.isSome_iff_exists.mp hgui
    have hpanel : a.panel = f.panel := (outcome_context ho).1
    have hcalls : a.calls .postScript none = [] := by simp [Activity.calls, Capabilities.name?, hscript]
    have hcommands : a.postScript = [] := by simp [Activity.postScript, hscript]
    rw [receive_of_ok ho]
    simp only [Fetched.place, Fetched.cached, Fetched.drawn, ho, hd, showActivity, hcommands, hpanel,
      Slot.after_of_content hd]
    simp only [seen, changeSlot, enqueue, note, List.append_nil]
    rfl

theorem foldl_receive_of_silent : ∀ {fetched : List Fetched} {s : Session},
    (∀ f ∈ fetched, ∀ a, f.outcome s.registry = .ok a → a.Silent) →
      (fetched.foldl (fun s f => s.receive f) s).seen id = fetched.foldl (Fetched.place s.registry) (s.seen id)
  | [], _, _ => rfl
  | f :: fetched, s, h => by
    obtain ⟨hf, hrest⟩ := List.forall_mem_cons.mp h
    have hregistry : (s.receive f).registry = s.registry := (loadFrame_receive f s).registry
    rw [← hregistry] at hrest
    rw [List.foldl_cons, List.foldl_cons, foldl_receive_of_silent hrest, hregistry, receive_of_silent hf]

end Session

/-! ## Loads -/

namespace Board

open Session

variable {σ : Type} {server : Server σ} {answer : String → Except Refusal String}

theorem seen_load_of_silent (hsteady : ∀ url state, (server.get url state).1 = answer url)
    (requests : List LoadRequest)
    (b : Board σ) (hsilent : ∀ r ∈ requests.filter LoadRequest.hasLocator,
      ∀ a, (b.session.answered answer r).outcome b.session.registry = .ok a → a.Silent) :
    (load server requests b).session.seen id =
      ((requests.filter LoadRequest.hasLocator).map (b.session.answered answer)).foldl
        (Fetched.place b.session.registry)
        (b.session.seen
          (changeEach Slot.startLoading ((requests.filter LoadRequest.hasLocator).map LoadRequest.panel))) := by
  have hregistry : (b.fetched server requests).2.session.registry = b.session.registry :=
    (loadFrame_fetched server requests b).registry
  obtain ⟨log, hstarted⟩ := fetched_session server requests b
  have hall : ∀ f ∈ (b.fetched server requests).1,
      ∀ a, f.outcome (b.fetched server requests).2.session.registry = .ok a → a.Silent := by
    rw [fetched_of_steady hsteady, hregistry]
    intro f hf
    obtain ⟨r, hr, rfl⟩ := List.mem_map.mp hf
    exact hsilent r hr
  rw [load_eq]
  simp only [onSession]
  rw [foldl_receive_of_silent hall, hregistry, fetched_of_steady hsteady, hstarted]
  rfl

/-- A load for different panels and keys from a server that answers each address in one way comes to the same in any
order of its requests, if they make only silent activities or none. Only the messages of those that make none, and
what the log says of the requests, stand in the order of the requests. -/
theorem load_in_any_order (hsteady : ∀ url state, (server.get url state).1 = answer url)
    {requests others : List LoadRequest}
    (h : requests.Perm others) (b : Board σ) (hp : (requests.map LoadRequest.panel).Nodup)
    (hk : ((requests.filter LoadRequest.hasLocator).map fun r => Cache.key (b.session.address r)).Nodup)
    (hsilent : ∀ r ∈ requests, r.hasLocator = true →
      ∀ a, (b.session.answered answer r).outcome b.session.registry = .ok a →
      a.isGui = true ∧ a.capabilities.postScript = none) :
    let one := (load server requests b).session
    let other := (load server others b).session
    { one with screen := { one.screen with messages := [] }, log := [] } =
        { other with screen := { other.screen with messages := [] }, log := [] } ∧
      one.screen.messages.Perm other.screen.messages ∧ one.gets.Perm other.gets := by
  intro one other
  have hstarted : (requests.filter LoadRequest.hasLocator).Perm (others.filter LoadRequest.hasLocator) := h.filter _
  have hrequests : ∀ r ∈ requests.filter LoadRequest.hasLocator,
      ∀ a, (b.session.answered answer r).outcome b.session.registry = .ok a → a.Silent := by
    intro r hr
    obtain ⟨hm, hl⟩ := List.mem_filter.mp hr
    exact hsilent r hm hl
  have hothers : ∀ r ∈ others.filter LoadRequest.hasLocator,
      ∀ a, (b.session.answered answer r).outcome b.session.registry = .ok a → a.Silent :=
    fun r hr => hrequests r (hstarted.mem_iff.mpr hr)
  refine ⟨?_, ?_, ?_⟩
  · show one.seen id = other.seen id
    have hpanels : (((requests.filter LoadRequest.hasLocator).map (b.session.answered answer)).map
        Fetched.panel).Nodup := by
      rw [List.map_map]
      exact hp.sublist (List.filter_sublist.map _)
    have hkeys : (((requests.filter LoadRequest.hasLocator).map (b.session.answered answer)).map
        fun f => Cache.key f.url).Nodup := by
      rw [List.map_map]
      exact hk
    rw [seen_load_of_silent hsteady requests b hrequests, seen_load_of_silent hsteady others b hothers]
    rw [Fetched.foldl_place_of_perm _ (hstarted.map _) hpanels hkeys]
    simp only [seen, changeEach_of_perm Slot.keeps_startLoading (hstarted.map LoadRequest.panel)]
  · simp only [one, other, load_messages, fetched_of_steady hsteady]
    exact ((hstarted.map _).filterMap _).append_left _
  · simp only [one, other, load_gets, asks]
    exact ((hstarted.filter _).map _).append_left _

/-- Two panels show what is then kept for their addresses, and a third is refused. -/
theorem loads_in_reverse :
    let source := "\x7b\"display\":\"X\",\"cache\":true\x7d"
    let first := Session.new .default .builtin
    let left : LoadRequest := ⟨"A", "/x", []⟩
    let right : LoadRequest := ⟨"B", "/y", []⟩
    let refused : LoadRequest := ⟨"C", "/z", []⟩
    let answer := fun url => if url = first.address refused then .error (.status url 503 "Busy") else .ok source
    let server : Server Unit := ⟨fun url state => (answer url, state), fun url _ state => (answer url, state)⟩
    let b := (⟨first, ()⟩ : Board _).start server (.definePanels [⟨"A", ""⟩, ⟨"B", ""⟩, ⟨"C", ""⟩])
    (∀ url state, (server.get url state).1 = answer url) ∧ ["A", "B", "C"].Nodup ∧
      ([left, right, refused].map fun r => Cache.key (b.session.address r)).Nodup ∧
      (∀ r ∈ [left, right, refused],
        ∀ a, (b.session.answered answer r).outcome b.session.registry = .ok a → a.Silent) ∧
      let one := (load server [left, right, refused] b).session
      let other := (load server [refused, right, left] b).session
      { one with screen := { one.screen with messages := [] }, log := [] } =
          { other with screen := { other.screen with messages := [] }, log := [] } ∧
        one.screen.messages.Perm other.screen.messages ∧ one.gets.Perm other.gets := by
  intro source first left right refused answer server b
  have hread : Definition.ofText source = .ok ⟨some (.str "X"), none, none, none, none, none, true, .null⟩ := by
    simp only [source]
    cbv
  have hmade : ∀ panel url, ∃ a, Registry.builtin.activity panel url source = .ok a ∧ a.Silent :=
    fun panel url => ⟨_, activity_of_text hread rfl panel url, rfl, rfl⟩
  have hsteady : ∀ url state, (server.get url state).1 = answer url := fun _ _ => rfl
  have hpanels : ([left, right, refused].map LoadRequest.panel).Nodup := by decide
  have hkeys : ([left, right, refused].map fun r => Cache.key (b.session.address r)).Nodup := by decide +kernel
  have hsilent : ∀ r ∈ [left, right, refused],
      ∀ a, (b.session.answered answer r).outcome b.session.registry = .ok a → a.Silent := by
    intro r _ a ha
    have hmissed : b.session.cache.find? (b.session.address r) = none := rfl
    simp only [Session.answered, hmissed, answer] at ha
    split at ha
    · cases ha
    · obtain ⟨a', hactivity, hshows⟩ := hmade r.panel (b.session.address r)
      obtain rfl : a' = a := Except.ok.inj (hactivity.symm.trans ha)
      exact hshows
  have hreverse : [left, right, refused].Perm [refused, right, left] := List.reverse_perm [refused, right, left]
  exact ⟨hsteady, by decide, hkeys, hsilent,
    load_in_any_order hsteady hreverse b hpanels hkeys fun r hr _ => hsilent r hr⟩

end Board

end Dashboard
