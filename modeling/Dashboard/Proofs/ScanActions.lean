import Dashboard.Proofs.JsonValues
import Dashboard.Proofs.Settling
import Dashboard.Proofs.UndoBound

/-!
# The actions of a scan

A scan action that asks for nothing is passed over as if it were not there. Each
other one asks for one command, which is carried out with all that follows from
it before the next one. The undo actions of the response are kept after the last
of them, so no undo among them can take these (`scan_actions_in_turn`).
-/

namespace Dashboard

/-! ## Events -/

namespace Event

open Json

theorem readMembers_of_kind (kind : String) : ∀ {l : List (String × Json)}, Entries.get? "type" l = none →
    ∀ fields : Params, readMembers (some kind) fields (Members.ofJson l) =
      .ok ⟨kind, fields.insertMany (normalMembers l)⟩
  | [], _, _ => rfl
  | (k, v) :: l, h, fields => by
    have hk : k ≠ "type" := Entries.get?_eq_none_iff.mp h (k, v) (by simp)
    have hrest : Entries.get? "type" l = none := by rwa [Entries.get?, if_neg (Ne.symm hk)] at h
    simp only [Members.ofJson, readMembers, if_neg hk, json_ofJson, normalMembers]
    exact readMembers_of_kind kind hrest _

theorem readMembers_eq : ∀ {l : List (String × Json)}, (l.map Prod.fst).Nodup → ∀ fields : Params,
    (readMembers none fields (Members.ofJson l)).toOption =
      ((Entries.get? "type" l).bind string?).map fun kind =>
        ⟨kind, fields.insertMany (normalMembers (l.filter fun e => e.1 ≠ "type"))⟩
  | [], _, _ => rfl
  | (k, v) :: l, h, fields => by
    obtain ⟨hnot, hrest⟩ := List.nodup_cons.mp h
    by_cases hk : k = "type"
    · subst hk
      have hnone : Entries.get? "type" l = none := Entries.get?_of_not_mem hnot
      have hall : l.filter (fun e => e.1 ≠ "type") = l :=
        List.filter_eq_self.mpr fun e he => by simpa using Entries.get?_eq_none_iff.mp hnone e he
      rw [List.filter_cons_of_neg (by simp), hall]
      simp only [Members.ofJson, readMembers, Entries.get?, if_true, Option.bind_some]
      cases hs : v.string? with
      | some kind =>
        simp only [string_ofJson_of_some hs, readMembers_of_kind kind hnone]
        rfl
      | none =>
        obtain ⟨f, hf⟩ := string_ofJson_of_none hs
        simp only [hf]
        rfl
    · rw [List.filter_cons_of_pos (by simpa using hk)]
      simp only [Members.ofJson, readMembers, if_neg hk, json_ofJson, Entries.get?, if_neg (Ne.symm hk), normalMembers]
      exact readMembers_eq hrest _

theorem ofJson?_object {d : Params} (hd : d.map normal = d) :
    ofJson? (object d) = ((d.get? "type").bind string?).map fun kind => ⟨kind, d.erase "type"⟩ := by
  have hfields : (Dict.empty : Params).insertMany (normalMembers (d.erase "type").entries) = d.erase "type" := by
    rw [normalMembers_eq]
    exact (Dict.ofList_entries ((d.erase "type").map normal)).trans (by rw [Dict.map_erase, hd])
  show (readMembers none .empty (Members.ofJson d.entries)).toOption = _
  rw [readMembers_eq d.ascending.nodup]
  exact congrArg (fun fields => ((d.get? "type").bind string?).map fun kind => (⟨kind, fields⟩ : Event)) hfields

theorem ofJson?_of_no_params {j : Json} (h : j.params? = none) : ofJson? j = none := by
  cases j with
  | obj members => cases h
  | null | bool | num | str | arr => rfl

end Event

/-! ## What an action asks for -/

namespace Json

/-- The text that an object holds under a key. -/
def text? (key : String) (j : Json) : Option String := (j.params?.bind fun d => d.get? key).bind string?

/-- An object with a type that presses no button, or presses one that it names. -/
def isScanAction (action : Json) : Bool :=
  match action.text? "type" with
  | some kind => kind ≠ "BUTTON_PRESS" || (action.text? "button").isSome
  | none => false

theorem text?_normal (key : String) (j : Json) : j.normal.text? key = j.text? key := by
  unfold text?
  rw [params?_normal]
  cases j.params? with
  | none => rfl
  | some d =>
    show ((d.map normal).get? key).bind string? = (d.get? key).bind string?
    rw [Dict.get?_map]
    cases d.get? key with
    | none => rfl
    | some v => exact string?_normal v

theorem isScanAction_normal (j : Json) : j.normal.isScanAction = j.isScanAction := by
  unfold isScanAction
  rw [text?_normal, text?_normal]

end Json

/-- A command for an action: a press or an undo by the button that it names, else the event that the action is. -/
def Command.AskedBy (action : Json) : Command → Prop
  | .send e => e.json = action ∧ e.kind ≠ "BUTTON_PRESS"
  | .undo => action.text? "type" = some "BUTTON_PRESS" ∧ action.text? "button" = some "_UNDO"
  | .press id => action.text? "type" = some "BUTTON_PRESS" ∧ action.text? "button" = some id ∧ id ≠ "_UNDO"
  | _ => False

section
variable {action : Json}

theorem text?_object (key : String) (d : Params) : (Json.object d).text? key = (d.get? key).bind Json.string? := by
  show ((Dict.ofList d.entries).get? key).bind Json.string? = _
  rw [Dict.ofList_entries]

theorem string?_eq_some_iff {o : Option Json} {s : String} : o.bind Json.string? = some s ↔ o = some (.str s) := by
  constructor
  · intro h
    obtain ⟨j, rfl, hj⟩ := Option.bind_eq_some_iff.mp h
    cases j <;> cases hj
    rfl
  · rintro rfl
    rfl

/-- Each sound action asks for one command, the others for none. -/
theorem scanCommand?_of_normal (hn : action.normal = action) :
    if action.isScanAction then ∃ c, scanCommand? action = some c ∧ c.AskedBy action
    else scanCommand? action = none := by
  unfold scanCommand? Json.isScanAction
  rcases Json.object_of_normal hn with hnone | ⟨d, rfl, hd⟩
  · simp [Json.text?, hnone, Event.ofJson?_of_no_params hnone]
  have hbutton : (d.erase "type").get? "button" = d.get? "button" := by simp [Dict.get?_erase]
  rw [Event.ofJson?_object hd, text?_object, text?_object]
  cases htype : (d.get? "type").bind Json.string? with
  | none => simp
  | some kind =>
    by_cases hk : kind = "BUTTON_PRESS"
    · subst hk
      simp only [Option.map_some, hbutton]
      cases hb : (d.get? "button").bind Json.string? with
      | none => simp
      | some button =>
        by_cases hu : button = "_UNDO"
        · subst hu
          have hasked : Command.AskedBy (.object d) .undo := ⟨text?_object _ d ▸ htype, text?_object _ d ▸ hb⟩
          simp [hasked]
        · have hasked : Command.AskedBy (.object d) (.press button) :=
            ⟨text?_object _ d ▸ htype, text?_object _ d ▸ hb, hu⟩
          simp [hasked]
    · -- the event that is sent is the action again
      have hwhole : (d.erase "type").insert "type" (.str kind) = d := by
        rw [Dict.insert_erase, Dict.insert_of_get? (string?_eq_some_iff.mp htype)]
      have hasked : Command.AskedBy (.object d) (.send ⟨kind, d.erase "type"⟩) :=
        ⟨congrArg Json.object hwhole, hk⟩
      simp [hk, hasked]

end

/-! ## Reading a response -/

namespace ScanResponse

open Json

/-- The response without the actions that are not sound. -/
def sifted (scan : ScanResponse) : ScanResponse := { scan with actions := scan.actions.filter isScanAction }

theorem sifted_comm (fld : Json.Field ScanResponse) (hfield : fld ∈ record.fields)
    (hname : fld.name ≠ "scanActions")
    (t : Tree) (built : ScanResponse) : fld.put t (sifted built) = (fld.put t built).map sifted := by
  simp only [record, List.mem_cons, List.not_mem_nil, or_false] at hfield
  rcases hfield with rfl | rfl | rfl | rfl
  · exact Json.Field.put_comm (by intros; rfl) t built
  · exact Json.Field.put_comm (by intros; rfl) t built
  · exact Json.Field.put_comm (by intros; rfl) t built
  · exact absurd rfl hname

theorem filter_normal (items : List Json) :
    (items.filter isScanAction).map normal = (items.map normal).filter isScanAction := by
  rw [List.filter_map]
  congr 2
  funext j
  exact (isScanAction_normal j).symm

theorem ofJson?_sift {raw : Json} (h : raw.isObject = true) :
    ofJson? (raw.change "scanActions" (keepItems isScanAction)) = (ofJson? raw).map sifted := by
  cases raw with
  | obj members =>
    have hfield : record.find? "scanActions" =
        some (.defaulted "scanActions" (.list .json) fun actions r => { r with actions }) := rfl
    have hread := Record.readMembers_change_field (f := keepItems isScanAction) (g := sifted) hfield ?_ sifted_comm
      members [] record.blank
    · refine (congrArg Except.toOption hread).trans ?_
      show ((record.readMembers [] record.blank _).map sifted).toOption =
        (record.readMembers [] record.blank _).toOption.map sifted
      cases record.readMembers [] record.blank (Members.ofJson members) <;> rfl
    · intro v built
      cases v with
      | arr items =>
        show (Reader.list Reader.json (Tree.ofJson (.arr (items.filter isScanAction)))).map _ =
          ((Reader.list Reader.json (Tree.ofJson (.arr items))).map _).map sifted
        rw [list_json_ofJson, list_json_ofJson, filter_normal]
        rfl
      | null | bool | num | str | obj => rfl
  | null | bool | num | str | arr => cases h

theorem ofJson?_change_undo (f : Json → Json) {raw : Json} :
    ofJson? (raw.change "undoActions" f) = ofJson? raw := by
  cases raw with
  | obj members =>
    exact congrArg Except.toOption (Record.readMembers_change_unread (r := record) rfl rfl members [] record.blank)
  | null | bool | num | str | arr => rfl

theorem normal_of_read {raw : Json} (h : raw.isObject = true) {scan : ScanResponse} (hread : ofJson? raw = some scan) :
    ∀ action ∈ scan.actions, action.normal = action := by
  cases raw with
  | obj members =>
    refine Record.readMembers_keeps (r := record)
      (P := fun scan => ∀ action ∈ scan.actions, action.normal = action) ?_
      (by simp [record]) (toOption_eq_some_iff.mp hread)
    intro fld hfield v built built' hbuilt hput
    simp only [record, List.mem_cons, List.not_mem_nil, or_false] at hfield
    rcases hfield with rfl | rfl | rfl | rfl <;> obtain ⟨a, ha, rfl⟩ := Json.Field.of_put hput
    · exact hbuilt
    · exact hbuilt
    · exact hbuilt
    · cases v with
      | arr items =>
        obtain rfl := Except.ok.inj ((list_json_ofJson items).symm.trans ha)
        intro action haction
        obtain ⟨j, -, rfl⟩ := List.mem_map.mp haction
        exact normal_normal j
      | null | bool | num | str | obj => cases ha
  | null | bool | num | str | arr => cases h

end ScanResponse

theorem UndoAction.collect_change {key : String} (hkey : key ≠ "undoActions") (f : Json → Json) (j : Json) :
    collect (j.change key f) = collect j := by
  cases j with
  | obj members =>
    have hget := Json.get?_change key f (.obj members) "undoActions"
    rw [if_neg (Ne.symm hkey)] at hget
    exact congrArg (fun value => (((value.bind Json.items?).getD []).filterMap fun entry =>
      (reader.ofJson entry).toOption) ++ []) hget
  | null | bool | num | str | arr => rfl

/-! ## Actions in turn -/

namespace Board

section
variable {σ : Type} (server : Server σ)

/-- Commands carried out one after the other, each with all that it queues before the next one. -/
inductive CarriedEach : List Command → Board σ → Board σ → Prop
  | nil (b : Board σ) : CarriedEach [] b b
  | cons {c : Command} {rest : List Command} {b b' last : Board σ}
    (carried : Settles server (b.start server (.run c)) b') (others : CarriedEach rest b' last) :
    CarriedEach (c :: rest) b last

variable {server} {b b' last : Board σ}

theorem Settles.eventually (h : Settles server b b') : ∃ enough, ∀ fuel ≥ enough, b.settle server fuel = b' := by
  obtain ⟨enough, rfl, hidle⟩ := h
  refine ⟨enough, fun fuel hfuel => ?_⟩
  obtain ⟨spare, rfl⟩ := Nat.exists_eq_add_of_le hfuel
  rw [settle_add, settle_of_idle server hidle]

theorem performActions_eq (fuel : Nat) : ∀ (actions : List Json) (b : Board σ),
    b.performActions server fuel actions =
    (actions.filterMap scanCommand?).foldl (fun b c => b.perform server fuel (.run c)) b
  | [], _ => rfl
  | action :: actions, b => by
    unfold performActions
    cases hc : scanCommand? action with
    | none =>
      rw [List.filterMap_cons_none hc]
      exact performActions_eq fuel actions b
    | some c =>
      rw [List.filterMap_cons_some hc, List.foldl_cons]
      exact performActions_eq fuel actions _

theorem CarriedEach.eventually {commands : List Command} (h : CarriedEach server commands b last) :
    ∃ enough, ∀ fuel ≥ enough, commands.foldl (fun b c => b.perform server fuel (.run c)) b = last := by
  induction h with
  | nil => exact ⟨0, fun _ _ => rfl⟩
  | @cons c rest b b' last carried _ ih =>
    obtain ⟨first, hfirst⟩ := carried.eventually
    obtain ⟨next, hnext⟩ := ih
    refine ⟨max first next, fun fuel hfuel => ?_⟩
    have hperform : b.perform server fuel (.run c) = b' := hfirst fuel (Nat.le_trans (Nat.le_max_left _ _) hfuel)
    rw [List.foldl_cons, hperform]
    exact hnext fuel (Nat.le_trans (Nat.le_max_right _ _) hfuel)

theorem scanResponse_eq {response raw : Json} {scan : ScanResponse}
    (hresponse : response.get? "scanResponse" = some raw) (hread : ScanResponse.ofJson? raw = some scan)
    (fuel : Nat) (b : Board σ) :
    b.scanResponse server fuel response =
      (((b.onSession fun s => s.display scan.messages).performActions server fuel scan.actions).onSession
        fun s => s.keepUndo raw) := by
  simp only [scanResponse, hresponse, hread]

theorem filterMap_sifted {scan : ScanResponse} (hnormal : ∀ action ∈ scan.actions, action.normal = action) :
    scan.sifted.actions.filterMap scanCommand? = scan.actions.filterMap scanCommand? := by
  show (scan.actions.filter Json.isScanAction).filterMap scanCommand? = _
  rw [List.filterMap_filter]
  refine List.filterMap_congr fun action haction => ?_
  have hspec := scanCommand?_of_normal (hnormal action haction)
  cases hs : action.isScanAction with
  | true => rfl
  | false =>
    rw [hs, if_neg (by simp)] at hspec
    exact hspec.symm

theorem asked_sifted {scan : ScanResponse} (hnormal : ∀ action ∈ scan.actions, action.normal = action) :
    List.Forall₂ (fun action c => c.AskedBy action) scan.sifted.actions (scan.actions.filterMap scanCommand?) := by
  rw [← filterMap_sifted hnormal]
  refine forall₂_filterMap fun action haction => ?_
  obtain ⟨hmem, hs⟩ := List.mem_filter.mp haction
  have hspec := scanCommand?_of_normal (hnormal action hmem)
  rwa [hs, if_pos rfl] at hspec

theorem newest_kept {raw : Json} {entries : List Json} (hraw : raw.isObject = true)
    (hentries : raw.get? "undoActions" = some (.arr entries))
    (hne : entries.filterMap (fun e => (UndoAction.reader.ofJson e).toOption) ≠ []) {s : Session}
    (hroom : 0 < s.undo.capacity) : (s.keepUndo raw).undo.batches.head? =
      some (entries.filterMap fun e => (UndoAction.reader.ofJson e).toOption) := by
  have hcollect : UndoAction.collect raw = entries.filterMap fun e => (UndoAction.reader.ofJson e).toOption := by
    cases raw with
    | obj members => simp [UndoAction.collect, hentries, Json.items?]
    | null | bool | num | str | arr => cases hraw
  obtain ⟨first, rest, hbatch⟩ := List.exists_cons_of_ne_nil hne
  obtain ⟨room, hcapacity⟩ := Nat.exists_eq_succ_of_ne_zero (Nat.pos_iff_ne_zero.mp hroom)
  simp only [Session.keepUndo, hcollect, hbatch, UndoStack.push, hcapacity, List.take_succ_cons, List.head?_cons]

/-- The actions of a response that are not sound might as well not be there. The others ask for one command each, and
these are carried out in turn, whatever undo actions the response has itself: they are kept at the end, as the newest
batch if there are any and the stack has room for one. -/
theorem scan_actions_in_turn (server : Server σ) (b : Board σ) {response raw : Json} {scan : ScanResponse}
    (hresponse : response.get? "scanResponse" = some raw) (hraw : raw.isObject = true)
    (hread : ScanResponse.ofJson? raw = some scan) :
    let sift := Json.change "scanActions" (Json.keepItems Json.isScanAction)
    let sound := scan.actions.filter Json.isScanAction
    let commands := scan.actions.filterMap scanCommand?
    let shown := b.onSession fun s => s.display scan.messages
    ScanResponse.ofJson? (sift raw) = some { scan with actions := sound } ∧
    (∀ fuel, b.scanResponse server fuel (response.change "scanResponse" sift) =
      b.scanResponse server fuel response) ∧
    List.Forall₂ (fun action c => c.AskedBy action) sound commands ∧
    (∀ done, CarriedEach server commands shown done → ∃ enough, ∀ fuel ≥ enough,
      b.scanResponse server fuel response = (done.onSession fun s => s.keepUndo raw) ∧
      ∀ f, b.scanResponse server fuel (response.change "scanResponse" (Json.change "undoActions" f)) =
        done.onSession fun s => s.keepUndo (raw.change "undoActions" f)) ∧
    ∀ fuel entries, raw.get? "undoActions" = some (.arr entries) →
      let batch := entries.filterMap fun e => (UndoAction.reader.ofJson e).toOption
      batch ≠ [] → 0 < b.session.undo.capacity →
        (b.scanResponse server fuel response).session.undo.batches.head? = some batch := by
  intro sift sound commands shown
  have hnormal := ScanResponse.normal_of_read hraw hread
  have hchanged : ∀ f, (response.change "scanResponse" f).get? "scanResponse" = some (f raw) := by
    intro f
    rw [Json.get?_change, if_pos rfl, hresponse]
    rfl
  have hsifted : ScanResponse.ofJson? (sift raw) = some scan.sifted := by
    rw [ScanResponse.ofJson?_sift hraw, hread]
    rfl
  refine ⟨hsifted, fun fuel => ?_, asked_sifted hnormal, fun done hdone => ?_, ?_⟩
  · have hkeep : ∀ s : Session, s.keepUndo (sift raw) = s.keepUndo raw := by
      intro s
      have hcollect : UndoAction.collect (sift raw) = UndoAction.collect raw :=
        UndoAction.collect_change (by decide) _ raw
      simp only [Session.keepUndo, hcollect]
    rw [scanResponse_eq (hchanged sift) hsifted, scanResponse_eq hresponse hread, performActions_eq, performActions_eq,
      filterMap_sifted hnormal]
    simp only [hkeep]
    rfl
  · obtain ⟨enough, henough⟩ := hdone.eventually
    refine ⟨enough, fun fuel hfuel => ⟨?_, fun f => ?_⟩⟩
    · rw [scanResponse_eq hresponse hread, performActions_eq, henough fuel hfuel]
    · have hsame : ScanResponse.ofJson? (raw.change "undoActions" f) = some scan := by
        rw [ScanResponse.ofJson?_change_undo, hread]
      rw [scanResponse_eq (hchanged _) hsame, performActions_eq, henough fuel hfuel]
  · intro fuel entries hentries batch hbatch hroom
    rw [scanResponse_eq hresponse hread]
    refine newest_kept hraw hentries hbatch ?_
    obtain ⟨steps, course, -⟩ : Leads server shown _ := leads_performActions fuel scan.actions shown
    rw [course.undo_capacity]
    exact hroom

end

/-- An undo takes the batch from before, not the one of its own response. -/
theorem undo_spares_own_batch :
    let undo := Json.obj [("button", .str "_UNDO"), ("type", .str "BUTTON_PRESS")]
    let unsound := Json.obj [("type", .str "BUTTON_PRESS")]
    let entry := Json.obj [("json", .str "1"), ("uri", .str "/own")]
    let raw := Json.obj
      [("resolved", .bool true), ("scanActions", .arr [.nat 5, unsound, undo]), ("undoActions", .arr [entry])]
    let response := Json.obj [("scanResponse", raw)]
    let scan : ScanResponse := ⟨true, "", none, [.nat 5, unsound, undo]⟩
    let before : UndoAction := ⟨"1", "/before", none, []⟩
    let own : UndoAction := ⟨"1", "/own", none, []⟩
    let b : Board _ := ⟨{ Session.new .default .builtin with undo := ⟨[[before]], 8⟩ }, [.ok ""]⟩
    response.get? "scanResponse" = some raw ∧ raw.isObject = true ∧ ScanResponse.ofJson? raw = some scan ∧
      scan.actions.filter Json.isScanAction = [undo] ∧
      ∃ enough, ∀ fuel ≥ enough, let after := (b.scanResponse Server.scripted fuel response).session
        after.log = [.posted "/before" (.nat 1)] ∧ after.undo.batches.head? = some [own] := by
  intro undo unsound entry raw response scan before own b
  have hresponse : response.get? "scanResponse" = some raw := rfl
  have hread : ScanResponse.ofJson? raw = some scan := by
    cbv
  have hbatch : [entry].filterMap (fun e => (UndoAction.reader.ofJson e).toOption) = [own] := by
    cbv
  have hsound : scan.actions.filter Json.isScanAction = [undo] := by
    cbv
  have hcommands : scan.actions.filterMap scanCommand? = [.undo] := by
    cbv
  have hrequests : [before].filterMap UndoAction.request? = [(before, .nat 1)] := by
    cbv
  let shown := b.onSession fun s => s.display scan.messages
  have hold : shown.session.undo.batches = [[before]] := rfl
  obtain ⟨done, happly⟩ : ∃ done, shown.apply Server.scripted .undo = done := ⟨_, rfl⟩
  have hundo := (undoNewest_of_batch Server.scripted hold).symm.trans happly
  rw [hrequests] at hundo
  have hqueue : done.session.queue = [] := by
    rw [← hundo]
    rfl
  have hlog : done.session.log = [.posted "/before" (.nat 1)] := by
    rw [← hundo]
    rfl
  have hdone : CarriedEach Server.scripted (scan.actions.filterMap scanCommand?) shown done := by
    rw [hcommands]
    exact .cons ((settles_run rfl).mpr ⟨0, happly, hqueue⟩) (.nil done)
  obtain ⟨-, -, -, hcarried, hnewest⟩ := scan_actions_in_turn Server.scripted b hresponse rfl hread
  obtain ⟨enough, henough⟩ := hcarried done hdone
  refine ⟨hresponse, rfl, hread, hsound, enough, fun fuel hfuel => ⟨?_, ?_⟩⟩
  · obtain ⟨hafter, -⟩ := henough fuel hfuel
    have hkept : (done.session.keepUndo raw).log = done.session.log := by
      unfold Session.keepUndo
      split <;> rfl
    rw [hafter]
    exact hkept.trans hlog
  · have hne : [entry].filterMap (fun e => (UndoAction.reader.ofJson e).toOption) ≠ [] := by simp [hbatch]
    rw [hnewest fuel [entry] rfl hne (by decide), hbatch]

end Board

end Dashboard
