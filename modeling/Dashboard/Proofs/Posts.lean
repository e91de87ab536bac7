import Dashboard.Proofs.QuietDeeds
import Dashboard.Proofs.Settling

/-!
# Posts of activities

The answer to a post queues a finish of the panel and then what the response
carries. These commands are carried out one after the other, and what the
finish queues stands behind all of them. A finish only adds to the messages and
to the queue, so its own failures take nothing from the response.
-/

namespace Dashboard

/-! ## What a response carries -/

theorem Message.ofEnvelope_of_not_envelope {response : Json} (h : Message.isEnvelope response = false) :
    Message.ofEnvelope response = [] := by
  cases response with
  | obj members =>
    obtain ⟨hholder, hflat⟩ := Bool.or_eq_false_iff.mp h
    rw [ofEnvelope, hholder, if_neg Bool.false_ne_true, flat, List.flatMap_eq_nil_iff]
    rintro ⟨key, level⟩ hkey
    have hnone : (Json.obj members).get? key = none := by simpa using List.any_eq_false.mp hflat (key, level) hkey
    simp only [hnone]
  | null | bool | num | str | arr => rfl

/-- The session with the messages of a response shown, and its undo actions kept if there are any. -/
def Session.takeResponse (response : Json) (s : Session) : Session :=
  let batch := UndoAction.collect response
  { s with
    screen := { s.screen with
      messages := s.screen.messages ++ Message.ofEnvelope response
      undoEnabled := s.screen.undoEnabled || !batch.isEmpty }
    undo := if batch.isEmpty then s.undo else s.undo.push batch }

theorem Session.keepUndo_display (response : Json) (s : Session) :
    (s.display (Message.ofEnvelope response)).keepUndo response = s.takeResponse response := by
  unfold keepUndo takeResponse
  cases UndoAction.collect response with
  | nil => simp [display, Screen.display]
  | cons a batch => simp [display, Screen.display]

namespace Board

variable {σ : Type} (server : Server σ)

/-! ## The commands of an answer -/

def settlePost (panel text : String) (b : Board σ) : Board σ :=
  let finished := b.finish server ⟨some panel, false, []⟩
  match Json.ofText? text with
  | some response => finished.onSession (Session.takeResponse response)
  | none => finished

theorem foldl_envelope (response : Json) (b : Board σ) :
    (if Message.isEnvelope response then [Command.display (Message.ofEnvelope response)] else []).foldl
      (fun b c => b.apply server c) b = b.onSession fun s => s.display (Message.ofEnvelope response) := by
  cases he : Message.isEnvelope response with
  | true => rfl
  | false =>
    simp only [Message.ofEnvelope_of_not_envelope he, Session.display_nil, onSession]
    rfl

theorem foldl_afterPost (panel text : String) (b : Board σ) :
    (afterPost panel text).foldl (fun b c => b.apply server c) b = b.settlePost server panel text := by
  unfold afterPost settlePost
  rw [List.foldl_cons]
  cases Json.ofText? text with
  | none => rfl
  | some response =>
    simp only [List.foldl_append, foldl_envelope, List.foldl_cons, List.foldl_nil]
    simp only [apply, onSession, Session.keepUndo_display, Finish.ofPanel]

/-- A finish adds messages and commands and leaves the undo stack alone, also when it fails. -/
theorem finish_frame (request : Finish) (b : Board σ) : ∃ complaints follow,
    (b.finish server request).session.screen.messages = b.session.screen.messages ++ complaints ∧
      (b.finish server request).session.queue = b.session.queue ++ follow ∧
      (b.finish server request).session.undo = b.session.undo := by
  let requests := (b.session.planFinish request).1
  let planned : Board σ := { b with session := (b.session.planFinish request).2 }
  have hload : b.finish server request = load server requests planned := Deed.finish_eq_load server request b
  obtain ⟨shown, waiting, hplan⟩ := Session.planFinish_frame request b.session
  have hplanned : planned.session = { b.session.display shown with waiting := waiting } := hplan
  obtain ⟨follow, hqueue⟩ := (loadFrame_load server requests planned).queue
  have hmessages := load_messages server requests planned
  rw [← hload, hplanned] at hqueue hmessages
  have hshown : (b.session.display shown).screen.messages = b.session.screen.messages ++ shown := rfl
  simp only [hshown, List.append_assoc] at hmessages
  exact ⟨_, follow, hmessages, hqueue.symm, Deed.perform_undo server (.carry (.finish request)) b⟩

/-! ## The whole post -/

section
variable {data : Params} {url panel : String} {arguments : Params} {b : Board σ}

theorem postActivity_of_error {refusal : Refusal}
    (h : (server.post (Locator.withArguments url arguments.entries) (.object data) b.server).1 = .error refusal) :
    let posted := (b.post server (Locator.withArguments url arguments.entries) (.object data)).2
    b.postActivity server data url panel arguments = posted.onSession fun s => s.report (.refused refusal) := by
  simp only [postActivity, post, h]

theorem postActivity_of_ok {text : String}
    (h : (server.post (Locator.withArguments url arguments.entries) (.object data) b.server).1 = .ok text) :
    let posted := (b.post server (Locator.withArguments url arguments.entries) (.object data)).2
    b.postActivity server data url panel arguments = posted.onSession fun s => s.enqueue (afterPost panel text) := by
  simp only [postActivity, post, h]

end

/-- A refused post shows its error and does nothing else. After any other answer, and once the commands that
stood before it are carried out, the panel is finished and the response taken whatever came of the finish. What the
finish has queued is then still to be carried out. -/
theorem post_keeps_answer (data : Params) (url panel : String) (arguments : Params) (b : Board σ) :
    let op := Operation.postActivity data url panel arguments
    let target := Locator.withArguments url arguments.entries
    let reply := server.post target (.object data) b.server
    let posted : Board σ := ⟨b.session.note [.posted target (.object data)], reply.2⟩
    (∀ refusal, reply.1 = .error refusal →
      let reported := posted.onSession fun s => s.display [⟨.error, refusal.text⟩]
      b.start server op = reported ∧ (b.session.queue = [] → ∀ fuel, b.perform server fuel op = reported)) ∧
    ∀ text, reply.1 = .ok text →
      let ready := posted.settle server b.session.queue.length
      let finished := ready.finish server ⟨some panel, false, []⟩
      (∃ complaints follow, finished.session.screen.messages = ready.session.screen.messages ++ complaints ∧
        finished.session.queue = ready.session.queue ++ follow ∧ finished.session.undo = ready.session.undo) ∧
      ∀ fuel, b.perform server (b.session.queue.length + (afterPost panel text).length + fuel) op =
        Board.settle server fuel
          (match Json.ofText? text with
          | some response => finished.onSession (Session.takeResponse response)
          | none => finished) := by
  intro op target reply posted
  constructor
  · intro refusal hreply reported
    have hstart : b.start server op = reported := postActivity_of_error server hreply
    refine ⟨hstart, fun hidle fuel => ?_⟩
    have hreported : reported.session.queue = [] := hidle
    rw [perform, hstart, settle_of_idle server hreported]
  · intro text hreply ready finished
    have hstart : b.start server op = posted.onSession fun s => s.enqueue (afterPost panel text) :=
      postActivity_of_ok server hreply
    refine ⟨finish_frame server _ ready, fun fuel => ?_⟩
    have hsettle := settle_enqueue server (afterPost panel text) posted
    rw [foldl_afterPost] at hsettle
    -- the board after these commands is `ready.settlePost`, and its queue is all that is left to be carried out
    rw [perform, hstart, settle_add]
    exact congrArg (Board.settle server fuel) hsettle

/-- The panel of a post is not known, and the response is taken all the same; a second post is refused. -/
theorem answer_kept_for_unknown_panel :
    let text := "\x7b\"info\":\"Saved\",\"undoActions\":[\x7b\"uri\":\"/undo\",\"json\":\"1\"\x7d]\x7d"
    let refusal := Refusal.status "/save" 503 "Busy"
    let post := Operation.postActivity .empty "/save" "Z" .empty
    let b : Board _ := ⟨.new .default .builtin, [.ok text, .error refusal]⟩
    let saved := b.perform Server.scripted 3 post
    saved.session.queue = [] ∧ saved.session.undo.batches = [[⟨"1", "/undo", none, []⟩]] ∧
      saved.session.screen.messages =
        [(Failure.unknownPanel (some "Z") "finished()").message, ⟨.info, "Saved"⟩] ∧
      (saved.perform Server.scripted 3 post).session.screen.messages =
        saved.session.screen.messages ++ [⟨.error, refusal.text⟩] := by
  intro text refusal post b saved
  let response : Json :=
    .obj [("info", .str "Saved"), ("undoActions", .arr [.obj [("json", .str "1"), ("uri", .str "/undo")]])]
  have htext : Json.ofText? text = some response := by
    simp only [text]
    cbv
  have henvelope : Message.isEnvelope response = true := rfl
  have hmessages : Message.ofEnvelope response = [⟨.info, "Saved"⟩] := by cbv
  have hbatch : UndoAction.collect response = [⟨"1", "/undo", none, []⟩] := by cbv
  have hlength : (afterPost "Z" text).length = 3 := by simp [afterPost, htext, henvelope]
  obtain ⟨-, hanswered⟩ := post_keeps_answer Server.scripted .empty "/save" "Z" .empty b
  obtain ⟨-, hsaved⟩ := hanswered text rfl
  have hsaved := hsaved 0
  rw [hlength, htext] at hsaved
  have hserver : saved.server = [.error refusal] := congrArg Board.server hsaved
  have hidle : saved.session.queue = [] := congrArg (fun b => b.session.queue) hsaved
  obtain ⟨hrefused, -⟩ := post_keeps_answer Server.scripted .empty "/save" "Z" .empty saved
  have hagain := (hrefused refusal (by rw [hserver]; rfl)).2 hidle 3
  refine ⟨hidle, ?_, ?_, ?_⟩
  · have hundo : saved.session.undo = (Session.takeResponse response (.new .default .builtin)).undo :=
      congrArg (fun b => b.session.undo) hsaved
    rw [hundo, Session.takeResponse, hbatch]
    rfl
  · have hshown : saved.session.screen.messages =
        [(Failure.unknownPanel (some "Z") "finished()").message] ++ Message.ofEnvelope response :=
      congrArg (fun b => b.session.screen.messages) hsaved
    rw [hshown, hmessages]
    rfl
  · exact congrArg (fun b => b.session.screen.messages) hagain

end Board

end Dashboard
