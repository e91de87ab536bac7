import Mathlib
import Dashboard.Proofs.Runs

/-!
# The replay of an undo

An undo first sorts its batch: the actions whose body is JSON are posted, the
others are reported. The answers are then read in the order of the posts, each
for the action that it belongs to. Every part is one equation here (`planUndo_eq`,
`postAll_eq`, `foldl_receiveUndo_eq`), and together they say all that an undo
leaves (`newest_batch_replayed`).
-/

namespace Dashboard

namespace UndoAction

/-- The action with what it posts, when its body is JSON. -/
def request? (a : UndoAction) : Option (UndoAction × Json) :=
  match Json.ofText a.body with
  | .ok body => some (a, body)
  | .error _ => none

/-- What is shown for an action that cannot be posted. -/
def complaint? (a : UndoAction) : Option Message :=
  match Json.ofText a.body with
  | .ok _ => none
  | .error f => some ⟨.error, "Invalid undo request for " ++ a.uri ++ ": " ++ f.messageIn a.body⟩

/-- What is shown for an answer: the refusal, or the messages of the response and then the note of the action. -/
def shown (a : UndoAction) : Except Refusal String → List Message
  | .error refusal => [(Failure.refused refusal).message]
  | .ok text =>
    (match Json.ofText? text with
      | some response => if Message.isEnvelope response then Message.ofEnvelope response else []
      | none => []) ++ [⟨.info, a.note.getD "Undo performed"⟩]

/-- The events that an answer sets free. -/
def released (a : UndoAction) : Except Refusal String → List Event
  | .error _ => []
  | .ok _ => a.events

end UndoAction

/-- The answers to posts made one after the other, and the state of the server after the last one. -/
def Server.replies {σ : Type} (server : Server σ) :
    List (String × Json) → σ → List (Except Refusal String) × σ
  | [], state => ([], state)
  | (url, body) :: posts, state =>
    let (answer, state) := server.post url body state
    let (answers, state) := server.replies posts state
    (answer :: answers, state)

theorem Server.length_replies {σ : Type} (server : Server σ) : ∀ (posts : List (String × Json)) (state : σ),
    (server.replies posts state).1.length = posts.length
  | [], _ => rfl
  | _ :: posts, _ => congrArg (· + 1) (server.length_replies posts _)

theorem Server.replies_scripted : ∀ {posts : List (String × Json)} {answers : List (Except Refusal String)},
    answers.length = posts.length → Server.scripted.replies posts answers = (answers, [])
  | [], [], _ => rfl
  | _ :: posts, answer :: answers, h => by
    have ih : Server.scripted.replies posts answers = (answers, []) := replies_scripted (Nat.succ.inj h)
    simp only [Server.replies, Server.scripted] at ih ⊢
    rw [ih]

namespace Board

open Session

theorem planUndo_eq : ∀ (batch : List UndoAction) (s : Session),
    planUndo batch s = (batch.filterMap UndoAction.request?, s.display (batch.filterMap UndoAction.complaint?))
  | [], s => by simp [planUndo, display_nil]
  | a :: batch, s => by
    unfold planUndo
    cases hb : Json.ofText a.body with
    | ok body => simp [planUndo_eq batch, UndoAction.request?, UndoAction.complaint?, hb]
    | error f => simp [planUndo_eq batch, UndoAction.request?, UndoAction.complaint?, hb, display_display]

theorem receiveUndo_eq (a : UndoAction) (answer : Except Refusal String) (s : Session) :
    receiveUndo a answer s = (s.display (a.shown answer)).enqueue ((a.released answer).map .send) := by
  cases answer with
  | error refusal => simp [receiveUndo, UndoAction.shown, UndoAction.released, report, enqueue]
  | ok text =>
    simp only [receiveUndo, display_display]
    rfl

theorem foldl_receiveUndo_eq : ∀ (replied : List (UndoAction × Except Refusal String)) (s : Session),
    replied.foldl (fun s (a, answer) => receiveUndo a answer s) s =
      (s.display (replied.flatMap fun (a, answer) => a.shown answer)).enqueue
        ((replied.flatMap fun (a, answer) => a.released answer).map .send)
  | [], s => by simp [display_nil, enqueue]
  | (a, answer) :: replied, s => by
    show replied.foldl (fun s (a, answer) => receiveUndo a answer s) (receiveUndo a answer s) = _
    rw [receiveUndo_eq, foldl_receiveUndo_eq replied]
    simp [display, Screen.display, enqueue, List.append_assoc]

variable {σ : Type} (server : Server σ)

theorem postAll_eq : ∀ (requests : List (UndoAction × Json)) (b : Board σ),
    postAll server requests b =
      let replies := server.replies (requests.map fun (a, body) => (a.uri, body)) b.server
      ((requests.map Prod.fst).zip replies.1,
        ⟨b.session.note (requests.map fun (a, body) => .posted a.uri body), replies.2⟩)
  | [], b => by simp [postAll, Server.replies, note]
  | (a, body) :: requests, b => by
    simp only [postAll, post, postAll_eq requests, note_note]
    rfl

theorem undoNewest_of_empty {b : Board σ} (h : b.session.undo.batches = []) :
    b.undoNewest server = b.onSession withdrawUndo := by
  unfold undoNewest UndoStack.pop?
  rw [h]

theorem undoNewest_of_batch {b : Board σ} {batch : List UndoAction} {older : List (List UndoAction)}
    (h : b.session.undo.batches = batch :: older) :
    let requests := batch.filterMap UndoAction.request?
    let replies := server.replies (requests.map fun (a, body) => (a.uri, body)) b.server
    let replied := (requests.map Prod.fst).zip replies.1
    b.undoNewest server =
      ⟨withdrawUndo { b.session with
          undo := { b.session.undo with batches := older }
          screen := { b.session.screen with
            messages := batch.filterMap UndoAction.complaint? ++ replied.flatMap fun (a, answer) => a.shown answer }
          queue := b.session.queue ++ (replied.flatMap fun (a, answer) => a.released answer).map .send
          log := b.session.log ++ requests.map fun (a, body) => .posted a.uri body },
        replies.2⟩ := by
  intro requests replies replied
  have hpop : b.session.undo.pop? = some (batch, { b.session.undo with batches := older }) := by
    unfold UndoStack.pop?
    rw [h]
  unfold undoNewest
  simp only [hpop, planUndo_eq, postAll_eq, onSession, foldl_receiveUndo_eq]
  rfl

/-- Undo takes the newest batch from the stack and posts its actions one after the other, but for those whose body
is not JSON. What is left on the screen are the complaints about these and then what the answers bring, in the order
of the batch; the events of the actions that succeeded are to be sent. All else stays as it was. -/
theorem newest_batch_replayed (b : Board σ) {batch : List UndoAction} {older : List (List UndoAction)}
    (h : b.session.undo.batches = batch :: older) :
    let requests := batch.filterMap UndoAction.request?
    let replies := server.replies (requests.map fun (a, body) => (a.uri, body)) b.server
    let replied := (requests.map Prod.fst).zip replies.1
    replies.1.length = requests.length ∧
    b.apply server .undo =
      ⟨{ b.session with
          undo := { b.session.undo with batches := older }
          screen := { b.session.screen with
            messages := batch.filterMap UndoAction.complaint? ++ replied.flatMap fun (a, answer) => a.shown answer
            undoEnabled := if older = [] then false else b.session.screen.undoEnabled }
          queue := b.session.queue ++ (replied.flatMap fun (a, answer) => a.released answer).map .send
          log := b.session.log ++ requests.map fun (a, body) => .posted a.uri body },
        replies.2⟩ := by
  intro requests replies replied
  have hundo := undoNewest_of_batch server h
  refine ⟨?_, ?_⟩
  · rw [Server.length_replies, List.length_map]
  · show b.undoNewest server = _
    rw [hundo]
    cases older with
    | nil => rfl
    | cons next older => rfl

/-- Of three actions one cannot be posted, one is refused and one succeeds. -/
theorem mixed_batch_replayed :
    let wrong : UndoAction := ⟨"order", "/wrong", none, [⟨"WRONG", .empty⟩]⟩
    let late : UndoAction := ⟨"1", "/late", none, [⟨"LATE", .empty⟩]⟩
    let good : UndoAction := ⟨"&quot;M1&quot;", "/good", some "Reversed", [⟨"REVERSED", .empty⟩]⟩
    let refusal := Refusal.status "/late" 503 "Busy"
    let answers : List (Except Refusal String) := [.error refusal, .ok "\x7b\"warn\":\"Slow\"\x7d"]
    let b : Board _ := ⟨{ Session.new .default .builtin with undo := ⟨[[wrong, late, good]], 8⟩ }, answers⟩
    let after := (b.apply Server.scripted .undo).session
    b.session.undo.batches = [[wrong, late, good]] ∧ after.undo.batches = [] ∧
      after.log = [.posted "/late" (.nat 1), .posted "/good" (.str "M1")] ∧
      after.queue = [.send ⟨"REVERSED", .empty⟩] ∧
      after.screen.messages =
        [⟨.error, "Invalid undo request for /wrong: expected value at line 1 column 1"⟩,
          (Failure.refused refusal).message, ⟨.warn, "Slow"⟩, ⟨.info, "Reversed"⟩] := by
  intro wrong late good refusal answers b after
  have hbatch : b.session.undo.batches = [[wrong, late, good]] := rfl
  have hrequests : [wrong, late, good].filterMap UndoAction.request? = [(late, .nat 1), (good, .str "M1")] := by
    cbv
  have hcomplaints : [wrong, late, good].filterMap UndoAction.complaint? =
      [⟨.error, "Invalid undo request for /wrong: expected value at line 1 column 1"⟩] := by
    decide +kernel
  have hshown : good.shown (.ok "\x7b\"warn\":\"Slow\"\x7d") = [⟨.warn, "Slow"⟩, ⟨.info, "Reversed"⟩] := by
    cbv
  obtain ⟨-, hundo⟩ := newest_batch_replayed Server.scripted b hbatch
  rw [hrequests, hcomplaints, @Server.replies_scripted _ answers rfl] at hundo
  have hafter : after = (b.apply Server.scripted .undo).session := rfl
  rw [hundo] at hafter
  refine ⟨hbatch, ?_, ?_, ?_, ?_⟩ <;> rw [hafter]
  · rfl
  · rfl
  · show _ ++ ([(Failure.refused refusal).message] ++ (good.shown _ ++ [])) = _
    rw [hshown]
    rfl

end Board

end Dashboard
