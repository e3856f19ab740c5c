import MigrationPreview.Catalog.Session

/-!
# Conversations with a database server

A conversation is a list of queries with the replies to them. A server holds up a conversation if these
replies are the next ones that it gives, whatever has happened before.

A call is described by a conversation and an outcome: on every server that holds up the conversation it
sends these queries, uses up these replies, comes to this outcome and does nothing else. Such a
description says at once that nothing but the replies matters. The rules follow the way in which calls
are put together.

## Main definitions

* `Turn`: a query with the reply to it
* `HeldUp`: the replies of a conversation are the next ones of a server
* `Server.after`: the server that a conversation leaves behind
* `Server.Accepts`, `Server.opened`: a server lets a call have a connection, and the server that has it
* `Session.Leads`: a call leads a conversation and comes to an outcome
* `Session.Converses`: whatever the replies are, a call leads a conversation

## Main results

* `Session.Leads.bind`, `Session.Leads.bind_error`, `Session.leads_send_result`,
  `Session.leads_send_complaint`: the rules
* `Session.Converses.bind`, `Session.Converses.mapM`: a call converses if its parts do
* `Session.Converses.fst_run_connect_bind_eq`: a call cannot tell servers with the same replies apart
-/

namespace MigrationPreview

variable {α β : Type}

/-! ### Conversations -/

/-- A query with the reply to it. -/
structure Turn where
  query : Query
  reply : Reply

/-- The wording of a reply that is not a result set. -/
def Reply.complaint? : Reply → Option String
  | .result _ => none
  | .failed => some "db error"
  | .closed => some "connection closed"

/-- The replies of a conversation are the next ones of a server that still has the replies `replies`. A
query behind the last of them fails. -/
def HeldUp : List Reply → List Turn → Prop
  | _, [] => True
  | replies, turn :: turns => turn.reply = replies.headD .failed ∧ HeldUp replies.tail turns

theorem heldUp_append {replies : List Reply} {turns turns' : List Turn} :
    HeldUp replies (turns ++ turns') ↔
      HeldUp replies turns ∧ HeldUp (replies.drop turns.length) turns' := by
  induction turns generalizing replies with
  | nil => simp [HeldUp]
  | cons turn turns ih => simp [HeldUp, ih, and_assoc]

theorem heldUp_map_append (turns : List Turn) (rest : List Reply) :
    HeldUp (turns.map (·.reply) ++ rest) turns := by
  induction turns with
  | nil => trivial
  | cons turn turns ih => exact ⟨rfl, ih⟩

namespace Server

/-- The server behind one turn. The connection is lost if the server closes it. -/
def step (server : Server) (turn : Turn) : Server :=
  { server with
    replies := server.replies.tail
    connected := server.connected && turn.reply ≠ .closed
    sent := turn.query :: server.sent }

/-- The server behind a conversation. -/
def after (server : Server) (turns : List Turn) : Server := turns.foldl step server

variable (server : Server) (turns turns' : List Turn)

theorem after_append : server.after (turns ++ turns') = (server.after turns).after turns' :=
  List.foldl_append

@[simp]
theorem replies_after : (server.after turns).replies = server.replies.drop turns.length := by
  induction turns generalizing server with
  | nil => rfl
  | cons turn turns ih =>
    refine (ih (server.step turn)).trans ?_
    simp [step]

@[simp]
theorem sent_after :
    (server.after turns).sent = (turns.map (·.query)).reverse ++ server.sent := by
  induction turns generalizing server with
  | nil => rfl
  | cons turn turns ih =>
    refine (ih (server.step turn)).trans ?_
    simp [step]

/-- A server lets a call have a connection: the one that is open, or a new one. -/
def Accepts : Prop := server.connected = true ∨ server.refusals = 0

instance : Decidable server.Accepts := inferInstanceAs (Decidable (_ ∨ _))

/-- The server once a connection is open. -/
def opened : Server :=
  if server.connected then server
  else { server with connected := true, attempts := server.attempts + 1 }

@[simp]
theorem replies_opened : server.opened.replies = server.replies := by
  unfold opened
  split <;> rfl

@[simp]
theorem sent_opened : server.opened.sent = server.sent := by
  unfold opened
  split <;> rfl

variable {server} in
theorem Accepts.run_connect (h : server.Accepts) :
    Session.connect.run.run server = (.ok (), server.opened) := by
  obtain ⟨replies, refusals, connected, attempts, sent⟩ := server
  cases connected with
  | true => rfl
  | false =>
    obtain rfl : refusals = 0 := by simpa [Accepts] using h
    rfl

end Server

/-! ### Leading a conversation -/

namespace Session

/-- On every server that holds up a conversation, a call leads it and comes to an outcome. -/
def Leads (call : Session α) (turns : List Turn) (outcome : Except Stop α) : Prop :=
  ∀ server : Server, HeldUp server.replies turns →
    call.run.run server = (outcome, server.after turns)

namespace Leads

variable {call : Session α} {next : α → Session β} {turns turns' : List Turn}
  {outcome : Except Stop β} {a : α} {stop : Stop}

theorem pure (a : α) : (Pure.pure a : Session α).Leads [] (.ok a) := fun _ _ => rfl

theorem throw (stop : Stop) : (MonadExcept.throw stop : Session α).Leads [] (.error stop) :=
  fun _ _ => rfl

/-- What follows a call that succeeds carries the conversation on. -/
theorem bind (h : call.Leads turns (.ok a)) (h' : (next a).Leads turns' outcome) :
    (call >>= next).Leads (turns ++ turns') outcome := by
  intro server hreplies
  obtain ⟨hfirst, hrest⟩ := heldUp_append.mp hreplies
  rw [ExceptT.run_bind, StateT.run_bind, h server hfirst, Server.after_append]
  exact h' (server.after turns) (by rwa [Server.replies_after])

/-- Nothing follows a call that stops. -/
theorem bind_error (h : call.Leads turns (.error stop)) :
    (call >>= next).Leads turns (.error stop) := by
  intro server hreplies
  rw [ExceptT.run_bind, StateT.run_bind, h server hreplies]
  rfl

theorem map {f : α → β} {outcome : Except Stop α} (h : call.Leads turns outcome) :
    (call >>= fun a => Pure.pure (f a)).Leads turns (outcome.map f) := by
  cases outcome with
  | error stop => exact h.bind_error
  | ok a =>
    have hmapped : (call >>= fun a => Pure.pure (f a)).Leads (turns ++ []) (.ok (f a)) :=
      h.bind (.pure (f a))
    rwa [List.append_nil] at hmapped

/-- A call that begins with a connection. -/
theorem run_connect_bind {server : Server} {outcome : Except Stop α} (h : call.Leads turns outcome)
    (haccepts : server.Accepts) (hreplies : HeldUp server.replies turns) :
    (connect >>= fun _ => call).run.run server = (outcome, server.opened.after turns) := by
  rw [ExceptT.run_bind, StateT.run_bind, haccepts.run_connect]
  exact h server.opened (by rwa [Server.replies_opened])

end Leads

section Send

variable (query : Query) (failure : String → Failure)

theorem leads_send_result (set : ResultSet) :
    (send query failure).Leads [⟨query, .result set⟩] (.ok set) := by
  intro server hreplies
  obtain ⟨replies, refusals, connected, attempts, sent⟩ := server
  obtain ⟨hreply, -⟩ := hreplies
  cases replies with
  | nil => cases hreply
  | cons first replies =>
    obtain rfl : .result set = first := hreply
    cases connected <;> rfl

theorem leads_send_complaint {reply : Reply} {message : String}
    (h : reply.complaint? = some message) :
    (send query failure).Leads [⟨query, reply⟩] (.error (.failure (failure message))) := by
  intro server hreplies
  obtain ⟨replies, refusals, connected, attempts, sent⟩ := server
  obtain ⟨hreply, -⟩ := hreplies
  -- a server without replies does the same as one whose next reply is a failure
  cases replies with
  | nil =>
    obtain rfl : reply = .failed := hreply
    obtain rfl := Option.some.inj h
    cases connected <;> rfl
  | cons first replies =>
    obtain rfl : reply = first := hreply
    cases reply with
    | result set => cases h
    | failed | closed =>
      obtain rfl := Option.some.inj h
      cases connected <;> rfl

end Send

/-- A call that sends one query and makes what it makes of the result set. -/
theorem Leads.of_result {query : Query} {failure : String → Failure} {set : ResultSet}
    {next : ResultSet → Session β} {outcome : Except Stop β} (h : (next set).Leads [] outcome) :
    (send query failure >>= next).Leads [⟨query, .result set⟩] outcome :=
  (leads_send_result query failure set).bind h

/-! ### Calls that converse -/

/-- Whatever the replies of the server are, a call leads a conversation with it. -/
def Converses (call : Session α) : Prop :=
  ∀ replies, ∃ turns outcome, HeldUp replies turns ∧ call.Leads turns outcome

namespace Converses

variable {call : Session α} {next : α → Session β}

theorem pure (a : α) : (Pure.pure a : Session α).Converses := fun _ =>
  ⟨[], _, trivial, .pure a⟩

theorem fail (cause : Failure) : (Session.fail cause : Session α).Converses := fun _ =>
  ⟨[], _, trivial, .throw (.failure cause)⟩

theorem decoded (column : String) (value? : Option α) :
    (Session.decoded column value?).Converses := by
  intro replies
  cases value? with
  | none => exact ⟨[], _, trivial, .throw (.undecodable column)⟩
  | some value => exact ⟨[], _, trivial, .pure value⟩

theorem send (query : Query) (failure : String → Failure) :
    (Session.send query failure).Converses := by
  intro replies
  generalize hreply : replies.headD .failed = reply
  have hheld : HeldUp replies [⟨query, reply⟩] := ⟨hreply.symm, trivial⟩
  cases reply with
  | result set => exact ⟨_, _, hheld, leads_send_result query failure set⟩
  | failed | closed => exact ⟨_, _, hheld, leads_send_complaint query failure rfl⟩

theorem bind (h : call.Converses) (h' : ∀ a, (next a).Converses) :
    (call >>= next).Converses := by
  intro replies
  obtain ⟨turns, outcome, hturns, hcall⟩ := h replies
  cases outcome with
  | error stop => exact ⟨turns, .error stop, hturns, hcall.bind_error⟩
  | ok a =>
    obtain ⟨turns', outcome', hturns', hnext⟩ := h' a (replies.drop turns.length)
    exact ⟨turns ++ turns', outcome', heldUp_append.mpr ⟨hturns, hturns'⟩, hcall.bind hnext⟩

theorem mapM {f : α → Session β} (h : ∀ a, (f a).Converses) (as : List α) :
    (as.mapM f).Converses := by
  induction as with
  | nil => exact .pure []
  | cons a as ih =>
    rw [List.mapM_cons]
    exact (h a).bind fun b => ih.bind fun bs => .pure (b :: bs)

/-- A call cannot tell servers apart that have the same replies and let it have a connection. -/
theorem fst_run_connect_bind_eq (h : call.Converses) {server server' : Server}
    (haccepts : server.Accepts) (haccepts' : server'.Accepts)
    (hreplies : server.replies = server'.replies) :
    ((connect >>= fun _ => call).run.run server).1 =
      ((connect >>= fun _ => call).run.run server').1 := by
  obtain ⟨turns, outcome, hturns, hcall⟩ := h server.replies
  rw [hcall.run_connect_bind haccepts hturns,
    hcall.run_connect_bind haccepts' (hreplies ▸ hturns)]

end Converses

end Session

end MigrationPreview
