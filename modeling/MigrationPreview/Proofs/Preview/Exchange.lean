import MigrationPreview.Schema.Provider

/-!
# Recorded calls of a provider

A provider may answer one question differently each time and may fail at any call. Here it is given by
its replies, each of which may depend on all calls before it, and its calls are recorded with the replies
to them. Nothing else is known of it, so what is proved of its calls holds of every provider.

An analysis is described by what it adds to the record: it conducts some calls and comes to an outcome.
The rules follow the way in which analyses are put together.

## Main definitions

* `Exchange`: a call with the reply to it
* `Responder`: a provider, given by its replies
* `Responder.provider`, `Recorded.record`: calls are recorded, and the record of an analysis
* `Responder.Conducts`: the calls that an analysis makes behind others, and its outcome
* `StopsAtFailure`: an analysis ends with its first call that fails

## Main results

* `Responder.Conducts.ask`, `Responder.Conducts.bind`, `Responder.Conducts.bind_error`: the rules
* `StopsAtFailure.exists_ok`: an analysis succeeds if no call fails
-/

namespace MigrationPreview

variable {ε α β : Type}

/-! ### Providers -/

/-- A call of a provider: a question, with the answer or the failure. -/
structure Exchange (ε : Type) where
  question : Question
  reply : Except ε question.Answer

/-- A call did not fail. -/
def Exchange.Answered (call : Exchange ε) : Prop := ∃ answer, call.reply = .ok answer

theorem Exchange.forall_answered (question : Question) (answer : question.Answer) :
    ∀ call ∈ [(⟨question, .ok answer⟩ : Exchange ε)], call.Answered := by
  intro call hcall
  obtain rfl := List.mem_singleton.mp hcall
  exact ⟨answer, rfl⟩

/-- A provider by its replies, which may depend on all calls before. -/
abbrev Responder (ε : Type) := List (Exchange ε) → (q : Question) → Except ε q.Answer

/-- Analyses whose calls are recorded. The first failure ends an analysis and leaves the record. -/
abbrev Recorded (ε : Type) := ExceptT ε (StateM (List (Exchange ε)))

namespace Responder

/-- The provider that gives the replies and records its calls. -/
def provider (responder : Responder ε) : Provider (Recorded ε) := fun question =>
  ExceptT.mk fun calls =>
    (responder calls question, calls ++ [⟨question, responder calls question⟩])

end Responder

/-- The outcome of an analysis and the calls that it makes. -/
def Recorded.record (analysis : Recorded ε α) : Except ε α × List (Exchange ε) :=
  analysis.run.run []

namespace Responder

variable {responder : Responder ε} {earlier calls calls' : List (Exchange ε)}

/-! ### Conducting calls -/

/-- The calls behind `earlier` have the replies of the provider. -/
def Faithful (responder : Responder ε) : List (Exchange ε) → List (Exchange ε) → Prop
  | _, [] => True
  | earlier, call :: calls =>
    call.reply = responder earlier call.question ∧ responder.Faithful (earlier ++ [call]) calls

theorem faithful_append (h : responder.Faithful earlier calls)
    (h' : responder.Faithful (earlier ++ calls) calls') :
    responder.Faithful earlier (calls ++ calls') := by
  induction calls generalizing earlier with
  | nil => simpa using h'
  | cons call calls ih =>
    refine ⟨h.1, ih h.2 ?_⟩
    rwa [List.append_assoc, List.singleton_append]

/-- If the provider never fails, no call does. -/
theorem Faithful.answered (h : responder.Faithful earlier calls)
    (hanswers : ∀ earlier question, ∃ answer, responder earlier question = .ok answer) :
    ∀ call ∈ calls, call.Answered := by
  induction calls generalizing earlier with
  | nil => exact List.forall_mem_nil _
  | cons call calls ih =>
    refine List.forall_mem_cons.mpr ⟨?_, ih h.2⟩
    obtain ⟨answer, hanswer⟩ := hanswers earlier call.question
    exact ⟨answer, h.1.trans hanswer⟩

/-- Behind the calls `earlier` an analysis makes the calls `calls`, to which the provider replies, and
comes to an outcome. -/
structure Conducts (responder : Responder ε) (analysis : Recorded ε α)
    (earlier calls : List (Exchange ε)) (outcome : Except ε α) : Prop where
  run : analysis.run.run earlier = (outcome, earlier ++ calls)
  faithful : responder.Faithful earlier calls

namespace Conducts

variable {analysis : Recorded ε α} {next : α → Recorded ε β} {outcome : Except ε β} {a : α} {e : ε}

theorem pure (a : α) : responder.Conducts (Pure.pure a) earlier [] (.ok a) where
  run := by
    rw [List.append_nil]
    rfl
  faithful := trivial

theorem ask {question : Question} {reply : Except ε question.Answer}
    (h : responder earlier question = reply) :
    responder.Conducts (responder.provider question) earlier [⟨question, reply⟩] reply where
  run := by
    subst h
    rfl
  faithful := ⟨h.symm, trivial⟩

/-- What follows an analysis that succeeds adds its calls. -/
theorem bind (h : responder.Conducts analysis earlier calls (.ok a))
    (h' : responder.Conducts (next a) (earlier ++ calls) calls' outcome) :
    responder.Conducts (analysis >>= next) earlier (calls ++ calls') outcome where
  run := by
    rw [ExceptT.run_bind, StateT.run_bind, h.run, ← List.append_assoc]
    exact h'.run
  faithful := faithful_append h.faithful h'.faithful

/-- Nothing follows an analysis that fails. -/
theorem bind_error (h : responder.Conducts analysis earlier calls (.error e)) :
    responder.Conducts (analysis >>= next) earlier calls (.error e) where
  run := by
    rw [ExceptT.run_bind, StateT.run_bind, h.run]
    rfl
  faithful := h.faithful

theorem map {f : α → β} {outcome : Except ε α}
    (h : responder.Conducts analysis earlier calls outcome) :
    responder.Conducts (analysis >>= fun a => Pure.pure (f a)) earlier calls (outcome.map f) := by
  cases outcome with
  | error e => exact h.bind_error
  | ok a =>
    have hmapped : responder.Conducts (analysis >>= fun a => Pure.pure (f a)) earlier (calls ++ [])
        (.ok (f a)) := h.bind (.pure (f a))
    rwa [List.append_nil] at hmapped

theorem record_eq {outcome : Except ε α} (h : responder.Conducts analysis [] calls outcome) :
    analysis.record = (outcome, calls) := by
  have hrun := h.run
  rw [List.nil_append] at hrun
  exact hrun

end Conducts

end Responder

/-! ### Failures -/

/-- An analysis ends with its first call that fails, and fails as this call did. If no call fails it
succeeds. -/
inductive StopsAtFailure : List (Exchange ε) → Except ε α → Prop where
  | succeeded {calls : List (Exchange ε)} {a : α} (h : ∀ call ∈ calls, call.Answered) :
      StopsAtFailure calls (.ok a)
  | failed {calls : List (Exchange ε)} {question : Question} {e : ε}
      (h : ∀ call ∈ calls, call.Answered) :
      StopsAtFailure (calls ++ [⟨question, .error e⟩]) (.error e)

namespace StopsAtFailure

variable {calls calls' : List (Exchange ε)} {outcome : Except ε α}

theorem exists_ok (h : StopsAtFailure calls outcome) (hanswered : ∀ call ∈ calls, call.Answered) :
    ∃ a, outcome = .ok a := by
  cases h with
  | succeeded => exact ⟨_, rfl⟩
  | failed =>
    obtain ⟨answer, hanswer⟩ := hanswered _ List.mem_concat_self
    cases hanswer

theorem reply_eq {call : Exchange ε} {e : ε}
    (h : StopsAtFailure [call] (.error e : Except ε α)) : call.reply = .error e := by
  generalize hcalls : [call] = calls at h
  cases h with
  | failed =>
    have hlists : [] ++ [call] = _ ++ [_] := hcalls
    obtain rfl := List.singleton_inj.mp (List.append_inj' hlists rfl).2
    rfl

theorem append (h : ∀ call ∈ calls, call.Answered) (h' : StopsAtFailure calls' outcome) :
    StopsAtFailure (calls ++ calls') outcome := by
  cases h' with
  | succeeded h' =>
    refine .succeeded fun call hcall => ?_
    exact (List.mem_append.mp hcall).elim (h call) (h' call)
  | failed h' =>
    rw [← List.append_assoc]
    refine .failed fun call hcall => ?_
    exact (List.mem_append.mp hcall).elim (h call) (h' call)

theorem map_iff (f : α → β) :
    StopsAtFailure calls (outcome.map f) ↔ StopsAtFailure calls outcome := by
  cases outcome with
  | error e =>
    constructor <;>
    · intro h
      cases h with
      | failed h => exact .failed h
  | ok a =>
    constructor <;>
    · intro h
      cases h with
      | succeeded h => exact .succeeded h

end StopsAtFailure

end MigrationPreview
