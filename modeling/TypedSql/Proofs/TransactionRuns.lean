import TypedSql.Proofs.TransactionSteps
/-!
# Runs of a transaction

A transaction from its creation until it is given up, over any operations and on any backend, so
that every call can fail at any time. The steps of a run are linked by the states between them.
What is promised of a whole run follows from the links alone.

## Main definitions

- `Step`: a step of a run, with its calls.
- `Transaction.lifetime`: the steps of a run and the calls with which the transaction is given up.
- `Transaction.Linked`: steps that follow from each other.
- `Attempt`, `Conversation`: a failed attempt to begin, and what goes over the connection after a
  begin that succeeds.
- `Transaction.IsSafe`: what is promised of a run.

## Main statements

- `Transaction.linked_history`: the steps of a run are linked.
- `Transaction.Linked.of_completed`, `Transaction.Linked.of_bound`, `Transaction.Linked.of_unbound`:
  the calls of linked steps, by the state that they start from.
- `Transaction.lifetime_isSafe`: every run keeps what is promised.
-/

namespace TypedSql

open Session (Triple)

variable {σ κ : Type}

/-- The calls that were made after an earlier time of the session. -/
def Session.callsSince (earlier later : Session σ) : List (Nat × Call) :=
  later.calls.drop earlier.calls.length

theorem Session.callsSince_eq {earlier later : Session σ} {calls : List (Nat × Call)}
    (h : later.calls = earlier.calls ++ calls) : earlier.callsSince later = calls := by
  rw [callsSince, h, List.drop_left]

/-- A step of a run. -/
structure Step (κ : Type) where
  operation : Operation
  before : TransactionState κ
  calls : List (Nat × Call)
  result : Except ExecError (Option Outcome)
  after : TransactionState κ

namespace Operation

/-- The request of a use whose slots have values. -/
def request? : Operation → Option Request
  | use u => u.request.toOption
  | finish _ _ => none

/-- What a use asks for is a statement, for its rows or not. -/
theorem request?_isStatement {operation : Operation} {request : Request}
    (h : operation.request? = some request) :
    ∃ command, request = .reader command ∨ request = .nonQuery command := by
  cases operation with
  | finish ending calling => cases h
  | use u =>
    cases hcommand : u.statement.command u.database u.defaultMode u.options u.slots? with
    | error e =>
      rw [request?, Use.request, hcommand] at h
      cases h
    | ok command =>
      rw [request?, Use.request, hcommand] at h
      obtain rfl : u.statement.built.request command = request := Option.some.inj h
      cases u.statement.built with
      | query q => exact ⟨command, .inl rfl⟩
      | command c => exact ⟨command, .inr rfl⟩

/-- Whether the operation brings the transaction to its end. -/
def IsFinish : Operation → Prop
  | use _ => False
  | finish _ _ => True

/-- Whether there is a value for each slot, if the operation is a use. -/
def Resolves : Operation → Prop
  | use u => ∃ request, u.request = .ok request
  | finish _ _ => True

end Operation

/-- An attempt to begin that fails, with the number of the database: there is no connection, or
nothing begins on it. -/
inductive Attempt where
  | refused (database : Nat)
  | notBegun (database number : Nat)

/-- The calls of the attempt. -/
def Attempt.calls (isolation : IsolationLevel) : Attempt → List (Nat × Call)
  | refused database => [(database, .refused)]
  | notBegun database number =>
    [(database, .opened number), (database, .sent number (.begin isolation) false),
      (database, .released number)]

/-- What goes over a connection once the transaction has begun on it: commands, with whether each
succeeds, and at most one ending. -/
structure Conversation where
  commands : List (Request × Bool)
  ending? : Option (Ending × Bool)

/-- The calls of the conversation on a connection, which is released after it. -/
def Conversation.calls (database number : Nat) (c : Conversation) : List (Nat × Call) :=
  c.commands.map (fun command => (database, .sent number command.1 command.2)) ++
    (c.ending?.toList.map fun ending => (database, .sent number ending.1.request ending.2)) ++
      [(database, .released number)]

namespace Call

/-- Whether the call begins a transaction. -/
def isBegun : Call → Bool
  | sent _ (.begin _) succeeded => succeeded
  | _ => false

/-- Whether the call is to end a transaction, successful or not. -/
def isEnding : Call → Bool
  | sent _ .commit _ => true
  | sent _ .rollback _ => true
  | _ => false

end Call

section Counting

variable (isolation : IsolationLevel)

/-- Calls that neither begin nor end anything count for nothing. -/
theorem countP_eq_zero {all : List (Nat × Call)}
    (h : ∀ call ∈ all, call.2.isBegun = false ∧ call.2.isEnding = false) :
    all.countP (·.2.isBegun) = 0 ∧ all.countP (·.2.isEnding) = 0 := by
  rw [List.countP_eq_zero, List.countP_eq_zero]
  exact ⟨fun call hcall => by simp [(h call hcall).1], fun call hcall => by simp [(h call hcall).2]⟩

theorem Attempt.not_begun_or_ending (attempt : Attempt) :
    ∀ call ∈ attempt.calls isolation, call.2.isBegun = false ∧ call.2.isEnding = false := by
  cases attempt with
  | refused database => simp [calls, Call.isBegun, Call.isEnding]
  | notBegun database number => simp [calls, Call.isBegun, Call.isEnding]

/-- A conversation begins nothing and ends at most once. -/
theorem Conversation.countP_calls (database number : Nat) {c : Conversation}
    (h : ∀ command ∈ c.commands,
      ∃ statement, command.1 = .reader statement ∨ command.1 = .nonQuery statement) :
    (c.calls database number).countP (·.2.isBegun) = 0 ∧
      (c.calls database number).countP (·.2.isEnding) ≤ 1 := by
  obtain ⟨commands, ending?⟩ := c
  have hcommands : ∀ call ∈ commands.map (fun command =>
      (database, Call.sent number command.1 command.2)),
      call.2.isBegun = false ∧ call.2.isEnding = false := by
    intro call hcall
    obtain ⟨⟨request, succeeded⟩, hmem, rfl⟩ := List.mem_map.1 hcall
    obtain ⟨statement, hstatement⟩ := h _ hmem
    obtain rfl | rfl : request = .reader statement ∨ request = .nonQuery statement := hstatement
    · exact ⟨rfl, rfl⟩
    · exact ⟨rfl, rfl⟩
  obtain ⟨hbegun, hended⟩ := countP_eq_zero hcommands
  simp only [calls, List.countP_append]
  rw [hbegun, hended]
  cases ending? with
  | none => exact ⟨rfl, Nat.zero_le 1⟩
  | some ending =>
    obtain ⟨ending, succeeded⟩ := ending
    cases ending with
    | commit => exact ⟨rfl, Nat.le_refl 1⟩
    | rollback => exact ⟨rfl, Nat.le_refl 1⟩

end Counting

namespace Transaction

/-- Performs operations one after the other. -/
def history (b : Backend σ κ) : List Operation → Transaction κ → Session σ →
    List (Step κ) × Transaction κ × Session σ
  | [], t, s => ([], t, s)
  | operation :: operations, t, s =>
    let ((result, t'), s') := (operation.perform b t).run s
    let (steps, last) := history b operations t' s'
    (⟨operation, t.state, s.callsSince s', result, t'.state⟩ :: steps, last)

/-- A transaction from its creation on: the steps, and the calls with which it is given up at the
end. -/
def lifetime (b : Backend σ κ) (isolation : IsolationLevel) (operations : List Operation)
    (s : Session σ) : List (Step κ) × List (Nat × Call) :=
  let (steps, t, s') := history b operations { isolation } s
  (steps, s'.callsSince ((t.discard b).run s').2)

/-- Steps that follow from each other, between a first and a last state. -/
def Linked (isolation : IsolationLevel) :
    TransactionState κ → List (Step κ) → TransactionState κ → Prop
  | state, [], last => last = state
  | state, step :: steps, last =>
    step.before = state ∧
    Proceeds isolation step.operation step.before step.calls step.result step.after ∧
    Linked isolation step.after steps last

/-- The calls are attempts to begin that fail; and if one succeeds, then all after it go over its
connection, the commands in the order of the requests. -/
def OneConnection (isolation : IsolationLevel) (requests : List Request)
    (calls : List (Nat × Call)) : Prop :=
  ∃ (attempts : List Attempt) (begun : List (Nat × Call)),
    calls = attempts.flatMap (Attempt.calls isolation) ++ begun ∧
    (begun = [] ∨ ∃ (database number : Nat) (c : Conversation),
      begun = [(database, .opened number), (database, .sent number (.begin isolation) true)] ++
        c.calls database number ∧
      (c.commands.map Prod.fst).Sublist requests)

/-- The calls with which a transaction in a state is given up. -/
def givenUp : TransactionState κ → List (Nat × Call)
  | .bound _ h => [(h.database, .released h.number)]
  | _ => []

theorem triple_discard (b : Backend σ κ) (t : Transaction κ) (base : List (Nat × Call)) :
    Triple (fun s : Session σ => s.calls = base) (t.discard b) fun _ s =>
      s.calls = base ++ givenUp t.state := by
  obtain ⟨isolation, state⟩ := t
  cases state with
  | bound bound h =>
    exact (triple_log_calls base (.transactionDiscarded bound.name)).bind fun _ =>
      triple_release_calls b base h
  | unbound => exact Triple.pure fun s hs => by simpa [givenUp] using hs
  | completed => exact Triple.pure fun s hs => by simpa [givenUp] using hs

theorem linked_history (b : Backend σ κ) (operations : List Operation) (t : Transaction κ)
    (s : Session σ) :
    let (steps, last, _) := history b operations t s
    steps.map Step.operation = operations ∧ Linked t.isolation t.state steps last.state := by
  induction operations generalizing t s with
  | nil => exact ⟨rfl, rfl⟩
  | cons operation operations ih =>
    have hstep := operation.triple_perform b t s.calls s rfl
    simp only [history]
    generalize (operation.perform b t).run s = r at hstep ⊢
    obtain ⟨⟨result, t'⟩, s'⟩ := r
    obtain ⟨calls, state, hcalls, ht, hproceeds⟩ := hstep
    obtain rfl : t' = { t with state } := ht
    obtain ⟨hoperations, hlinked⟩ := ih { t with state } s'
    refine ⟨congrArg (operation :: ·) hoperations, rfl, ?_, hlinked⟩
    rw [Session.callsSince_eq hcalls]
    exact hproceeds

namespace Linked

variable {isolation : IsolationLevel} {state last : TransactionState κ} {steps : List (Step κ)}

theorem proceeds_of_mem (h : Linked isolation state steps last) {step : Step κ}
    (hstep : step ∈ steps) :
    Proceeds isolation step.operation step.before step.calls step.result step.after := by
  induction steps generalizing state with
  | nil => cases hstep
  | cons first steps ih =>
    obtain ⟨-, hproceeds, hrest⟩ := h
    cases hstep with
    | head => exact hproceeds
    | tail _ hmem => exact ih hrest hmem

theorem of_append {earlier later : List (Step κ)}
    (h : Linked isolation state (earlier ++ later) last) :
    ∃ middle, Linked isolation middle later last := by
  induction earlier generalizing state with
  | nil => exact ⟨state, h⟩
  | cons step earlier ih => exact ih h.2.2

/-- After its end nothing is done on behalf of the transaction. -/
theorem of_completed (h : Linked isolation .completed steps last) :
    last = .completed ∧ ∀ step ∈ steps, step.calls = [] ∧
      (step.operation.Resolves → step.result = .error .transactionCompleted) := by
  induction steps with
  | nil => exact ⟨h, by simp⟩
  | cons step steps ih =>
    obtain ⟨operation, before, calls, result, after⟩ := step
    obtain ⟨hbefore, hproceeds, hrest⟩ := h
    obtain rfl : before = .completed := hbefore
    rw [List.forall_mem_cons]
    cases hproceeds with
    | unresolved _ hrequest =>
      obtain ⟨hlast, hsteps⟩ := ih hrest
      refine ⟨hlast, ⟨rfl, ?_⟩, hsteps⟩
      rintro ⟨request, hrequest'⟩
      rw [hrequest] at hrequest'
      cases hrequest'
    | used hrequest hsends =>
      cases hsends with
      | completed =>
        obtain ⟨hlast, hsteps⟩ := ih hrest
        exact ⟨hlast, ⟨rfl, fun _ => rfl⟩, hsteps⟩
    | endedAgain =>
      obtain ⟨hlast, hsteps⟩ := ih hrest
      exact ⟨hlast, ⟨rfl, fun _ => rfl⟩, hsteps⟩

theorem calls_of_completed (h : Linked isolation .completed steps last) :
    steps.flatMap Step.calls ++ givenUp last = [] := by
  obtain ⟨rfl, hsteps⟩ := h.of_completed
  simpa [givenUp] using fun step hstep => (hsteps step hstep).1

/-- While the transaction is bound, all goes over its connection. -/
theorem of_bound {bound : Database} {handle : Handle κ}
    (h : Linked isolation (.bound bound handle) steps last) :
    ∃ c : Conversation, steps.flatMap Step.calls ++ givenUp last =
        c.calls handle.database handle.number ∧
      (c.commands.map Prod.fst).Sublist (steps.filterMap (·.operation.request?)) := by
  induction steps generalizing handle with
  | nil =>
    obtain rfl : last = _ := h
    exact ⟨⟨[], none⟩, rfl, by simp⟩
  | cons step steps ih =>
    obtain ⟨operation, before, calls, result, after⟩ := step
    obtain ⟨hbefore, hproceeds, hrest⟩ := h
    obtain rfl : before = .bound bound handle := hbefore
    cases hproceeds with
    | unresolved _ hrequest =>
      obtain ⟨c, hcalls, hcommands⟩ := ih hrest
      refine ⟨c, by simpa using hcalls, ?_⟩
      simpa [Operation.request?, hrequest, Except.toOption] using hcommands
    | @used u request _ _ _ answer hrequest hsends =>
      have hrequests : (Operation.use u).request? = some request := by
        simp [Operation.request?, hrequest, Except.toOption]
      cases hsends with
      | mismatched _ =>
        obtain ⟨c, hcalls, hcommands⟩ := ih hrest
        refine ⟨c, by simpa using hcalls, ?_⟩
        simpa [hrequests] using hcommands.cons request
      | sent _ connection _ =>
        obtain ⟨c, hcalls, hcommands⟩ := ih hrest
        refine ⟨⟨(request, answer.isOk) :: c.commands, c.ending?⟩, ?_, ?_⟩
        · simpa [Conversation.calls] using hcalls
        · simpa [hrequests] using hcommands.cons_cons request
    | @ended ending _ _ _ answer =>
      -- the connection is released with the end, and no step after it makes a call
      have hrest' := hrest.calls_of_completed
      refine ⟨⟨[], some (ending, answer.isOk)⟩, ?_, by simp⟩
      simpa [Conversation.calls] using hrest'

/-- Until the transaction is bound, all attempts to begin fail. -/
theorem of_unbound (h : Linked isolation .unbound steps last) :
    OneConnection isolation (steps.filterMap (·.operation.request?))
      (steps.flatMap Step.calls ++ givenUp last) := by
  induction steps with
  | nil =>
    obtain rfl : last = .unbound := h
    exact ⟨[], [], rfl, .inl rfl⟩
  | cons step steps ih =>
    obtain ⟨operation, before, calls, result, after⟩ := step
    obtain ⟨hbefore, hproceeds, hrest⟩ := h
    obtain rfl : before = .unbound := hbefore
    cases hproceeds with
    | unresolved _ hrequest =>
      obtain ⟨attempts, begun, hcalls, hbegun⟩ := ih hrest
      refine ⟨attempts, begun, by simpa using hcalls, ?_⟩
      simpa [Operation.request?, hrequest, Except.toOption] using hbegun
    | endedUnused =>
      refine ⟨[], [], ?_, .inl rfl⟩
      simpa using hrest.calls_of_completed
    | @used u request _ _ _ answer hrequest hsends =>
      have hrequests : (Operation.use u).request? = some request := by
        simp [Operation.request?, hrequest, Except.toOption]
      have hlater {requests : List Request}
          (hrequests' : requests.Sublist (steps.filterMap (·.operation.request?))) :
          requests.Sublist (request :: steps.filterMap (·.operation.request?)) :=
        hrequests'.cons request
      cases hsends with
      | refused e =>
        obtain ⟨attempts, begun, hcalls, hbegun⟩ := ih hrest
        refine ⟨.refused u.database.id :: attempts, begun, ?_, ?_⟩
        · simpa [Attempt.calls] using hcalls
        · simp only [List.filterMap_cons, hrequests]
          refine hbegun.imp_right ?_
          rintro ⟨database, number, c, hbegun, hcommands⟩
          exact ⟨database, number, c, hbegun, hlater hcommands⟩
      | notBegun n e =>
        obtain ⟨attempts, begun, hcalls, hbegun⟩ := ih hrest
        refine ⟨.notBegun u.database.id n :: attempts, begun, ?_, ?_⟩
        · simpa [Attempt.calls] using hcalls
        · simp only [List.filterMap_cons, hrequests]
          refine hbegun.imp_right ?_
          rintro ⟨database, number, c, hbegun, hcommands⟩
          exact ⟨database, number, c, hbegun, hlater hcommands⟩
      | begun n _ connection =>
        obtain ⟨c, hcalls, hcommands⟩ := hrest.of_bound
        refine ⟨[], _, ?_, .inr ⟨u.database.id, n,
          ⟨(request, answer.isOk) :: c.commands, c.ending?⟩, rfl, ?_⟩⟩
        · simpa [Conversation.calls] using hcalls
        · simpa [hrequests] using hcommands.cons_cons request

/-- What a step ends is over for all steps after it. -/
theorem after_finish {step : Step κ} {earlier later : List (Step κ)}
    (h : Linked isolation state (earlier ++ step :: later) last)
    (hfinish : step.operation.IsFinish) :
    step.after = .completed ∧ Linked isolation .completed later last := by
  obtain ⟨middle, -, hproceeds, hlater⟩ := h.of_append
  cases hoperation : step.operation with
  | use u => rw [hoperation] at hfinish; cases hfinish
  | finish ending calling =>
    have hafter := (hoperation ▸ hproceeds).completed_of_finish
    exact ⟨hafter, hafter ▸ hlater⟩

end Linked

/-- What is promised of a transaction, given the operations, the steps that they are and the calls
with which the transaction is given up at the end. -/
structure IsSafe (isolation : IsolationLevel) (operations : List Operation) (steps : List (Step κ))
    (discarded : List (Nat × Call)) : Prop where
  operations_eq : steps.map Step.operation = operations
  unbound_first : ∀ step ∈ steps.head?, step.before = .unbound
  chained : ∀ earlier step next later, steps = earlier ++ step :: next :: later →
    next.before = step.after
  /-- After attempts that fail, the transaction begins on one connection, which gets the commands in
  the order of the operations and at most one ending before it is released. -/
  one_connection : OneConnection isolation (operations.filterMap Operation.request?)
    (steps.flatMap Step.calls ++ discarded)
  begun_once : (steps.flatMap Step.calls ++ discarded).countP (·.2.isBegun) ≤ 1
  ended_once : (steps.flatMap Step.calls ++ discarded).countP (·.2.isEnding) ≤ 1
  /-- The first commit or rollback is the last that anything is done for, even if it fails. -/
  over_after_finish : ∀ earlier step later, steps = earlier ++ step :: later →
    step.operation.IsFinish → step.after = .completed ∧ discarded = [] ∧
      ∀ other ∈ later, other.calls = [] ∧
        (other.operation.Resolves → other.result = .error .transactionCompleted)
  /-- A transaction that was never used ends without a call. -/
  finish_unbound : ∀ step ∈ steps, step.operation.IsFinish → step.before = .unbound →
    step.calls = [] ∧ step.result = .ok none
  /-- An ending is sent on the connection of the transaction, which is released whatever the
  answer. -/
  finish_bound : ∀ step ∈ steps, ∀ ending calling bound h,
    step.operation = .finish ending calling → step.before = .bound bound h →
    step.calls = [(h.database, .sent h.number ending.request step.result.isOk),
      (h.database, .released h.number)]
  /-- A use with the database that the transaction is bound to is sent on its connection. -/
  use_bound : ∀ step ∈ steps, ∀ u request bound h, step.operation = .use u →
    u.request = .ok request → step.before = .bound bound h → bound.sameAs u.database = true →
    ∃ succeeded connection, step.calls = [(h.database, .sent h.number request succeeded)] ∧
      step.after = .bound bound { h with connection }
  /-- A use with another database is refused, and the transaction stays as it was. -/
  use_mismatched : ∀ step ∈ steps, ∀ u request bound h, step.operation = .use u →
    u.request = .ok request → step.before = .bound bound h → bound.sameAs u.database = false →
    step.result = .error (.transactionDatabaseMismatch bound.name u.database.name) ∧
      step.calls = [] ∧ step.after = step.before
  /-- The first use opens a connection and begins. If either fails the transaction is as if it had
  never been used; otherwise it is bound to the database of the use. -/
  use_unbound : ∀ step ∈ steps, ∀ u request, step.operation = .use u →
    u.request = .ok request → step.before = .unbound →
    (step.calls = [(u.database.id, .refused)] ∧ step.after = .unbound ∧
      ∃ e, step.result = .error e) ∨
    (∃ n, step.calls = [(u.database.id, .opened n),
        (u.database.id, .sent n (.begin isolation) false), (u.database.id, .released n)] ∧
      step.after = .unbound ∧ ∃ e, step.result = .error e) ∨
    ∃ n succeeded connection, step.calls = [(u.database.id, .opened n),
        (u.database.id, .sent n (.begin isolation) true),
        (u.database.id, .sent n request succeeded)] ∧
      step.after = .bound u.database ⟨u.database.id, n, connection⟩
  /-- A use with a slot that has no value does nothing. -/
  use_unresolved : ∀ step ∈ steps, ∀ u e, step.operation = .use u → u.request = .error e →
    step.result = .error (.query e) ∧ step.calls = [] ∧ step.after = step.before

/-- Calls that go over one connection contain one successful begin and one ending at most. -/
theorem OneConnection.countP_le_one {isolation : IsolationLevel} {operations : List Operation}
    {calls : List (Nat × Call)}
    (h : OneConnection isolation (operations.filterMap Operation.request?) calls) :
    calls.countP (·.2.isBegun) ≤ 1 ∧ calls.countP (·.2.isEnding) ≤ 1 := by
  obtain ⟨attempts, begun, rfl, hbegun⟩ := h
  have hattempts : ∀ call ∈ attempts.flatMap (Attempt.calls isolation),
      call.2.isBegun = false ∧ call.2.isEnding = false := by
    intro call hcall
    obtain ⟨attempt, -, hmem⟩ := List.mem_flatMap.1 hcall
    exact attempt.not_begun_or_ending isolation call hmem
  obtain ⟨hnone, hnone'⟩ := countP_eq_zero hattempts
  rw [List.countP_append, List.countP_append, hnone, hnone']
  obtain rfl | ⟨database, number, c, rfl, hcommands⟩ := hbegun
  · exact ⟨Nat.zero_le 1, Nat.zero_le 1⟩
  have hstatements : ∀ command ∈ c.commands,
      ∃ statement, command.1 = .reader statement ∨ command.1 = .nonQuery statement := by
    intro command hcommand
    obtain ⟨operation, -, hrequest⟩ := List.mem_filterMap.1
      (hcommands.mem (List.mem_map_of_mem hcommand))
    exact operation.request?_isStatement hrequest
  obtain ⟨hbegun, hended⟩ := Conversation.countP_calls database number hstatements
  rw [List.countP_append, List.countP_append, hbegun]
  exact ⟨Nat.le_refl 1, by simpa [Call.isEnding] using hended⟩

/-- Every run of a transaction keeps what is promised, on any backend: whichever calls fail, and
whatever databases the uses name. -/
theorem lifetime_isSafe (b : Backend σ κ) (isolation : IsolationLevel)
    (operations : List Operation) (s : Session σ) :
    let (steps, discarded) := lifetime b isolation operations s
    IsSafe isolation operations steps discarded := by
  obtain ⟨hoperations, hlinked⟩ := linked_history b operations { isolation } s
  simp only [lifetime]
  generalize history b operations { isolation } s = run at hoperations hlinked ⊢
  obtain ⟨steps, last, s'⟩ := run
  have hdiscard : s'.callsSince ((last.discard b).run s').2 = givenUp last.state :=
    Session.callsSince_eq (triple_discard b last s'.calls s' rfl)
  simp only [hdiscard]
  have hstep {step : Step κ} (hmem : step ∈ steps) := hlinked.proceeds_of_mem hmem
  have hconnection := hlinked.of_unbound
  have hrequests : steps.filterMap (·.operation.request?) =
      operations.filterMap Operation.request? := by
    rw [← hoperations, List.filterMap_map]
    rfl
  rw [hrequests] at hconnection
  constructor
  case operations_eq => exact hoperations
  case unbound_first =>
    cases steps with
    | nil => simp
    | cons step later =>
      rintro _ ⟨⟩
      exact hlinked.1
  case chained =>
    rintro earlier step next later rfl
    obtain ⟨middle, -, -, hnext, -⟩ := hlinked.of_append
    exact hnext
  case one_connection => exact hconnection
  case begun_once => exact hconnection.countP_le_one.1
  case ended_once => exact hconnection.countP_le_one.2
  case over_after_finish =>
    rintro earlier step later rfl hfinish
    obtain ⟨hafter, hlater⟩ := hlinked.after_finish hfinish
    obtain ⟨hlast, hothers⟩ := hlater.of_completed
    exact ⟨hafter, by rw [hlast]; rfl, hothers⟩
  case finish_unbound =>
    intro step hmem hfinish hbefore
    cases hoperation : step.operation with
    | use u => rw [hoperation] at hfinish; cases hfinish
    | finish ending calling => exact (hoperation ▸ hbefore ▸ hstep hmem).of_finish_unbound
  case finish_bound =>
    intro step hmem ending calling bound h hoperation hbefore
    exact (hoperation ▸ hbefore ▸ hstep hmem).of_finish_bound
  case use_bound =>
    intro step hmem u request bound h hoperation hrequest hbefore hsame
    obtain ⟨answer, hsends, -⟩ := (hoperation ▸ hstep hmem).sends hrequest
    obtain ⟨hcalls, connection, hafter⟩ := (hbefore ▸ hsends).sent_of_sameAs hsame
    exact ⟨answer.isOk, connection, hcalls, hafter⟩
  case use_mismatched =>
    intro step hmem u request bound h hoperation hrequest hbefore hother
    obtain ⟨answer, hsends, hresult⟩ := (hoperation ▸ hstep hmem).sends hrequest
    obtain ⟨rfl, hcalls, hafter⟩ := (hbefore ▸ hsends).mismatched_of_not_sameAs hother
    exact ⟨hresult, hcalls, hafter.trans hbefore.symm⟩
  case use_unbound =>
    intro step hmem u request hoperation hrequest hbefore
    obtain ⟨answer, hsends, hresult⟩ := (hoperation ▸ hstep hmem).sends hrequest
    obtain ⟨hcalls, hafter, e, rfl⟩ | ⟨n, hcalls, hafter, e, rfl⟩ |
      ⟨n, connection, hcalls, hafter⟩ := (hbefore ▸ hsends).of_unbound
    · exact .inl ⟨hcalls, hafter, e, hresult⟩
    · exact .inr (.inl ⟨n, hcalls, hafter, e, hresult⟩)
    · exact .inr (.inr ⟨n, answer.isOk, connection, hcalls, hafter⟩)
  case use_unresolved =>
    intro step hmem u e hoperation hrequest
    exact (hoperation ▸ hstep hmem).of_unresolved hrequest

end Transaction

end TypedSql
