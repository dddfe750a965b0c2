import SingleTable.Proofs.Table.History

/-!
# Transactions and single calls

A transaction is compared with its actions taken one at a time by the other calls
of the service: a put as a batch of that one put, a deletion and an update by their
own calls, and a condition check as no call at all.  A transaction succeeds exactly
when all these calls succeed one after another, and then leaves the same table.
Otherwise it reports the error of the first call that fails, and leaves the table
as it was, while the calls before the failing one have had their effect.
-/

namespace SingleTable

open Outcome

/-- An action with exactly one member. -/
inductive Call where
  | put (action : PutAction)
  | delete (request : DeleteRequest)
  | update (action : UpdateAction)
  | check (action : CheckAction)

namespace Call

/-- The call as an action of a transaction. -/
def action : Call → Action
  | .put member => ⟨some member, none, none, none⟩
  | .delete member => ⟨none, some member, none, none⟩
  | .update member => ⟨none, none, some member, none⟩
  | .check member => ⟨none, none, none, some member⟩

end Call

namespace Action

/-- The number of members that are set. -/
def memberCount (action : Action) : Nat :=
  action.put.isSome.toNat + action.delete.isSome.toNat + action.update.isSome.toNat +
    action.check.isSome.toNat

/-- The action without members. -/
def blank : Action := ⟨none, none, none, none⟩

/-- Calls are the actions that set exactly one member. -/
theorem exists_call_iff {action : Action} :
    (∃ call : Call, call.action = action) ↔ action.memberCount = 1 := by
  constructor
  · rintro ⟨call, rfl⟩
    cases call <;> rfl
  · intro hCount
    obtain ⟨put, delete, update, check⟩ := action
    cases put <;> cases delete <;> cases update <;> cases check <;>
      simp [memberCount] at hCount
    · exact ⟨.check _, rfl⟩
    · exact ⟨.update _, rfl⟩
    · exact ⟨.delete _, rfl⟩
    · exact ⟨.put _, rfl⟩

end Action

/-- The batch of one put. -/
def PutAction.batch (action : PutAction) : BatchRequest :=
  ⟨NameMap.empty.insert action.table [⟨some ⟨action.item⟩, none⟩]⟩

theorem PutAction.steps_batch (action : PutAction) :
    (action.batch.entries.entries.flatMap Prod.snd).flatMap Table.WriteStep.ofEntry =
      [.put action.item] := rfl

/-- The request for an update on its own. -/
def UpdateAction.request (action : UpdateAction) : UpdateRequest :=
  ⟨action.table, action.key, some action.expression, action.bindings⟩

namespace Table

/-- What a call comes to that gives the next table only if it succeeds. -/
def settle {α : Type} (table : Table) (answer : Answer (α × Table)) : Answer Unit × Table :=
  match answer with
  | .ok (_, next) => (.ok (), next)
  | .error error => (.error error, table)

/-- A call on its own: whether it succeeds, and the table afterwards. -/
def call (table : Table) : Call → Answer Unit × Table
  | .put action =>
    let (answer, next) := table.batchWrite action.batch
    (answer.map fun _ => (), next)
  | .delete request => table.settle (table.deleteItem request)
  | .update action => table.settle (table.updateItem action.request)
  | .check _ => (.ok (), table)

/-- Calls one after another: the table after all of them, or the error of the first
one that fails. -/
def callEach : Table → List Call → Answer Table
  | table, [] => .ok table
  | table, call :: rest =>
    match table.call call with
    | (.ok _, next) => callEach next rest
    | (.error error, _) => .error error

theorem settle_map {α : Type} (table : Table) (answer : Answer (α × Table)) :
    (table.settle answer).1.map (fun _ => (table.settle answer).2) = answer.map Prod.snd := by
  cases answer <;> rfl

section Batch

variable {table : Table} {member : PutAction}

theorem batchWrite_batch_of_ok {next : Table} (hAdd : table.addRow member.item = .ok next) :
    table.batchWrite member.batch = (.ok {}, next) := by
  have hSteps : table.writeSteps [.put member.item] = (none, next) := by
    simp only [writeSteps, write, hAdd]
  rw [← member.steps_batch] at hSteps
  simp only [batchWrite, hSteps]

/-- Nothing comes behind the only put of the batch, so its failure leaves the table. -/
theorem batchWrite_batch_of_error {error : TableError}
    (hAdd : table.addRow member.item = .error error) :
    table.batchWrite member.batch = (.error (.ofTable error), table) := by
  have hSteps : table.writeSteps [.put member.item] = (some error, table) := by
    simp only [writeSteps, write, hAdd]
  rw [← member.steps_batch] at hSteps
  simp only [batchWrite, hSteps]

end Batch

/-- An action of a transaction does to the table what the call does. -/
theorem act_action (table : Table) (call : Call) :
    table.act call.action = (table.call call).1.map fun _ => (table.call call).2 := by
  cases call with
  | put member =>
    unfold act call
    simp only [Call.action]
    cases hAdd : table.addRow member.item with
    | ok next =>
      rw [batchWrite_batch_of_ok hAdd]
      rfl
    | error error =>
      rw [batchWrite_batch_of_error hAdd]
      rfl
  | delete member =>
    rw [call, settle_map]
    unfold act deleteItem
    simp only [Call.action]
    cases table.deleteRow member.key <;> rfl
  | update member =>
    rw [call, settle_map]
    unfold act updateItem UpdateAction.request
    simp only [Call.action, Option.getD_some]
    cases table.updateByExpression member.key member.expression member.bindings <;> rfl
  | check member => rfl

/-- The actions of a transaction are the calls one after another. -/
theorem foldlM_act_action (table : Table) (calls : List Call) :
    (calls.map Call.action).foldlM act table = table.callEach calls := by
  induction calls generalizing table with
  | nil => rfl
  | cons call rest ih =>
    rw [List.map_cons, List.foldlM_cons, act_action, callEach]
    obtain ⟨answer, next⟩ := table.call call
    cases answer with
    | error error => rfl
    | ok answer => exact ih next

theorem after_transactWrite (table : Table) (request : TransactionRequest) :
    table.after (.transactWrite request) =
      table.orStay ((table.transactWrite request).map Prod.snd) := rfl

/-- A transaction leaves the table as it was if one of its actions fails. -/
theorem after_transactWrite_of_error {request : TransactionRequest} {table : Table}
    {error : ServiceError} (hError : table.transactWrite request = .error error) :
    table.after (.transactWrite request) = table := by
  rw [after_transactWrite, hError]
  rfl

/-- A transaction of actions with one member each agrees with the calls one after
another: if they all succeed, it succeeds and leaves their table; otherwise it fails
with the code and message of the first failure, and the table is as it was.  An
action without members, wherever it stands, makes the transaction fail, as an
invalid request unless a call before it fails. -/
theorem transactWrite_agrees_with_calls (table : Table) (calls : List Call) :
    (match table.callEach calls with
      | .ok final =>
        table.transactWrite ⟨calls.map Call.action⟩ = .ok ({}, final) ∧
          table.after (.transactWrite ⟨calls.map Call.action⟩) = final
      | .error error =>
        (∃ failure, table.transactWrite ⟨calls.map Call.action⟩ = .error failure ∧
          failure.code = error.code ∧ failure.message = error.message) ∧
          table.after (.transactWrite ⟨calls.map Call.action⟩) = table) ∧
      ∀ later : List Action,
        let request : TransactionRequest := ⟨calls.map Call.action ++ Action.blank :: later⟩
        (∃ failure, table.transactWrite request = .error failure ∧
          match table.callEach calls with
          | .ok _ => failure.code = .validation
          | .error error => failure.code = error.code ∧ failure.message = error.message) ∧
        table.after (.transactWrite request) = table := by
  constructor
  · have hFold : table.transactWrite ⟨calls.map Call.action⟩ =
        (table.callEach calls).map fun final => ({}, final) := by
      unfold transactWrite
      rw [foldlM_act_action]
      cases table.callEach calls <;> rfl
    cases hCalls : table.callEach calls with
    | ok final =>
      rw [hCalls] at hFold
      refine ⟨hFold, ?_⟩
      rw [after_transactWrite, hFold]
      rfl
    | error error =>
      rw [hCalls] at hFold
      exact ⟨⟨error, hFold, rfl, rfl⟩, after_transactWrite_of_error hFold⟩
  · intro later request
    -- the fold stops at the action without members at the latest
    have hFold : table.transactWrite request =
        .error (match table.callEach calls with
          | .ok _ => .ofFault .emptyAction
          | .error error => error) := by
      unfold transactWrite
      simp only [request]
      rw [List.foldlM_append, foldlM_act_action]
      cases table.callEach calls <;> rfl
    refine ⟨⟨_, hFold, ?_⟩, after_transactWrite_of_error hFold⟩
    cases table.callEach calls with
    | ok final => rfl
    | error error => exact ⟨rfl, rfl⟩

end Table

end SingleTable
