import ColumnStore.Proofs.Client.Sending
import Mathlib.Data.List.Nodup

/-! What happened at a shared client, latest event first. All that a history tells of a statement
is read off its events: when it was submitted, which call took it, what was sent and what came of it.
-/

namespace ColumnStore.Queue

/-- What callers see happen at a shared client. -/
inductive Event where
  | databaseUsed (database : String)
  | submitted (handle : Submitted)
  /-- A call took these statements out of the queue. -/
  | drained (call : Nat) (statements : List Pending)
  | sent (call ticket : Nat) (request : Http.Request)
  /-- A reply came for a statement, or no request could be formed for it. -/
  | settled (call ticket : Nat) (answer : Except Error Http.Reply)
  /-- A call returned its number of statements. -/
  | finished (call count : Nat)
  | received (handle : Submitted) (outcome : Outcome)
  | handleDropped (handle : Submitted)
  /-- The client went, and these statements with it. -/
  | clientDropped (statements : List Pending)

abbrev History := List Event

namespace History

-----------------------------------------------------------------------------------------
-- Statements
-----------------------------------------------------------------------------------------

/-- The database in use after a history that began with one. -/
def database (first : String) : History → String
  | [] => first
  | .databaseUsed database :: _ => database
  | _ :: earlier => History.database first earlier

/-- The submitted statements, oldest first, each with the database in use at that moment. -/
def submissions (first : String) : History → List Pending
  | [] => []
  | .submitted handle :: earlier =>
    History.submissions first earlier
      ++ [⟨handle.ticket, handle.sql, History.database first earlier⟩]
  | _ :: earlier => History.submissions first earlier

def drained : History → List Pending
  | [] => []
  | .drained _ statements :: earlier => History.drained earlier ++ statements
  | _ :: earlier => History.drained earlier

/-- The statements that one call took out of the queue. -/
def drainedBy (call : Nat) : History → List Pending
  | [] => []
  | .drained other statements :: earlier =>
    if other = call then History.drainedBy call earlier ++ statements
    else History.drainedBy call earlier
  | _ :: earlier => History.drainedBy call earlier

/-- The statements that went with the client. -/
def discarded : History → List Pending
  | [] => []
  | .clientDropped statements :: earlier => History.discarded earlier ++ statements
  | _ :: earlier => History.discarded earlier

-----------------------------------------------------------------------------------------
-- Requests and results
-----------------------------------------------------------------------------------------

/-- The tickets of the statements for which requests went out. -/
def sentTickets (history : History) : List Nat :=
  history.filterMap fun
    | .sent _ ticket _ => some ticket
    | _ => none

/-- The tickets of the statements that were settled. -/
def settledTickets (history : History) : List Nat :=
  history.filterMap fun
    | .settled _ ticket _ => some ticket
    | _ => none

/-- The calls that returned, each with the number it returned. -/
def finishes (history : History) : List (Nat × Nat) :=
  history.filterMap fun
    | .finished call count => some (call, count)
    | _ => none

/-- What was sent for a statement. -/
def request? (ticket : Nat) : History → Option Http.Request
  | [] => none
  | .sent _ other request :: earlier =>
    if other = ticket then some request else History.request? ticket earlier
  | _ :: earlier => History.request? ticket earlier

/-- The result that an answer gives where a request went out or did not. -/
def outcome? : Option Http.Request → Except Error Http.Reply → Option Outcome
  | _, .error refusal => some (.error refusal)
  | some request, .ok reply => some (BatchClient.outcome request reply)
  | none, .ok _ => none

/-- The result of sending a statement. -/
def result? (ticket : Nat) : History → Option Outcome
  | [] => none
  | .settled _ other answer :: earlier =>
    if other = ticket then outcome? (History.request? ticket earlier) answer
    else History.result? ticket earlier
  | _ :: earlier => History.result? ticket earlier

-----------------------------------------------------------------------------------------
-- Reading a history
-----------------------------------------------------------------------------------------

variable {history : History}

/-- A request that was sent for a statement is found, by history induction. -/
theorem request?_eq_none {ticket : Nat}
    : history.request? ticket = none ↔ ticket ∉ history.sentTickets := by
  induction history with
  | nil => simp [request?, sentTickets]
  | cons event earlier ih =>
    cases event with
    | sent call other request =>
      by_cases same : other = ticket
      · simp [request?, sentTickets, same]
      · have apart : ticket ≠ other := fun e => same e.symm
        simpa [request?, sentTickets, same, apart] using ih
    | _ => exact ih

/-- What is found as sent was sent, by history induction. -/
theorem mem_of_request? {ticket : Nat} {request : Http.Request}
    (found : history.request? ticket = some request)
    : ∃ call, .sent call ticket request ∈ history := by
  induction history with
  | nil => cases found
  | cons event earlier ih =>
    have later (found : History.request? ticket earlier = some request)
        : ∃ call, .sent call ticket request ∈ event :: earlier := by
      obtain ⟨call, sent⟩ := ih found
      exact ⟨call, .tail _ sent⟩
    cases event with
    | sent call other request =>
      unfold request? at found
      split at found
      · rename_i same
        obtain rfl := same
        obtain rfl := Option.some.inj found
        exact ⟨call, .head _⟩
      · exact later found
    | _ => exact later found

/-- After a drain the statements of a call are its earlier ones, and those drained now if it was its
drain.
-/
theorem mem_drainedBy_drained {call latest : Nat} {statements : List Pending} {p : Pending}
    : p ∈ drainedBy call (.drained latest statements :: history)
      ↔ p ∈ history.drainedBy call ∨ (latest = call ∧ p ∈ statements) := by
  by_cases same : latest = call <;> simp [drainedBy, same]

/-- The statements of a call are among all that were drained, by history induction. -/
theorem mem_drained_of_mem_drainedBy {call : Nat} {p : Pending} (h : p ∈ history.drainedBy call)
    : p ∈ history.drained := by
  induction history with
  | nil => cases h
  | cons event earlier ih =>
    cases event with
    | drained other statements =>
      rcases mem_drainedBy_drained.1 h with h | ⟨-, h⟩
      · exact List.mem_append_left _ (ih h)
      · exact List.mem_append_right _ h
    | _ => exact ih h

/-- Every drained statement has a call, by history induction. -/
theorem exists_drainedBy {p : Pending} (h : p ∈ history.drained)
    : ∃ call, p ∈ history.drainedBy call := by
  induction history with
  | nil => cases h
  | cons event earlier ih =>
    cases event with
    | drained other statements =>
      rcases List.mem_append.1 h with h | h
      · obtain ⟨call, h⟩ := ih h
        exact ⟨call, mem_drainedBy_drained.2 (.inl h)⟩
      · exact ⟨other, mem_drainedBy_drained.2 (.inr ⟨rfl, h⟩)⟩
    | _ => exact ih h

/-- Where no statement was drained twice, no two calls share one. The induction is on the history,
whose latest drain is apart from all before it.
-/
theorem drainedBy_unique {p : Pending} {call other : Nat} (distinct : history.drained.Nodup)
    (one : p ∈ history.drainedBy call) (another : p ∈ history.drainedBy other)
    : call = other := by
  induction history with
  | nil => cases one
  | cons event earlier ih =>
    cases event with
    | drained latest statements =>
      obtain ⟨before, -, apart⟩ := List.nodup_append'.1 distinct
      have early {n : Nat} (h : p ∈ History.drainedBy n earlier) : p ∉ statements :=
        apart (mem_drained_of_mem_drainedBy h)
      rcases mem_drainedBy_drained.1 one with hone | ⟨hone, now⟩
      · rcases mem_drainedBy_drained.1 another with hanother | ⟨-, later⟩
        · exact ih before hone hanother
        · exact absurd later (early hone)
      · rcases mem_drainedBy_drained.1 another with hanother | ⟨hanother, -⟩
        · exact absurd now (early hanother)
        · exact hone.symm.trans hanother
    | _ => exact ih distinct one another

end History

end ColumnStore.Queue
