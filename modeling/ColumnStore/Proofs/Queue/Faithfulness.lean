import Mathlib.Algebra.GroupWithZero.Nat
import ColumnStore.Proofs.Queue.Delivery

/-! A shared queue neither loses, doubles nor mixes up statements, whatever its callers do and in
whatever order they do it. All of it holds at every moment, so it is one property of a reachable
client.
-/

namespace ColumnStore.Queue.Shared

variable {endpoint : Endpoint} {first : String} {s t : Shared}

-----------------------------------------------------------------------------------------
-- Every reachable client
-----------------------------------------------------------------------------------------

/-- A client whose statements all have one owner, one request and one result. -/
structure Owned (endpoint : Endpoint) (first : String) (s : Shared) : Prop where
  ledger : Ledger endpoint first s
  calls : Calls s
  transit : Transit s
  traffic : Traffic endpoint s.history
  waiting : Waiting first s

/-- Every operation keeps the owners. -/
theorem Owned.step (h : Step s t) (owned : Owned endpoint first s) : Owned endpoint first t where
  ledger := owned.ledger.step h
  calls := owned.calls.step h
  transit := owned.transit.step h owned.ledger
  traffic := owned.traffic.step h owned.ledger owned.transit
  waiting := owned.waiting.step h owned.ledger owned.transit

/-- However its callers interleave, a client keeps the owners, by induction on their operations. -/
theorem Reachable.owned (reached : Reachable endpoint first s) : Owned endpoint first s := by
  induction reached with
  | fresh => exact ⟨.fresh, .fresh, .fresh, .nil, .fresh⟩
  | step _ h ih => exact ih.step h

/-- A call that returned has a result for each of its statements. -/
theorem Owned.answered (owned : Owned endpoint first s) {r : Nat × Nat}
    (returned : r ∈ s.history.finishes) {p : Pending} (h : p ∈ s.history.drainedBy r.1)
    : ∃ outcome, s.history.Settled endpoint r.1 p outcome := by
  rcases owned.transit.landed r.1 p h with ⟨f, on, called, -⟩ | settled
  · have running := owned.transit.called f on
    exact absurd (called ▸ running) (owned.calls.returned r returned).2.1
  · obtain ⟨outcome, settled⟩ := Option.isSome_iff_exists.1 settled
    exact ⟨outcome, owned.traffic.settled r.1 p h outcome settled⟩

-----------------------------------------------------------------------------------------
-- What callers may rely on
-----------------------------------------------------------------------------------------

/-- What handles receive and are about to receive: the result of sending their own statement, or the
news that it went with the client.
-/
def Delivers (endpoint : Endpoint) (first : String) (history : History) (handle : Submitted)
    (outcome : Outcome) : Prop :=
  ∃ p ∈ history.submissions first, p.ticket = handle.ticket ∧ p.sql = handle.sql
    ∧ ((∃ call, p ∈ history.drainedBy call ∧ history.Settled endpoint call p outcome)
      ∨ (p ∈ history.discarded ∧ outcome = .error (.notExecuted p.sql)))

/-- What is owed to a handle is the result of its own statement. -/
theorem Owned.delivers (owned : Owned endpoint first s) {handle : Submitted} {outcome : Outcome}
    (owed : s.history.Owed first handle outcome)
    : Delivers endpoint first s.history handle outcome := by
  cases owed with
  | @result p _ submitted ticket sql drained settled =>
    obtain ⟨call, called⟩ := History.exists_drainedBy drained
    exact ⟨p, submitted, ticket, sql,
      .inl ⟨call, called, owned.traffic.settled call p called _ settled⟩⟩
  | @discarded p submitted ticket sql discarded =>
    exact ⟨p, submitted, ticket, sql, .inr ⟨discarded, rfl⟩⟩

/-- What the callers of a client may rely on at every moment. -/
structure Faithful (endpoint : Endpoint) (first : String) (s : Shared) : Prop where
  /-- Every submitted statement was drained, or discarded, or is in the queue. -/
  accounted : s.history.submissions first
    = s.history.drained ++ s.history.discarded ++ s.client.pending
  /-- It has a ticket of its own, so it is there only once. -/
  distinct : ((s.history.submissions first).map Pending.ticket).Nodup
  /-- Only with the client statements are discarded. -/
  kept : s.isDropped = false → s.history.discarded = []
  /-- A statement that was drained was drained by one call. -/
  drainedOnce : ∀ p ∈ s.history.drained, ∃! call, p ∈ s.history.drainedBy call
  sentOnce : s.history.sentTickets.Nodup
  /-- A request has the text of its statement, and the database that was in use when that was
  submitted.
  -/
  sentOwn : ∀ call ticket request, .sent call ticket request ∈ s.history →
    ∃ p ∈ s.history.submissions first, p ∈ s.history.drainedBy call ∧ p.ticket = ticket
      ∧ request.body = p.sql
      ∧ request.url
        = endpoint.base.withQuery (Url.formPairs (endpoint.parameters p.database .whole))
  settledOnce : s.history.settledTickets.Nodup
  received : ∀ handle outcome, .received handle outcome ∈ s.history →
    Delivers endpoint first s.history handle outcome
  /-- Once nothing is to come for a handle, its result is there. -/
  ready : ∀ handle ∈ s.handles, ¬ s.IsOpen handle.ticket →
    Delivers endpoint first s.history handle (s.client.result handle)
  /-- Each call returns once. -/
  returnedOnce : (s.history.finishes.map Prod.fst).Nodup
  /-- What the calls returned adds up to the statements that they drained. -/
  returned : (s.history.finishes.map Prod.snd).sum
    = (s.history.finishes.flatMap fun r => s.history.drainedBy r.1).length
  /-- All of these have a result. -/
  answered : ∀ r ∈ s.history.finishes, ∀ p ∈ s.history.drainedBy r.1,
    ∃ outcome, s.history.Settled endpoint r.1 p outcome

/-- A client serves its callers faithfully under every interleaving of their operations. -/
theorem faithful_of_reachable (reached : Reachable endpoint first s)
    : Faithful endpoint first s := by
  have owned := reached.owned
  exact {
    accounted := owned.ledger.accounted
    distinct := owned.ledger.distinct
    kept := owned.ledger.kept
    drainedOnce := fun p h => by
      obtain ⟨call, called⟩ := History.exists_drainedBy h
      exact ⟨call, called, fun other hother =>
        History.drainedBy_unique (.of_map _ owned.ledger.nodup_drained) hother called⟩
    sentOnce := owned.traffic.sentOnce
    sentOwn := fun call ticket request h => by
      obtain ⟨p, called, own, formed⟩ := owned.traffic.sentOwn call ticket request h
      obtain rfl := Endpoint.outgoing_eq_ok formed
      exact ⟨p, owned.ledger.mem_of_drainedBy called, called, own, rfl, rfl⟩
    settledOnce := owned.traffic.settledOnce
    received := fun handle outcome h => owned.delivers (owned.waiting.received handle outcome h)
    ready := fun handle held closed =>
      owned.delivers (owned.waiting.owed owned.ledger owned.transit held closed)
    returnedOnce := owned.calls.once
    returned := by
      rw [List.length_flatMap]
      refine congrArg List.sum (List.map_congr_left fun r h => ?_)
      exact (owned.calls.returned r h).2.2
    answered := fun r h p called => owned.answered h called }

-----------------------------------------------------------------------------------------
-- Two callers
-----------------------------------------------------------------------------------------

/-- A server on a host of its own, which nobody signs in to. -/
def bare : Endpoint where
  base := { scheme := "http", host := "h", path := [""] }
  username := ""
  password := ""
  readOnly := false

/-- The request of a statement there. -/
def bareRequest (sql database : String) : Http.Request where
  method := .post
  url := bare.base.withQuery (Url.formPairs (bare.parameters database .whole))
  credentials := some ⟨"", ""⟩
  body := sql

theorem outgoing_bare {database : String} (sql : String)
    (named : (bareRequest sql database).url.withoutIdentity.canBeRequested)
    : bare.outgoing sql database .whole = .ok (bareRequest sql database) :=
  if_pos named

/-- The client of two callers once a call has drained their statements. -/
def drainedOnce (flights : List Flight) (answers : List (Nat × Outcome)) (running : List (Nat × Nat))
    (handles : List Submitted) (history : History) : Shared where
  client := { endpoint := bare, database := "other", issued := 2, answers }
  calls := 1
  running
  flights
  handles
  history

/-- Nothing is to come once no statement is on its way. -/
theorem not_isOpen_drainedOnce (answers : List (Nat × Outcome)) (running : List (Nat × Nat))
    (handles : List Submitted) (history : History) (ticket : Nat)
    : ¬ (drainedOnce [] answers running handles history).IsOpen ticket := by
  rintro (⟨p, queued, -⟩ | ⟨f, flies, -⟩)
  · nomatch queued
  · nomatch flies

/-- A caller submits, another chooses a database and submits, and one call drains both statements. They
are sent, and answered in the other order: for the second the connection is closed, and the first
succeeds. The call returns, and one handle has taken its result while the other has its own to take.
-/
theorem faithful_two_callers
    : ∃ s : Shared,
      Faithful bare "d" s
      ∧ s.history.drainedBy 0 = [⟨0, "select 1", "d"⟩, ⟨1, "select 2", "other"⟩]
      ∧ .sent 0 0 (bareRequest "select 1" "d") ∈ s.history
      ∧ .sent 0 1 (bareRequest "select 2" "other") ∈ s.history
      ∧ s.history.finishes = [(0, 2)]
      ∧ .received ⟨1, "select 2"⟩ (BatchClient.outcome (bareRequest "select 2" "other") .closed)
        ∈ s.history
      ∧ ⟨0, "select 1"⟩ ∈ s.handles ∧ ¬ s.IsOpen 0
      ∧ s.client.result ⟨0, "select 1"⟩ = .ok [] := by
  let one : Pending := ⟨0, "select 1", "d"⟩
  let two : Pending := ⟨1, "select 2", "other"⟩
  let first := bareRequest "select 1" "d"
  let second := bareRequest "select 2" "other"
  let success : Http.Reply := .response { status := 200 }
  let handles : List Submitted := [⟨1, "select 2"⟩, ⟨0, "select 1"⟩]
  let running : List (Nat × Nat) := [(0, 2)]
  let drains : History := [.drained 0 [one, two], .submitted ⟨1, "select 2"⟩, .databaseUsed "other",
    .submitted ⟨0, "select 1"⟩]
  let sends : History := .sent 0 1 second :: .sent 0 0 first :: drains
  let answers : History := .settled 0 0 (.ok success) :: .settled 0 1 (.ok .closed) :: sends
  have waits : ⟨1, "select 2"⟩ ∈ handles := .head _
  have submitted : Reachable bare "d" _ := .step .fresh (.submit "select 1" rfl rfl)
  have both := (submitted.step (.useDatabase "other" rfl)).step (.submit "select 2" rfl rfl)
  have drained : Reachable bare "d"
      (drainedOnce [⟨0, one, none⟩, ⟨0, two, none⟩] [] running handles drains) :=
    both.step (.drain rfl rfl)
  have begun : Reachable bare "d"
      (drainedOnce [⟨0, one, some first⟩, ⟨0, two, none⟩] [] running handles
        (.sent 0 0 first :: drains)) :=
    drained.step (.send (f := ⟨0, one, none⟩) (.head _) rfl
      (outgoing_bare "select 1" (by decide +kernel)))
  have sent : Reachable bare "d"
      (drainedOnce [⟨0, two, some second⟩, ⟨0, one, some first⟩] [] running handles sends) :=
    begun.step (.send (f := ⟨0, two, none⟩) (.tail _ (.head _)) rfl
      (outgoing_bare "select 2" (by decide +kernel)))
  have closed : Reachable bare "d"
      (drainedOnce [⟨0, one, some first⟩] [(1, BatchClient.outcome second .closed)] running handles
        (.settled 0 1 (.ok .closed) :: sends)) :=
    sent.step (.reply (f := ⟨0, two, some second⟩) .closed (.head _) rfl)
  have answered : Reachable bare "d"
      (drainedOnce [] [(1, BatchClient.outcome second .closed), (0, BatchClient.outcome first success)]
        running handles answers) :=
    closed.step (.reply (f := ⟨0, one, some first⟩) success (.head _) rfl)
  have finished : Reachable bare "d"
      (drainedOnce [] [(1, BatchClient.outcome second .closed), (0, BatchClient.outcome first success)]
        [] handles (.finished 0 2 :: answers)) :=
    answered.step (@Step.finish _ 0 2 (.head _) (List.forall_mem_nil _))
  have received : Reachable bare "d"
      (drainedOnce [] [(0, BatchClient.outcome first success)] [] [⟨0, "select 1"⟩]
        (.received ⟨1, "select 2"⟩ (BatchClient.outcome second .closed) :: .finished 0 2 :: answers)) :=
    finished.step (.receive waits (not_isOpen_drainedOnce _ _ _ _ _))
  have empty : BatchClient.outcome first success = .ok [] := by cbv
  have kept {e : Event} (known : e ∈ sends)
      : e ∈ .received ⟨1, "select 2"⟩ (BatchClient.outcome second .closed) :: .finished 0 2 :: answers :=
    List.mem_append_right [_, _, _, _] known
  exact ⟨_, faithful_of_reachable received, rfl, kept (.tail _ (.head _)), kept (.head _), rfl,
    .head _, .head _, not_isOpen_drainedOnce _ _ _ _ _, empty⟩

end ColumnStore.Queue.Shared
