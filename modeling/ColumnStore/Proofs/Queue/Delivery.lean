import ColumnStore.Proofs.Queue.Ownership

/-! A request carries the text and the database of its own statement, and the answer to it goes to
the handle of that statement. This holds whichever call drained it, and whatever became of others.
-/

namespace ColumnStore.Queue

-----------------------------------------------------------------------------------------
-- Events that settle nothing
-----------------------------------------------------------------------------------------

/-- Whether an event leaves what was drained, sent and settled as it is. -/
def Event.IsQuiet : Event → Prop
  | .drained .. | .sent .. | .settled .. => False
  | _ => True

namespace History

variable {event : Event} {history : History}

theorem drainedBy_quiet (quiet : event.IsQuiet) (call : Nat)
    : drainedBy call (event :: history) = history.drainedBy call := by
  cases event <;> first | rfl | exact quiet.elim

theorem sentTickets_quiet (quiet : event.IsQuiet)
    : sentTickets (event :: history) = history.sentTickets := by
  cases event <;> first | rfl | exact quiet.elim

theorem settledTickets_quiet (quiet : event.IsQuiet)
    : settledTickets (event :: history) = history.settledTickets := by
  cases event <;> first | rfl | exact quiet.elim

theorem result?_quiet (quiet : event.IsQuiet) (ticket : Nat)
    : result? ticket (event :: history) = history.result? ticket := by
  cases event <;> first | rfl | exact quiet.elim

theorem mem_submissions_cons {first : String} {p : Pending} (h : p ∈ history.submissions first)
    : p ∈ submissions first (event :: history) := by
  cases event with
  | submitted handle => exact List.mem_append_left _ h
  | _ => exact h

theorem mem_drained_cons {p : Pending} (h : p ∈ history.drained)
    : p ∈ drained (event :: history) := by
  cases event with
  | drained call statements => exact List.mem_append_left _ h
  | _ => exact h

theorem mem_discarded_cons {p : Pending} (h : p ∈ history.discarded)
    : p ∈ discarded (event :: history) := by
  cases event with
  | clientDropped statements => exact List.mem_append_left _ h
  | _ => exact h

-----------------------------------------------------------------------------------------
-- Results
-----------------------------------------------------------------------------------------

/-- The result of sending a statement, by the call that drained it: what the answer to its own
request gives, or why no request could be formed for it.
-/
inductive Settled (endpoint : Endpoint) (history : History) (call : Nat) (p : Pending)
    : Outcome → Prop where
  | replied {request : Http.Request} {reply : Http.Reply}
      (formed : endpoint.outgoing p.sql p.database .whole = .ok request)
      (sent : .sent call p.ticket request ∈ history)
      (answered : .settled call p.ticket (.ok reply) ∈ history)
    : Settled endpoint history call p (BatchClient.outcome request reply)
  | refused {refusal : Error}
      (formed : endpoint.outgoing p.sql p.database .whole = .error refusal)
      (answered : .settled call p.ticket (.error refusal) ∈ history)
    : Settled endpoint history call p (.error refusal)

theorem Settled.cons {endpoint : Endpoint} {call : Nat} {p : Pending} {outcome : Outcome}
    (h : Settled endpoint history call p outcome)
    : Settled endpoint (event :: history) call p outcome := by
  cases h with
  | replied formed sent answered => exact .replied formed (.tail _ sent) (.tail _ answered)
  | refused formed answered => exact .refused formed (.tail _ answered)

/-- What a handle may receive: the result of sending its statement, or that the statement went with
the client.
-/
inductive Owed (first : String) (history : History) (handle : Submitted) : Outcome → Prop where
  | result {p : Pending} {outcome : Outcome} (submitted : p ∈ history.submissions first)
      (ticket : p.ticket = handle.ticket) (sql : p.sql = handle.sql) (drained : p ∈ history.drained)
      (settled : history.result? p.ticket = some outcome)
    : Owed first history handle outcome
  | discarded {p : Pending} (submitted : p ∈ history.submissions first)
      (ticket : p.ticket = handle.ticket) (sql : p.sql = handle.sql)
      (discarded : p ∈ history.discarded)
    : Owed first history handle (.error (.notExecuted p.sql))

/-- What was owed stays so, as long as the results are kept. -/
theorem Owed.cons {first : String} {handle : Submitted} {outcome : Outcome}
    (h : Owed first history handle outcome)
    (keeps : ∀ ticket outcome, history.result? ticket = some outcome →
      result? ticket (event :: history) = some outcome)
    : Owed first (event :: history) handle outcome := by
  cases h with
  | result submitted ticket sql drained settled =>
    exact .result (mem_submissions_cons submitted) ticket sql (mem_drained_cons drained)
      (keeps _ _ settled)
  | discarded submitted ticket sql discarded =>
    exact .discarded (mem_submissions_cons submitted) ticket sql (mem_discarded_cons discarded)

end History

namespace Shared

variable {endpoint : Endpoint} {first : String} {s t : Shared}

-----------------------------------------------------------------------------------------
-- Requests and results
-----------------------------------------------------------------------------------------

/-- At most one request goes out for a statement, its own, and its result is that of the request. -/
structure Traffic (endpoint : Endpoint) (history : History) : Prop where
  sentOnce : history.sentTickets.Nodup
  settledOnce : history.settledTickets.Nodup
  found : ∀ ticket ∈ history.settledTickets, (history.result? ticket).isSome
  sentOwn : ∀ call ticket request, .sent call ticket request ∈ history →
    ∃ p ∈ history.drainedBy call,
      p.ticket = ticket ∧ endpoint.outgoing p.sql p.database .whole = .ok request
  settled : ∀ call, ∀ p ∈ history.drainedBy call, ∀ outcome,
    history.result? p.ticket = some outcome → history.Settled endpoint call p outcome

namespace Traffic

theorem nil : Traffic endpoint [] where
  sentOnce := .nil
  settledOnce := .nil
  found := nofun
  sentOwn := nofun
  settled := nofun

theorem quiet {event : Event} {history : History} (quiet : event.IsQuiet)
    (traffic : Traffic endpoint history)
    : Traffic endpoint (event :: history) where
  sentOnce := by
    rw [History.sentTickets_quiet quiet]
    exact traffic.sentOnce
  settledOnce := by
    rw [History.settledTickets_quiet quiet]
    exact traffic.settledOnce
  found ticket h := by
    rw [History.result?_quiet quiet]
    exact traffic.found ticket (History.settledTickets_quiet quiet ▸ h)
  sentOwn call ticket request h := by
    rw [History.drainedBy_quiet quiet]
    rcases List.mem_cons.1 h with rfl | h
    · exact quiet.elim
    · exact traffic.sentOwn call ticket request h
  settled call p h outcome result := by
    rw [History.drainedBy_quiet quiet] at h
    rw [History.result?_quiet quiet] at result
    exact (traffic.settled call p h outcome result).cons

/-- Statements that leave the queue were neither sent nor settled. -/
theorem drain (traffic : Traffic endpoint s.history) (ledger : Ledger endpoint first s)
    (transit : Transit s)
    : Traffic endpoint (.drained s.calls s.client.pending :: s.history) where
  sentOnce := traffic.sentOnce
  settledOnce := traffic.settledOnce
  found := traffic.found
  sentOwn call ticket request h := by
    rcases List.mem_cons.1 h with h | h
    · cases h
    · obtain ⟨p, drained, own⟩ := traffic.sentOwn call ticket request h
      exact ⟨p, History.mem_drainedBy_drained.2 (.inl drained), own⟩
  settled call p h outcome result := by
    rcases History.mem_drainedBy_drained.1 h with h | ⟨-, queued⟩
    · exact (traffic.settled call p h outcome result).cons
    · have fresh := ledger.drained_apart (List.mem_append_right _ queued)
      exact absurd (result.symm.trans (transit.untouched _ fresh).2) nofun

/-- A statement that is sent had no request yet, and the request is its own. -/
theorem send (traffic : Traffic endpoint s.history) (ledger : Ledger endpoint first s)
    (transit : Transit s) {f : Flight} {request : Http.Request} (held : f ∈ s.flights)
    (unsent : f.request = none) (sends : s.outgoing f = .ok request)
    : Traffic endpoint (.sent f.call f.ticket request :: s.history) where
  sentOnce :=
    List.nodup_cons.2
      ⟨History.request?_eq_none.1 ((transit.request f held).trans unsent), traffic.sentOnce⟩
  settledOnce := traffic.settledOnce
  found := traffic.found
  sentOwn call ticket sent h := by
    rcases List.mem_cons.1 h with h | h
    · cases h
      exact ⟨f.statement, transit.drained f held, rfl, ledger.asks ▸ sends⟩
    · exact traffic.sentOwn call ticket sent h
  settled call p h outcome result := (traffic.settled call p h outcome result).cons

/-- A statement that is settled had no result yet, and the result is its own. -/
theorem settle (traffic : Traffic endpoint s.history) (ledger : Ledger endpoint first s)
    (transit : Transit s) {f : Flight} (held : f ∈ s.flights)
    {answer : Except Error Http.Reply} {outcome : Outcome}
    (gives : History.outcome? f.request answer = some outcome)
    (own : History.Settled endpoint (.settled f.call f.ticket answer :: s.history) f.call
      f.statement outcome)
    : Traffic endpoint (.settled f.call f.ticket answer :: s.history) where
  sentOnce := traffic.sentOnce
  settledOnce := by
    refine List.nodup_cons.2 ⟨fun h => ?_, traffic.settledOnce⟩
    have found := traffic.found f.ticket h
    rw [transit.unsettled f held] at found
    cases found
  found ticket h := by
    rw [transit.result?_settle held gives]
    split
    · rfl
    · rename_i apart
      rcases List.mem_cons.1 h with rfl | h
      · exact absurd rfl apart
      · exact traffic.found ticket h
  sentOwn call ticket request h := by
    rcases List.mem_cons.1 h with h | h
    · cases h
    · exact traffic.sentOwn call ticket request h
  settled call p h result now := by
    rw [transit.result?_settle held gives] at now
    split at now
    · rename_i same
      obtain rfl := ledger.eq_of_ticket (ledger.mem_of_drainedBy (transit.drained f held))
        (ledger.mem_of_drainedBy h) same
      obtain rfl := History.drainedBy_unique (.of_map _ ledger.nodup_drained)
        (transit.drained f held) h
      obtain rfl := Option.some.inj now
      exact own
    · exact (traffic.settled call p h result now).cons

/-- What was sent for a statement was sent by the call that drained it. -/
theorem sent_of_flight (traffic : Traffic endpoint s.history) (ledger : Ledger endpoint first s)
    (transit : Transit s) {f : Flight} {request : Http.Request} (held : f ∈ s.flights)
    (sent : f.request = some request)
    : .sent f.call f.ticket request ∈ s.history
      ∧ endpoint.outgoing f.statement.sql f.statement.database .whole = .ok request := by
  obtain ⟨call, h⟩ := History.mem_of_request? ((transit.request f held).trans sent)
  obtain ⟨p, drained, ticket, formed⟩ := traffic.sentOwn call f.ticket request h
  obtain rfl := ledger.eq_of_ticket (ledger.mem_of_drainedBy drained)
    (ledger.mem_of_drainedBy (transit.drained f held)) ticket
  obtain rfl := History.drainedBy_unique (.of_map _ ledger.nodup_drained) drained
    (transit.drained f held)
  exact ⟨h, formed⟩

/-- Every operation sends and settles a statement only once and only for itself. -/
theorem step (h : Step s t) (ledger : Ledger endpoint first s) (transit : Transit s)
    (traffic : Traffic endpoint s.history)
    : Traffic endpoint t.history := by
  cases h with
  | drain alive drains =>
    obtain ⟨rfl, rfl⟩ := Prod.mk.inj drains
    exact traffic.drain ledger transit
  | send held unsent sends => exact traffic.send ledger transit held unsent sends
  | refuse held unsent refused =>
    exact traffic.settle ledger transit held rfl (.refused (ledger.asks ▸ refused) (.head _))
  | reply reply held sent =>
    obtain ⟨went, formed⟩ := traffic.sent_of_flight ledger transit held sent
    refine traffic.settle ledger transit held (by rw [sent]; rfl) ?_
    exact .replied formed (.tail _ went) (.head _)
  | useDatabase => exact traffic.quiet trivial
  | submit => exact traffic.quiet trivial
  | finish => exact traffic.quiet trivial
  | receive => exact traffic.quiet trivial
  | dropHandle => exact traffic.quiet trivial
  | dropClient => exact traffic.quiet trivial

end Traffic

-----------------------------------------------------------------------------------------
-- Handles
-----------------------------------------------------------------------------------------

/-- A kept result is the latest thing that a lookup can find. -/
theorem lookup_answer (client : BatchClient) (settled ticket : Nat) (outcome : Outcome)
    : (client.answer settled outcome).answers.lookup ticket
      = (client.answers.lookup ticket).or (if settled = ticket then some outcome else none) := by
  rw [BatchClient.answer, List.lookup_append]
  by_cases same : settled = ticket
  · simp [same]
  · simp [same, List.lookup_cons, beq_false_of_ne (Ne.symm same)]

/-- To forget one result leaves the others, by list induction. -/
theorem lookup_forget (client : BatchClient) {forgotten ticket : Nat} (apart : ticket ≠ forgotten)
    : (client.forget forgotten).answers.lookup ticket = client.answers.lookup ticket := by
  unfold BatchClient.forget
  induction client.answers with
  | nil => rfl
  | cons answer more ih =>
    obtain ⟨other, outcome⟩ := answer
    by_cases same : other = forgotten
    · have passed : (ticket == forgotten) = false := beq_false_of_ne apart
      simpa [List.filter, same, List.lookup_cons, passed] using ih
    · simp only [List.filter, same, ne_eq, not_false_iff, decide_true, List.lookup_cons] at ih ⊢
      rw [ih]

theorem lookup_forget_eq_none {client : BatchClient} {forgotten ticket : Nat}
    (none : client.answers.lookup ticket = none)
    : (client.forget forgotten).answers.lookup ticket = .none := by
  rw [List.lookup_eq_none_iff] at none ⊢
  exact fun answer h => none answer (List.mem_of_mem_filter h)

/-- A handle waits for its own statement and finds its result once there is one. -/
structure Waiting (first : String) (s : Shared) : Prop where
  distinct : (s.handles.map Submitted.ticket).Nodup
  own : ∀ handle ∈ s.handles, ∃ p ∈ s.history.submissions first,
    p.ticket = handle.ticket ∧ p.sql = handle.sql
  answered : ∀ handle ∈ s.handles,
    s.client.answers.lookup handle.ticket = s.history.result? handle.ticket
  unanswered : ∀ ticket, ticket ∉ s.history.drained.map Pending.ticket →
    s.client.answers.lookup ticket = none
  received : ∀ handle outcome, .received handle outcome ∈ s.history →
    s.history.Owed first handle outcome

namespace Waiting

theorem fresh : Waiting first (fresh endpoint first) where
  distinct := .nil
  own := nofun
  answered := nofun
  unanswered _ _ := rfl
  received := nofun

/-- What handles received was owed to them, also after an event that is no receipt. -/
theorem received_cons (waiting : Waiting first s) {event : Event}
    (apart : ∀ handle outcome, event ≠ .received handle outcome)
    (keeps : ∀ ticket outcome, s.history.result? ticket = some outcome →
      History.result? ticket (event :: s.history) = some outcome)
    {handle : Submitted} {outcome : Outcome} (h : .received handle outcome ∈ event :: s.history)
    : History.Owed first (event :: s.history) handle outcome := by
  rcases List.mem_cons.1 h with h | h
  · exact absurd h.symm (apart handle outcome)
  · exact (waiting.received handle outcome h).cons keeps

theorem ticket_lt (waiting : Waiting first s) (ledger : Ledger endpoint first s)
    {handle : Submitted} (held : handle ∈ s.handles)
    : handle.ticket < s.client.issued := by
  obtain ⟨p, submitted, ticket, -⟩ := waiting.own handle held
  have listed := List.mem_map_of_mem (f := Pending.ticket) submitted
  rw [ledger.numbered] at listed
  exact ticket ▸ List.mem_range.1 listed

/-- A new statement has a ticket that no handle has, and no result. -/
theorem submit (waiting : Waiting first s) (ledger : Ledger endpoint first s)
    (transit : Transit s) (sql : String)
    : Waiting first { s with
        client := (s.client.submit sql).2
        handles := (s.client.submit sql).1 :: s.handles
        history := .submitted (s.client.submit sql).1 :: s.history } := by
  have fresh : s.client.issued ∉ s.history.drained.map Pending.ticket := by
    intro h
    have listed : s.client.issued ∈ (s.history.submissions first).map Pending.ticket := by
      rw [ledger.accounted, List.append_assoc, List.map_append]
      exact List.mem_append_left _ h
    rw [ledger.numbered] at listed
    exact Nat.lt_irrefl _ (List.mem_range.1 listed)
  refine ⟨?_, ?_, ?_, waiting.unanswered, ?_⟩
  · refine List.nodup_cons.2 ⟨fun h => ?_, waiting.distinct⟩
    obtain ⟨handle, held, same⟩ := List.mem_map.1 h
    exact Nat.ne_of_lt (waiting.ticket_lt ledger held) same
  · intro handle h
    rcases List.mem_cons.1 h with rfl | h
    · exact ⟨_, List.mem_append_right _ (.head _), rfl, rfl⟩
    · obtain ⟨p, submitted, own⟩ := waiting.own handle h
      exact ⟨p, List.mem_append_left _ submitted, own⟩
  · intro handle h
    rcases List.mem_cons.1 h with rfl | h
    · exact (waiting.unanswered _ fresh).trans (transit.untouched _ fresh).2.symm
    · exact waiting.answered handle h
  · exact fun _ _ => waiting.received_cons (fun _ _ => by nofun) fun _ _ => id

/-- The result of a statement reaches its own handle, as long as somebody waits. -/
theorem settle (waiting : Waiting first s) (transit : Transit s) {f : Flight} (held : f ∈ s.flights)
    {answer : Except Error Http.Reply} {outcome : Outcome}
    (gives : History.outcome? f.request answer = some outcome)
    : Waiting first (s.settle f answer outcome) := by
  have result := transit.result?_settle held gives
  refine ⟨waiting.distinct, waiting.own, ?_, ?_, ?_⟩
  · intro handle h
    refine (lookup_answer s.client f.ticket handle.ticket outcome).trans ?_
    rw [waiting.answered handle h]
    refine Eq.trans ?_ (result handle.ticket).symm
    split
    · rename_i same
      rw [← same, transit.unsettled f held]
      rfl
    · exact Option.or_none
  · intro ticket h
    refine (lookup_answer s.client f.ticket ticket outcome).trans ?_
    have apart : f.ticket ≠ ticket := by
      rintro rfl
      exact h (transit.ticket_mem held)
    rw [waiting.unanswered ticket h, if_neg apart]
    rfl
  · refine fun _ _ => waiting.received_cons (fun _ _ => by nofun) fun ticket earlier was => ?_
    rw [result, if_neg ?_]
    · exact was
    · rintro rfl
      exact absurd (was.symm.trans (transit.unsettled f held)) nofun

/-- What a handle gets once nothing is to come for it is owed to it. -/
theorem owed (waiting : Waiting first s) (ledger : Ledger endpoint first s) (transit : Transit s)
    {handle : Submitted} (held : handle ∈ s.handles) (closed : ¬ s.IsOpen handle.ticket)
    : s.history.Owed first handle (s.client.result handle) := by
  obtain ⟨p, submitted, ticket, sql⟩ := waiting.own handle held
  have kept := submitted
  rw [ledger.accounted] at kept
  rcases List.mem_append.1 kept with left | queued
  · rcases List.mem_append.1 left with drained | discarded
    · obtain ⟨call, called⟩ := History.exists_drainedBy drained
      rcases transit.landed call p called with ⟨f, on, -, rfl⟩ | settled
      · exact absurd (.inr ⟨f, on, ticket⟩) closed
      · obtain ⟨outcome, settled⟩ := Option.isSome_iff_exists.1 settled
        have result : s.client.result handle = outcome := by
          rw [BatchClient.result, waiting.answered handle held, ← ticket, settled]
          rfl
        rw [result]
        exact .result submitted ticket sql drained settled
    · have apart := ledger.drained_apart (List.mem_append_left _ discarded)
      have result : s.client.result handle = .error (.notExecuted p.sql) := by
        rw [BatchClient.result, ← ticket, waiting.unanswered _ apart, sql]
        rfl
      rw [result]
      exact .discarded submitted ticket sql discarded
  · exact absurd (.inl ⟨p, queued, ticket⟩) closed

/-- The others wait as before when a handle is released. -/
theorem release (waiting : Waiting first s) {handle : Submitted} (held : handle ∈ s.handles)
    {event : Event} (quiet : event.IsQuiet)
    (received : ∀ handle outcome, .received handle outcome ∈ event :: s.history →
      History.Owed first (event :: s.history) handle outcome)
    : Waiting first (s.release handle event) := by
  refine ⟨nodup_keys_erase waiting.distinct, ?_, ?_, ?_, received⟩
  · intro other h
    obtain ⟨p, submitted, own⟩ := waiting.own other (List.mem_of_mem_erase h)
    exact ⟨p, History.mem_submissions_cons submitted, own⟩
  · intro other h
    have apart : other.ticket ≠ handle.ticket := fun same =>
      key_notMem_erase waiting.distinct held (same ▸ List.mem_map_of_mem h)
    refine (lookup_forget s.client apart).trans ?_
    refine (waiting.answered other (List.mem_of_mem_erase h)).trans ?_
    exact (History.result?_quiet quiet _).symm
  · intro ticket h
    refine lookup_forget_eq_none (waiting.unanswered ticket fun before => h ?_)
    obtain ⟨p, drained, rfl⟩ := List.mem_map.1 before
    exact List.mem_map_of_mem (History.mem_drained_cons drained)

/-- Every operation leaves each handle with its own statement. -/
theorem step (h : Step s t) (ledger : Ledger endpoint first s) (transit : Transit s)
    (waiting : Waiting first s)
    : Waiting first t := by
  have same := waiting
  obtain ⟨distinct, own, answered, unanswered, -⟩ := same
  cases h with
  | submit sql alive submits =>
    obtain ⟨rfl, rfl⟩ := Prod.mk.inj submits
    exact waiting.submit ledger transit sql
  | drain alive drains =>
    obtain ⟨rfl, rfl⟩ := Prod.mk.inj drains
    refine ⟨distinct, own, answered, fun ticket h => unanswered ticket fun before => h ?_, ?_⟩
    · obtain ⟨p, drained, rfl⟩ := List.mem_map.1 before
      exact List.mem_map_of_mem (History.mem_drained_cons drained)
    · exact fun _ _ => waiting.received_cons (fun _ _ => by nofun) fun _ _ => id
  | refuse held => exact waiting.settle transit held rfl
  | reply reply held sent => exact waiting.settle transit held (by rw [sent]; rfl)
  | receive held closed =>
    refine waiting.release held trivial fun handle outcome h => ?_
    rcases List.mem_cons.1 h with h | h
    · cases h
      exact (waiting.owed ledger transit held closed).cons fun _ _ => id
    · exact (waiting.received handle outcome h).cons fun _ _ => id
  | dropHandle held =>
    refine waiting.release held trivial ?_
    exact fun _ _ => waiting.received_cons (fun _ _ => by nofun) fun _ _ => id
  | useDatabase =>
    refine ⟨distinct, own, answered, unanswered, ?_⟩
    exact fun _ _ => waiting.received_cons (fun _ _ => by nofun) fun _ _ => id
  | send =>
    refine ⟨distinct, own, answered, unanswered, ?_⟩
    exact fun _ _ => waiting.received_cons (fun _ _ => by nofun) fun _ _ => id
  | finish =>
    refine ⟨distinct, own, answered, unanswered, ?_⟩
    exact fun _ _ => waiting.received_cons (fun _ _ => by nofun) fun _ _ => id
  | dropClient =>
    refine ⟨distinct, own, answered, unanswered, ?_⟩
    exact fun _ _ => waiting.received_cons (fun _ _ => by nofun) fun _ _ => id

end Waiting

end Shared

end ColumnStore.Queue
