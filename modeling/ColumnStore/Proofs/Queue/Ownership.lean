import ColumnStore.Proofs.Queue.Sharing

/-! Each submitted statement has one owner: the queue, the call that drained it, or none once it was
settled or went with its client. Every operation hands statements on without losing or doubling one.
-/

namespace ColumnStore.Queue

-----------------------------------------------------------------------------------------
-- Lists without two elements of one key
-----------------------------------------------------------------------------------------

section

variable {α β : Type} [BEq α] {key : α → β} {a : α} {list : List α}

theorem nodup_keys_erase (distinct : (list.map key).Nodup)
    : ((list.erase a).map key).Nodup :=
  distinct.sublist (List.erase_sublist.map key)

theorem key_notMem_erase [LawfulBEq α] (distinct : (list.map key).Nodup) (member : a ∈ list)
    : key a ∉ (list.erase a).map key := by
  intro h
  obtain ⟨b, remains, same⟩ := List.mem_map.1 h
  obtain rfl := List.inj_on_of_nodup_map distinct (List.mem_of_mem_erase remains) member same
  exact (List.Nodup.of_map key distinct).not_mem_erase remains

end

namespace Shared

variable {endpoint : Endpoint} {first : String} {s t : Shared}

-----------------------------------------------------------------------------------------
-- The queue
-----------------------------------------------------------------------------------------

/-- The queue agrees with what was submitted and with what left it. -/
structure Ledger (endpoint : Endpoint) (first : String) (s : Shared) : Prop where
  asks : s.client.endpoint = endpoint
  current : s.client.database = s.history.database first
  accounted : s.history.submissions first
    = s.history.drained ++ s.history.discarded ++ s.client.pending
  numbered : (s.history.submissions first).map Pending.ticket = List.range s.client.issued
  kept : s.isDropped = false → s.history.discarded = []

theorem Ledger.fresh : Ledger endpoint first (fresh endpoint first) where
  asks := rfl
  current := rfl
  accounted := rfl
  numbered := rfl
  kept _ := rfl

/-- Every operation keeps the ledger. Only four of them write to it: a submission takes the next
ticket, a drain and the end of the client empty the queue, and the database is that of the moment.
-/
theorem Ledger.step (h : Step s t) (ledger : Ledger endpoint first s) : Ledger endpoint first t := by
  obtain ⟨asks, current, accounted, numbered, kept⟩ := ledger
  cases h with
  | useDatabase database alive => exact ⟨asks, rfl, accounted, numbered, kept⟩
  | submit sql alive submits =>
    obtain ⟨rfl, rfl⟩ := Prod.mk.inj submits
    refine ⟨asks, current, ?_, ?_, kept⟩
    · simp [History.submissions, History.drained, History.discarded, accounted, current]
    · simp [History.submissions, numbered, List.range_succ]
  | drain alive drains =>
    obtain ⟨rfl, rfl⟩ := Prod.mk.inj drains
    refine ⟨asks, current, ?_, numbered, kept⟩
    simp [History.submissions, History.drained, History.discarded, accounted, kept alive]
  | send => exact ⟨asks, current, accounted, numbered, kept⟩
  | refuse => exact ⟨asks, current, accounted, numbered, kept⟩
  | reply => exact ⟨asks, current, accounted, numbered, kept⟩
  | finish => exact ⟨asks, current, accounted, numbered, kept⟩
  | receive => exact ⟨asks, current, accounted, numbered, kept⟩
  | dropHandle => exact ⟨asks, current, accounted, numbered, kept⟩
  | dropClient alive idle =>
    refine ⟨asks, current, ?_, numbered, nofun⟩
    simp [History.submissions, History.drained, History.discarded, BatchClient.discard, accounted]

theorem Ledger.distinct (ledger : Ledger endpoint first s)
    : ((s.history.submissions first).map Pending.ticket).Nodup := by
  rw [ledger.numbered]
  exact List.nodup_range

/-- A ticket names one statement. -/
theorem Ledger.eq_of_ticket (ledger : Ledger endpoint first s) {p q : Pending}
    (hp : p ∈ s.history.submissions first) (hq : q ∈ s.history.submissions first)
    (same : p.ticket = q.ticket)
    : p = q :=
  List.inj_on_of_nodup_map ledger.distinct hp hq same

theorem Ledger.mem_of_drainedBy (ledger : Ledger endpoint first s) {call : Nat} {p : Pending}
    (h : p ∈ s.history.drainedBy call)
    : p ∈ s.history.submissions first := by
  rw [ledger.accounted]
  exact List.mem_append_left _ (List.mem_append_left _ (History.mem_drained_of_mem_drainedBy h))

theorem Ledger.nodup_drained (ledger : Ledger endpoint first s)
    : (s.history.drained.map Pending.ticket).Nodup := by
  have distinct := ledger.distinct
  rw [ledger.accounted, List.append_assoc, List.map_append] at distinct
  exact (List.nodup_append.1 distinct).1

theorem Ledger.nodup_pending (ledger : Ledger endpoint first s)
    : (s.client.pending.map Pending.ticket).Nodup := by
  have distinct := ledger.distinct
  rw [ledger.accounted, List.map_append] at distinct
  exact (List.nodup_append.1 distinct).2.1

/-- What was drained is neither in the queue nor discarded. -/
theorem Ledger.drained_apart (ledger : Ledger endpoint first s) {p : Pending}
    (h : p ∈ s.history.discarded ++ s.client.pending)
    : p.ticket ∉ s.history.drained.map Pending.ticket := by
  have distinct := ledger.distinct
  rw [ledger.accounted, List.append_assoc, List.map_append] at distinct
  exact fun drained =>
    List.disjoint_of_nodup_append distinct drained (List.mem_map_of_mem h)

-----------------------------------------------------------------------------------------
-- The calls
-----------------------------------------------------------------------------------------

/-- The calls, those that run and those that returned, count what they drained. -/
structure Calls (s : Shared) : Prop where
  later : ∀ call, s.calls ≤ call → s.history.drainedBy call = []
  running : ∀ r ∈ s.running, r.1 < s.calls ∧ r.2 = (s.history.drainedBy r.1).length
  distinct : (s.running.map Prod.fst).Nodup
  returned : ∀ r ∈ s.history.finishes,
    r.1 < s.calls ∧ r.1 ∉ s.running.map Prod.fst ∧ r.2 = (s.history.drainedBy r.1).length
  once : (s.history.finishes.map Prod.fst).Nodup

theorem Calls.fresh : Calls (fresh endpoint first) where
  later _ _ := rfl
  running := nofun
  distinct := .nil
  returned := nofun
  once := .nil

/-- A drain leaves the statements of earlier calls as they are. -/
theorem drainedBy_of_lt {statements : List Pending} {call : Nat} (early : call < s.calls)
    : History.drainedBy call (.drained s.calls statements :: s.history)
      = s.history.drainedBy call := by
  rw [History.drainedBy, if_neg (Nat.ne_of_gt early)]

/-- Every operation keeps the count of the calls. Only a drain begins one, under the next number,
and only a return ends one.
-/
theorem Calls.step (h : Step s t) (calls : Calls s) : Calls t := by
  obtain ⟨later, running, distinct, returned, once⟩ := calls
  cases h with
  | @drain statements client alive drains =>
    have apart {call : Nat} (known : call < s.calls) : call ≠ s.calls := Nat.ne_of_lt known
    refine ⟨?_, ?_, ?_, ?_, once⟩
    · intro call unknown
      have beyond : s.calls < call := unknown
      rw [History.drainedBy, if_neg (Nat.ne_of_lt beyond)]
      exact later call (Nat.le_of_lt beyond)
    · intro r h
      rcases List.mem_cons.1 h with rfl | h
      · exact ⟨Nat.lt_succ_self _, by simp [History.drainedBy, later s.calls (Nat.le_refl _)]⟩
      · obtain ⟨known, counted⟩ := running r h
        exact ⟨Nat.lt_succ_of_lt known, by rw [drainedBy_of_lt known, counted]⟩
    · refine List.nodup_cons.2 ⟨fun h => ?_, distinct⟩
      obtain ⟨r, h, same⟩ := List.mem_map.1 h
      exact apart (running r h).1 same
    · intro r h
      obtain ⟨known, ended, counted⟩ := returned r h
      refine ⟨Nat.lt_succ_of_lt known, ?_, by rw [drainedBy_of_lt known, counted]⟩
      exact fun h => (List.mem_cons.1 h).elim (apart known) ended
  | @finish call count runs settled =>
    refine ⟨later, fun r h => running r (List.mem_of_mem_erase h), nodup_keys_erase distinct, ?_, ?_⟩
    · intro r h
      rcases List.mem_cons.1 h with rfl | h
      · obtain ⟨known, counted⟩ := running _ runs
        exact ⟨known, key_notMem_erase distinct runs, counted⟩
      · obtain ⟨known, ended, counted⟩ := returned r h
        exact ⟨known, fun h => ended ((List.erase_sublist.map _).subset h), counted⟩
    · refine List.nodup_cons.2 ⟨fun h => ?_, once⟩
      obtain ⟨r, h, same⟩ := List.mem_map.1 h
      exact (returned r h).2.1 (same ▸ List.mem_map_of_mem runs)
  | useDatabase => exact ⟨later, running, distinct, returned, once⟩
  | submit => exact ⟨later, running, distinct, returned, once⟩
  | send => exact ⟨later, running, distinct, returned, once⟩
  | refuse => exact ⟨later, running, distinct, returned, once⟩
  | reply => exact ⟨later, running, distinct, returned, once⟩
  | receive => exact ⟨later, running, distinct, returned, once⟩
  | dropHandle => exact ⟨later, running, distinct, returned, once⟩
  | dropClient => exact ⟨later, running, distinct, returned, once⟩

-----------------------------------------------------------------------------------------
-- The statements on their way
-----------------------------------------------------------------------------------------

/-- What was drained is on its way or has a result, never both. -/
structure Transit (s : Shared) : Prop where
  distinct : (s.flights.map Flight.ticket).Nodup
  called : ∀ f ∈ s.flights, f.call ∈ s.running.map Prod.fst
  drained : ∀ f ∈ s.flights, f.statement ∈ s.history.drainedBy f.call
  request : ∀ f ∈ s.flights, s.history.request? f.ticket = f.request
  unsettled : ∀ f ∈ s.flights, s.history.result? f.ticket = none
  landed : ∀ call, ∀ p ∈ s.history.drainedBy call,
    (∃ f ∈ s.flights, f.call = call ∧ f.statement = p) ∨ (s.history.result? p.ticket).isSome
  untouched : ∀ ticket, ticket ∉ s.history.drained.map Pending.ticket →
    s.history.request? ticket = none ∧ s.history.result? ticket = none

namespace Transit

theorem fresh : Transit (fresh endpoint first) where
  distinct := .nil
  called := nofun
  drained := nofun
  request := nofun
  unsettled := nofun
  landed := nofun
  untouched _ _ := ⟨rfl, rfl⟩

theorem ticket_mem (transit : Transit s) {f : Flight} (held : f ∈ s.flights)
    : f.ticket ∈ s.history.drained.map Pending.ticket :=
  List.mem_map_of_mem (History.mem_drained_of_mem_drainedBy (transit.drained f held))

theorem ticket_ne (transit : Transit s) {f g : Flight} (held : f ∈ s.flights)
    (other : g ∈ s.flights.erase f)
    : f.ticket ≠ g.ticket := by
  intro same
  exact key_notMem_erase transit.distinct held (same ▸ List.mem_map_of_mem other)

/-- A settled statement has its result, and the others have theirs. -/
theorem result?_settle (transit : Transit s) {f : Flight} (held : f ∈ s.flights)
    {answer : Except Error Http.Reply} {outcome : Outcome}
    (gives : History.outcome? f.request answer = some outcome) (ticket : Nat)
    : History.result? ticket (.settled f.call f.ticket answer :: s.history)
      = if f.ticket = ticket then some outcome else s.history.result? ticket := by
  rw [History.result?]
  split
  · rename_i same
    rw [← same, transit.request f held, gives]
  · rfl

/-- A settled statement is no longer on its way, and has its result from then on. -/
theorem settle (transit : Transit s) {f : Flight} (held : f ∈ s.flights)
    {answer : Except Error Http.Reply} {outcome : Outcome}
    (gives : History.outcome? f.request answer = some outcome)
    : Transit (s.settle f answer outcome) := by
  have result (ticket : Nat)
      : (s.settle f answer outcome).history.result? ticket
        = if f.ticket = ticket then some outcome else s.history.result? ticket :=
    transit.result?_settle held gives ticket
  refine ⟨nodup_keys_erase transit.distinct, ?_, ?_, ?_, ?_, ?_, ?_⟩
  · exact fun g h => transit.called g (List.mem_of_mem_erase h)
  · exact fun g h => transit.drained g (List.mem_of_mem_erase h)
  · exact fun g h => transit.request g (List.mem_of_mem_erase h)
  · intro g h
    rw [result, if_neg (transit.ticket_ne held h)]
    exact transit.unsettled g (List.mem_of_mem_erase h)
  · intro call p h
    rw [result]
    by_cases same : f.ticket = p.ticket
    · simp [same]
    · rw [if_neg same]
      refine (transit.landed call p h).imp_left ?_
      rintro ⟨g, on, called, rfl⟩
      refine ⟨g, (List.mem_erase_of_ne ?_).2 on, called, rfl⟩
      rintro rfl
      exact same rfl
  · intro ticket h
    have apart : f.ticket ≠ ticket := by
      rintro rfl
      exact h (transit.ticket_mem held)
    rw [result, if_neg apart]
    exact transit.untouched ticket h

/-- Sending moves a statement on, and nothing else. -/
theorem send (transit : Transit s) {f : Flight} (held : f ∈ s.flights) (request : Http.Request)
    : Transit { s with
        flights := { f with request } :: s.flights.erase f
        history := .sent f.call f.ticket request :: s.history } := by
  have found {ticket : Nat} (apart : f.ticket ≠ ticket)
      : History.request? ticket (.sent f.call f.ticket request :: s.history)
        = s.history.request? ticket := by
    rw [History.request?, if_neg apart]
  refine ⟨?_, ?_, ?_, ?_, ?_, ?_, ?_⟩
  · exact List.nodup_cons.2
      ⟨key_notMem_erase transit.distinct held, nodup_keys_erase transit.distinct⟩
  · intro g h
    rcases List.mem_cons.1 h with rfl | h
    · exact transit.called f held
    · exact transit.called g (List.mem_of_mem_erase h)
  · intro g h
    rcases List.mem_cons.1 h with rfl | h
    · exact transit.drained f held
    · exact transit.drained g (List.mem_of_mem_erase h)
  · intro g h
    rcases List.mem_cons.1 h with rfl | h
    · exact if_pos rfl
    · rw [found (transit.ticket_ne held h)]
      exact transit.request g (List.mem_of_mem_erase h)
  · intro g h
    rcases List.mem_cons.1 h with rfl | h
    · exact transit.unsettled f held
    · exact transit.unsettled g (List.mem_of_mem_erase h)
  · intro call p h
    refine (transit.landed call p h).imp_left ?_
    rintro ⟨g, on, called, rfl⟩
    by_cases same : g = f
    · subst same
      exact ⟨_, .head _, called, rfl⟩
    · exact ⟨g, .tail _ ((List.mem_erase_of_ne same).2 on), called, rfl⟩
  · intro ticket h
    have apart : f.ticket ≠ ticket := by
      rintro rfl
      exact h (transit.ticket_mem held)
    rw [found apart]
    exact transit.untouched ticket h

/-- The drained statements set out together. They were in the queue, so none is on its way already
and none was settled.
-/
theorem drain (transit : Transit s) (ledger : Ledger endpoint first s)
    : Transit { s with
        client := s.client.drain.2
        calls := s.calls + 1
        running := (s.calls, s.client.pending.length) :: s.running
        flights := s.client.pending.map (Flight.mk s.calls · none) ++ s.flights
        history := .drained s.calls s.client.pending :: s.history } := by
  have queued {p : Pending} (h : p ∈ s.client.pending)
      : p.ticket ∉ s.history.drained.map Pending.ticket :=
    ledger.drained_apart (List.mem_append_right _ h)
  have departs {f : Flight}
      (h : f ∈ s.client.pending.map (Flight.mk s.calls · none) ++ s.flights)
      : (∃ p ∈ s.client.pending, f = ⟨s.calls, p, none⟩) ∨ f ∈ s.flights := by
    refine (List.mem_append.1 h).imp_left fun h => ?_
    obtain ⟨p, hp, rfl⟩ := List.mem_map.1 h
    exact ⟨p, hp, rfl⟩
  refine ⟨?_, ?_, ?_, ?_, ?_, ?_, ?_⟩
  · have tickets : (s.client.pending.map (Flight.mk s.calls · none) ++ s.flights).map Flight.ticket
        = s.client.pending.map Pending.ticket ++ s.flights.map Flight.ticket := by
      rw [List.map_append, List.map_map]
      rfl
    change ((s.client.pending.map (Flight.mk s.calls · none) ++ s.flights).map Flight.ticket).Nodup
    rw [tickets]
    refine List.nodup_append'.2 ⟨ledger.nodup_pending, transit.distinct, ?_⟩
    intro ticket waits flies
    obtain ⟨p, hp, rfl⟩ := List.mem_map.1 waits
    obtain ⟨f, held, same⟩ := List.mem_map.1 flies
    exact queued hp (same ▸ transit.ticket_mem held)
  · intro f h
    rcases departs h with ⟨p, hp, rfl⟩ | h
    · exact .head _
    · exact .tail _ (transit.called f h)
  · intro f h
    rcases departs h with ⟨p, hp, rfl⟩ | h
    · exact History.mem_drainedBy_drained.2 (.inr ⟨rfl, hp⟩)
    · exact History.mem_drainedBy_drained.2 (.inl (transit.drained f h))
  · intro f h
    rcases departs h with ⟨p, hp, rfl⟩ | h
    · exact (transit.untouched _ (queued hp)).1
    · exact transit.request f h
  · intro f h
    rcases departs h with ⟨p, hp, rfl⟩ | h
    · exact (transit.untouched _ (queued hp)).2
    · exact transit.unsettled f h
  · intro call p h
    rcases History.mem_drainedBy_drained.1 h with h | ⟨rfl, hp⟩
    · refine (transit.landed call p h).imp_left ?_
      rintro ⟨f, on, called⟩
      exact ⟨f, List.mem_append_right _ on, called⟩
    · exact .inl ⟨_, List.mem_append_left _ (List.mem_map_of_mem hp), rfl, rfl⟩
  · intro ticket h
    refine transit.untouched ticket fun drained => h ?_
    rw [History.drained, List.map_append]
    exact List.mem_append_left _ drained

/-- A call that returns has nothing on its way, so what is on its way belongs to the others. -/
theorem finish (transit : Transit s) {call count : Nat}
    (settled : ∀ f ∈ s.flights, f.call ≠ call)
    : Transit { s with
        running := s.running.erase (call, count)
        history := .finished call count :: s.history } := by
  obtain ⟨distinct, called, drained, request, unsettled, landed, untouched⟩ := transit
  refine ⟨distinct, ?_, drained, request, unsettled, landed, untouched⟩
  intro f held
  obtain ⟨r, runs, same⟩ := List.mem_map.1 (called f held)
  refine List.mem_map.2 ⟨r, (List.mem_erase_of_ne ?_).2 runs, same⟩
  rintro rfl
  exact settled f held same.symm

/-- Every operation keeps each drained statement on its way or with a result. -/
theorem step (h : Step s t) (ledger : Ledger endpoint first s) (transit : Transit s)
    : Transit t := by
  have same := transit
  obtain ⟨distinct, called, drained, request, unsettled, landed, untouched⟩ := same
  cases h with
  | drain alive drains =>
    obtain ⟨rfl, rfl⟩ := Prod.mk.inj drains
    exact transit.drain ledger
  | send held => exact transit.send held _
  | refuse held => exact transit.settle held rfl
  | reply reply held sent => exact transit.settle held (by rw [sent]; rfl)
  | finish runs settled => exact transit.finish settled
  | useDatabase => exact ⟨distinct, called, drained, request, unsettled, landed, untouched⟩
  | submit => exact ⟨distinct, called, drained, request, unsettled, landed, untouched⟩
  | receive => exact ⟨distinct, called, drained, request, unsettled, landed, untouched⟩
  | dropHandle => exact ⟨distinct, called, drained, request, unsettled, landed, untouched⟩
  | dropClient => exact ⟨distinct, called, drained, request, unsettled, landed, untouched⟩

end Transit

end Shared

end ColumnStore.Queue
