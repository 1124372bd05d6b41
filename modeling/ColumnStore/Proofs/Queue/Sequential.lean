import Mathlib.Logic.Relation
import ColumnStore.Proofs.Queue.Faithfulness

/-! A call that runs without others in between takes the same operations as one among many, one
statement after another. So its run is one of the interleavings, and what holds of all holds of it.
-/

namespace ColumnStore.Queue

/-- All requests of a history, oldest first. -/
def History.requests : History → List Http.Request
  | [] => []
  | .sent _ _ request :: earlier => History.requests earlier ++ [request]
  | _ :: earlier => History.requests earlier

namespace Shared

open Relation (ReflTransGen)

variable {endpoint : Endpoint} {first : String} {s t : Shared}

theorem Reachable.steps (reached : Reachable endpoint first s) (h : ReflTransGen Step s t)
    : Reachable endpoint first t := by
  induction h with
  | refl => exact reached
  | tail _ step ih => exact ih.step step

/-- One drained statement is executed by sending it and settling it, or by refusing it. -/
theorem steps_execute (server : Http.Server) (log : List Http.Exchange) {f : Flight}
    {others : List Flight} (flights : s.flights = f :: others) (unsent : f.request = none)
    : ∃ client history new,
      ReflTransGen Step s { s with client, flights := others, history }
      ∧ s.client.execute f.statement server log = (client, log ++ new)
      ∧ history.requests = s.history.requests ++ new.map (·.request) := by
  have held : f ∈ s.flights := flights ▸ List.mem_cons_self
  have left : s.flights.erase f = others := by rw [flights, List.erase_cons_head]
  cases formed : s.outgoing f with
  | error refusal =>
    have run : s.client.execute f.statement server log
        = (s.client.answer f.ticket (.error refusal), log ++ []) := by
      rw [BatchClient.execute_eq, ← outgoing, formed, List.append_nil]
      rfl
    refine ⟨_, .settled f.call f.ticket (.error refusal) :: s.history, [], .single ?_, run,
      (List.append_nil _).symm⟩
    rw [← left]
    exact .refuse held unsent formed
  | ok request =>
    let reply := server (log.map (·.request)) request
    have run : s.client.execute f.statement server log
        = (s.client.answer f.ticket (BatchClient.outcome request reply),
            log ++ [⟨request, reply⟩]) := by
      rw [BatchClient.execute_eq, ← outgoing, formed]
      rfl
    refine ⟨_, .settled f.call f.ticket (.ok reply) :: .sent f.call f.ticket request :: s.history,
      [⟨request, reply⟩], .tail (.single (.send held unsent formed)) ?_, run, rfl⟩
    have settles := @Step.reply
      { s with
        flights := { f with request := some request } :: s.flights.erase f
        history := .sent f.call f.ticket request :: s.history }
      { f with request := some request } request reply (.head _) rfl
    rw [settle, List.erase_cons_head, left] at settles
    rw [left]
    exact settles

/-- The drained statements of a call are executed one after another, by list induction. -/
theorem steps_foldlM_execute (server : Http.Server) {call : Nat} {others : List Flight}
    (statements : List Pending)
    : ∀ (s : Shared) (log : List Http.Exchange),
      s.flights = statements.map (Flight.mk call · none) ++ others →
      ∃ client history new,
        ReflTransGen Step s { s with client, flights := others, history }
        ∧ statements.foldlM BatchClient.execute s.client server log = (client, log ++ new)
        ∧ history.requests = s.history.requests ++ new.map (·.request) := by
  induction statements with
  | nil =>
    intro s log flights
    obtain rfl : s.flights = others := flights
    exact ⟨s.client, s.history, [], .refl, by rw [List.append_nil]; rfl, by simp⟩
  | cons p more ih =>
    intro s log flights
    obtain ⟨client, history, new, path, run, requests⟩ :=
      steps_execute server log flights rfl
    obtain ⟨last, history', new', path', run', requests'⟩ := ih
      { s with client, flights := more.map (Flight.mk call · none) ++ others, history }
      (log ++ new) rfl
    refine ⟨last, history', new ++ new', path.trans path', ?_, ?_⟩
    · have both : (p :: more).foldlM BatchClient.execute s.client server log
          = more.foldlM BatchClient.execute (s.client.execute p server log).1 server
              (s.client.execute p server log).2 := rfl
      rw [both, run, ← List.append_assoc]
      exact run'
    · rw [requests', requests, List.map_append, List.append_assoc]

/-- A call that runs alone is one of the interleavings: it ends at a client that operations reach,
returns the number of that end, and asks the server just what the history says.
-/
theorem steps_executePending (reached : Reachable endpoint first s) (alive : s.isDropped = false)
    (server : Http.Server) (log : List Http.Exchange)
    : ∃ t count new,
      ReflTransGen Step s t
      ∧ s.client.executePending server log = ((count, t.client), log ++ new)
      ∧ (s.calls, count) ∈ t.history.finishes
      ∧ t.history.requests = s.history.requests ++ new.map (·.request)
      ∧ t.flights = s.flights ∧ t.running = s.running ∧ t.handles = s.handles := by
  have owned := reached.owned
  obtain ⟨client, history, new, path, run, requests⟩ :=
    steps_foldlM_execute server s.client.pending
      { s with
        client := s.client.drain.2
        calls := s.calls + 1
        running := (s.calls, s.client.pending.length) :: s.running
        flights := s.client.pending.map (Flight.mk s.calls · none) ++ s.flights
        history := .drained s.calls s.client.pending :: s.history }
      log rfl
  have others : ∀ f ∈ s.flights, f.call ≠ s.calls := by
    intro f held
    obtain ⟨r, runs, same⟩ := List.mem_map.1 (owned.transit.called f held)
    exact same ▸ Nat.ne_of_lt (owned.calls.running r runs).1
  have ends := path.head (.drain alive rfl)
  have returns := ends.tail (.finish (.head _) others)
  refine ⟨_, s.client.pending.length, new, returns, ?_, .head _, requests, rfl, ?_, rfl⟩
  · have whole : s.client.executePending server log
        = ((s.client.pending.length,
            (s.client.pending.foldlM BatchClient.execute s.client.drain.2 server log).1),
          (s.client.pending.foldlM BatchClient.execute s.client.drain.2 server log).2) := rfl
    rw [whole, run]
  · exact List.erase_cons_head ..

end Shared

end ColumnStore.Queue
