import ColumnStore.Connection.Tables
import ColumnStore.Proofs.Connection.Asking

/-! A run stops at its first failure. This holds of a statement, whichever way it goes, and of runs one
after the other; so it holds of every run that is put together from statements.
-/

namespace ColumnStore.Connection

variable {c : Connection}

-----------------------------------------------------------------------------------------
-- Where a run stops
-----------------------------------------------------------------------------------------

variable {α β : Type} {Counts : String → Prop} {Refused : Error → Prop}

/-- A run that stops at its first failure, told from what it gives and from what it adds to the log.
Before it asks anything it may be refused with some errors.
-/
structure Stops (c : Connection) (Counts : String → Prop) (Refused : Error → Prop)
    (result : Except Error α) (new : List Http.Exchange) : Prop where
  /-- Nothing is sent after a request that fails, and its failure is the result. -/
  stopped
    : ∀ before x after e, new = before ++ x :: after → c.Fails Counts x e →
        after = [] ∧ result = .error e
  /-- A failure is that of the last request, unless no request could go out. -/
  caused
    : ∀ e, result = .error e →
        Refused e ∨ c.Unsent e ∨ ∃ before x, new = before ++ [x] ∧ c.Fails Counts x e
  /-- In batch mode a ping that was well answered stands right before every statement. -/
  opened
    : c.config.mode = .batch → ∀ before x after, new = before ++ x :: after →
        x.request.method = .post → ∃ front ping, before = front ++ [ping] ∧ c.Opening [ping]

/-- Runs that stop at their first failures do so one after the other. -/
theorem Stops.append {a : α} {result : Except Error β} {one two : List Http.Exchange}
    (first : c.Stops Counts Refused (.ok a) one) (second : c.Stops Counts Refused result two)
    : c.Stops Counts Refused result (one ++ two) where
  stopped := by
    intro before x after e place fails
    rcases Text.append_eq_append_cons place with ⟨more, here, -⟩ | ⟨front, -, here⟩
    · nomatch (first.stopped before x more e here fails).2
    · exact second.stopped front x after e here fails
  caused := by
    intro e failed
    refine (second.caused e failed).imp id (.imp id fun ⟨before, x, here, fails⟩ => ?_)
    exact ⟨one ++ before, x, by rw [here, List.append_assoc], fails⟩
  opened := by
    intro mode before x after place statement
    rcases Text.append_eq_append_cons place with ⟨more, here, -⟩ | ⟨front, rfl, here⟩
    · exact first.opened mode before x more here statement
    · obtain ⟨earlier, ping, rfl, opening⟩ := second.opened mode front x after here statement
      exact ⟨one ++ earlier, ping, (List.append_assoc _ _ _).symm, opening⟩

/-- A run that fails gives nothing else, whatever it was to give. -/
theorem Stops.failed {e : Error} {new : List Http.Exchange}
    (h : c.Stops Counts Refused (.error e : Except Error α) new)
    : c.Stops Counts Refused (.error e : Except Error β) new where
  stopped := by
    intro before x after f place fails
    obtain ⟨last, same⟩ := h.stopped before x after f place fails
    exact ⟨last, by rw [Except.error.inj same]⟩
  caused := fun f failed => h.caused f (by rw [Except.error.inj failed])
  opened := h.opened

/-- A run that succeeds had no request that fails. -/
theorem Stops.succeeded {a : α} {new : List Http.Exchange}
    (h : c.Stops Counts Refused (.ok a) new)
    : ∀ x ∈ new, ∀ e, ¬ c.Fails Counts x e := by
  intro x member e fails
  obtain ⟨before, after, place⟩ := List.append_of_mem member
  nomatch (h.stopped before x after e place fails).2

/-- A ping that does not fail: nothing hinders a run to go on from it, or to end there. -/
def Calm (c : Connection) (Counts : String → Prop) (x : Http.Exchange) : Prop :=
  x.request.method = .get ∧ ∀ e, ¬ c.Fails Counts x e

theorem Opening.calm {opening : List Http.Exchange} (h : c.Opening opening)
    : ∀ x ∈ opening, c.Calm Counts x := by
  cases h with
  | streaming => exact List.forall_mem_nil _
  | batch mode named pong =>
    intro x member
    obtain rfl := List.mem_singleton.1 member
    refine ⟨rfl, fun e fails => ?_⟩
    have heard := (fails_ping_iff rfl).1 fails
    simp [Endpoint.pinged, Http.Reply.received, pingFault?_eq_none_iff.2 pong] at heard

/-- A run that has not come to a statement. -/
theorem Stops.quiet {result : Except Error α} {new : List Http.Exchange}
    (calm : ∀ x ∈ new, c.Calm Counts x)
    (refused : ∀ e, result = .error e → Refused e ∨ c.Unsent e)
    : c.Stops Counts Refused result new where
  stopped := by
    rintro before x after e rfl fails
    exact absurd fails ((calm x (by simp)).2 e)
  caused := fun e failed => (refused e failed).imp id .inl
  opened := by
    rintro - before x after rfl statement
    cases (calm x (by simp)).1.symm.trans statement

/-- A run whose last request is the first that may have failed. -/
theorem Stops.last {result : Except Error α} {front : List Http.Exchange} {x : Http.Exchange}
    (calm : ∀ y ∈ front, c.Calm Counts y) (fails : ∀ e, c.Fails Counts x e ↔ result = .error e)
    (opened : c.config.mode = .batch → x.request.method = .post →
      ∃ earlier ping, front = earlier ++ [ping] ∧ c.Opening [ping])
    : c.Stops Counts Refused result (front ++ [x]) := by
  have places {before after : List Http.Exchange} {y : Http.Exchange}
      (place : front ++ [x] = before ++ y :: after)
      : c.Calm Counts y ∨ before = front ∧ y = x ∧ after = [] := by
    rcases Text.append_eq_append_cons place with ⟨more, rfl, -⟩ | ⟨later, rfl, here⟩
    · exact .inl (calm y (by simp))
    · obtain ⟨rfl, shape⟩ | ⟨rest, -, none⟩ := List.cons_eq_append_iff.1 here
      · obtain ⟨rfl, rfl⟩ := List.cons.inj shape
        exact .inr ⟨List.append_nil front, rfl, rfl⟩
      · simp at none
  constructor
  · intro before y after e place failing
    rcases places place with quiet | ⟨-, rfl, rfl⟩
    · exact absurd failing (quiet.2 e)
    · exact ⟨rfl, (fails e).1 failing⟩
  · intro e failed
    exact .inr (.inr ⟨front, x, rfl, (fails e).2 failed⟩)
  · intro mode before y after place statement
    rcases places place with quiet | ⟨rfl, rfl, -⟩
    · cases quiet.1.symm.trans statement
    · exact opened mode statement

/-- A statement stops at its first failure, with a check of its rows that only counts can fail. -/
theorem Asked.stops {server : Http.Server} {past : List Http.Request} {sql : String}
    {result : Except Error (List Row)} {new : List Http.Exchange}
    (h : c.Asked server past sql result new) {check : List Row → Except Error α}
    (checks : ∀ rows e, check rows = .error e ↔ Counts sql ∧ countOf rows = .error e)
    : c.Stops Counts Refused (result >>= check) new := by
  have sole {e f : Error} (failed : (.error e >>= check : Except Error α) = .error f) : e = f :=
    Except.error.inj failed
  cases h with
  | withheld h =>
    cases h with
    | unopened h => exact .quiet (List.forall_mem_nil _) fun e failed => .inr (sole failed ▸ h)
    | unsent opened h => exact .quiet opened.calm fun e failed => .inr (sole failed ▸ h)
    | unpinged _ _ _ heard =>
      change c.Stops Counts Refused _ ([] ++ [_])
      refine .last (List.forall_mem_nil _) (fun f => ?_) fun _ statement => nomatch statement
      rw [fails_ping_iff rfl, heard]
      constructor
      · intro same
        rw [Except.error.inj same]
        rfl
      · intro failed
        rw [sole failed]
  | sent opened statement body _ =>
    subst body
    refine .last opened.calm (fun e => fails_statement_iff statement checks) fun mode _ => ?_
    cases opened with
    | streaming other => cases mode.symm.trans other
    | batch mode named pong => exact ⟨[], _, rfl, .batch mode named pong⟩

-----------------------------------------------------------------------------------------
-- Runs
-----------------------------------------------------------------------------------------

/-- A run of a sole caller that stops at its first failure, whatever the server answers. -/
def Halts (c : Connection) (Counts : String → Prop) (Refused : Error → Prop) (run : Run α) : Prop :=
  ∀ (session : Session) (server : Http.Server) (log : List Http.Exchange),
    session.IsIdle c.config →
      ∃ later result new, later.IsIdle c.config
        ∧ run.run session server log = ((result, later), log ++ new)
        ∧ c.Stops Counts Refused result new

theorem halts_pure (a : α)
    : c.Halts Counts Refused (pure a) := by
  intro session server log idle
  exact ⟨session, .ok a, [], idle, by simp; rfl, .quiet (List.forall_mem_nil _) nofun⟩

theorem Halts.bind {first : Run α} {next : α → Run β} (one : c.Halts Counts Refused first)
    (others : ∀ a, c.Halts Counts Refused (next a))
    : c.Halts Counts Refused (first >>= next) := by
  intro session server log idle
  obtain ⟨middle, result, new, calm, run, stops⟩ := one session server log idle
  cases result with
  | error e =>
    exact ⟨middle, .error e, new, calm, by rw [run_bind, run], stops.failed⟩
  | ok a =>
    obtain ⟨later, outcome, more, still, goes, rest⟩ := others a middle server (log ++ new) calm
    refine ⟨later, outcome, new ++ more, still, ?_, stops.append rest⟩
    rw [run_bind, run, ← List.append_assoc]
    exact goes

/-- A run goes on from what is at hand, which fails only with what it may be refused with. -/
theorem Halts.after_reading {result : Except Error α} {next : α → Run β}
    (refused : ∀ e, result = .error e → Refused e)
    (goes : ∀ a, result = .ok a → c.Halts Counts Refused (next a))
    : c.Halts Counts Refused (liftM result >>= next) := by
  intro session server log idle
  cases result with
  | error e =>
    have stops : c.Stops Counts Refused (.error e : Except Error β) [] := by
      refine .quiet (List.forall_mem_nil _) fun f failed => .inl ?_
      exact Except.error.inj failed ▸ refused e rfl
    exact ⟨session, .error e, [], idle, by rw [List.append_nil]; rfl, stops⟩
  | ok a => exact goes a rfl session server log idle

/-- A statement that counts nothing stops at its first failure. -/
theorem halts_runSql {sql : String} (uncounted : ¬ Counts (Text.trimmed sql))
    : c.Halts Counts Refused (c.runSql sql) := by
  intro session server log idle
  obtain ⟨later, result, new, still, run, ⟨-, rfl, rfl⟩ | ⟨-, asked⟩⟩ :=
    run_runSql sql idle server log
  · exact ⟨later, .ok [], [], still, run, .quiet (List.forall_mem_nil _) nofun⟩
  · refine ⟨later, result, new, still, run, ?_⟩
    have stops : c.Stops Counts Refused (result >>= Except.ok) new :=
      asked.stops fun rows e => by simp [uncounted]
    have same : result >>= Except.ok = result := by cases result <;> rfl
    rwa [same] at stops

/-- A statement that counts stops there too when its answer is no count. -/
theorem halts_counting {sql : String} (counts : Counts (Text.trimmed sql))
    (filled : (Text.trimmed sql).isEmpty = false)
    : c.Halts Counts Refused (c.runSql sql >>= fun rows => liftM (countOf rows)) := by
  intro session server log idle
  obtain ⟨later, result, new, still, run, ⟨blank, -⟩ | ⟨-, asked⟩⟩ :=
    run_runSql sql idle server log
  · cases filled.symm.trans blank
  · refine ⟨later, result >>= countOf, new, still, ?_, asked.stops fun rows e => by simp [counts]⟩
    rw [run_bind, run]
    cases result with
    | error e => rfl
    | ok rows => cases countOf rows <;> rfl

/-- To take an id asks nothing, and queues nothing. -/
theorem halts_takeId
    : c.Halts Counts Refused takeId := by
  intro session server log idle
  refine ⟨{ session with ids := session.ids.take.2 }, .ok session.ids.take.1, [],
    ⟨idle.sound, idle.idle⟩, ?_, .quiet (List.forall_mem_nil _) nofun⟩
  rw [List.append_nil]
  rfl

theorem halts_execute {sql : String} (uncounted : ¬ Counts (Text.trimmed sql))
    : c.Halts Counts Refused (c.execute sql) :=
  (halts_runSql uncounted).bind fun _ => halts_pure ()

/-- Statements one after another stop at the first failure of any, by induction on them. -/
theorem halts_executeAll {statements : List String}
    (uncounted : ∀ sql ∈ statements, ¬ Counts (Text.trimmed sql))
    : c.Halts Counts Refused (c.executeAll statements) := by
  induction statements with
  | nil => exact halts_pure ()
  | cons sql rest ih =>
    have later := ih fun other known => uncounted other (List.mem_cons_of_mem sql known)
    exact (halts_execute (uncounted sql (by simp))).bind fun _ => later

end ColumnStore.Connection
