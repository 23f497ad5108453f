import KbConsole.Dispatch
import KbConsole.Server.Session

/-
  Dispatches on two kinds of states, one of which is a view
  of the other. Where announcing and executing a statement
  respect the view, a whole dispatch does: it reports the
  same, and ends in the view of the state.

  Key definitions include:
    * `Runner.Simulates`
    * `Server.Simulates`

  The main statements are `Runner.Simulates.dispatch` and
  `Server.Simulates.execute`.
-/

namespace KbConsole

variable {σ τ : Type}
variable {view : σ → τ}

------------------------------------------------------------
-- Runners
------------------------------------------------------------

namespace Runner

/- A runner that does on views what another one does. -/
structure Simulates
    (view : σ → τ)
    (abstract : Runner τ)
    (concrete : Runner σ) : Prop where
  announce :
    ∀ sql state,
      abstract.announce sql (view state) =
        view (concrete.announce sql state)
  execute :
    ∀ sql state,
      abstract.execute sql (view state) =
        (concrete.execute sql state).map id view

section Runs

variable {abstract : Runner τ}
variable {concrete : Runner σ}

theorem Simulates.runAll
    (hRunner : Simulates view abstract concrete)
    (acknowledgement : String)
    (statements : List String)
    (state : σ) :
    abstract.runAll acknowledgement statements (view state) =
      (concrete.runAll acknowledgement statements state).map
        id view := by
  induction statements generalizing state with
  | nil => rfl
  | cons sql rest ih =>
      rw [Runner.runAll, Runner.runAll, hRunner.announce,
        hRunner.execute]
      cases concrete.execute sql
          (concrete.announce sql state) with
      | mk result next =>
          simp only [Prod.map_apply, id_eq]
          split
          · rfl
          · rw [ih]
            rfl

theorem Simulates.dispatch
    (hRunner : Simulates view abstract concrete)
    (settings : Settings)
    (d : Sql.Dialect)
    (dryRun : Bool)
    (name : String)
    (args : Arguments)
    (state : σ) :
    KbConsole.dispatch abstract settings d dryRun name args
        (view state) =
      (KbConsole.dispatch concrete settings d dryRun name args
        state).map id view := by
  unfold KbConsole.dispatch
  split
  · rfl
  · split
    · rfl
    · split
      · rfl
      · rw [hRunner.runAll]
        rfl

end Runs

end Runner

------------------------------------------------------------
-- Servers
------------------------------------------------------------

/- A server that does on views what another one does. -/
def Server.Simulates
    (view : σ → τ)
    (abstract : Server τ)
    (concrete : Server σ) : Prop :=
  ∀ call state,
    abstract call (view state) =
      (concrete call state).map id view

section Sessions

variable {abstract : Server τ}
variable {concrete : Server σ}

theorem Server.Simulates.login
    (hServer : Server.Simulates view abstract concrete)
    (settings : Settings)
    (session : Session)
    (state : σ) :
    Session.login abstract settings session (view state) =
      (Session.login concrete settings session state).map id
        (Prod.map id view) := by
  unfold Session.login
  split
  · rfl
  · rfl
  · rw [hServer]
    rfl

theorem Server.Simulates.execute
    (hServer : Server.Simulates view abstract concrete)
    (settings : Settings)
    (sql : String)
    (state : Session × σ) :
    Session.execute abstract settings sql
        (state.map id view) =
      (Session.execute concrete settings sql state).map id
        (Prod.map id view) := by
  unfold Session.execute
  rw [Prod.map_fst, Prod.map_snd, id_eq, hServer.login]
  cases Session.login concrete settings state.1 state.2 with
  | mk cookie rest =>
      cases cookie with
      | error rejection => rfl
      | ok cookie =>
          simp only [Prod.map_apply, Prod.map_fst,
            Prod.map_snd, id_eq]
          rw [hServer]
          rfl

end Sessions

end KbConsole
