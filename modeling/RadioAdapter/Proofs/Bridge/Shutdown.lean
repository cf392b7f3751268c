import RadioAdapter.Proofs.Bridge.Docket
import RadioAdapter.Proofs.Calls

/-! # Shutdown is final

Nothing in the bridge looks at the executor. All the same the host is not left
waiting when the executor is shut down, because every unfinished request owns its
responder and is dropped with it. From then on the executor holds nothing and takes
nothing in, so a forwarded request fails within the step that makes it, and the
world stays as it was.
-/

namespace RadioAdapter

/-- An executor that has been shut down. -/
def Executor.stopped : Executor := { running := false }

/-- The completion of a forwarded request that is dropped. -/
def Forwarded.failure (work : Forwarded) : Event :=
  .complete work.responder.host work.responder.token .genericFailure []

theorem Forwarded.settle_drop {work : Forwarded} (hopen : work.responder.completed = false) :
    work.responder.settle .drop = [work.failure] :=
  Responder.settle_eq_singleton hopen .drop

namespace Executor

theorem spawn_stopped (work : Forwarded) :
    stopped.spawn work = (work.responder.settle .drop, stopped) := rfl

theorem run_stopped : stopped.run = ([], stopped) := rfl

theorem release_stopped (token : Token) (how : Request → Conduct) :
    stopped.release token how = (false, stopped) := rfl

theorem shutdown_stopped : stopped.shutdown = ([], stopped) := rfl

/-- A shutdown fails every unfinished request, once each, and nothing is left. -/
theorem shutdown_eq {executor : Executor} (hopen : executor.Open) :
    executor.shutdown = (executor.unfinished.map Forwarded.failure, stopped) := by
  have hfailures : executor.unfinished.flatMap (fun work => work.responder.settle .drop) =
      executor.unfinished.flatMap fun work => [work.failure] :=
    List.flatMap_congr fun work hwork => Forwarded.settle_drop (hopen work hwork)
  rw [shutdown, hfailures, List.map_eq_flatMap]
  rfl

end Executor

namespace World

variable {world : World}

/-! ## A world whose executor is shut down -/

theorem executor_step_stopped (hstopped : world.executor = .stopped) (step : Step) :
    (world.step step).world.executor = .stopped := by
  rcases world.executor_step_cases step with
    ⟨work, hwork⟩ | rfl | ⟨token, how, rfl⟩ | rfl | ⟨-, hsame⟩
  · rw [(step_of_forwarded hwork).2, hstopped, Executor.spawn_stopped]
  · show world.executor.run.2 = .stopped
    rw [hstopped, Executor.run_stopped]
  · show (world.executor.release token how).2 = .stopped
    rw [hstopped, Executor.release_stopped]
  · rfl
  · rw [hsame, hstopped]

/-- An executor that has been shut down stays so. -/
theorem executor_after_stopped (hstopped : world.executor = .stopped) (steps : List Step) :
    (world.after steps).executor = .stopped :=
  invariant_after (fun world => world.executor = .stopped)
    (fun _ step hworld => executor_step_stopped hworld step) hstopped steps

theorem step_run_stopped (hstopped : world.executor = .stopped) :
    world.step .run = { result := .done, world } := by
  simp only [World.step, silently, run, hstopped, Executor.run_stopped]
  rw [← hstopped]

theorem step_release_stopped (hstopped : world.executor = .stopped) (token : Token)
    (how : Request → Conduct) :
    world.step (.release token how) = { result := .flag false, world } := by
  simp only [World.step, release, hstopped, Executor.release_stopped]
  rw [← hstopped]

/-- After a shutdown no hosted call starts. -/
theorem hostedCalls_step_stopped (hstopped : world.executor = .stopped) (step : Step) :
    hostedCalls (world.step step).events = [] := by
  by_cases hrun : step = .run
  · rw [hrun, step_run_stopped hstopped, hostedCalls_nil]
  · exact world.hostedCalls_step hrun

/-- A request to a bridge table goes to the executor. -/
theorem step_request_of_bridge {table host : String} {radio : HostedRadio} {code : RequestCode}
    (htable : world.publication? table = some { host, handler := .bridge radio })
    (hsupports : radio.supports code = true) (buffer : Bytes) (declared : Nat) (token : Token) :
    let work : Forwarded :=
      { request := .ofBuffer code buffer declared token
        responder := { host, token, code }
        radio }
    world.step (.request table code buffer declared token) =
      { result := .done
        events := (world.executor.spawn work).1
        world := { world with executor := (world.executor.spawn work).2 } } := by
  simp only [World.step, onTable, htable]
  rw [request_of_supported (by exact hsupports), accept_bridge rfl]
  rfl

/-- A request that is forwarded after a shutdown fails at once and leaves no trace. -/
theorem step_request_stopped {table host : String} {radio : HostedRadio} {code : RequestCode}
    (hstopped : world.executor = .stopped)
    (htable : world.publication? table = some { host, handler := .bridge radio })
    (hsupports : radio.supports code = true) (buffer : Bytes) (declared : Nat) (token : Token) :
    world.step (.request table code buffer declared token) =
      { result := .done, events := [.complete host token .genericFailure []], world } := by
  rw [step_request_of_bridge htable hsupports]
  simp only [hstopped, Executor.spawn_stopped]
  rw [← hstopped]
  rfl

/-! ## Sessions -/

/-- In every session, a shutdown fails exactly the forwarded requests that are unfinished,
once each, and touches nothing else. In every world that comes after it no forwarded request
is alive, no hosted call starts, nobody can be woken, a round of turns does nothing, and a
request to a bridge table is completed as failed within its own step, which leaves the world
as it was. When the session ends, only the responders that handlers hold back are still to
be let go. -/
theorem shutdown_is_final (before later : List Step) :
    let stopping := World.after {} before
    let world := World.after {} (before ++ .shutdown :: later)
    stopping.step .shutdown =
        { result := .done
          events := stopping.executor.unfinished.map Forwarded.failure
          world := { stopping with executor := .stopped } } ∧
      world.executor.unfinished = [] ∧
      (∀ step, hostedCalls (world.step step).events = []) ∧
      (∀ token how, world.step (.release token how) = { result := .flag false, world }) ∧
      world.step .run = { result := .done, world } ∧
      (∀ table code buffer declared token host radio,
        world.publication? table = some { host, handler := .bridge radio } →
        radio.supports code = true →
        world.step (.request table code buffer declared token) =
          { result := .done, events := [.complete host token .genericFailure []], world }) ∧
      world.close.1 = world.held.flatMap (·.settle .drop) := by
  intro stopping world
  have hopen : stopping.executor.Open := (open_iff.mp (open_after empty_open before)).2
  have hstopped : world.executor = .stopped := by
    show (World.after {} (before ++ .shutdown :: later)).executor = _
    rw [after_append, after_cons]
    exact executor_after_stopped rfl later
  refine ⟨?_, ?_, fun step => hostedCalls_step_stopped hstopped step,
    fun token how => step_release_stopped hstopped token how, step_run_stopped hstopped, ?_, ?_⟩
  · simp only [World.step, silently, shutdown, Executor.shutdown_eq hopen]
  · rw [hstopped]
    rfl
  · intro table code buffer declared token host radio htable hsupports
    exact step_request_stopped hstopped htable hsupports buffer declared token
  · simp only [close, shutdown, hstopped, Executor.shutdown_stopped, List.append_nil]

/-- Three requests are unfinished when the executor is shut down: one is woken, one has not
started and one waits. A responder that a handler holds back is none of them. A later request
fails at once, although its table has been cloned and the original name is gone. -/
theorem shutdown_is_final_of_busy :
    let radio := HostedRadio.echoing
    let holding : CustomHandler :=
      { version := "own", supports := fun _ => true, onRequest := fun _ => none }
    let before : List Step :=
      [.register "first" "radio" [] (.bridge {} (.ofRadio radio)),
        .register "second" "own" [] (.custom holding), .request "radio" ⟨2⟩ [1] 1 ⟨1⟩,
        .request "radio" ⟨2⟩ [1] 1 ⟨2⟩, .run, .release ⟨1⟩ (fun _ => { course := .wait }),
        .request "radio" ⟨2⟩ [1] 1 ⟨3⟩, .request "own" ⟨2⟩ [1] 1 ⟨4⟩]
    let later : List Step := [.clone "radio" "copy", .forget "radio"]
    let failed (token : Token) : Event := .complete "radio" token .genericFailure []
    let world := World.after {} (before ++ .shutdown :: later)
    world.publication? "copy" = some { host := "radio", handler := .bridge radio } ∧
      radio.supports ⟨2⟩ = true ∧
      ((World.after {} before).step .shutdown).events = [failed ⟨1⟩, failed ⟨3⟩, failed ⟨2⟩] ∧
      (world.step (.request "copy" ⟨2⟩ [7] 1 ⟨5⟩)).events = [failed ⟨5⟩] ∧
      world.close.1 = [.complete "own" ⟨4⟩ .genericFailure []] := by
  intro radio holding before later failed world
  have htable : world.publication? "copy" = some { host := "radio", handler := .bridge radio } := by
    subst world later before holding radio
    rfl
  have hunfinished : (World.after {} before).executor.unfinished.map Forwarded.failure =
      [failed ⟨1⟩, failed ⟨3⟩, failed ⟨2⟩] := by
    subst world later before holding radio
    rfl
  have hheld : world.held.flatMap (·.settle .drop) = [.complete "own" ⟨4⟩ .genericFailure []] := by
    subst world later before holding radio
    rfl
  obtain ⟨hshutdown, -, -, -, -, hrequest, hclose⟩ := shutdown_is_final before later
  have hfails := hrequest "copy" ⟨2⟩ [7] 1 ⟨5⟩ "radio" radio htable rfl
  refine ⟨htable, rfl, ?_, ?_, hclose.trans hheld⟩
  · rw [hshutdown, hunfinished]
  · rw [hfails]

end World

end RadioAdapter
