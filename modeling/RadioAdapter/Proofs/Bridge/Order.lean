import RadioAdapter.Proofs.Bridge.Shutdown

/-! # Forwarded requests start in the order of acceptance

In the executor's queue requests that have yet to start stand between requests that
have been woken. A round of turns starts all of them, in their order, and nothing
else starts a hosted call. So the calls that have been started and the requests
that are still to be started are together the requests that bridge tables have
accepted, until a shutdown drops what has not started by then.
-/

namespace RadioAdapter

/-- The request that a step hands to a bridge table whose radio supports its code: it has the
code and the token of the step, and the part of the buffer that the declared length covers. -/
def Step.bridged? (world : World) : Step → Option Request
  | .request table code buffer declared token =>
      match world.publication? table with
      | some { handler := .bridge radio, .. } =>
          if radio.supports code then
            some { code, token, data := buffer.take (min declared buffer.length) }
          else none
      | _ => none
  | _ => none

/-- The requests that bridge tables accept in the steps of a session, in order. -/
def World.bridged (world : World) : List Step → List Request
  | [] => []
  | step :: rest => (step.bridged? world).toList ++ (world.step step).world.bridged rest

/-- The request of a task that has yet to start. -/
def Task.unstarted? (task : Task) : Option Request :=
  match task.turn with
  | .start => some task.work.request
  | .resume _ => none

/-- The requests in the queue that have yet to start, in the order of their turns. -/
def Executor.unstarted (executor : Executor) : List Request :=
  executor.ready.filterMap Task.unstarted?

/-- What goes to the executor is what the bridge table accepts. -/
theorem Step.request_of_forwarded (world : World) (step : Step) :
    (step.forwarded? world).map Forwarded.request = step.bridged? world := by
  cases step with
  | request table code buffer declared token =>
      have hpayload : buffer.take (min declared buffer.length) = buffer.take declared := by
        rw [List.take_eq_take_iff]
        omega
      simp only [forwarded?, bridged?, hpayload]
      cases world.publication? table with
      | none => rfl
      | some publication =>
          obtain ⟨host, handler⟩ := publication
          cases handler with
          | bridge radio =>
              simp only [Option.bind_some]
              split <;> rfl
          | direct | custom => rfl
  | _ => rfl

theorem Step.shutdown_ne_run : Step.shutdown ≠ .run := Step.noConfusion

/-! ## Turns -/

theorem Task.hostedCalls_events (task : Task) :
    hostedCalls task.events = task.unstarted?.toList := by
  have hnotice : hostedCalls (task.conduct.notice.toList.map
      (.unsolicited task.work.responder.host)) = [] := by
    cases task.conduct.notice <;> rfl
  have hopening : hostedCalls task.opening = task.unstarted?.toList := by
    unfold opening unstarted?
    cases task.turn <;> rfl
  simp only [events, hostedCalls_append, hnotice, hopening, List.append_nil]
  cases task.conduct.course with
  | finish outcome =>
      have hsettle := hostedCalls_of_service (task.work.responder.settle_isService outcome.settlement)
      simp only [hsettle, List.append_nil]
  | wait => exact List.append_nil _

/-- A round of turns starts the requests that have yet to start, in the order of the queue. -/
theorem hostedCalls_turns (tasks : List Task) :
    hostedCalls (tasks.flatMap Task.events) = tasks.filterMap Task.unstarted? := by
  induction tasks with
  | nil => rfl
  | cons task rest ih =>
      rw [List.flatMap_cons, hostedCalls_append, ih, task.hostedCalls_events,
        List.filterMap_cons]
      cases task.unstarted? <;> rfl

namespace Executor

variable {executor : Executor}

/-- A request that is handed over goes to the end of the queue. -/
theorem unstarted_spawn (hrunning : executor.running = true) (work : Forwarded) :
    (executor.spawn work).2.unstarted = executor.unstarted ++ [work.request] := by
  rw [spawn, if_pos hrunning, unstarted, List.filterMap_append]
  rfl

/-- A request that is woken has started before. -/
theorem unstarted_release (token : Token) (how : Request → Conduct) :
    (executor.release token how).2.unstarted = executor.unstarted := by
  unfold release
  split
  next => rfl
  next work hfind =>
      simp only [unstarted, List.filterMap_append]
      exact List.append_nil _

end Executor

namespace World

variable {world : World}

/-! ## Steps -/

/-- An executor runs until it is shut down. -/
theorem running_step {step : Step} (hstep : step ≠ .shutdown) :
    (world.step step).world.executor.running = world.executor.running := by
  rcases world.executor_step_cases step with
    ⟨work, hwork⟩ | rfl | ⟨token, how, rfl⟩ | rfl | ⟨-, hsame⟩
  · rw [(step_of_forwarded hwork).2, Executor.spawn]
    split <;> rfl
  · rfl
  · show (world.executor.release token how).2.running = world.executor.running
    unfold Executor.release
    split <;> rfl
  · contradiction
  · rw [hsame]

/-- The calls that a step starts and the requests that are to be started after it are those
that were to be started before it and the one that it forwards. -/
theorem started_step (hrunning : world.executor.running = true) {step : Step}
    (hstep : step ≠ .shutdown) :
    hostedCalls (world.step step).events ++ (world.step step).world.executor.unstarted =
      world.executor.unstarted ++ (step.bridged? world).toList := by
  rw [← step.request_of_forwarded]
  by_cases hrun : step = .run
  · subst hrun
    show hostedCalls (world.executor.ready.flatMap Task.events) ++ [] = _ ++ []
    rw [hostedCalls_turns]
    rfl
  · rw [world.hostedCalls_step hrun, List.nil_append]
    rcases world.executor_step_cases step with
      ⟨work, hwork⟩ | rfl | ⟨token, how, rfl⟩ | rfl | ⟨hnone, hsame⟩
    · rw [(step_of_forwarded hwork).2, Executor.unstarted_spawn hrunning, hwork]
      rfl
    · contradiction
    · exact (Executor.unstarted_release token how).trans (List.append_nil _).symm
    · contradiction
    · rw [hsame, hnone]
      exact (List.append_nil _).symm

/-! ## Runs -/

/-- Until a shutdown, no request is lost, doubled or overtaken on its way to its hosted call. -/
theorem started_run (hrunning : world.executor.running = true) {steps : List Step}
    (hsteps : .shutdown ∉ steps) :
    hostedCalls ((world.shownBy steps).flatMap Prod.snd) ++ (world.after steps).executor.unstarted =
      world.executor.unstarted ++ world.bridged steps := by
  induction steps generalizing world with
  | nil => simp [bridged]
  | cons step rest ih =>
      have hstep : step ≠ .shutdown := Ne.symm (List.ne_of_not_mem_cons hsteps)
      have hfirst := started_step hrunning hstep
      have hlater := ih ((running_step hstep).trans hrunning) (List.not_mem_of_not_mem_cons hsteps)
      simp only [shownBy_cons, List.flatMap_cons, hostedCalls_append, after_cons, bridged,
        List.append_assoc]
      rw [hlater, ← List.append_assoc, hfirst, List.append_assoc]

/-- After a shutdown no hosted call starts any more. -/
theorem hostedCalls_run_stopped (hstopped : world.executor = .stopped) (steps : List Step) :
    hostedCalls ((world.shownBy steps).flatMap Prod.snd) = [] := by
  induction steps generalizing world with
  | nil => rfl
  | cons step rest ih =>
      rw [shownBy_cons, List.flatMap_cons, hostedCalls_append, hostedCalls_step_stopped hstopped,
        ih (executor_step_stopped hstopped step), List.nil_append]

/-- Nor does the shutdown itself start one. -/
theorem hostedCalls_run_shutdown (world : World) (steps : List Step) :
    hostedCalls ((world.shownBy (.shutdown :: steps)).flatMap Prod.snd) = [] := by
  rw [shownBy_cons, List.flatMap_cons, hostedCalls_append, hostedCalls_run_stopped rfl,
    List.append_nil]
  exact world.hostedCalls_step Step.shutdown_ne_run

/-- Letting go of everything starts no hosted call. -/
theorem hostedCalls_close (world : World) : hostedCalls world.close.1 = [] := by
  refine hostedCalls_of_service ?_
  rw [close, List.all_append, List.all_flatMap, Bool.and_eq_true]
  constructor
  · exact List.all_eq_true.mpr fun responder _ => responder.settle_isService .drop
  · exact world.step_isService rfl Step.shutdown_ne_run

end World

/-- After every step of a session before a shutdown, the hosted calls started so far, followed
by the requests that are queued and have yet to start, are the requests that bridge tables have
accepted, in the order of acceptance, each with its code, its token and its part of the buffer.
After a run nothing has yet to start. From a shutdown on no hosted call is started, up to the
end of the session. -/
theorem forwarding_keeps_order (session : List Step) (count : Nat) :
    let shown := (showSession session).1
    let world := World.after {} (session.take count)
    (.shutdown ∉ session.take count →
        hostedCalls ((shown.take count).flatMap Prod.snd) ++ world.executor.unstarted =
          World.bridged {} (session.take count)) ∧
      (session[count]? = some .run →
        (World.after {} (session.take (count + 1))).executor.unstarted = []) ∧
      (session[count]? = some .shutdown →
        hostedCalls ((shown.drop count).flatMap Prod.snd ++ (showSession session).2) = []) := by
  intro shown world
  refine ⟨?_, ?_, ?_⟩
  · intro hbefore
    have hrunning : ({} : World).executor.running = true := rfl
    have hstarted := World.started_run hrunning hbefore
    rw [World.shownBy_take] at hstarted
    exact hstarted
  · intro hrun
    rw [World.after_take_add_one hrun]
    rfl
  · intro hshutdown
    obtain ⟨hbound, hstep⟩ := List.getElem?_eq_some_iff.mp hshutdown
    have hnone := world.hostedCalls_run_shutdown (session.drop (count + 1))
    rw [← hstep, ← List.drop_eq_getElem_cons hbound, World.shownBy_drop] at hnone
    rw [hostedCalls_append]
    exact List.append_eq_nil_iff.mpr ⟨hnone, World.hostedCalls_close _⟩

/-- Two tables share the executor and all requests share a token. The first request has started
and been woken again; the other two are queued around it when the executor is shut down,
although one has been cancelled and its table is gone. -/
theorem forwarding_keeps_order_of_shared_token :
    let session : List Step :=
      [.register "first" "radio" [] (.bridge {} (.ofRadio .echoing)),
        .register "second" "other" [] (.bridge {} (.ofRadio .echoing)),
        .request "radio" ⟨2⟩ [1, 2, 3] 2 ⟨7⟩, .run, .request "other" ⟨3⟩ [4] 9 ⟨7⟩,
        .release ⟨7⟩ (fun _ => { course := .wait }), .cancel "other" ⟨7⟩, .forget "other",
        .request "radio" ⟨4⟩ [] 0 ⟨7⟩, .shutdown, .request "radio" ⟨4⟩ [] 0 ⟨7⟩, .run]
    let shown := (showSession session).1
    .shutdown ∉ session.take 9 ∧ session[3]? = some .run ∧ session[9]? = some .shutdown ∧
      hostedCalls ((shown.take 9).flatMap Prod.snd) ++ [⟨⟨3⟩, [4], ⟨7⟩⟩, ⟨⟨4⟩, [], ⟨7⟩⟩] =
        [⟨⟨2⟩, [1, 2], ⟨7⟩⟩, ⟨⟨3⟩, [4], ⟨7⟩⟩, ⟨⟨4⟩, [], ⟨7⟩⟩] ∧
      (World.after {} (session.take 4)).executor.unstarted = [] ∧
      hostedCalls ((shown.drop 9).flatMap Prod.snd ++ (showSession session).2) = [] := by
  intro session shown
  have hbefore : .shutdown ∉ session.take 9 := by simp [session]
  have hunstarted : (World.after {} (session.take 9)).executor.unstarted =
      [⟨⟨3⟩, [4], ⟨7⟩⟩, ⟨⟨4⟩, [], ⟨7⟩⟩] := by
    subst session
    rfl
  have hbridged : World.bridged {} (session.take 9) =
      [⟨⟨2⟩, [1, 2], ⟨7⟩⟩, ⟨⟨3⟩, [4], ⟨7⟩⟩, ⟨⟨4⟩, [], ⟨7⟩⟩] := by
    subst session
    rfl
  obtain ⟨hstarted, -, hstopped⟩ := forwarding_keeps_order session 9
  have hran := (forwarding_keeps_order session 3).2.1
  have hqueued := hstarted hbefore
  rw [hunstarted, hbridged] at hqueued
  exact ⟨hbefore, rfl, rfl, hqueued, hran rfl, hstopped rfl⟩

end RadioAdapter
