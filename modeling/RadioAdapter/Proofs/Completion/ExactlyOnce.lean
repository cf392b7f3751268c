import RadioAdapter.Proofs.Completion.Balance

/-! # Every accepted request is completed exactly once

Over a whole session the completions and the open duties together are the
accepted requests. At the end nothing is open any more, so each host has got
exactly one completion for each request of its own that was accepted.
-/

namespace RadioAdapter

namespace World

/-- The responders that are alive: those that handlers hold back, and those that
travel with forwarded requests. -/
def live (world : World) : List Responder :=
  world.held ++ world.executor.unfinished.map Forwarded.responder

/-- The duties that are open. -/
def duties (world : World) : List Duty := world.live.map Responder.duty

/-- No live responder has completed its request yet. -/
def Open (world : World) : Prop := ∀ responder ∈ world.live, responder.completed = false

/-- A change that keeps the books: what it discharges and what is open after it
is what was open before it and what it took in. -/
structure Balances (before : World) (taken : List Duty) (events : List Event)
    (after : World) : Prop where
  perm : (completions events ++ after.duties).Perm (before.duties ++ taken)
  isOpen : after.Open

theorem duties_eq (world : World) :
    world.duties = world.held.map Responder.duty ++ world.executor.duties := by
  unfold duties live Executor.duties
  rw [List.map_append, List.map_map]
  rfl

theorem open_iff {world : World} :
    world.Open ↔ (∀ responder ∈ world.held, responder.completed = false) ∧
      world.executor.Open := by
  simp only [Open, live, Executor.Open, List.mem_append, or_imp, forall_and, List.mem_map,
    forall_exists_index, and_imp, forall_apply_eq_imp_iff₂]

/-- A change that touches no responder and completes nothing keeps the books. -/
theorem Balances.of_idle {before after : World} {events : List Event} (hopen : before.Open)
    (hheld : after.held = before.held) (hexecutor : after.executor = before.executor)
    (hevents : completions events = []) : before.Balances [] events after where
  perm := by
    simp only [duties_eq, hheld, hexecutor, hevents, List.nil_append, List.append_nil]
    exact .refl _
  isOpen := by
    rw [open_iff, hheld, hexecutor]
    exact open_iff.mp hopen

/-- A change of the executor alone keeps the world's books if it keeps the executor's. -/
theorem Balances.of_executor {before : World} {executor : Executor} {taken : List Duty}
    {events : List Event} (hopen : before.Open)
    (hperm : (completions events ++ executor.duties).Perm (before.executor.duties ++ taken))
    (hexecutor : executor.Open) :
    before.Balances taken events { before with executor } where
  perm := by
    simp only [duties_eq]
    refine (List.perm_append_comm_assoc _ _ _).trans ?_
    rw [List.append_assoc]
    exact hperm.append_left _
  isOpen := open_iff.mpr ⟨(open_iff.mp hopen).1, hexecutor⟩

/-- A change of the responders that are held back keeps the world's books if it keeps theirs. -/
theorem Balances.of_held {before : World} {held : List Responder} {taken : List Duty}
    {events : List Event} (hopen : before.Open)
    (hperm : (completions events ++ held.map Responder.duty).Perm
      (before.held.map Responder.duty ++ taken))
    (hheld : ∀ responder ∈ held, responder.completed = false) :
    before.Balances taken events { before with held } where
  perm := by
    simp only [duties_eq]
    rw [← List.append_assoc]
    refine (hperm.append_right _).trans ?_
    simp only [List.append_assoc]
    exact (List.perm_append_comm).append_left _
  isOpen := open_iff.mpr ⟨hheld, (open_iff.mp hopen).2⟩

/-! ## Registration -/

/-- What a registration leaves alone: it completes no request and touches no responder. -/
structure Sparing {α : Type} (before : World) (reaction : Reaction α) : Prop where
  held : reaction.world.held = before.held
  executor : reaction.world.executor = before.executor
  completions : completions reaction.events = []

theorem registerWith_sparing {world : World} {registration : Registration}
    {setup : World → Reaction (Except AdapterError Handler)}
    (hsetup : world.Sparing (setup world)) :
    world.Sparing (world.registerWith registration setup) := by
  cases hfree : world.isInitialized registration.adapter with
  | true =>
      rw [registerWith_of_initialized hfree]
      exact ⟨rfl, rfl, rfl⟩
  | false =>
      cases hresult : (setup world).result with
      | error error =>
          rw [registerWith_of_error hfree hresult]
          exact ⟨hsetup.held, hsetup.executor, hsetup.completions⟩
      | ok handler =>
          cases hpublish : (setup world).world.publish registration handler with
          | none =>
              rw [registerWith_of_refused hfree hresult hpublish]
              exact ⟨hsetup.held, hsetup.executor, hsetup.completions⟩
          | some next =>
              obtain ⟨_, _, _, hheld, hexecutor⟩ := eq_of_publish_eq_some hpublish
              rw [registerWith_of_published hfree hresult hpublish]
              exact ⟨hheld.trans hsetup.held, hexecutor.trans hsetup.executor,
                hsetup.completions⟩

end World

theorem Launcher.completions_setup (launcher : Launcher) (config : BridgeConfig)
    (host : String) (args : List String) :
    completions (launcher.setup config host args).events = [] := by
  refine List.filterMap_eq_nil_iff.mpr ?_
  intro event hevent
  rcases of_mem_setup hevent with hruntime | ⟨notice, rfl⟩
  · cases event <;> first | rfl | contradiction
  · rfl

theorem Backend.setup_sparing (backend : Backend) (registration : Registration) (world : World) :
    world.Sparing (backend.setup registration world) := by
  induction backend generalizing registration world with
  | direct => exact ⟨rfl, rfl, rfl⟩
  | bridge config launcher => exact ⟨rfl, rfl, launcher.completions_setup config _ _⟩
  | stub => exact ⟨rfl, rfl, rfl⟩
  | custom => exact ⟨rfl, rfl, rfl⟩
  | failing => exact ⟨rfl, rfl, rfl⟩
  | nested inner outer ihinner ihouter =>
      have hfirst : world.Sparing (world.registerWith registration.inner
          (inner.setup registration.inner)) :=
        World.registerWith_sparing (ihinner registration.inner world)
      have hsecond := ihouter registration
        (world.registerWith registration.inner (inner.setup registration.inner)).world
      refine ⟨hsecond.held.trans hfirst.held, hsecond.executor.trans hfirst.executor, ?_⟩
      simp only [setup, completions_append, completions_cons, Event.duty?, Option.toList_none,
        hfirst.completions, hsecond.completions, List.nil_append]

/-! ## Requests -/

namespace Configurator

theorem completions_apply (configurator : Configurator) (record : Record) :
    completions (configurator.apply record).events = [] := by
  unfold apply
  split
  · show completions (configurator.remove record.ifname).events = []
    unfold remove
    cases configurator.removal <;> rfl
  · rfl

/-- The direct handler completes its request, whatever the payload and the configurator. -/
theorem completions_serve (configurator : Configurator) (request : Request)
    {responder : Responder} (hopen : responder.completed = false) :
    completions (configurator.serve request responder) = [responder.duty] := by
  unfold serve
  split
  · have hhandled : completions (configurator.handleHook request.data).events = [] := by
      unfold handleHook
      cases Record.decode request.data with
      | ok record => exact configurator.completions_apply record
      | error error => rfl
    simp only [completions_append, hhandled, completions_settle hopen, List.nil_append]
  · exact completions_settle hopen _

end Configurator

/-- A cancel completes no request. -/
theorem Handler.completions_cancel (handler : Handler) (token : Token) :
    completions (handler.cancel token) = [] := by
  cases handler with
  | direct => rfl
  | bridge radio =>
      simp only [cancel]
      split <;> rfl
  | custom => rfl

namespace World

/-- Taking a request in adds one duty: it is discharged at once, or open afterwards. -/
theorem accept_balances {world : World} (hopen : world.Open) (publication : Publication)
    (request : Request) :
    world.Balances [(publication.host, request.token)]
      (world.accept publication request).1 (world.accept publication request).2 := by
  have hresponder : (publication.responder request).completed = false := rfl
  cases hhandler : publication.handler with
  | direct configurator =>
      rw [accept_direct hhandler]
      refine ⟨?_, hopen⟩
      rw [configurator.completions_serve request hresponder]
      exact List.perm_append_comm
  | bridge radio =>
      rw [accept_bridge hhandler]
      exact .of_executor hopen (Executor.spawn_balance _ hresponder)
        (Executor.spawn_open (open_iff.mp hopen).2 hresponder)
  | custom handler =>
      cases hsettlement : handler.onRequest request with
      | none =>
          rw [accept_held hhandler hsettlement]
          refine .of_held hopen ?_ ?_
          · simp only [List.map_append]
            exact .refl _
          · intro responder hmem
            rcases List.mem_append.mp hmem with hheld | hnew
            · exact (open_iff.mp hopen).1 responder hheld
            · rw [List.mem_singleton.mp hnew]
              exact hresponder
      | some settlement =>
          rw [accept_settled hhandler hsettlement]
          refine ⟨?_, hopen⟩
          rw [completions_cons, completions_settle hresponder]
          exact List.perm_append_comm

theorem finish_balances {world : World} (hopen : world.Open) (token : Token)
    (settlement : Settlement) :
    world.Balances [] (world.finish token settlement).events
      (world.finish token settlement).world := by
  unfold finish
  split
  next => exact .of_idle hopen rfl rfl rfl
  next responder hfind =>
    have hheld := (open_iff.mp hopen).1
    refine .of_held hopen ?_ fun other hother => hheld other (List.mem_of_mem_eraseP hother)
    rw [completions_settle (hheld responder (List.mem_of_find?_eq_some hfind)), List.append_nil]
    exact ((perm_cons_eraseP_of_find? hfind).map Responder.duty).symm

/-! ## Steps and runs -/

end World

/-- The duty that a step takes in: a request to a table whose handler supports
its code is a duty towards the host that the table was registered with. -/
def Step.accepted (world : World) : Step → List Duty
  | .request table code _ _ token =>
      match world.publication? table with
      | none => []
      | some publication =>
          if publication.handler.supports code then [(publication.host, token)] else []
  | _ => []

namespace World

theorem request_balances {world : World} (hopen : world.Open) (table : String)
    (code : RequestCode) (buffer : Bytes) (declared : Nat) (token : Token) :
    let step : Step := .request table code buffer declared token
    world.Balances (step.accepted world) (world.step step).events (world.step step).world := by
  simp only [step, onTable, Step.accepted]
  cases world.publication? table with
  | none => exact .of_idle hopen rfl rfl rfl
  | some publication =>
      cases hsupports : publication.handler.supports code with
      | true =>
          have hrequest : world.request publication (.ofBuffer code buffer declared token) = _ :=
            request_of_supported hsupports
          simp only [silently, hrequest]
          rw [if_pos hsupports]
          exact accept_balances hopen publication (.ofBuffer code buffer declared token)
      | false =>
          have hrequest : world.request publication (.ofBuffer code buffer declared token) = _ :=
            request_of_unsupported hsupports
          simp only [silently, hrequest]
          rw [if_neg (by simp [hsupports])]
          exact .of_idle hopen rfl rfl rfl

/-- Every step keeps the books. -/
theorem step_balances {world : World} (hopen : world.Open) (step : Step) :
    world.Balances (step.accepted world) (world.step step).events (world.step step).world := by
  obtain ⟨hheld, hexecutor⟩ := open_iff.mp hopen
  -- A query, a cancel or a change of names is idle whether or not its table exists.
  cases step with
  | register adapter table args backend host =>
      have hsparing : world.Sparing (world.register { adapter, host, table, args } backend) :=
        registerWith_sparing (backend.setup_sparing _ world)
      exact .of_idle hopen hsparing.held hsparing.executor hsparing.completions
  | initialized => exact .of_idle hopen rfl rfl rfl
  | request table code buffer declared token =>
      exact request_balances hopen table code buffer declared token
  | supports table | radioState table | info table =>
      simp only [World.step, onTable]
      cases world.publication? table <;> exact .of_idle hopen rfl rfl rfl
  | cancel table token =>
      simp only [World.step, onTable]
      cases world.publication? table with
      | none => exact .of_idle hopen rfl rfl rfl
      | some publication =>
          exact .of_idle hopen rfl rfl (publication.handler.completions_cancel token)
  | clone table | forget table | returnCodes table =>
      simp only [World.step, onName]
      cases world.position? table <;> exact .of_idle hopen rfl rfl rfl
  | run =>
      refine .of_executor hopen ?_ (Executor.run_open hexecutor)
      show List.Perm _ (world.executor.duties ++ [])
      rw [List.append_nil]
      exact Executor.run_balance hexecutor
  | release token how =>
      refine .of_executor hopen ?_ (Executor.release_open hexecutor token how)
      show List.Perm _ (world.executor.duties ++ [])
      rw [List.append_nil]
      exact (Executor.unfinished_release_perm _ token how).map Forwarded.duty
  | shutdown =>
      refine .of_executor hopen ?_ ?_
      · show (completions world.executor.shutdown.1 ++ []).Perm _
        rw [Executor.completions_shutdown hexecutor]
        exact .refl _
      · intro work hwork
        contradiction
  | finish token how => exact finish_balances hopen token how

/-- A duty that a step takes in comes from a request to a table that supports its code, and is
towards the host of that table. -/
theorem exists_of_mem_step_accepted {world : World} {step : Step} {duty : Duty}
    (hduty : duty ∈ step.accepted world) :
    ∃ table code buffer declared publication,
      step = .request table code buffer declared duty.2 ∧
        world.publication? table = some publication ∧
          publication.handler.supports code = true ∧ duty.1 = publication.host := by
  cases step with
  | request table code buffer declared token =>
      simp only [Step.accepted] at hduty
      cases hpublication : world.publication? table with
      | none =>
          rw [hpublication] at hduty
          contradiction
      | some publication =>
          simp only [hpublication] at hduty
          split at hduty
          next hsupports =>
            rw [List.mem_singleton.mp hduty]
            exact ⟨table, code, buffer, declared, publication, rfl, hpublication, hsupports, rfl⟩
          next => contradiction
  | _ => contradiction

/-- The duties that a run takes in, in order. -/
def accepted (world : World) : List Step → List Duty
  | [] => []
  | step :: rest => step.accepted world ++ (world.step step).world.accepted rest

theorem exists_of_mem_accepted {world : World} {steps : List Step} {duty : Duty}
    (hduty : duty ∈ world.accepted steps) :
    ∃ position, ∃ step : Step, steps[position]? = some step ∧
      duty ∈ step.accepted (world.after (steps.take position)) := by
  induction steps generalizing world with
  | nil => contradiction
  | cons step rest ih =>
      rcases List.mem_append.mp hduty with hfirst | hlater
      · exact ⟨0, step, rfl, hfirst⟩
      · obtain ⟨position, later, hstep, hmem⟩ := ih hlater
        exact ⟨position + 1, later, hstep, hmem⟩

theorem open_after {world : World} (hopen : world.Open) (steps : List Step) :
    (world.after steps).Open :=
  invariant_after Open (fun _ step hworld => (step_balances hworld step).isOpen) hopen steps

/-- A run keeps the books. -/
theorem run_perm {world : World} (hopen : world.Open) (steps : List Step) :
    (completions ((world.shownBy steps).flatMap Prod.snd) ++ (world.after steps).duties).Perm
      (world.duties ++ world.accepted steps) := by
  induction steps generalizing world with
  | nil => simp [accepted]
  | cons step rest ih =>
      have hstep := step_balances hopen step
      have hrest := ih hstep.isOpen
      simp only [shownBy_cons, List.flatMap_cons, completions_append, after_cons, accepted,
        List.append_assoc]
      refine (hrest.append_left _).trans ?_
      rw [← List.append_assoc, ← List.append_assoc]
      exact hstep.perm.append_right _

/-- Letting go of everything discharges every duty that is open. -/
theorem completions_close {world : World} (hopen : world.Open) :
    completions world.close.1 = world.duties := by
  obtain ⟨hheld, hexecutor⟩ := open_iff.mp hopen
  simp only [close, shutdown, completions_append, completions_flatMap_drop hheld,
    Executor.completions_shutdown hexecutor, duties_eq]

/-- The number of live responders for a duty that have not completed their request. -/
def openCount (world : World) (duty : Duty) : Nat :=
  world.live.countP fun responder => responder.duty == duty && !responder.completed

theorem openCount_eq_count {world : World} (hopen : world.Open) (duty : Duty) :
    world.openCount duty = world.duties.count duty := by
  rw [openCount, duties, List.count, List.countP_map]
  refine List.countP_congr fun responder hresponder => ?_
  simp [hopen responder hresponder]

theorem empty_open : ({} : World).Open := by
  intro responder hresponder
  contradiction

end World

/-- Every responder that is alive in a session is for a request that it has accepted. -/
theorem mem_accepted_of_live {steps : List Step} {responder : Responder}
    (hlive : responder ∈ (World.after {} steps).live) :
    responder.duty ∈ World.accepted {} steps :=
  (World.run_perm World.empty_open steps).mem_iff.mp
    (List.mem_append_right _ (List.mem_map_of_mem hlive))

/-- Every completion of a session, up to its end, is for a request that it has accepted. -/
theorem mem_accepted_of_completion {session : List Step} {host : String} {token : Token}
    {status : Status} {data : Bytes}
    (hcomplete : .complete host token status data ∈
      (showSession session).1.flatMap Prod.snd ++ (showSession session).2) :
    (host, token) ∈ World.accepted {} session := by
  have hduty : (host, token) ∈
      completions ((showSession session).1.flatMap Prod.snd ++ (showSession session).2) :=
    List.mem_filterMap.mpr ⟨_, hcomplete, rfl⟩
  have hclose : completions (showSession session).2 = (World.after {} session).duties :=
    World.completions_close (World.open_after World.empty_open session)
  rw [completions_append, hclose] at hduty
  exact (World.run_perm World.empty_open session).mem_iff.mp hduty

/-- After every step of a session, and for every host and token, the completions
made so far and the open responders are together as many as the requests
accepted so far. When the session has ended no responder is alive, so every
accepted request has been completed exactly once and no other completion has
been made. -/
theorem completions_add_openCount_eq_accepted (steps : List Step) (host : String) (token : Token) :
    (∀ count,
      (completions (((showSession steps).1.take count).flatMap Prod.snd)).count (host, token) +
          (World.after {} (steps.take count)).openCount (host, token) =
        (World.accepted {} (steps.take count)).count (host, token)) ∧
      (World.after {} steps).close.2.live = [] ∧
      (completions ((showSession steps).1.flatMap Prod.snd ++ (showSession steps).2)).count
          (host, token) =
        (World.accepted {} steps).count (host, token) := by
  refine ⟨?_, rfl, ?_⟩
  · intro count
    have hperm := World.run_perm World.empty_open (steps.take count)
    rw [World.openCount_eq_count (World.open_after World.empty_open _), ← List.count_append]
    rw [World.shownBy_take] at hperm
    exact hperm.count_eq (host, token)
  · have hperm := World.run_perm World.empty_open steps
    rw [completions_append]
    show List.count _ (_ ++ completions (World.after {} steps).close.1) = _
    rw [World.completions_close (World.open_after World.empty_open steps)]
    exact hperm.count_eq (host, token)

end RadioAdapter
