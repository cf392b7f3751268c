import RadioAdapter.Proofs.Bridge.Docket
import RadioAdapter.Proofs.Erasure
import RadioAdapter.Proofs.Registration.Published

/-! # Cancels, queries and unsupported requests change nothing

A cancel is advice, a query looks and does not touch, and a request whose code the
handler does not support is ignored. None of them changes the world, so a session goes
on in the same way without any of them, whatever tokens they name. A stub bridge
supports no code. So all that it is ever given is ignored, and it has neither a request
on the executor nor a completion to its host.
-/

namespace RadioAdapter

/-- Whether a step only asks or advises, or makes a request that its table ignores. -/
def Step.isInert (world : World) : Step → Bool
  | .cancel .. | .supports .. | .radioState _ | .info _ | .initialized _ => true
  | .request table code _ _ _ =>
      (world.publication? table).all fun publication => !publication.handler.supports code
  | _ => false

namespace World

variable {world : World} {step : Step}

/-! ## Inert steps -/

theorem step_request_of_unsupported {table : String} {code : RequestCode} {buffer : Bytes}
    {declared : Nat} {token : Token}
    (hinert : (Step.request table code buffer declared token).isInert world = true) :
    (world.step (.request table code buffer declared token)).world = world ∧
      (world.step (.request table code buffer declared token)).events = [] := by
  simp only [World.step, onTable]
  cases hpublication : world.publication? table with
  | none => exact ⟨rfl, rfl⟩
  | some publication =>
      have hsupports : publication.handler.supports code = false := by
        simpa [Step.isInert, hpublication] using hinert
      have hrequest :
          world.request publication (.ofBuffer code buffer declared token) = ([], world) :=
        request_of_unsupported hsupports
      simp only [silently, hrequest, and_self]

/-- An inert step leaves the world as it is. -/
theorem step_world_of_isInert (hinert : step.isInert world = true) :
    (world.step step).world = world := by
  cases step with
  | request table code buffer declared token => exact (step_request_of_unsupported hinert).1
  | initialized => rfl
  | supports table | radioState table | info table | cancel table =>
      simp only [World.step, onTable]
      cases world.publication? table <;> rfl
  | _ => contradiction

/-- An inert step makes no call, unless it is a cancel of which a handler is told. -/
theorem step_events_of_isInert (hinert : step.isInert world = true)
    (hunheard : ∀ table token publication, step = .cancel table token →
      world.publication? table = some publication → publication.handler.cancel token = []) :
    (world.step step).events = [] := by
  cases step with
  | request table code buffer declared token => exact (step_request_of_unsupported hinert).2
  | initialized => rfl
  | supports table | radioState table | info table =>
      simp only [World.step, onTable]
      cases world.publication? table <;> rfl
  | cancel table token =>
      simp only [World.step, onTable]
      cases hpublication : world.publication? table with
      | none => rfl
      | some publication => exact hunheard table token publication rfl hpublication
  | _ => contradiction

theorem step_cancel_events {table : String} {publication : Publication} {token : Token}
    (hpublication : world.publication? table = some publication) :
    (world.step (.cancel table token)).events = publication.handler.cancel token := by
  simp only [World.step, onTable, hpublication]

end World

/-! ## Stub bridges -/

theorem Handler.supports_withCodes (handler : Handler) (codes : ReturnCodes) :
    (handler.withCodes codes).supports = handler.supports := by
  cases handler <;> rfl

/-- A host that nothing but stub bridges is registered for. -/
def HasOnlyStubs (session : List Step) (host : String) : Prop :=
  ∀ adapter table args backend, .register adapter table args backend host ∈ session →
    backend.onlyStubs = true

namespace World

/-- Nothing that is published for a host supports any code. -/
def Ignores (world : World) (host : String) : Prop :=
  ∀ publication ∈ world.published, publication.host = host →
    ∀ code, publication.handler.supports code = false

variable {world : World} {host : String}

theorem ignores_setCodes (hignores : world.Ignores host) (position : Nat) (codes : ReturnCodes) :
    (world.setCodes position codes).Ignores host := by
  intro publication hpublication hhost code
  obtain ⟨index, hindex⟩ := List.mem_iff_getElem?.mp hpublication
  simp only [setCodes, List.getElem?_modify] at hindex
  obtain ⟨held, hheld, rfl⟩ := Option.map_eq_some_iff.mp hindex
  have hmem := List.mem_of_getElem? hheld
  by_cases hposition : position = index
  · simp only [hposition, ↓reduceIte] at hhost ⊢
    rw [Handler.supports_withCodes]
    exact hignores held hmem hhost code
  · simp only [hposition, ↓reduceIte] at hhost ⊢
    exact hignores held hmem hhost code

theorem ignores_step (hignores : world.Ignores host) {step : Step}
    (hstubs : HasOnlyStubs [step] host) : (world.step step).world.Ignores host := by
  cases hregisters : step.registers with
  | false =>
      rcases (world.step_published hregisters).2 with hsame | ⟨position, codes, hcodes⟩
      · rw [Ignores, hsame]
        exact hignores
      · rw [hcodes]
        exact ignores_setCodes hignores position codes
  | true =>
      cases step with
      | register adapter table args backend other =>
          obtain ⟨made, hpublished, hfrom⟩ :=
            world.step_register_gains adapter table args backend other
          intro publication hpublication hhost code
          rw [hpublished] at hpublication
          rcases List.mem_append.mp hpublication with hmem | hmem
          · exact hignores publication hmem hhost code
          · have hother : other = host := (hfrom publication hmem).host.symm.trans hhost
            subst hother
            have hbackend := hstubs adapter table args backend List.mem_cons_self
            rw [(hfrom publication hmem).handler hbackend]
            rfl
      | _ => contradiction

theorem accepted_of_ignores (hignores : world.Ignores host) (step : Step) {duty : Duty}
    (hduty : duty ∈ step.accepted world) : duty.1 ≠ host := by
  intro hhost
  obtain ⟨table, code, buffer, declared, publication, -, hpublication, hsupports, howner⟩ :=
    exists_of_mem_step_accepted hduty
  obtain ⟨position, -, hposition⟩ := Option.bind_eq_some_iff.mp hpublication
  have hunsupported :=
    hignores publication (List.mem_of_getElem? hposition) (howner.symm.trans hhost) code
  rw [hunsupported] at hsupports
  contradiction

theorem accepted_run_of_ignores (hignores : world.Ignores host) {steps : List Step}
    (hstubs : HasOnlyStubs steps host) {duty : Duty} (hduty : duty ∈ world.accepted steps) :
    duty.1 ≠ host := by
  induction steps generalizing world with
  | nil => contradiction
  | cons step rest ih =>
      rcases List.mem_append.mp hduty with hmem | hmem
      · exact accepted_of_ignores hignores step hmem
      · refine ih (ignores_step hignores ?_) ?_ hmem
        · intro adapter table args backend hstep
          exact hstubs adapter table args backend
            (List.mem_cons.mpr (.inl (List.mem_singleton.mp hstep)))
        · intro adapter table args backend hstep
          exact hstubs adapter table args backend (List.mem_cons_of_mem _ hstep)

/-- A request is forwarded only if the hosted radio supports its code. -/
theorem supports_of_forwarded {step : Step} {work : Forwarded}
    (hwork : step.forwarded? world = some work) :
    work.radio.supports work.request.code = true := by
  cases step with
  | request table code buffer declared token =>
      obtain ⟨publication, -, hwork⟩ := Option.bind_eq_some_iff.mp hwork
      cases hhandler : publication.handler with
      | bridge radio =>
          simp only [hhandler] at hwork
          split at hwork
          next hsupports =>
            cases hwork
            exact hsupports
          next => contradiction
      | direct | custom =>
          rw [hhandler] at hwork
          contradiction
  | _ => contradiction

/-- All that the executor has in hand in a session is supported by the radio that it is for. -/
theorem supports_of_unfinished (steps : List Step) {work : Forwarded}
    (hwork : work ∈ (World.after {} steps).executor.unfinished) :
    work.radio.supports work.request.code = true := by
  refine invariant_after
    (fun world => ∀ work ∈ world.executor.unfinished, work.radio.supports work.request.code = true)
    ?_ (fun _ hnone => by contradiction) steps work hwork
  intro world step hworld work hmem
  rcases mem_unfinished_step hmem with hbefore | hforwarded
  · exact hworld work hbefore
  · exact supports_of_forwarded hforwarded

/-- A host with nothing but stub bridges is owed nothing. -/
theorem accepted_ne_of_onlyStubs {steps : List Step} (hstubs : HasOnlyStubs steps host)
    {duty : Duty} (hduty : duty ∈ World.accepted {} steps) : duty.1 ≠ host :=
  accepted_run_of_ignores (fun _ hpublication => by contradiction) hstubs hduty

end World

/-! ## Sessions -/

/-- A session goes on in the same way without any of its cancels, queries and unsupported
requests. These leave the world as it is, so they complete nothing and use up no responder,
and make no call but one: a bridge that wants to hear of cancels passes each on, once and with
its token. Whatever a stub bridge is given is among these steps: the executor never holds
anything for a stub radio, and a host with nothing but stub bridges is never owed or sent a
completion. -/
theorem inert_steps_leave_no_trace {session : List Step} {erased : Nat → Bool}
    (hinert : ∀ position step, session[position]? = some step → erased position = true →
      step.isInert (World.after {} (session.take position)) = true) :
    showSession (without erased session) =
        (without erased (showSession session).1, (showSession session).2) ∧
      (∀ position step, session[position]? = some step → erased position = true →
        let before := World.after {} (session.take position)
        let made := before.step step
        made.world = before ∧
          (∀ table token host radio, step = .cancel table token →
            before.publication? table = some { host, handler := .bridge radio } →
              made.events = if radio.hearsCancel then [.cancel token] else []) ∧
          ((∀ table token publication, step = .cancel table token →
            before.publication? table = some publication →
              ∃ configurator, publication.handler = .direct configurator) → made.events = [])) ∧
      (∀ count, ∀ work ∈ (World.after {} (session.take count)).executor.unfinished,
        work.radio ≠ .stub) ∧
      ∀ host, HasOnlyStubs session host →
        (∀ count, ∀ responder ∈ (World.after {} (session.take count)).live,
          responder.host ≠ host) ∧
        ∀ token status data, .complete host token status data ∉
          (showSession session).1.flatMap Prod.snd ++ (showSession session).2 := by
  refine ⟨?_, ?_, ?_, ?_⟩
  · obtain ⟨hshown, hafter⟩ := World.run_without id World.shown erased {} session
      (fun position step hstep hposition =>
        World.step_world_of_isInert (hinert position step hstep hposition))
      fun _ _ _ _ => rfl
    rw [World.along_shown] at hshown
    refine Prod.ext hshown ?_
    show (World.after {} (without erased session)).close.1 = (World.after {} session).close.1
    exact congrArg (fun world => world.close.1) hafter
  · intro position step hstep hposition before made
    have hstepInert := hinert position step hstep hposition
    refine ⟨World.step_world_of_isInert hstepInert, ?_, ?_⟩
    · rintro table token host radio rfl hpublication
      exact World.step_cancel_events hpublication
    · intro hdirect
      refine World.step_events_of_isInert hstepInert ?_
      intro table token publication hcancel hpublication
      obtain ⟨configurator, hhandler⟩ := hdirect table token publication hcancel hpublication
      rw [hhandler]
      rfl
  · intro count work hwork hstub
    have hsupports := World.supports_of_unfinished _ hwork
    rw [hstub] at hsupports
    contradiction
  · intro host hstubs
    constructor
    · intro count responder hlive
      have hbeginning : HasOnlyStubs (session.take count) host :=
        fun adapter table args backend hstep =>
          hstubs adapter table args backend (List.mem_of_mem_take hstep)
      exact World.accepted_ne_of_onlyStubs hbeginning (mem_accepted_of_live hlive)
    · intro token status data hcomplete
      exact World.accepted_ne_of_onlyStubs hstubs (mem_accepted_of_completion hcomplete) rfl

/-- Cancels of a waiting, a queued and a finished request, of tokens that nobody knows and of
one on a bridge that does not want to hear of it, queries, and requests that a direct table and
a stub bridge do not support. -/
theorem inert_steps_leave_no_trace_of_busy :
    let radio := HostedRadio.echoing
    let deaf : HostedRadio := { radio with hearsCancel := false }
    let setup : List Step :=
      [.register "first" "radio" [] (.bridge {} (.ofRadio radio)),
        .register "second" "deaf" [] (.bridge {} (.ofRadio deaf)),
        .register "third" "net" [] (.direct {}),
        .register "fourth" "still" [] (.stub {} "rilofono/Ril")]
    let waiting : List Step :=
      [.request "radio" ⟨2⟩ [1] 1 ⟨1⟩, .run, .request "radio" ⟨3⟩ [2] 1 ⟨2⟩]
    let asking : List Step :=
      [.cancel "radio" ⟨1⟩, .cancel "radio" ⟨2⟩, .cancel "deaf" ⟨1⟩, .cancel "net" ⟨9⟩,
        .request "net" ⟨1⟩ [5] 1 ⟨1⟩, .request "still" .oemHookRaw [6] 1 ⟨2⟩,
        .supports "still" [.oemHookRaw], .radioState "net", .info "radio", .initialized "first"]
    let later : List Step :=
      [.release ⟨1⟩ fun request => { course := .finish (.returned request.data) }, .run]
    let session := setup ++ waiting ++ asking ++ later ++ [.cancel "radio" ⟨2⟩]
    let erased (position : Nat) : Bool :=
      (7 ≤ position && position < 17) || position == 19
    (∀ position step, session[position]? = some step → erased position = true →
        step.isInert (World.after {} (session.take position)) = true) ∧
      (showSession session).1[7]? = some (.done, [.cancel ⟨1⟩]) ∧
      (showSession session).1[9]? = some (.done, []) ∧
      HasOnlyStubs session "still" ∧
      showSession (setup ++ waiting ++ later) =
        (without erased (showSession session).1, (showSession session).2) := by
  intro radio deaf setup waiting asking later session erased
  have hinert : ∀ position step, session[position]? = some step → erased position = true →
      step.isInert (World.after {} (session.take position)) = true := by
    intro position step hstep hposition
    have hbound : position < session.length := (List.getElem?_eq_some_iff.mp hstep).1
    have hall : ∀ position < session.length, erased position = true →
        session[position]?.all fun step =>
          step.isInert (World.after {} (session.take position)) := by
      subst session later asking waiting setup deaf radio
      decide
    have hone := hall position hbound hposition
    rwa [hstep] at hone
  have hstubs : HasOnlyStubs session "still" := by
    intro adapter table args backend hregister
    simp [session, setup, waiting, asking, later] at hregister
    rw [hregister.2.2.2]
    rfl
  have hwithout : without erased session = setup ++ waiting ++ later := rfl
  have htrace := (inert_steps_leave_no_trace hinert).1
  rw [hwithout] at htrace
  have hheard : (showSession session).1[7]? = some (.done, [.cancel ⟨1⟩]) := by
    subst session later asking waiting setup deaf radio
    rfl
  have hunheard : (showSession session).1[9]? = some (.done, []) := by
    subst session later asking waiting setup deaf radio
    rfl
  exact ⟨hinert, hheard, hunheard, hstubs, htrace⟩

end RadioAdapter
