import RadioAdapter.Proofs.Erasure

/-! # Failed registrations leave no trace

A registration changes the world only when it publishes a handler. Until then its
setup may have launched a runtime, constructed and initialised a radio and passed
notices on, but none of this is kept. So a registration that returns an error, and
inside which no other one succeeded, might as well not have been made: without it
the session goes on in the same way, a later attempt on the same adapter included.
-/

namespace RadioAdapter

/-! ## One registration -/

/-- A registration that fails leaves the world as it was, if its setup does. Inside the setup
no registration may have succeeded. -/
theorem World.registerWith_of_failed {world : World} (registration : Registration)
    {setup : World → Reaction (Except AdapterError Handler)}
    (hfailed : (world.registerWith registration setup).result ≠ none)
    (hnested : .nested none ∉ (world.registerWith registration setup).events)
    (hsetup : .nested none ∉ (setup world).events → (setup world).world = world) :
    (world.registerWith registration setup).world = world := by
  cases hfree : world.isInitialized registration.adapter with
  | true => rw [registerWith_of_initialized hfree]
  | false =>
      cases hresult : (setup world).result with
      | error error =>
          rw [registerWith_of_error hfree hresult] at hnested ⊢
          exact hsetup hnested
      | ok handler =>
          cases hpublish : (setup world).world.publish registration handler with
          | none =>
              rw [registerWith_of_refused hfree hresult hpublish] at hnested ⊢
              exact hsetup hnested
          | some next =>
              rw [registerWith_of_published hfree hresult hpublish] at hfailed
              contradiction

/-- A setup leaves the world as it was unless a registration inside it succeeds. -/
theorem Backend.setup_world {backend : Backend} {registration : Registration} {world : World}
    (hnested : .nested none ∉ (backend.setup registration world).events) :
    (backend.setup registration world).world = world := by
  induction backend generalizing registration world with
  | direct | bridge | stub | custom | failing => rfl
  | nested inner outer ihinner ihouter =>
      simp only [setup, List.mem_append, List.mem_cons, Event.nested.injEq, not_or] at hnested ⊢
      obtain ⟨hfirst, hmark, hsecond⟩ := hnested
      have hinner : (world.registerWith registration.inner
          (inner.setup registration.inner)).world = world :=
        World.registerWith_of_failed registration.inner (Ne.symm hmark) hfirst ihinner
      rw [hinner] at hsecond ⊢
      exact ihouter hsecond

theorem World.step_register_of_refused {world : World} {adapter table host : String}
    {args : List String} {backend : Backend} {error : AdapterError}
    (hrefused : (world.step (.register adapter table args backend host)).result = .refused error)
    (hnested : .nested none ∉ (world.step (.register adapter table args backend host)).events) :
    (world.step (.register adapter table args backend host)).world = world := by
  refine World.registerWith_of_failed { adapter, host, table, args } ?_ hnested
    Backend.setup_world
  intro hnone
  rw [World.step, World.register, hnone] at hrefused
  contradiction

/-! ## Sessions -/

/-- A step of a session is a registration that is refused, and inside which no other
registration succeeds. -/
def FailsFlatly (session : List Step) (position : Nat) : Prop :=
  ∃ adapter table args backend host error events,
    session[position]? = some (.register adapter table args backend host) ∧
      (showSession session).1[position]? = some (.refused error, events) ∧
      .nested none ∉ events

/-- The world goes through such a step unchanged. -/
theorem FailsFlatly.world_step {session : List Step} {position : Nat} {step : Step}
    (hfails : FailsFlatly session position) (hstep : session[position]? = some step) :
    ((World.after {} (session.take position)).step step).world =
      World.after {} (session.take position) := by
  obtain ⟨adapter, table, args, backend, host, error, events, hregister, hshown, hnested⟩ := hfails
  cases hstep.symm.trans hregister
  have hmade := (World.getElem?_shownBy hstep).symm.trans hshown
  obtain ⟨hrefused, hevents⟩ := Prod.mk.inj (Option.some.inj hmade)
  rw [← hevents] at hnested
  exact World.step_register_of_refused hrefused hnested

/-- Erasing any failed registrations from a session, whatever backends they were for, leaves
what every other step shows unchanged, and what the end of the session shows. After each of its
steps the world is as if the erased attempts had not been made. -/
theorem failed_registrations_leave_no_trace {session : List Step} {erased : Nat → Bool}
    (herased : ∀ position, erased position = true → FailsFlatly session position) :
    showSession (without erased session) =
        (without erased (showSession session).1, (showSession session).2) ∧
      ∀ count, World.after {} (without erased (session.take count)) =
        World.after {} (session.take count) := by
  -- Each beginning of the session is compared by itself; whether an attempt failed is known
  -- from what the whole session shows.
  have hcount (count : Nat) :
      World.shownBy {} (without erased (session.take count)) =
          without erased (World.shownBy {} (session.take count)) ∧
        World.after {} (without erased (session.take count)) =
          World.after {} (session.take count) := by
    rw [← World.along_shown {} (session.take count)]
    refine World.run_without id World.shown erased {} (session.take count) ?_ fun _ _ _ _ => rfl
    intro position step hstep hposition before
    rw [List.getElem?_take] at hstep
    split at hstep
    next hlt =>
      have hbefore : before = World.after {} (session.take position) := by
        show World.after {} ((session.take count).take position) = _
        rw [List.take_take, Nat.min_eq_left (Nat.le_of_lt hlt)]
      rw [hbefore]
      exact (herased position hposition).world_step hstep
    next => contradiction
  obtain ⟨hshown, hafter⟩ := hcount session.length
  rw [List.take_length] at hshown hafter
  refine ⟨Prod.ext hshown ?_, fun count => (hcount count).2⟩
  show (World.after {} (without erased session)).close.1 = (World.after {} session).close.1
  rw [hafter]

/-- Attempts on one adapter fail at the launch, at the construction of a radio that a nested
registration fails before, and at the initialisation, after a notice. Then one succeeds and
another one comes too late. Without these four the session shows the same. -/
theorem failed_registrations_leave_no_trace_of_retries :
    let faulty : HostedRadio :=
      { HostedRadio.echoing with
        init := fun _ => { notices := [⟨9, [5]⟩], failure := some (.exception "init" "no card") } }
    let retry : Step := .register "modem" "radio" ["a"] (.bridge {} (.ofRadio .echoing))
    let session : List Step :=
      [.register "modem" "radio" [] (.bridge {} fun _ => .error (.launch "no memory")),
        .register "modem" "radio" [] (.nested (.failing .alreadyInitialized) (.stub {} "other")),
        .register "modem" "radio" [] (.bridge {} (.ofRadio faulty)),
        .request "radio" ⟨3⟩ [7] 1 ⟨1⟩, retry, .request "radio" ⟨3⟩ [7] 1 ⟨1⟩,
        .register "modem" "radio" [] (.bridge {} (.ofRadio faulty)), .initialized "modem", .run]
    let erased (position : Nat) : Bool := position < 3 || position == 6
    (∀ position, erased position = true → FailsFlatly session position) ∧
      showSession [.request "radio" ⟨3⟩ [7] 1 ⟨1⟩, retry, .request "radio" ⟨3⟩ [7] 1 ⟨1⟩,
          .initialized "modem", .run] =
        (without erased (showSession session).1, (showSession session).2) := by
  intro faulty retry session erased
  have hfails : ∀ position, erased position = true → FailsFlatly session position := by
    intro position hposition
    have hcases : position = 0 ∨ position = 1 ∨ position = 2 ∨ position = 6 := by
      simp only [erased, Bool.or_eq_true, decide_eq_true_eq, beq_iff_eq] at hposition
      omega
    subst session faulty retry
    rcases hcases with rfl | rfl | rfl | rfl
    · exact ⟨_, _, _, _, _, _, _, rfl, rfl, by decide⟩
    · exact ⟨_, _, _, _, _, _, _, rfl, rfl, by decide⟩
    · exact ⟨_, _, _, _, _, _, _, rfl, rfl, by decide⟩
    · exact ⟨_, _, _, _, _, _, _, rfl, rfl, by decide⟩
  exact ⟨hfails, (failed_registrations_leave_no_trace hfails).1⟩

end RadioAdapter
