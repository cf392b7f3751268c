import RadioAdapter.Proofs.Registration.Standing

/-! # What registrations publish

A registration adds publications behind those that are there, one for itself if it
succeeds and one for each registration inside it that does. All of them are for its own
host. Nothing else adds a publication, and nothing takes one away or changes its host,
so the host of a publication tells which registration it goes back to.
-/

namespace RadioAdapter

/-- Whether all that a backend can publish are bridges to the stub radio. -/
def Backend.onlyStubs : Backend → Bool
  | .stub .. | .failing _ => true
  | .nested inner outer => inner.onlyStubs && outer.onlyStubs
  | _ => false

/-- What can be published for a host by registering a backend. -/
structure Publication.ComesFrom (publication : Publication) (backend : Backend) (host : String) :
    Prop where
  host : publication.host = host
  handler : backend.onlyStubs = true → publication.handler = .bridge .stub

namespace World

/-- A change that adds publications that come from a backend, and changes no other. -/
def Gains (before after : World) (backend : Backend) (host : String) : Prop :=
  ∃ made, after.published = before.published ++ made ∧
    ∀ publication ∈ made, publication.ComesFrom backend host

variable {before middle after : World} {inner backend : Backend} {host : String}

theorem Gains.of_same (hsame : after.published = before.published) :
    before.Gains after backend host :=
  ⟨[], by rw [hsame, List.append_nil], nofun⟩

theorem Gains.trans (hfirst : before.Gains middle backend host)
    (hsecond : middle.Gains after backend host) : before.Gains after backend host := by
  obtain ⟨first, hmiddle, hfrom⟩ := hfirst
  obtain ⟨second, hafter, hthen⟩ := hsecond
  refine ⟨first ++ second, by rw [hafter, hmiddle, List.append_assoc], ?_⟩
  intro publication hmade
  rcases List.mem_append.mp hmade with hmem | hmem
  · exact hfrom publication hmem
  · exact hthen publication hmem

/-- What a part of a backend brings, the whole backend brings. -/
theorem Gains.mono (hgains : before.Gains after inner host)
    (hpart : backend.onlyStubs = true → inner.onlyStubs = true) :
    before.Gains after backend host := by
  obtain ⟨made, hafter, hfrom⟩ := hgains
  exact ⟨made, hafter, fun publication hmade =>
    ⟨(hfrom publication hmade).host, fun hstubs =>
      (hfrom publication hmade).handler (hpart hstubs)⟩⟩

/-! ## Registrations -/

theorem registerWith_gains {world : World} {registration : Registration}
    {setup : World → Reaction (Except AdapterError Handler)}
    (hsetup : world.Gains (setup world).world backend registration.host)
    (hhandler : ∀ handler, (setup world).result = .ok handler → backend.onlyStubs = true →
      handler = .bridge .stub) :
    world.Gains (world.registerWith registration setup).world backend registration.host := by
  cases hfree : world.isInitialized registration.adapter with
  | true =>
      rw [registerWith_of_initialized hfree]
      exact .of_same rfl
  | false =>
      cases hresult : (setup world).result with
      | error error =>
          rw [registerWith_of_error hfree hresult]
          exact hsetup
      | ok handler =>
          cases hpublish : (setup world).world.publish registration handler with
          | none =>
              rw [registerWith_of_refused hfree hresult hpublish]
              exact hsetup
          | some next =>
              obtain ⟨_, _, hpublished, _⟩ := eq_of_publish_eq_some hpublish
              rw [registerWith_of_published hfree hresult hpublish]
              refine hsetup.trans ⟨_, hpublished, ?_⟩
              intro publication hmade
              rw [List.mem_singleton.mp hmade]
              exact ⟨rfl, hhandler handler hresult⟩

end World

theorem Launcher.setup_stub {className host : String} {config : BridgeConfig} {args : List String}
    {radio : HostedRadio}
    (hradio : ((Launcher.stub className).setup config host args).result = .ok radio) :
    radio = .stub := by
  have hlaunch : Launcher.stub className config.launchOptions = .ok (.stub className) := rfl
  cases hstart : ((EmbeddedRuntime.stub className).start config.hostedClass host args).result with
  | error error =>
      rw [setup_of_failed hlaunch hstart] at hradio
      contradiction
  | ok started =>
      rw [setup_of_started hlaunch hstart] at hradio
      cases hradio
      unfold EmbeddedRuntime.start at hstart
      by_cases hclass : config.hostedClass = className
      · simp only [EmbeddedRuntime.stub, hclass, ↓reduceIte, HostedRadio.stub] at hstart
        exact (Except.ok.inj hstart).symm
      · simp only [EmbeddedRuntime.stub, hclass, ↓reduceIte] at hstart
        contradiction

namespace Backend

theorem onlyStubs_of_nested {inner outer : Backend}
    (hstubs : (nested inner outer).onlyStubs = true) :
    inner.onlyStubs = true ∧ outer.onlyStubs = true :=
  Bool.and_eq_true_iff.mp hstubs

/-- A backend of stubs brings a bridge to the stub radio, if its setup succeeds. -/
theorem setup_handler (backend : Backend) (registration : Registration) (world : World)
    (hstubs : backend.onlyStubs = true) {handler : Handler}
    (hhandler : (backend.setup registration world).result = .ok handler) :
    handler = .bridge .stub := by
  induction backend generalizing registration world with
  | direct | bridge | custom => contradiction
  | failing error => contradiction
  | stub config className =>
      simp only [setup] at hhandler
      cases hradio : ((Launcher.stub className).setup config registration.host
          registration.args).result with
      | error error =>
          rw [hradio] at hhandler
          contradiction
      | ok radio =>
          rw [hradio] at hhandler
          rw [← Except.ok.inj hhandler, Launcher.setup_stub hradio]
  | nested inner outer ihinner ihouter =>
      exact ihouter registration _ (onlyStubs_of_nested hstubs).2 hhandler

theorem setup_gains (backend : Backend) (registration : Registration) (world : World) :
    world.Gains (backend.setup registration world).world backend registration.host := by
  induction backend generalizing registration world with
  | direct | bridge | stub | custom | failing => exact .of_same rfl
  | nested inner outer ihinner ihouter =>
      have hinner : world.Gains (world.registerWith registration.inner
          (inner.setup registration.inner)).world inner registration.host :=
        World.registerWith_gains (ihinner registration.inner world) fun handler hhandler hstubs =>
          inner.setup_handler registration.inner world hstubs hhandler
      have houter := ihouter registration
        (world.registerWith registration.inner (inner.setup registration.inner)).world
      exact (hinner.mono fun hstubs => (onlyStubs_of_nested hstubs).1).trans
        (houter.mono fun hstubs => (onlyStubs_of_nested hstubs).2)

end Backend

namespace World

/-! ## Steps and runs -/

theorem step_register_gains (world : World) (adapter table : String) (args : List String)
    (backend : Backend) (host : String) :
    world.Gains (world.step (.register adapter table args backend host)).world backend host := by
  have hsetup := backend.setup_gains { adapter, host, table, args } world
  exact registerWith_gains hsetup fun _ hhandler hstubs =>
    backend.setup_handler _ world hstubs hhandler

/-- The hosts of all publications, in order. -/
def hosts (world : World) : List String := world.published.map Publication.host

theorem hosts_setCodes (world : World) (position : Nat) (codes : ReturnCodes) :
    (world.setCodes position codes).hosts = world.hosts := by
  apply List.ext_getElem?
  intro index
  simp only [hosts, setCodes, List.getElem?_map, List.getElem?_modify]
  cases world.published[index]? with
  | none => rfl
  | some publication => by_cases hindex : position = index <;> simp [hindex]

/-- Only registrations add hosts, each its own. -/
theorem hosts_step (world : World) (step : Step) :
    ∃ made, (world.step step).world.hosts = world.hosts ++ made ∧
      ∀ host ∈ made, ∃ adapter table args backend,
        step = .register adapter table args backend host := by
  cases hregisters : step.registers with
  | false =>
      refine ⟨[], ?_, nofun⟩
      rw [List.append_nil]
      rcases (world.step_published hregisters).2 with hsame | ⟨position, codes, hcodes⟩
      · rw [hosts, hosts, hsame]
      · rw [hcodes, hosts_setCodes]
  | true =>
      cases step with
      | register adapter table args backend host =>
          obtain ⟨made, hpublished, hfrom⟩ :=
            world.step_register_gains adapter table args backend host
          refine ⟨made.map Publication.host, ?_, ?_⟩
          · rw [hosts, hosts, hpublished, List.map_append]
          · intro other hother
            obtain ⟨publication, hmade, rfl⟩ := List.mem_map.mp hother
            exact ⟨adapter, table, args, backend, by rw [(hfrom publication hmade).host]⟩
      | _ => contradiction

/-- A publication keeps its host. -/
theorem hosts_after (world : World) (steps : List Step) :
    ∃ made, (world.after steps).hosts = world.hosts ++ made := by
  induction steps generalizing world with
  | nil => exact ⟨[], (List.append_nil _).symm⟩
  | cons step rest ih =>
      obtain ⟨first, hfirst, -⟩ := world.hosts_step step
      obtain ⟨later, hlater⟩ := ih (world.step step).world
      exact ⟨first ++ later, by rw [after_cons, hlater, hfirst, List.append_assoc]⟩

/-- A publication goes back to a registration for its host, in whose step it was made. -/
theorem exists_registration {world : World} {steps : List Step} {index : Nat} {host : String}
    (hnew : world.hosts.length ≤ index) (hhost : (world.after steps).hosts[index]? = some host) :
    ∃ position adapter table args backend,
      steps[position]? = some (.register adapter table args backend host) ∧
        (world.after (steps.take position)).hosts.length ≤ index ∧
          index < (world.after (steps.take (position + 1))).hosts.length := by
  induction steps generalizing world with
  | nil =>
      rw [after_nil, List.getElem?_eq_none hnew] at hhost
      contradiction
  | cons step rest ih =>
      obtain ⟨made, hmade, hfrom⟩ := world.hosts_step step
      by_cases hstep : (world.step step).world.hosts.length ≤ index
      · obtain ⟨position, adapter, table, args, backend, hregister, hbefore, hafter⟩ :=
          ih hstep hhost
        exact ⟨position + 1, adapter, table, args, backend, hregister, hbefore, hafter⟩
      · -- The publication is among those of this step, and its host is never changed.
        obtain ⟨later, hlater⟩ := (world.step step).world.hosts_after rest
        have hindex : index < (world.step step).world.hosts.length := Nat.not_le.mp hstep
        rw [after_cons, hlater, List.getElem?_append_left hindex, hmade,
          List.getElem?_append_right hnew] at hhost
        obtain ⟨adapter, table, args, backend, hregister⟩ := hfrom host (List.mem_of_getElem? hhost)
        exact ⟨0, adapter, table, args, backend, by rw [hregister]; rfl, hnew, hindex⟩

/-- What a name stands for in a session goes back to a registration for its host. -/
theorem exists_register_of_publication {session : List Step} {count : Nat} {name : String}
    {publication : Publication}
    (hpublication : (World.after {} (session.take count)).publication? name = some publication) :
    ∃ registered adapter table args backend index,
      session[registered]? = some (.register adapter table args backend publication.host) ∧
        registered < count ∧
        (World.after {} (session.take registered)).published.length ≤ index ∧
        index < (World.after {} (session.take (registered + 1))).published.length ∧
        (World.after {} (session.take count)).position? name = some index := by
  obtain ⟨index, hname, hindex⟩ := Option.bind_eq_some_iff.mp hpublication
  have hhost : (World.after {} (session.take count)).hosts[index]? = some publication.host := by
    rw [hosts, List.getElem?_map, hindex, Option.map_some]
  obtain ⟨registered, adapter, table, args, backend, hregister, hbefore, hafter⟩ :=
    exists_registration (Nat.zero_le index) hhost
  have hbound : registered < count := by
    have hlength := (List.getElem?_eq_some_iff.mp hregister).1
    rw [List.length_take] at hlength
    exact (Nat.lt_min.mp hlength).1
  rw [List.getElem?_take_of_lt hbound] at hregister
  rw [List.take_take, Nat.min_eq_left (Nat.le_of_lt hbound), hosts, List.length_map] at hbefore
  rw [List.take_take, Nat.min_eq_left hbound, hosts, List.length_map] at hafter
  exact ⟨registered, adapter, table, args, backend, index, hregister, hbound, hbefore, hafter,
    hname⟩

end World

end RadioAdapter
