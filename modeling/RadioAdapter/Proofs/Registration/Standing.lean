import RadioAdapter.Proofs.Registration.Race

/-! # Where a registration call stands

What a call has made, what it has answered and what the world shows of it go
together. This is kept by every move: by the call's own steps, and by all that
happens elsewhere, because a world never forgets an adapter or a handler.
-/

namespace RadioAdapter

/-! ## What a world never loses -/

theorem Handler.withCodes_withCodes (handler : Handler) (first second : ReturnCodes) :
    (handler.withCodes first).withCodes second = handler.withCodes second := by
  cases handler <;> rfl

namespace World

/-- A handler serves a host. Its return codes may have been replaced since it was
published. -/
def Serves (world : World) (host : String) (handler : Handler) : Prop :=
  ∃ publication ∈ world.published, publication.host = host ∧
    (publication.handler = handler ∨ ∃ codes, publication.handler = handler.withCodes codes)

/-- Adapters stay initialised, and handlers go on serving. -/
structure Extends (before after : World) : Prop where
  initialized : ∀ adapter,
    before.isInitialized adapter = true → after.isInitialized adapter = true
  serves : ∀ host handler, before.Serves host handler → after.Serves host handler

theorem Extends.refl (world : World) : world.Extends world :=
  ⟨fun _ => id, fun _ _ => id⟩

theorem isInitialized_congr {before after : World}
    (hinitialized : after.initialized = before.initialized) (adapter : String) :
    after.isInitialized adapter = before.isInitialized adapter := by
  rw [isInitialized, isInitialized, hinitialized]

theorem serves_congr {before after : World} (hpublished : after.published = before.published)
    (host : String) (handler : Handler) :
    after.Serves host handler ↔ before.Serves host handler := by
  rw [Serves, Serves, hpublished]

theorem extends_of_same {before after : World}
    (hinitialized : after.initialized = before.initialized)
    (hpublished : after.published = before.published) : before.Extends after where
  initialized adapter hbefore := by rwa [isInitialized_congr hinitialized]
  serves host handler hbefore := by rwa [serves_congr hpublished]

/-- Other return codes leave every handler in service. -/
theorem setCodes_extends (world : World) (position : Nat) (codes : ReturnCodes) :
    world.Extends (world.setCodes position codes) where
  initialized _ hbefore := hbefore
  serves host handler hserves := by
    obtain ⟨publication, hmem, hhost, hhandler⟩ := hserves
    obtain ⟨index, hindex⟩ := List.mem_iff_getElem?.mp hmem
    have hafter : (world.setCodes position codes).published[index]? =
        some (if position = index then
          { publication with handler := publication.handler.withCodes codes }
        else publication) := by
      simp only [setCodes, List.getElem?_modify, hindex, Option.map_eq_map, Option.map_some]
    refine ⟨_, List.mem_of_getElem? hafter, ?_⟩
    split
    · refine ⟨hhost, Or.inr ⟨codes, ?_⟩⟩
      -- Codes replaced twice are codes replaced by the later ones.
      rcases hhandler with hhandler | ⟨earlier, hhandler⟩
      · simp only [hhandler]
      · simp only [hhandler, Handler.withCodes_withCodes]
    · exact ⟨hhost, hhandler⟩

section

variable {world next : World} {registration : Registration} {handler : Handler}

/-- A publication initialises its own adapter and no other. -/
theorem isInitialized_of_publish (hnext : world.publish registration handler = some next)
    (adapter : String) :
    next.isInitialized adapter =
      (world.isInitialized adapter || registration.adapter == adapter) := by
  obtain ⟨_, hinitialized, _⟩ := eq_of_publish_eq_some hnext
  simp only [isInitialized, hinitialized, List.contains_eq_mem, List.mem_append,
    List.mem_singleton, Bool.decide_or, beq_eq_decide, eq_comm]

theorem serves_of_publish (hnext : world.publish registration handler = some next) :
    next.Serves registration.host handler := by
  obtain ⟨_, _, hpublished, _⟩ := eq_of_publish_eq_some hnext
  refine ⟨{ host := registration.host, handler }, ?_, rfl, Or.inl rfl⟩
  rw [hpublished]
  exact List.mem_append_right _ List.mem_cons_self

theorem extends_of_publish (hnext : world.publish registration handler = some next) :
    world.Extends next where
  initialized adapter hbefore := by
    rw [isInitialized_of_publish hnext, hbefore, Bool.true_or]
  serves host other hserves := by
    obtain ⟨publication, hmem, hpublication⟩ := hserves
    obtain ⟨_, _, hpublished, _⟩ := eq_of_publish_eq_some hnext
    refine ⟨publication, ?_, hpublication⟩
    rw [hpublished]
    exact List.mem_append_left _ hmem

end

/-! ## Steps that are no registrations -/

/-- A request changes only what handlers and the executor have in hand. -/
theorem exists_request_eq (world : World) (publication : Publication) (request : Request) :
    ∃ held executor,
      (world.request publication request).2 = { world with held, executor } := by
  cases intake publication request with
  | ignored _ hrequest | served _ _ hrequest | forwarded _ _ _ hrequest | held _ _ hrequest
  | settled _ _ _ hrequest =>
      rw [hrequest]
      exact ⟨_, _, rfl⟩

/-- A step that is no registration initialises nothing, and publishes nothing but
other return codes. -/
theorem step_published (world : World) {step : Step} (hstep : step.registers = false) :
    (world.step step).world.initialized = world.initialized ∧
      ((world.step step).world.published = world.published ∨
        ∃ position codes, (world.step step).world = world.setCodes position codes) := by
  cases step with
  | register => contradiction
  | initialized | run | release | shutdown => exact ⟨rfl, Or.inl rfl⟩
  | request table code buffer declared token =>
      simp only [World.step, onTable]
      cases world.publication? table with
      | none => exact ⟨rfl, Or.inl rfl⟩
      | some publication =>
          obtain ⟨held, executor, hworld⟩ :=
            world.exists_request_eq publication (.ofBuffer code buffer declared token)
          refine ⟨?_, Or.inl ?_⟩ <;> simp only [silently, hworld]
  | supports table | radioState table | info table | cancel table =>
      simp only [World.step, onTable]
      cases world.publication? table <;> exact ⟨rfl, Or.inl rfl⟩
  | clone table | forget table =>
      simp only [World.step, onName]
      cases world.position? table <;> exact ⟨rfl, Or.inl rfl⟩
  | returnCodes table codes =>
      simp only [World.step, onName]
      cases world.position? table with
      | none => exact ⟨rfl, Or.inl rfl⟩
      | some position => exact ⟨rfl, Or.inr ⟨position, codes, rfl⟩⟩
  | finish token how =>
      simp only [World.step, finish]
      cases world.held.find? (·.token == token) <;> exact ⟨rfl, Or.inl rfl⟩

theorem isInitialized_step (world : World) {step : Step} (hstep : step.registers = false)
    (adapter : String) :
    (world.step step).world.isInitialized adapter = world.isInitialized adapter :=
  isInitialized_congr (world.step_published hstep).1 adapter

theorem step_extends (world : World) {step : Step} (hstep : step.registers = false) :
    world.Extends (world.step step).world := by
  obtain ⟨hinitialized, hpublished | ⟨position, codes, hworld⟩⟩ := world.step_published hstep
  · exact extends_of_same hinitialized hpublished
  · rw [hworld]
    exact world.setCodes_extends position codes

end World

/-! ## What a call's stage says -/

namespace Call

/-- Where a call stands and what that says about the calls that it has made, its
answer and the world. -/
inductive Stands (call : Call) (world : World) : Prop where
  | arrived (hstage : call.stage = .arrived) (hmade : call.made = [])
  | settingUp (left : List Event) (hstage : call.stage = .settingUp left)
      (hmade : call.made ++ left = call.setup.events)
  /-- Its adapter was initialised when it looked. -/
  | late (hstage : call.stage = .returned (some .alreadyInitialized)) (hmade : call.made = [])
      (hinitialized : world.isInitialized call.registration.adapter = true)
  /-- Its setup failed. -/
  | failed (error : AdapterError) (hstage : call.stage = .returned (some error))
      (hmade : call.made = call.setup.events) (hresult : call.setup.result = .error error)
  /-- Its adapter became initialised while it was setting up. -/
  | lost (handler : Handler) (hstage : call.stage = .returned (some .alreadyInitialized))
      (hmade : call.made = call.setup.events) (hresult : call.setup.result = .ok handler)
      (hinitialized : world.isInitialized call.registration.adapter = true)
  /-- It initialised its adapter. -/
  | won (handler : Handler) (hstage : call.stage = .returned none)
      (hmade : call.made = call.setup.events) (hresult : call.setup.result = .ok handler)
      (hinitialized : world.isInitialized call.registration.adapter = true)
      (hserves : world.Serves call.registration.host handler)

variable {call : Call} {before after : World} {made : Reaction Call}

theorem Stands.of_extends (hstands : call.Stands before) (hextends : before.Extends after) :
    call.Stands after := by
  cases hstands with
  | arrived hstage hmade => exact .arrived hstage hmade
  | settingUp left hstage hmade => exact .settingUp left hstage hmade
  | late hstage hmade hinitialized =>
      exact .late hstage hmade (hextends.initialized _ hinitialized)
  | failed error hstage hmade hresult => exact .failed error hstage hmade hresult
  | lost handler hstage hmade hresult hinitialized =>
      exact .lost handler hstage hmade hresult (hextends.initialized _ hinitialized)
  | won handler hstage hmade hresult hinitialized hserves =>
      exact .won handler hstage hmade hresult (hextends.initialized _ hinitialized)
        (hextends.serves _ _ hserves)

/-- A call that has yet to look has made no call. -/
theorem Stands.made_of_arrived (hstands : call.Stands before) (hstage : call.stage = .arrived) :
    call.made = [] := by
  cases hstands with
  | arrived _ hmade => exact hmade
  | settingUp _ hstage' | late hstage' | failed _ hstage' | lost _ hstage' | won _ hstage' =>
      rw [hstage] at hstage'
      contradiction

/-- A call that is setting up and has nothing left to do has made all calls of its setup. -/
theorem Stands.made_of_done (hstands : call.Stands before) (hstage : call.stage = .settingUp []) :
    call.made = call.setup.events := by
  cases hstands with
  | settingUp left hstage' hmade =>
      rw [hstage] at hstage'
      cases hstage'
      rwa [List.append_nil] at hmade
  | arrived hstage' | late hstage' | failed _ hstage' | lost _ hstage' | won _ hstage' =>
      rw [hstage] at hstage'
      contradiction

theorem Advances.extends (hadvances : call.Advances before made) : before.Extends made.world := by
  cases hadvances with
  | won handler next hstage hresult hpublish => exact World.extends_of_publish hpublish
  | late | early | calling | failed | lost | returned => exact .refl before

/-- A call's own step keeps that it stands as its stage says. -/
theorem Advances.stands (hadvances : call.Advances before made) (hstands : call.Stands before) :
    made.result.Stands made.world := by
  -- The step fixes the stage, which in turn fixes how the call stood before.
  cases hadvances with
  | late hstage hinitialized =>
      exact .late rfl (hstands.made_of_arrived hstage) hinitialized
  | early hstage hfree =>
      refine .settingUp call.setup.events rfl ?_
      simp only [hstands.made_of_arrived hstage, List.nil_append]
  | calling event left hstage =>
      cases hstands with
      | settingUp left' hstage' hmade =>
          rw [hstage] at hstage'
          cases hstage'
          refine .settingUp left rfl ?_
          simpa only [List.append_assoc, List.singleton_append] using hmade
      | arrived hstage' | late hstage' | failed _ hstage' | lost _ hstage' | won _ hstage' =>
          rw [hstage] at hstage'
          contradiction
  | failed error hstage hresult =>
      exact .failed error rfl (hstands.made_of_done hstage) hresult
  | lost handler hstage hresult hinitialized =>
      exact .lost handler rfl (hstands.made_of_done hstage) hresult hinitialized
  | won handler next hstage hresult hpublish =>
      refine .won handler rfl (hstands.made_of_done hstage) hresult ?_
        (World.serves_of_publish hpublish)
      rw [World.isInitialized_of_publish hpublish]
      simp only [returning, beq_self_eq_true, Bool.or_true]
  | returned failure hstage => exact hstands

end Call

/-! ## Moves -/

namespace Race

/-- All that a move can do. -/
inductive Moves (race : Race) : Move → Traced Race → Prop where
  | arrive (registration : Registration) (setup : Traced (Except AdapterError Handler)) :
      Moves race (.arrive registration setup)
        ⟨[], { race with calls := race.calls ++ [{ registration, setup }] }⟩
  | advance (position : Nat) (call : Call) (made : Reaction Call)
      (hcall : race.calls[position]? = some call) (hadvances : call.Advances race.world made) :
      Moves race (.advance position)
        ⟨made.events, { world := made.world, calls := race.calls.set position made.result }⟩
  | take (step : Step) (hstep : step.registers = false) :
      Moves race (.take step)
        ⟨(race.world.step step).events, { race with world := (race.world.step step).world }⟩
  | idle (move : Move) (hmissing : ∀ position, move = .advance position →
      race.calls[position]? = none) : Moves race move ⟨[], race⟩

theorem move_moves (race : Race) (move : Move) : race.Moves move (race.move move) := by
  cases move with
  | arrive registration setup => exact .arrive registration setup
  | advance position =>
      cases hcall : race.calls[position]? with
      | none =>
          have hidle : race.move (.advance position) = ⟨[], race⟩ := by simp only [move, hcall]
          rw [hidle]
          refine .idle _ ?_
          intro other hother
          cases hother
          exact hcall
      | some call =>
          rw [move_advance hcall]
          exact .advance position call _ hcall (call.advance_advances race.world)
  | take step =>
      cases hstep : step.registers with
      | false =>
          rw [move_take hstep]
          exact .take step hstep
      | true =>
          have hidle : race.move (.take step) = ⟨[], race⟩ := by simp only [move, hstep, ↓reduceIte]
          rw [hidle]
          refine .idle _ ?_
          intro other hother
          contradiction

variable {race : Race}

theorem move_extends (race : Race) (move : Move) :
    race.world.Extends (race.move move).result.world := by
  have hmoves := race.move_moves move
  generalize race.move move = next at hmoves ⊢
  cases hmoves with
  | arrive | idle => exact .refl race.world
  | advance position call made hcall hadvances => exact hadvances.extends
  | take step hstep => exact race.world.step_extends hstep

/-- Every call stands as its stage says. -/
def Stands (race : Race) : Prop := ∀ call ∈ race.calls, call.Stands race.world

theorem move_stands (hrace : race.Stands) (move : Move) : (race.move move).result.Stands := by
  have hextends := race.move_extends move
  have hmoves := race.move_moves move
  generalize race.move move = next at hmoves hextends ⊢
  cases hmoves with
  | arrive registration setup =>
      intro call hcall
      rcases List.mem_append.mp hcall with hold | hnew
      · exact hrace call hold
      · rw [List.mem_singleton.mp hnew]
        exact .arrived rfl rfl
  | advance position call made hcall hadvances =>
      intro other hother
      -- All other calls only see that the world has grown.
      rcases List.mem_or_eq_of_mem_set hother with hold | rfl
      · exact (hrace other hold).of_extends hextends
      · exact hadvances.stands (hrace call (List.mem_of_getElem? hcall))
  | take step hstep =>
      intro call hcall
      exact (hrace call hcall).of_extends hextends
  | idle => exact hrace

theorem stands_run (hrace : race.Stands) (moves : List Move) : (race.run moves).result.Stands :=
  invariant_run Stands (fun _ move hstands => move_stands hstands move) hrace moves

theorem empty_stands : ({} : Race).Stands := by
  intro call hcall
  contradiction

/-- A move leaves a call as it is, or is the call's own step. -/
theorem getElem?_move {position : Nat} {call : Call}
    (hcall : race.calls[position]? = some call) (move : Move) :
    (move ≠ .advance position ∧ (race.move move).result.calls[position]? = some call) ∨
      ∃ made, call.Advances race.world made ∧
        move = .advance position ∧ (race.move move).result.world = made.world ∧
        (race.move move).result.calls[position]? = some made.result := by
  obtain ⟨hposition, _⟩ := List.getElem?_eq_some_iff.mp hcall
  have hmoves := race.move_moves move
  generalize race.move move = next at hmoves ⊢
  cases hmoves with
  | arrive registration setup =>
      refine Or.inl ⟨by simp, ?_⟩
      rw [List.getElem?_append_left hposition]
      exact hcall
  | advance other moving made hmoving hadvances =>
      by_cases heq : other = position
      · subst other
        rw [hcall] at hmoving
        cases hmoving
        exact Or.inr ⟨made, hadvances, rfl, rfl, List.getElem?_set_self hposition⟩
      · refine Or.inl ⟨by simp [heq], ?_⟩
        rw [List.getElem?_set_ne heq]
        exact hcall
  | take => exact Or.inl ⟨by simp, hcall⟩
  | idle move hmissing =>
      refine Or.inl ⟨?_, hcall⟩
      intro heq
      rw [hmissing position heq] at hcall
      contradiction

end Race

end RadioAdapter
