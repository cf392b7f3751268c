import Mathlib.Data.List.Basic
import RadioAdapter.Proofs.Session

/-! # Registration calls in a race

A registration call looks at its adapter, sets its backend up and then tries to
publish. Between these steps anything may happen: other calls may arrive and
move, on the same adapter or on others, and the host may go on with the tables
that it has. A call that arrives and returns while another one is setting up is
a nested registration; here it needs no rule of its own.

What a setup does is given from outside as the calls that it makes and the way
it ends. They may depend on all that happens meanwhile, because every run is
considered with every setup.
-/

namespace RadioAdapter

/-- Where a registration call stands. -/
inductive Stage where
  /-- It has yet to look whether its adapter is initialised. -/
  | arrived
  /-- It is setting its backend up. These calls are still to be made; then, if the
  setup succeeds, the exchange follows. -/
  | settingUp (left : List Event)
  /-- It has returned, with this error if it failed. -/
  | returned (failure : Option AdapterError)
deriving DecidableEq

/-- A registration call on its way. -/
structure Call where
  registration : Registration
  /-- The calls that the setup makes when it is run, and how it ends. -/
  setup : Traced (Except AdapterError Handler)
  stage : Stage := .arrived
  /-- The calls that the setup has made. -/
  made : List Event := []

/-- Adapters on which registration calls are on their way. -/
structure Race where
  world : World := {}
  /-- All calls, in the order of their arrival. -/
  calls : List Call := []

/-- What may happen next. -/
inductive Move where
  /-- A new call arrives, from the host or out of another call's setup. -/
  | arrive (registration : Registration) (setup : Traced (Except AdapterError Handler))
  /-- The call at a position takes its next step. -/
  | advance (position : Nat)
  /-- A step of the session that is no registration. -/
  | take (step : Step)

namespace Call

/-- The call after its return. -/
def returning (call : Call) (failure : Option AdapterError) : Call :=
  { call with stage := .returned failure }

/-- The next step of a call: the look, a call of the setup, or the exchange. -/
def advance (call : Call) (world : World) : Reaction Call :=
  match call.stage with
  | .arrived =>
      if world.isInitialized call.registration.adapter then
        { result := call.returning (some .alreadyInitialized), world }
      else { result := { call with stage := .settingUp call.setup.events }, world }
  | .settingUp (event :: left) =>
      { result := { call with stage := .settingUp left, made := call.made ++ [event] }
        events := [event]
        world }
  | .settingUp [] =>
      match call.setup.result with
      | .error error => { result := call.returning (some error), world }
      | .ok handler =>
          match world.publish call.registration handler with
          | none => { result := call.returning (some .alreadyInitialized), world }
          | some next => { result := call.returning none, world := next }
  | .returned _ => { result := call, world }

section

variable {call : Call} {world next : World} {handler : Handler}

theorem advance_of_late (hstage : call.stage = .arrived)
    (hinitialized : world.isInitialized call.registration.adapter = true) :
    call.advance world = { result := call.returning (some .alreadyInitialized), world } := by
  simp only [advance, hstage, hinitialized, ↓reduceIte]

theorem advance_of_early (hstage : call.stage = .arrived)
    (hfree : world.isInitialized call.registration.adapter = false) :
    call.advance world =
      { result := { call with stage := .settingUp call.setup.events }, world } := by
  simp only [advance, hstage, hfree, Bool.false_eq_true, ↓reduceIte]

theorem advance_of_calling {event : Event} {left : List Event}
    (hstage : call.stage = .settingUp (event :: left)) :
    call.advance world =
      { result := { call with stage := .settingUp left, made := call.made ++ [event] }
        events := [event]
        world } := by
  simp only [advance, hstage]

theorem advance_of_failed (hstage : call.stage = .settingUp []) {error : AdapterError}
    (hresult : call.setup.result = .error error) :
    call.advance world = { result := call.returning (some error), world } := by
  simp only [advance, hstage, hresult]

theorem advance_of_lost (hstage : call.stage = .settingUp [])
    (hresult : call.setup.result = .ok handler)
    (hinitialized : world.isInitialized call.registration.adapter = true) :
    call.advance world = { result := call.returning (some .alreadyInitialized), world } := by
  simp only [advance, hstage, hresult, World.publish_of_initialized hinitialized]

theorem advance_of_won (hstage : call.stage = .settingUp [])
    (hresult : call.setup.result = .ok handler)
    (hpublish : world.publish call.registration handler = some next) :
    call.advance world = { result := call.returning none, world := next } := by
  simp only [advance, hstage, hresult, hpublish]

theorem advance_of_returned {failure : Option AdapterError}
    (hstage : call.stage = .returned failure) :
    call.advance world = { result := call, world } := by
  simp only [advance, hstage]

end

/-- All that the next step of a call can be. -/
inductive Advances (call : Call) (world : World) : Reaction Call → Prop where
  | late (hstage : call.stage = .arrived)
      (hinitialized : world.isInitialized call.registration.adapter = true) :
      Advances call world { result := call.returning (some .alreadyInitialized), world }
  | early (hstage : call.stage = .arrived)
      (hfree : world.isInitialized call.registration.adapter = false) :
      Advances call world
        { result := { call with stage := .settingUp call.setup.events }, world }
  | calling (event : Event) (left : List Event)
      (hstage : call.stage = .settingUp (event :: left)) :
      Advances call world
        { result := { call with stage := .settingUp left, made := call.made ++ [event] }
          events := [event]
          world }
  | failed (error : AdapterError) (hstage : call.stage = .settingUp [])
      (hresult : call.setup.result = .error error) :
      Advances call world { result := call.returning (some error), world }
  | lost (handler : Handler) (hstage : call.stage = .settingUp [])
      (hresult : call.setup.result = .ok handler)
      (hinitialized : world.isInitialized call.registration.adapter = true) :
      Advances call world { result := call.returning (some .alreadyInitialized), world }
  | won (handler : Handler) (next : World) (hstage : call.stage = .settingUp [])
      (hresult : call.setup.result = .ok handler)
      (hpublish : world.publish call.registration handler = some next) :
      Advances call world { result := call.returning none, world := next }
  | returned (failure : Option AdapterError) (hstage : call.stage = .returned failure) :
      Advances call world { result := call, world }

theorem advance_advances (call : Call) (world : World) :
    call.Advances world (call.advance world) := by
  cases hstage : call.stage with
  | arrived =>
      cases hfree : world.isInitialized call.registration.adapter with
      | true =>
          rw [advance_of_late hstage hfree]
          exact .late hstage hfree
      | false =>
          rw [advance_of_early hstage hfree]
          exact .early hstage hfree
  | settingUp left =>
      cases left with
      | cons event left =>
          rw [advance_of_calling hstage]
          exact .calling event left hstage
      | nil =>
          cases hresult : call.setup.result with
          | error error =>
              rw [advance_of_failed hstage hresult]
              exact .failed error hstage hresult
          | ok handler =>
              cases hfree : world.isInitialized call.registration.adapter with
              | true =>
                  rw [advance_of_lost hstage hresult hfree]
                  exact .lost handler hstage hresult hfree
              | false =>
                  have hpublish : ∃ next, world.publish call.registration handler = some next :=
                    World.exists_publish_of_free hfree
                  obtain ⟨next, hpublish⟩ := hpublish
                  rw [advance_of_won hstage hresult hpublish]
                  exact .won handler next hstage hresult hpublish
  | returned failure =>
      rw [advance_of_returned hstage]
      exact .returned failure hstage

end Call

namespace Race

/-- Make one move. A position that no call has is passed over, and so is a
registration among the steps of the session, which goes by calls. -/
def move (race : Race) : Move → Traced Race
  | .arrive registration setup =>
      ⟨[], { race with calls := race.calls ++ [{ registration, setup }] }⟩
  | .advance position =>
      match race.calls[position]? with
      | none => ⟨[], race⟩
      | some call =>
          let made := call.advance race.world
          ⟨made.events, { world := made.world, calls := race.calls.set position made.result }⟩
  | .take step =>
      if step.registers then ⟨[], race⟩
      else ⟨(race.world.step step).events, { race with world := (race.world.step step).world }⟩

/-- Make some moves, one after the other. -/
def run (race : Race) : List Move → Traced Race
  | [] => ⟨[], race⟩
  | first :: rest =>
      let made := race.move first
      let later := made.result.run rest
      ⟨made.events ++ later.events, later.result⟩

@[simp] theorem run_nil (race : Race) : race.run [] = ⟨[], race⟩ := rfl

theorem run_cons (race : Race) (first : Move) (rest : List Move) :
    race.run (first :: rest) =
      ⟨(race.move first).events ++ ((race.move first).result.run rest).events,
        ((race.move first).result.run rest).result⟩ := rfl

theorem run_append (race : Race) (first second : List Move) :
    race.run (first ++ second) =
      ⟨(race.run first).events ++ ((race.run first).result.run second).events,
        ((race.run first).result.run second).result⟩ := by
  induction first generalizing race with
  | nil => rfl
  | cons move rest ih => simp only [List.cons_append, run_cons, ih, List.append_assoc]

theorem move_advance {race : Race} {position : Nat} {call : Call}
    (hcall : race.calls[position]? = some call) :
    race.move (.advance position) =
      ⟨(call.advance race.world).events,
        { world := (call.advance race.world).world
          calls := race.calls.set position (call.advance race.world).result }⟩ := by
  simp only [move, hcall]

theorem move_take {race : Race} {step : Step} (hstep : step.registers = false) :
    race.move (.take step) =
      ⟨(race.world.step step).events, { race with world := (race.world.step step).world }⟩ := by
  simp only [move, hstep, Bool.false_eq_true, ↓reduceIte]

/-- What each move preserves, a run preserves. -/
theorem invariant_run (invariant : Race → Prop)
    (hmove : ∀ race move, invariant race → invariant (race.move move).result)
    {race : Race} (hrace : invariant race) (moves : List Move) :
    invariant (race.run moves).result := by
  induction moves generalizing race with
  | nil => exact hrace
  | cons first rest ih => exact ih (hmove race first hrace)

end Race

end RadioAdapter
