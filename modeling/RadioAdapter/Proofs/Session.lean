import RadioAdapter.Adapter.Session

/-! # Runs of a session

The steps of a session are taken one after the other, so what holds of a run is
proved along its steps. A beginning of a session is itself a session, and shows
what the whole session shows up to there.
-/

namespace RadioAdapter

/-- Whether a step is a registration. -/
def Step.registers : Step → Bool
  | .register .. => true
  | _ => false

namespace World

/-- The world after some steps. -/
def after (world : World) (steps : List Step) : World := (world.runSteps steps).2

/-- What some steps show, one after the other. -/
def shownBy (world : World) (steps : List Step) : List Shown := (world.runSteps steps).1

@[simp] theorem after_nil (world : World) : world.after [] = world := rfl

@[simp] theorem after_cons (world : World) (step : Step) (rest : List Step) :
    world.after (step :: rest) = (world.step step).world.after rest := rfl

@[simp] theorem shownBy_nil (world : World) : world.shownBy [] = [] := rfl

@[simp] theorem shownBy_cons (world : World) (step : Step) (rest : List Step) :
    world.shownBy (step :: rest) =
      ((world.step step).result, (world.step step).events) ::
        (world.step step).world.shownBy rest := rfl

theorem after_append (world : World) (first second : List Step) :
    world.after (first ++ second) = (world.after first).after second := by
  induction first generalizing world with
  | nil => rfl
  | cons step rest ih => exact ih _

theorem after_take_add_one {world : World} {steps : List Step} {position : Nat} {step : Step}
    (hstep : steps[position]? = some step) :
    world.after (steps.take (position + 1)) =
      ((world.after (steps.take position)).step step).world := by
  rw [List.take_add_one, hstep, after_append]
  rfl

/-- A longer beginning of a session goes on from a shorter one. -/
theorem after_take_of_le (world : World) (steps : List Step) {first second : Nat}
    (hle : first ≤ second) :
    world.after (steps.take second) =
      (world.after (steps.take first)).after ((steps.take second).drop first) := by
  have hfirst : steps.take first = (steps.take second).take first := by
    rw [List.take_take, Nat.min_eq_left hle]
  rw [hfirst, ← after_append, List.take_append_drop]

/-- The first steps of a session show the first part of what it shows. -/
theorem shownBy_take (world : World) (steps : List Step) (count : Nat) :
    world.shownBy (steps.take count) = (world.shownBy steps).take count := by
  induction steps generalizing world count with
  | nil => simp
  | cons step rest ih =>
      cases count with
      | zero => rfl
      | succ count =>
          simp only [List.take_succ_cons, shownBy_cons]
          rw [ih]

/-- What a session shows after its first steps is shown by the world that they lead to. -/
theorem shownBy_drop (world : World) (steps : List Step) (count : Nat) :
    (world.after (steps.take count)).shownBy (steps.drop count) =
      (world.shownBy steps).drop count := by
  induction steps generalizing world count with
  | nil => simp
  | cons step rest ih =>
      cases count with
      | zero => rfl
      | succ count => exact ih _ count

/-- A step of a session shows what it does in the world that the steps before it lead to. -/
theorem getElem?_shownBy {world : World} {steps : List Step} {position : Nat} {step : Step}
    (hstep : steps[position]? = some step) :
    (world.shownBy steps)[position]? =
      some (((world.after (steps.take position)).step step).result,
        ((world.after (steps.take position)).step step).events) := by
  induction steps generalizing world position with
  | nil => contradiction
  | cons first rest ih =>
      cases position with
      | zero =>
          cases Option.some.inj hstep
          rfl
      | succ position => exact ih hstep

/-- What each step preserves, a run preserves. -/
theorem invariant_after (invariant : World → Prop)
    (hstep : ∀ world step, invariant world → invariant (world.step step).world)
    {world : World} (hworld : invariant world) (steps : List Step) :
    invariant (world.after steps) := by
  induction steps generalizing world with
  | nil => exact hworld
  | cons step rest ih => exact ih (hstep world step hworld)

end World

/-! ## A radio to run sessions with -/

/-- A radio that supports every code and answers a request with its own data, except that a
call with the code 2 waits. -/
def HostedRadio.echoing : HostedRadio :=
  { init := fun _ => {}
    supports := fun _ => true
    onRequest := fun request =>
      { course := if request.code = ⟨2⟩ then .wait else .finish (.returned request.data) }
    hearsCancel := true }

/-- A launcher whose runtimes construct one and the same radio. -/
def Launcher.ofRadio (radio : HostedRadio) : Launcher := fun _ =>
  .ok { construct := fun _ => .ok radio }

end RadioAdapter
