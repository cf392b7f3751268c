import RadioAdapter.Proofs.Session

/-! # Sessions with steps exchanged

Two sessions are compared in which each step of the one stands where the other has a
step that does the same in the world reached by then. Both take the same course, so
whatever can be said of the one run can be said of the other.
-/

namespace RadioAdapter

/-- At each position the one session has a step that does what the step of the other does, in
the world that the latter has led to. -/
structure Exchanges (world : World) (steps other : List Step) : Prop where
  length : other.length = steps.length
  step : ∀ position original replaced,
    steps[position]? = some original → other[position]? = some replaced →
      let before := world.after (steps.take position)
      before.step replaced = before.step original

namespace Exchanges

variable {world : World} {steps other : List Step}

/-- Exchanged steps do not change the run. -/
theorem runSteps_eq (hexchanges : Exchanges world steps other) :
    world.runSteps other = world.runSteps steps := by
  induction steps generalizing world other with
  | nil =>
      rw [List.eq_nil_of_length_eq_zero hexchanges.length]
  | cons original rest ih =>
      cases other with
      | nil => exact absurd hexchanges.length (by simp)
      | cons replaced later =>
          have hfirst : world.step replaced = world.step original :=
            hexchanges.step 0 original replaced rfl rfl
          have hrest : Exchanges (world.step original).world rest later :=
            { length := Nat.succ.inj hexchanges.length
              step := fun position => hexchanges.step (position + 1) }
          simp only [World.runSteps, hfirst, ih hrest]

theorem take (hexchanges : Exchanges world steps other) (count : Nat) :
    Exchanges world (steps.take count) (other.take count) where
  length := by rw [List.length_take, List.length_take, hexchanges.length]
  step position original replaced hsteps hother := by
    rw [List.getElem?_take] at hsteps hother
    split at hsteps
    next hlt =>
      rw [if_pos hlt] at hother
      rw [List.take_take, Nat.min_eq_left (Nat.le_of_lt hlt)]
      exact hexchanges.step position original replaced hsteps hother
    next => contradiction

/-- After each step the two sessions have led to the same world. -/
theorem after_take_eq (hexchanges : Exchanges world steps other) (count : Nat) :
    world.after (other.take count) = world.after (steps.take count) :=
  congrArg Prod.snd (hexchanges.take count).runSteps_eq

theorem showSession_eq (hexchanges : Exchanges {} steps other) :
    showSession other = showSession steps := by
  simp only [showSession, hexchanges.runSteps_eq]

end Exchanges

end RadioAdapter
