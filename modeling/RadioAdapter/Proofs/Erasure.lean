import RadioAdapter.Proofs.Session

/-! # Sessions with steps erased

Two runs of a session are compared, the whole session and the session without some of
its steps. When the worlds of the two are related, the erased steps keep them so, and
all other steps do the same in both, the shorter session shows for each of its steps
what the longer one shows. In particular the world of the shorter one may be a view of
the world of the longer one, which the erased steps do not change.
-/

namespace RadioAdapter

/-- What is left of a list when the elements at some positions are erased. -/
def without {α : Type} (erased : Nat → Bool) : List α → List α
  | [] => []
  | first :: rest =>
      let later := without (fun position => erased (position + 1)) rest
      if erased 0 then later else first :: later

section

variable {α : Type} {erased : Nat → Bool} {first : α} {rest : List α}

theorem without_cons_erased (herased : erased 0 = true) :
    without erased (first :: rest) = without (fun position => erased (position + 1)) rest := by
  rw [without, if_pos herased]

theorem without_cons_kept (hkept : erased 0 = false) :
    without erased (first :: rest) =
      first :: without (fun position => erased (position + 1)) rest := by
  rw [without, if_neg (by simp [hkept])]

end

namespace World

/-- What a step shows in a world. -/
def shown (world : World) (step : Step) : Shown :=
  ((world.step step).result, (world.step step).events)

/-- What can be observed at each of some steps, one after the other. -/
def along {α : Type} (observe : World → Step → α) (world : World) : List Step → List α
  | [] => []
  | step :: rest => observe world step :: (world.step step).world.along observe rest

theorem along_shown (world : World) (steps : List Step) :
    world.along shown steps = world.shownBy steps := by
  induction steps generalizing world with
  | nil => rfl
  | cons step rest ih => exact congrArg (_ :: ·) (ih _)

theorem map_along {α β : Type} (observe : World → Step → α) (change : α → β) (world : World)
    (steps : List Step) :
    (world.along observe steps).map change =
      world.along (fun world step => change (observe world step)) steps := by
  induction steps generalizing world with
  | nil => rfl
  | cons step rest ih => exact congrArg (_ :: ·) (ih _)

/-- Two worlds go through a session side by side, the one takes all steps and the other leaves
out the erased ones. If they stay related at every position, and the kept steps show in the one
what can be observed of them in the other, then so does the whole session. -/
theorem run_without_of_related (related : Nat → World → World → Prop)
    (observe : World → Step → Shown) (erased : Nat → Bool) {long short : World}
    (steps : List Step) (hrelated : related 0 long short)
    (herased : ∀ position step short, steps[position]? = some step → erased position = true →
      let before := long.after (steps.take position)
      related position before short → related (position + 1) (before.step step).world short)
    (hkept : ∀ position step short, steps[position]? = some step → erased position = false →
      let before := long.after (steps.take position)
      related position before short →
        short.shown step = observe before step ∧
          related (position + 1) (before.step step).world (short.step step).world) :
    short.shownBy (without erased steps) = without erased (long.along observe steps) ∧
      related steps.length (long.after steps) (short.after (without erased steps)) := by
  induction steps generalizing related erased long short with
  | nil => exact ⟨rfl, hrelated⟩
  | cons step rest ih =>
      -- The rest of the session is compared from the second position on.
      have hrest {next : World} (hnext : related 1 (long.step step).world next) :=
        ih (fun position => related (position + 1)) (fun position => erased (position + 1)) hnext
          (fun position later short hlater => herased (position + 1) later short hlater)
          (fun position later short hlater => hkept (position + 1) later short hlater)
      cases hfirst : erased 0 with
      | true =>
          rw [along, without_cons_erased hfirst, without_cons_erased hfirst]
          exact hrest (herased 0 step short rfl hfirst hrelated)
      | false =>
          obtain ⟨hshown, hnext⟩ := hkept 0 step short rfl hfirst hrelated
          obtain ⟨hlater, hafter⟩ := hrest hnext
          rw [along, without_cons_kept hfirst, without_cons_kept hfirst, shownBy_cons, after_cons,
            hlater]
          exact ⟨congrArg (· :: _) hshown, hafter⟩

/-- Erased steps do not change the view of the world, and all others do the same in the view
as in the world, up to what is observed of their calls. -/
theorem run_without (view : World → World) (observe : World → Step → Shown)
    (erased : Nat → Bool) (world : World) (steps : List Step)
    (herased : ∀ position step, steps[position]? = some step → erased position = true →
      let before := world.after (steps.take position)
      view (before.step step).world = view before)
    (hkept : ∀ position step, steps[position]? = some step → erased position = false →
      let before := world.after (steps.take position)
      (view before).step step =
        { result := (observe before step).1
          events := (observe before step).2
          world := view (before.step step).world }) :
    (view world).shownBy (without erased steps) = without erased (world.along observe steps) ∧
      (view world).after (without erased steps) = view (world.after steps) := by
  refine run_without_of_related (fun _ long short => short = view long) observe erased steps rfl
    ?_ ?_
  · rintro position step short hstep hposition before rfl
    exact (herased position step hstep hposition).symm
  · rintro position step short hstep hposition before rfl
    have hmade := hkept position step hstep hposition
    exact ⟨by rw [shown, hmade], by rw [hmade]⟩

end World

end RadioAdapter
