import Mathlib.Data.List.Induction
import RadioAdapter.Proofs.Completion.ExactlyOnce

/-! # The docket of forwarded requests

Tokens may repeat, so a completion does not show by itself which request it is
for. A docket numbers the forwarded requests in the order in which they are
accepted, and accompanies a session: it moves the numbered requests exactly as
the executor moves the requests, and enters next to every call which request the
call is made for, and how each request ends. Without its numbers a docket is the
executor, and its account is what the session shows.
-/

namespace RadioAdapter

/-- How a forwarded request ends: its hosted call finishes, or it is dropped before that. -/
inductive Ending where
  | finished (outcome : HostedOutcome)
  | dropped
deriving DecidableEq, Repr

/-- One entry of an account. -/
inductive Entry where
  /-- A call that is not made for a forwarded request. -/
  | other (event : Event)
  | call (number : Nat) (event : Event)
  | ended (number : Nat) (ending : Ending)
deriving DecidableEq

def Entry.event? : Entry → Option Event
  | .other event => some event
  | .call _ event => some event
  | .ended _ _ => none

/-- The calls in an account. -/
def calls (account : List Entry) : List Event := account.filterMap Entry.event?

theorem calls_append (first second : List Entry) :
    calls (first ++ second) = calls first ++ calls second :=
  List.filterMap_append

theorem calls_map_other (events : List Event) : calls (events.map .other) = events := by
  induction events with
  | nil => rfl
  | cons event rest ih => exact congrArg (event :: ·) ih

theorem calls_map_call (number : Nat) (events : List Event) :
    calls (events.map (.call number)) = events := by
  induction events with
  | nil => rfl
  | cons event rest ih => exact congrArg (event :: ·) ih

theorem calls_flatMap {α : Type} (list : List α) (entries : α → List Entry) :
    calls (list.flatMap entries) = list.flatMap fun element => calls (entries element) := by
  induction list with
  | nil => rfl
  | cons element rest ih => rw [List.flatMap_cons, calls_append, ih, List.flatMap_cons]

/-- The entries of a turn. -/
def Task.entries (task : Task) (number : Nat) : List Entry :=
  task.opening.map (.call number) ++
    (task.conduct.notice.toList.map (.unsolicited task.work.responder.host)).map (.call number) ++
    match task.conduct.course with
    | .finish outcome =>
        .ended number (.finished outcome) ::
          (task.work.responder.settle outcome.settlement).map (.call number)
    | .wait => []

theorem Task.calls_entries (task : Task) (number : Nat) :
    calls (task.entries number) = task.events := by
  rw [entries, events, calls_append, calls_append, calls_map_call, calls_map_call]
  cases task.conduct.course with
  | finish outcome => exact congrArg (_ ++ ·) (calls_map_call number _)
  | wait => rfl

/-- The entries of a request that is dropped. -/
def Forwarded.dropEntries (work : Forwarded) (number : Nat) : List Entry :=
  .ended number .dropped :: (work.responder.settle .drop).map (.call number)

theorem Forwarded.calls_dropEntries (work : Forwarded) (number : Nat) :
    calls (work.dropEntries number) = work.responder.settle .drop :=
  calls_map_call number _

/-- The forwarded requests that are in the executor's hands, with their numbers. -/
structure Docket where
  /-- The number of the next request. -/
  next : Nat := 0
  ready : List (Task × Nat) := []
  waiting : List (Forwarded × Nat) := []
  running : Bool := true

namespace Docket

/-- What a docket is without its numbers. -/
def executor (docket : Docket) : Executor :=
  { ready := docket.ready.map Prod.fst
    waiting := docket.waiting.map Prod.fst
    running := docket.running }

/-- All unfinished requests with their numbers. -/
def unfinished (docket : Docket) : List (Forwarded × Nat) :=
  docket.ready.map (fun entry => (entry.1.work, entry.2)) ++ docket.waiting

/-! ## Operations -/

def spawn (docket : Docket) (work : Forwarded) : List Entry × Docket :=
  if docket.running then
    ([], { docket with
      next := docket.next + 1
      ready := docket.ready ++ [(⟨work, .start⟩, docket.next)] })
  else (work.dropEntries docket.next, { docket with next := docket.next + 1 })

def run (docket : Docket) : List Entry × Docket :=
  (docket.ready.flatMap fun entry => entry.1.entries entry.2,
    { docket with
      ready := []
      waiting := docket.waiting ++ docket.ready.filterMap fun entry =>
        entry.1.remainder.map fun work => (work, entry.2) })

def release (docket : Docket) (token : Token) (how : Request → Conduct) : Docket :=
  match docket.waiting.find? (fun entry => Executor.hasToken token entry.1) with
  | none => docket
  | some (work, number) =>
      { docket with
        ready := docket.ready ++ [(⟨work, .resume (how work.request)⟩, number)]
        waiting := docket.waiting.eraseP fun entry => Executor.hasToken token entry.1 }

def shutdown (docket : Docket) : List Entry × Docket :=
  (docket.unfinished.flatMap fun entry => entry.1.dropEntries entry.2,
    { docket with ready := [], waiting := [], running := false })

/-! ## Without the numbers -/

variable (docket : Docket)

theorem executor_unfinished : docket.executor.unfinished = docket.unfinished.map Prod.fst := by
  simp only [Executor.unfinished, executor, unfinished, List.map_append, List.map_map,
    Function.comp_def]

theorem executor_spawn (work : Forwarded) :
    calls (docket.spawn work).1 = (docket.executor.spawn work).1 ∧
      (docket.spawn work).2.executor = (docket.executor.spawn work).2 := by
  cases hrunning : docket.running with
  | true =>
      simp only [spawn, Executor.spawn, executor, hrunning, ↓reduceIte, List.map_append]
      exact ⟨rfl, rfl⟩
  | false =>
      simp only [spawn, Executor.spawn, executor, hrunning, Bool.false_eq_true, ↓reduceIte,
        Forwarded.calls_dropEntries, and_self]

theorem executor_run :
    calls docket.run.1 = docket.executor.run.1 ∧
      docket.run.2.executor = docket.executor.run.2 := by
  constructor
  · simp only [run, Executor.run, executor, calls_flatMap, Task.calls_entries, List.flatMap_map]
  · simp only [run, Executor.run, executor, List.map_append, List.map_filterMap,
      List.filterMap_map, Option.map_map, Function.comp_def, Option.map_id', List.map_nil]

theorem executor_release (token : Token) (how : Request → Conduct) :
    (docket.release token how).executor = (docket.executor.release token how).2 := by
  have hfind : docket.executor.waiting.find? (Executor.hasToken token) =
      (docket.waiting.find? fun entry => Executor.hasToken token entry.1).map Prod.fst :=
    List.find?_map
  rw [release, Executor.release, hfind]
  cases docket.waiting.find? fun entry => Executor.hasToken token entry.1 with
  | none => rfl
  | some entry =>
      simp only [executor, Option.map_some, List.map_append, List.eraseP_map]
      rfl

theorem executor_shutdown :
    calls docket.shutdown.1 = docket.executor.shutdown.1 ∧
      docket.shutdown.2.executor = docket.executor.shutdown.2 := by
  constructor
  · simp only [shutdown, Executor.shutdown, executor_unfinished, calls_flatMap,
      List.flatMap_map, Forwarded.calls_dropEntries]
  · rfl

end Docket

/-! ## Steps -/

/-- What a step hands to the executor: a request to a bridge table whose radio supports
its code. -/
def Step.forwarded? (world : World) : Step → Option Forwarded
  | .request table code buffer declared token =>
      (world.publication? table).bind fun publication =>
        match publication.handler with
        | .bridge radio =>
            let request := Request.ofBuffer code buffer declared token
            if radio.supports code then
              some { request, responder := publication.responder request, radio }
            else none
        | _ => none
  | _ => none

namespace World

theorem step_of_forwarded {world : World} {step : Step} {work : Forwarded}
    (hwork : step.forwarded? world = some work) :
    (world.step step).events = (world.executor.spawn work).1 ∧
      (world.step step).world.executor = (world.executor.spawn work).2 := by
  cases step with
  | request table code buffer declared token =>
      obtain ⟨publication, hpublication, hwork⟩ := Option.bind_eq_some_iff.mp hwork
      simp only [World.step, onTable, hpublication, silently]
      cases hhandler : publication.handler with
      | bridge radio =>
          simp only [hhandler] at hwork
          cases hsupports : radio.supports code with
          | true =>
              simp only [hsupports, ↓reduceIte, Option.some.injEq] at hwork
              rw [request_of_supported (by rw [hhandler]; exact hsupports),
                accept_bridge hhandler, ← hwork]
              exact ⟨rfl, rfl⟩
          | false => simp [hsupports] at hwork
      | direct => simp [hhandler] at hwork
      | custom => simp [hhandler] at hwork
  | _ => contradiction

/-- A request that is not forwarded is refused, or served without the executor. -/
theorem executor_step_request {world : World} {table : String} {code : RequestCode}
    {buffer : Bytes} {declared : Nat} {token : Token}
    (hnone : (Step.request table code buffer declared token).forwarded? world = none) :
    (world.step (.request table code buffer declared token)).world.executor = world.executor := by
  simp only [World.step, onTable]
  cases hpublication : world.publication? table with
  | none => rfl
  | some publication =>
      simp only [Step.forwarded?, hpublication, Option.bind_some] at hnone
      show (world.request publication _).2.executor = world.executor
      cases intake publication (.ofBuffer code buffer declared token) with
      | ignored _ hrequest | served _ _ hrequest | held _ _ hrequest | settled _ _ _ hrequest =>
          rw [hrequest]
      | forwarded radio hhandler hsupports =>
          have hcode : radio.supports code = true := hsupports
          simp [hhandler, hcode] at hnone

/-- Steps that are not for the executor leave it alone, whether or not their table exists. -/
theorem executor_step_other (world : World) {step : Step} (hnone : step.forwarded? world = none)
    (hrun : step ≠ .run) (hrelease : ∀ token how, step ≠ .release token how)
    (hshutdown : step ≠ .shutdown) : (world.step step).world.executor = world.executor := by
  cases step with
  | run => contradiction
  | release token how => exact absurd rfl (hrelease token how)
  | shutdown => contradiction
  | request => exact executor_step_request hnone
  | register adapter table args backend host =>
      have hsparing : world.Sparing (world.register { adapter, host, table, args } backend) :=
        registerWith_sparing (backend.setup_sparing _ world)
      exact hsparing.executor
  | initialized => rfl
  | finish token how =>
      simp only [World.step, finish]
      split <;> rfl
  | supports table | radioState table | info table | cancel table =>
      simp only [World.step, onTable]
      cases world.publication? table <;> rfl
  | clone table | forget table | returnCodes table =>
      simp only [World.step, onName]
      cases world.position? table <;> rfl

/-- What a step may do with the executor. -/
theorem executor_step_cases (world : World) (step : Step) :
    (∃ work, step.forwarded? world = some work) ∨ step = .run ∨
      (∃ token how, step = .release token how) ∨ step = .shutdown ∨
      step.forwarded? world = none ∧ (world.step step).world.executor = world.executor := by
  cases step with
  | run => exact .inr (.inl rfl)
  | release token how => exact .inr (.inr (.inl ⟨token, how, rfl⟩))
  | shutdown => exact .inr (.inr (.inr (.inl rfl)))
  | request table code buffer declared token =>
      cases hwork : (Step.request table code buffer declared token).forwarded? world with
      | some work => exact .inl ⟨work, rfl⟩
      | none => exact .inr (.inr (.inr (.inr ⟨rfl, executor_step_request hwork⟩)))
  | _ => exact .inr (.inr (.inr (.inr ⟨rfl, world.executor_step_other rfl nofun nofun nofun⟩)))

/-- A step hands over at most one request; all others that are unfinished were so before. -/
theorem mem_unfinished_step {world : World} {step : Step} {work : Forwarded}
    (hwork : work ∈ (world.step step).world.executor.unfinished) :
    work ∈ world.executor.unfinished ∨ step.forwarded? world = some work := by
  rcases world.executor_step_cases step with
    ⟨spawned, hspawned⟩ | rfl | ⟨token, how, rfl⟩ | rfl | ⟨-, hsame⟩
  · rw [(step_of_forwarded hspawned).2] at hwork
    rcases Executor.mem_unfinished_spawn hwork with hmem | rfl
    · exact .inl hmem
    · exact .inr hspawned
  · exact .inl (world.executor.unfinished_run_subset hwork)
  · exact .inl ((world.executor.unfinished_release_perm token how).mem_iff.mp hwork)
  · contradiction
  · rw [hsame] at hwork
    exact .inl hwork

end World

namespace Docket

/-- Take a step of the world, which is given as it is before the step. -/
def step (docket : Docket) (world : World) (step : Step) : List Entry × Docket :=
  match step with
  | .run => docket.run
  | .release token how => ([], docket.release token how)
  | .shutdown => docket.shutdown
  | step =>
      match step.forwarded? world with
      | some work => docket.spawn work
      | none => ((world.step step).events.map .other, docket)

/-- What a step does to a docket. -/
theorem step_cases (docket : Docket) (world : World) (step : Step) :
    (∃ work, step.forwarded? world = some work ∧ docket.step world step = docket.spawn work) ∨
      step.forwarded? world = none ∧
        (step = .run ∧ docket.step world step = docket.run ∨
          (∃ token how, step = .release token how ∧
            docket.step world step = ([], docket.release token how)) ∨
          step = .shutdown ∧ docket.step world step = docket.shutdown ∨
          step ≠ .shutdown ∧
            docket.step world step = ((world.step step).events.map .other, docket)) := by
  cases step with
  | run => exact .inr ⟨rfl, .inl ⟨rfl, rfl⟩⟩
  | release token how => exact .inr ⟨rfl, .inr (.inl ⟨token, how, rfl, rfl⟩)⟩
  | shutdown => exact .inr ⟨rfl, .inr (.inr (.inl ⟨rfl, rfl⟩))⟩
  | request table code buffer declared token =>
      cases hwork : (Step.request table code buffer declared token).forwarded? world with
      | some work => exact .inl ⟨work, rfl, by simp only [Docket.step, hwork]⟩
      | none => exact .inr ⟨rfl, .inr (.inr (.inr ⟨nofun, by simp only [Docket.step, hwork]⟩))⟩
  | _ => exact .inr ⟨rfl, .inr (.inr (.inr ⟨nofun, rfl⟩))⟩

/-- A docket accompanies a world: it shows the calls that the world makes, and stays
the world's executor. -/
theorem executor_step {docket : Docket} {world : World}
    (hexecutor : docket.executor = world.executor) (step : Step) :
    calls (docket.step world step).1 = (world.step step).events ∧
      (docket.step world step).2.executor = (world.step step).world.executor := by
  cases step with
  | run =>
      have hrun := docket.executor_run
      rw [hexecutor] at hrun
      exact hrun
  | release token how =>
      have hrelease := docket.executor_release token how
      rw [hexecutor] at hrelease
      exact ⟨rfl, hrelease⟩
  | shutdown =>
      have hshutdown := docket.executor_shutdown
      rw [hexecutor] at hshutdown
      exact hshutdown
  | request table code buffer declared token =>
      cases hwork : (Step.request table code buffer declared token).forwarded? world with
      | some work =>
          obtain ⟨hevents, hafter⟩ := World.step_of_forwarded hwork
          have hspawn := docket.executor_spawn work
          rw [hexecutor] at hspawn
          simp only [Docket.step, hwork]
          rw [hevents, hafter]
          exact hspawn
      | none =>
          simp only [Docket.step, hwork]
          exact ⟨calls_map_other _, hexecutor.trans (World.executor_step_request hwork).symm⟩
  | _ =>
      refine ⟨calls_map_other _, hexecutor.trans (Eq.symm ?_)⟩
      exact world.executor_step_other rfl nofun nofun nofun

/-- Accompany the steps of a session: the entries of each, and the docket afterwards. -/
def follow (docket : Docket) (world : World) : List Step → List (List Entry) × Docket
  | [] => ([], docket)
  | step :: rest =>
      let made := docket.step world step
      let later := made.2.follow (world.step step).world rest
      (made.1 :: later.1, later.2)

theorem executor_follow {docket : Docket} {world : World}
    (hexecutor : docket.executor = world.executor) (steps : List Step) :
    (docket.follow world steps).1.map calls = (world.shownBy steps).map Prod.snd ∧
      (docket.follow world steps).2.executor = (world.after steps).executor := by
  induction steps generalizing docket world with
  | nil => exact ⟨rfl, hexecutor⟩
  | cons step rest ih =>
      obtain ⟨hcalls, hnext⟩ := executor_step hexecutor step
      obtain ⟨hlater, hafter⟩ := ih hnext
      refine ⟨?_, hafter⟩
      rw [World.shownBy_cons, List.map_cons, ← hlater, ← hcalls]
      rfl

theorem follow_snoc (docket : Docket) (world : World) (before : List Step) (step : Step) :
    docket.follow world (before ++ [step]) =
      let made := docket.follow world before
      let next := made.2.step (world.after before) step
      (made.1 ++ [next.1], next.2) := by
  induction before generalizing docket world with
  | nil => rfl
  | cons first rest ih =>
      rw [List.cons_append, follow, ih]
      rfl

end Docket

/-! ## Sessions -/

/-- The requests that the steps of a session forward, in the order in which they are
accepted. A request's number is its position in this list. -/
def World.forwarded (world : World) : List Step → List Forwarded
  | [] => []
  | step :: rest =>
      (step.forwarded? world).toList ++ (world.step step).world.forwarded rest

theorem World.forwarded_snoc (world : World) (before : List Step) (step : Step) :
    world.forwarded (before ++ [step]) =
      world.forwarded before ++ (step.forwarded? (world.after before)).toList := by
  induction before generalizing world with
  | nil => exact List.append_nil _
  | cons first rest ih =>
      rw [List.cons_append, forwarded, forwarded, ih, after_cons, List.append_assoc]

namespace Docket

/-- The docket that has accompanied a session so far. -/
def after (steps : List Step) : Docket := (follow {} {} steps).2

theorem after_snoc (before : List Step) (step : Step) :
    after (before ++ [step]) = ((after before).step (World.after {} before) step).2 :=
  congrArg Prod.snd (follow_snoc ..)

theorem executor_after (steps : List Step) :
    (after steps).executor = (World.after {} steps).executor :=
  (executor_follow rfl steps).2

/-- The numbers given so far grow with what a step forwards. -/
theorem next_step (docket : Docket) (world : World) (step : Step) :
    (docket.step world step).2.next = docket.next + (step.forwarded? world).toList.length := by
  rcases docket.step_cases world step with
    ⟨work, hwork, hstep⟩ |
    ⟨hnone, ⟨-, hstep⟩ | ⟨token, how, -, hstep⟩ | ⟨-, hstep⟩ | ⟨-, hstep⟩⟩
  · rw [hstep, hwork, spawn]
    split <;> rfl
  · rw [hstep, hnone]
    rfl
  · rw [hstep, hnone, release]
    split <;> rfl
  · rw [hstep, hnone]
    rfl
  · rw [hstep, hnone]
    rfl

/-- The next number is the position of the next request among those forwarded. -/
theorem next_after (steps : List Step) :
    (after steps).next = (World.forwarded {} steps).length := by
  induction steps using List.reverseRecOn with
  | nil => rfl
  | append_singleton before step ih =>
      rw [after_snoc, next_step, ih, World.forwarded_snoc, List.length_append]

/-- Only a shutdown stops a docket. -/
theorem running_step (docket : Docket) (world : World) (step : Step) :
    (docket.step world step).2.running = true ↔ docket.running = true ∧ step ≠ .shutdown := by
  rcases docket.step_cases world step with
    ⟨work, hwork, hstep⟩ |
    ⟨-, ⟨rfl, hstep⟩ | ⟨token, how, rfl, hstep⟩ | ⟨rfl, hstep⟩ | ⟨hother, hstep⟩⟩
  · have hother : step ≠ .shutdown := by
      rintro rfl
      contradiction
    rw [hstep, spawn]
    split
    next hrunning => exact (and_iff_left hother).symm
    next hrunning => exact (and_iff_left hother).symm
  · rw [hstep]
    exact (and_iff_left nofun).symm
  · rw [hstep]
    show (docket.release token how).running = true ↔ _
    rw [release]
    split
    next => exact (and_iff_left nofun).symm
    next => exact (and_iff_left nofun).symm
  · rw [hstep]
    exact iff_of_false Bool.false_ne_true fun hand => hand.2 rfl
  · rw [hstep]
    exact (and_iff_left hother).symm

theorem running_after (steps : List Step) : (after steps).running = true ↔ .shutdown ∉ steps := by
  induction steps using List.reverseRecOn with
  | nil => exact iff_of_true rfl nofun
  | append_singleton before step ih =>
      rw [after_snoc, running_step, ih, List.mem_append, List.mem_singleton, not_or,
        ne_comm (a := step)]

end Docket

/-- The account of a whole session: the entries of each step, and those made when
everything that is left is let go. -/
def accountSession (steps : List Step) : List (List Entry) × List Entry :=
  let followed := Docket.follow {} {} steps
  (followed.1,
    ((World.after {} steps).held.flatMap (·.settle .drop)).map .other ++ followed.2.shutdown.1)

/-- Without its numbers, the account of a session is what the session shows. -/
theorem calls_accountSession (steps : List Step) :
    (accountSession steps).1.map calls = (showSession steps).1.map Prod.snd ∧
      calls (accountSession steps).2 = (showSession steps).2 := by
  have hempty : ({} : Docket).executor = ({} : World).executor := rfl
  obtain ⟨hcalls, hafter⟩ := Docket.executor_follow hempty steps
  refine ⟨hcalls, ?_⟩
  have hshutdown := (Docket.follow {} {} steps).2.executor_shutdown.1
  rw [hafter] at hshutdown
  rw [accountSession, calls_append, calls_map_other, hshutdown]
  rfl

end RadioAdapter
