import Mathlib.Data.List.Perm.Basic
import RadioAdapter.Proofs.Session

/-! # The balance of duties

An accepted request is a duty towards its host, named by the request's token. A
duty is open while a responder for it is alive, and a completion discharges it.
Every operation keeps the books: what it discharges and what is open after it
is, in some order, what was open before it and what it took in.
-/

namespace RadioAdapter

/-- A request in the eyes of the host that made it. -/
abbrev Duty := String × Token

/-- The duty that a responder stands for. -/
def Responder.duty (responder : Responder) : Duty := (responder.host, responder.token)

/-- The duty that goes with a forwarded request. -/
def Forwarded.duty (work : Forwarded) : Duty := work.responder.duty

/-- The duty that a call discharges, if it completes a request. -/
def Event.duty? : Event → Option Duty
  | .complete host token _ _ => some (host, token)
  | _ => none

/-- The duties that some calls discharge, in order. -/
def completions (events : List Event) : List Duty := events.filterMap Event.duty?

@[simp] theorem completions_nil : completions [] = [] := rfl

@[simp] theorem completions_append (first second : List Event) :
    completions (first ++ second) = completions first ++ completions second :=
  List.filterMap_append

theorem completions_cons (event : Event) (events : List Event) :
    completions (event :: events) = event.duty?.toList ++ completions events := by
  unfold completions
  cases hduty : event.duty? with
  | none => rw [List.filterMap_cons_none hduty]; rfl
  | some duty => rw [List.filterMap_cons_some hduty]; rfl

/-- Settling an open responder discharges its duty and nothing else. -/
theorem completions_settle {responder : Responder} (hopen : responder.completed = false)
    (settlement : Settlement) :
    completions (responder.settle settlement) = [responder.duty] := by
  rw [Responder.settle_eq_singleton hopen]
  rfl

/-- Letting open responders go discharges the duty of each of them. -/
theorem completions_flatMap_drop {responders : List Responder}
    (hopen : ∀ responder ∈ responders, responder.completed = false) :
    completions (responders.flatMap (·.settle .drop)) = responders.map Responder.duty := by
  induction responders with
  | nil => rfl
  | cons responder rest ih =>
      rw [List.flatMap_cons, completions_append, completions_settle (hopen _ List.mem_cons_self),
        ih fun other hother => hopen other (List.mem_cons_of_mem _ hother)]
      rfl

/-- Taking out the element that a search finds leaves all others. -/
theorem perm_cons_eraseP_of_find? {α : Type} {list : List α} {test : α → Bool} {found : α}
    (hfind : list.find? test = some found) : list.Perm (found :: list.eraseP test) := by
  obtain ⟨htest, before, rest, rfl, hbefore⟩ := List.find?_eq_some_iff_append.mp hfind
  -- The search passes over everything before the first hit, and so does the removal.
  have hnot : ∀ other ∈ before, ¬ test other := by
    intro other hother
    simpa using hbefore other hother
  rw [List.eraseP_append_right _ hnot, List.eraseP_cons_of_pos htest]
  exact List.perm_middle

/-! ## The executor -/

namespace Task

theorem completions_opening (task : Task) : completions task.opening = [] := by
  unfold opening
  cases task.turn <;> rfl

/-- A turn either discharges the duty of its request or leaves the request waiting. -/
theorem completions_events_append_remainder {task : Task}
    (hopen : task.work.responder.completed = false) :
    completions task.events ++ task.remainder.toList.map Forwarded.duty = [task.work.duty] := by
  have hnotice : completions (task.conduct.notice.toList.map
      (.unsolicited task.work.responder.host)) = [] := by
    cases task.conduct.notice <;> rfl
  simp only [events, remainder, completions_append, completions_opening, hnotice,
    List.nil_append]
  cases task.conduct.course with
  | finish outcome =>
      simp only [completions_settle hopen]
      rfl
  | wait => rfl

end Task

/-- A round of turns discharges the duties of the requests that do not wait after it. -/
theorem completions_turns_append_remainders {tasks : List Task}
    (hopen : ∀ task ∈ tasks, task.work.responder.completed = false) :
    (completions (tasks.flatMap Task.events) ++
        (tasks.filterMap Task.remainder).map Forwarded.duty).Perm
      (tasks.map fun task => task.work.duty) := by
  induction tasks with
  | nil => exact .nil
  | cons task rest ih =>
      have hrest := ih fun other hother => hopen other (List.mem_cons_of_mem _ hother)
      have hremainders : (task :: rest).filterMap Task.remainder =
          task.remainder.toList ++ rest.filterMap Task.remainder := by
        cases hremainder : task.remainder with
        | none => simp [hremainder]
        | some work => simp [hremainder]
      rw [List.flatMap_cons, completions_append, hremainders, List.map_append, List.map_cons,
        ← List.singleton_append,
        ← Task.completions_events_append_remainder (hopen task List.mem_cons_self)]
      -- Bring the turn's own waiting request next to what the turn discharges.
      refine List.Perm.trans ?_ (hrest.append_left _)
      simp only [List.append_assoc]
      exact (List.perm_append_comm_assoc _ _ _).append_left _

namespace Executor

/-- The duties that are in the executor's hands. -/
def duties (executor : Executor) : List Duty := executor.unfinished.map Forwarded.duty

/-- None of the executor's requests has been completed yet. -/
def Open (executor : Executor) : Prop :=
  ∀ work ∈ executor.unfinished, work.responder.completed = false

theorem spawn_balance (executor : Executor) {work : Forwarded}
    (hopen : work.responder.completed = false) :
    (completions (executor.spawn work).1 ++ (executor.spawn work).2.duties).Perm
      (executor.duties ++ [work.duty]) := by
  unfold spawn
  split
  · simp only [completions_nil, List.nil_append, duties, unfinished, List.map_append,
      List.map_cons, List.map_nil, List.append_assoc]
    exact (List.perm_append_comm).append_left _
  · rw [completions_settle hopen]
    exact List.perm_append_comm

/-- What an executor has in hand after a request is handed over. -/
theorem mem_unfinished_spawn {executor : Executor} {work other : Forwarded}
    (hother : other ∈ (executor.spawn work).2.unfinished) :
    other ∈ executor.unfinished ∨ other = work := by
  unfold spawn at hother
  split at hother
  · simp only [unfinished, List.map_append, List.map_cons, List.map_nil, List.append_assoc,
      List.mem_append, List.mem_cons, List.not_mem_nil, or_false] at hother
    rcases hother with hready | rfl | hwaiting
    · exact .inl (List.mem_append_left _ hready)
    · exact .inr rfl
    · exact .inl (List.mem_append_right _ hwaiting)
  · exact .inl hother

theorem spawn_open {executor : Executor} (hexecutor : executor.Open) {work : Forwarded}
    (hopen : work.responder.completed = false) : (executor.spawn work).2.Open := by
  intro other hother
  rcases mem_unfinished_spawn hother with hmem | rfl
  · exact hexecutor other hmem
  · exact hopen

theorem Open.ready {executor : Executor} (hexecutor : executor.Open) :
    ∀ task ∈ executor.ready, task.work.responder.completed = false := fun _ htask =>
  hexecutor _ (List.mem_append_left _ (List.mem_map_of_mem htask))

theorem run_balance {executor : Executor} (hexecutor : executor.Open) :
    (completions executor.run.1 ++ executor.run.2.duties).Perm executor.duties := by
  have hturns := completions_turns_append_remainders hexecutor.ready
  -- Those that waited before stay ahead of those that begin to wait now.
  simp only [run, duties, unfinished, List.map_nil, List.nil_append, List.map_append,
    List.map_map]
  refine (List.perm_append_comm.append_left _).trans ?_
  rw [← List.append_assoc]
  exact hturns.append_right _

/-- A round of turns leaves nothing but requests that were unfinished before it. -/
theorem unfinished_run_subset (executor : Executor) :
    executor.run.2.unfinished ⊆ executor.unfinished := by
  intro work hwork
  simp only [run, unfinished, List.map_nil, List.nil_append, List.mem_append,
    List.mem_filterMap] at hwork
  rcases hwork with hwaiting | ⟨task, htask, hremainder⟩
  · exact List.mem_append_right _ hwaiting
  · have hwork : task.work = work := by
      unfold Task.remainder at hremainder
      split at hremainder
      · contradiction
      · exact Option.some.inj hremainder
    rw [← hwork]
    exact List.mem_append_left _ (List.mem_map_of_mem htask)

theorem run_open {executor : Executor} (hexecutor : executor.Open) : executor.run.2.Open :=
  fun work hwork => hexecutor work (executor.unfinished_run_subset hwork)

/-- Waking a request moves it within the executor. -/
theorem unfinished_release_perm (executor : Executor) (token : Token)
    (how : Request → Conduct) :
    (executor.release token how).2.unfinished.Perm executor.unfinished := by
  unfold release
  split
  next => exact .refl _
  next work hfind =>
    simp only [unfinished, List.map_append, List.map_cons, List.map_nil, List.append_assoc]
    exact (perm_cons_eraseP_of_find? hfind).symm.append_left _

theorem release_open {executor : Executor} (hexecutor : executor.Open) (token : Token)
    (how : Request → Conduct) : (executor.release token how).2.Open := fun work hwork =>
  hexecutor work ((executor.unfinished_release_perm token how).mem_iff.mp hwork)

theorem completions_shutdown {executor : Executor} (hexecutor : executor.Open) :
    completions executor.shutdown.1 = executor.duties := by
  have hopen : ∀ responder ∈ executor.unfinished.map Forwarded.responder,
      responder.completed = false := by
    intro responder hresponder
    obtain ⟨work, hwork, rfl⟩ := List.mem_map.mp hresponder
    exact hexecutor work hwork
  have hdrop := completions_flatMap_drop hopen
  rw [List.flatMap_map, List.map_map] at hdrop
  exact hdrop

end Executor

end RadioAdapter
