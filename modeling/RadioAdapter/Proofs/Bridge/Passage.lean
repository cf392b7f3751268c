import RadioAdapter.Proofs.Bridge.Progress
import RadioAdapter.Proofs.DirectService

/-! # What a docket does with one request

The completion of a request says how the request ends: a success with the bytes that
the hosted call returned, the status and response of the error that it raised, or a
failure without a response if it panicked or was dropped. Every operation of a docket
closes a request in this way and lets go of it, moves it on from where it stands, or
leaves it alone.
-/

namespace RadioAdapter

namespace Ending

/-- The status that is reported for an ending. -/
def status : Ending → Status
  | .finished (.returned _) => .success
  | .finished (.raised (.notImplemented _)) => .requestNotSupported
  | _ => .genericFailure

/-- The response that is reported for an ending. -/
def response : Ending → Bytes
  | .finished (.returned data) => data
  | .finished (.raised (.configurationFailed _ _ (some code))) => littleEndian code
  | _ => []

theorem status_raised (error : AdapterError) :
    (finished (.raised error)).status = error.status := by
  cases error <;> rfl

theorem response_raised (error : AdapterError) :
    (finished (.raised error)).response = error.response := by
  cases error with
  | configurationFailed ifname reason code =>
      cases code with
      | none => rfl
      | some code => exact (signedBytes_eq_littleEndian code).symm
  | _ => rfl

theorem settlement_status (outcome : HostedOutcome) :
    outcome.settlement.status = (finished outcome).status := by
  cases outcome with
  | raised error => exact (status_raised error).symm
  | _ => rfl

theorem settlement_response (outcome : HostedOutcome) :
    outcome.settlement.response = (finished outcome).response := by
  cases outcome with
  | raised error => exact (response_raised error).symm
  | _ => rfl

theorem status_eq_success_iff (ending : Ending) :
    ending.status = .success ↔ ∃ data, ending = .finished (.returned data) := by
  constructor
  · intro hsuccess
    unfold status at hsuccess
    split at hsuccess
    next data => exact ⟨data, rfl⟩
    all_goals contradiction
  · rintro ⟨data, rfl⟩
    rfl

end Ending

/-! ## Entries for one request -/

/-- Whether an entry is the ending or a completion of the request with a number. -/
def Entry.decides (number : Nat) : Entry → Bool
  | .ended of _ => of == number
  | .call of (.complete _ _ _ _) => of == number
  | _ => false

/-- The entries that are the ending or a completion of the request with a number. -/
def decisive (number : Nat) (account : List Entry) : List Entry :=
  account.filter (Entry.decides number)

/-- The end of a request in an account: how it ends, and its completion. -/
def Forwarded.closing (work : Forwarded) (number : Nat) (ending : Ending) : List Entry :=
  [.ended number ending,
    .call number (.complete work.responder.host work.responder.token ending.status
      ending.response)]

theorem decisive_append (number : Nat) (first second : List Entry) :
    decisive number (first ++ second) = decisive number first ++ decisive number second :=
  List.filter_append ..

theorem decisive_map_other (number : Nat) (events : List Event) :
    decisive number (events.map .other) = [] := by
  refine List.filter_eq_nil_iff.mpr ?_
  intro entry hentry
  obtain ⟨event, _, rfl⟩ := List.mem_map.mp hentry
  exact Bool.false_ne_true

/-- Calls that complete nothing decide nothing. -/
theorem decisive_map_call {number other : Nat} {events : List Event}
    (hcalls : completions events = []) : decisive number (events.map (.call other)) = [] := by
  refine List.filter_eq_nil_iff.mpr ?_
  intro entry hentry
  obtain ⟨event, hevent, rfl⟩ := List.mem_map.mp hentry
  have hduty := List.filterMap_eq_nil_iff.mp hcalls event hevent
  cases event with
  | complete => contradiction
  | _ => exact Bool.false_ne_true

/-- An ending decides its own request and no other. -/
theorem decisive_ended {number other : Nat} {work : Forwarded} {ending : Ending}
    {settlement : Settlement} (hopen : work.responder.completed = false)
    (hstatus : settlement.status = ending.status)
    (hresponse : settlement.response = ending.response) :
    decisive number
        (.ended other ending :: (work.responder.settle settlement).map (.call other)) =
      if other = number then work.closing number ending else [] := by
  rw [Responder.settle_eq_singleton hopen, hstatus, hresponse]
  by_cases hown : other = number
  · simp [decisive, Entry.decides, Forwarded.closing, hown]
  · simp [decisive, Entry.decides, hown]

/-- A turn closes its own request if the hosted call finishes, and decides nothing else. -/
theorem Task.decisive_entries {task : Task} (hopen : task.work.responder.completed = false)
    (number other : Nat) :
    decisive number (task.entries other) =
      match task.conduct.course with
      | .finish outcome =>
          if other = number then task.work.closing number (.finished outcome) else []
      | .wait => [] := by
  have hnotice : completions (task.conduct.notice.toList.map
      (.unsolicited task.work.responder.host)) = [] := by
    cases task.conduct.notice <;> rfl
  rw [entries, decisive_append, decisive_append, decisive_map_call task.completions_opening,
    decisive_map_call hnotice]
  cases task.conduct.course with
  | finish outcome =>
      exact decisive_ended hopen (Ending.settlement_status outcome)
        (Ending.settlement_response outcome)
  | wait => rfl

theorem Forwarded.decisive_dropEntries {work : Forwarded}
    (hopen : work.responder.completed = false) (number other : Nat) :
    decisive number (work.dropEntries other) =
      if other = number then work.closing number .dropped else [] :=
  decisive_ended hopen rfl rfl

/-! ## What has a number -/

/-- What has a given number in a list of numbered things. -/
def numbered {α : Type} (number : Nat) (list : List (α × Nat)) : List α :=
  list.filterMap fun entry => if entry.2 = number then some entry.1 else none

section

variable {α β : Type} {number : Nat}

theorem numbered_cons (entry : α × Nat) (rest : List (α × Nat)) :
    numbered number (entry :: rest) =
      if entry.2 = number then entry.1 :: numbered number rest else numbered number rest := by
  by_cases hown : entry.2 = number <;> simp [numbered, hown]

theorem mem_numbered {element : α} {list : List (α × Nat)} :
    element ∈ numbered number list ↔ (element, number) ∈ list := by
  rw [numbered, List.mem_filterMap]
  constructor
  · rintro ⟨entry, hentry, hfound⟩
    split at hfound
    next hown =>
      rw [← Option.some.inj hfound, ← hown]
      exact hentry
    next => contradiction
  · intro hentry
    exact ⟨_, hentry, if_pos rfl⟩

theorem numbered_append (first second : List (α × Nat)) :
    numbered number (first ++ second) = numbered number first ++ numbered number second :=
  List.filterMap_append

theorem numbered_middle_of_ne {other : Nat} (hother : other ≠ number)
    (first rest : List (α × Nat)) (element : α) :
    numbered number (first ++ (element, other) :: rest) = numbered number (first ++ rest) := by
  rw [numbered_append, numbered_cons, if_neg hother, numbered_append]

theorem numbered_snoc_of_ne {other : Nat} (hother : other ≠ number) (list : List (α × Nat))
    (element : α) : numbered number (list ++ [(element, other)]) = numbered number list := by
  rw [numbered_middle_of_ne hother, List.append_nil]

/-- A number that is free is given to one element. -/
theorem numbered_snoc_of_free {list : List (α × Nat)} (hfree : numbered number list = [])
    (element : α) : numbered number (list ++ [(element, number)]) = [element] := by
  rw [numbered_append, hfree, numbered_cons, if_pos rfl]
  rfl

theorem numbered_map (change : α → β) (list : List (α × Nat)) :
    numbered number (list.map fun entry => (change entry.1, entry.2)) =
      (numbered number list).map change := by
  induction list with
  | nil => rfl
  | cons entry rest ih =>
      rw [List.map_cons, numbered_cons, numbered_cons, ih]
      split <;> rfl

theorem numbered_filterMap (change : α → Option β) (list : List (α × Nat)) :
    numbered number (list.filterMap fun entry => (change entry.1).map fun made => (made, entry.2)) =
      (numbered number list).filterMap change := by
  induction list with
  | nil => rfl
  | cons entry rest ih =>
      rw [List.filterMap_cons, numbered_cons]
      cases hchange : change entry.1 with
      | none =>
          by_cases hown : entry.2 = number <;> simp [hown, hchange, ih]
      | some made =>
          by_cases hown : entry.2 = number <;> simp [numbered_cons, hown, hchange, ih]

/-- The decisive entries for a request come from what has its number. -/
theorem decisive_flatMap {entries : α → Nat → List Entry} {list : List (α × Nat)}
    (hother : ∀ entry ∈ list, entry.2 ≠ number → decisive number (entries entry.1 entry.2) = []) :
    decisive number (list.flatMap fun entry => entries entry.1 entry.2) =
      (numbered number list).flatMap fun element => decisive number (entries element number) := by
  induction list with
  | nil => rfl
  | cons entry rest ih =>
      have hrest := ih fun later hlater => hother later (List.mem_cons_of_mem _ hlater)
      rw [List.flatMap_cons, decisive_append, hrest, numbered_cons]
      by_cases hown : entry.2 = number
      · rw [if_pos hown, List.flatMap_cons, hown]
      · rw [if_neg hown, hother entry List.mem_cons_self hown, List.nil_append]

end

/-! ## The request with a number -/

theorem Step.responder_of_forwarded {world : World} {step : Step} {work : Forwarded}
    (hwork : step.forwarded? world = some work) : work.responder.completed = false := by
  cases step with
  | request table code buffer declared token =>
      obtain ⟨publication, _, hwork⟩ := Option.bind_eq_some_iff.mp hwork
      split at hwork
      next radio _ =>
        rw [Option.ite_none_right_eq_some] at hwork
        rw [← Option.some.inj hwork.2]
        rfl
      next => contradiction
  | _ => contradiction

namespace Docket

/-- Where a docket has the unfinished request with a number. -/
inductive Holds (docket : Docket) (number : Nat) (work : Forwarded) : Progress → Prop where
  | queued (turn : Turn) (hready : numbered number docket.ready = [⟨work, turn⟩])
      (hwaiting : numbered number docket.waiting = []) :
      Holds docket number work (.queued (Task.conduct ⟨work, turn⟩))
  | waiting (hready : numbered number docket.ready = [])
      (hwaiting : numbered number docket.waiting = [work]) : Holds docket number work .waiting

/-- A docket that has no request with a number. -/
structure Lacks (docket : Docket) (number : Nat) : Prop where
  ready : numbered number docket.ready = []
  waiting : numbered number docket.waiting = []

/-- What leaves the request with a number alone: it stays where it is, and no entry decides
anything about it. -/
structure LeavesAlone (number : Nat) (docket : Docket) (made : List Entry × Docket) : Prop where
  ready : numbered number made.2.ready = numbered number docket.ready
  waiting : numbered number made.2.waiting = numbered number docket.waiting
  idle : decisive number made.1 = []

/-- None of the docket's requests has been completed yet. -/
def Open (docket : Docket) : Prop := docket.executor.Open

theorem Open.responder {docket : Docket} (hopen : docket.Open) {entry : Forwarded × Nat}
    (hentry : entry ∈ docket.unfinished) : entry.1.responder.completed = false := by
  refine hopen entry.1 ?_
  rw [executor_unfinished]
  exact List.mem_map_of_mem hentry

theorem Open.ready {docket : Docket} (hopen : docket.Open) {entry : Task × Nat}
    (hentry : entry ∈ docket.ready) : entry.1.work.responder.completed = false := by
  have hmem : (entry.1.work, entry.2) ∈ docket.unfinished :=
    List.mem_append_left _ (List.mem_map.mpr ⟨entry, hentry, rfl⟩)
  exact hopen.responder hmem

variable {docket : Docket} {number : Nat} {work : Forwarded} {progress : Progress}
variable {made : List Entry × Docket}

theorem LeavesAlone.holds (halone : LeavesAlone number docket made)
    (hholds : docket.Holds number work progress) : made.2.Holds number work progress := by
  cases hholds with
  | queued turn hready hwaiting =>
      exact .queued turn (halone.ready.trans hready) (halone.waiting.trans hwaiting)
  | waiting hready hwaiting =>
      exact .waiting (halone.ready.trans hready) (halone.waiting.trans hwaiting)

theorem LeavesAlone.lacks (halone : LeavesAlone number docket made)
    (hlacks : docket.Lacks number) : made.2.Lacks number :=
  ⟨halone.ready.trans hlacks.ready, halone.waiting.trans hlacks.waiting⟩

/-- Only a request that waits can be woken. -/
theorem wakes_ne (hwaiting : numbered number docket.waiting = []) (token : Token) :
    docket.wakes token ≠ some number := by
  intro hwakes
  obtain ⟨⟨woken, _⟩, hfind, rfl⟩ := Option.map_eq_some_iff.mp hwakes
  have hmem := mem_numbered.mpr (List.mem_of_find?_eq_some hfind)
  rw [hwaiting] at hmem
  contradiction

/-! ### Handing over -/

/-- A request that is handed over gets its number, and leaves all others alone. -/
theorem spawn_leavesAlone (hopen : work.responder.completed = false)
    (hother : docket.next ≠ number) : LeavesAlone number docket (docket.spawn work) := by
  cases hrunning : docket.running with
  | true =>
      rw [spawn, if_pos hrunning]
      exact ⟨numbered_snoc_of_ne hother _ _, rfl, rfl⟩
  | false =>
      rw [spawn, if_neg (by simp [hrunning])]
      exact ⟨rfl, rfl, (work.decisive_dropEntries hopen _ _).trans (if_neg hother)⟩

/-- A docket that runs queues what is handed over. -/
theorem spawn_queues (hlacks : docket.Lacks number) (hnext : docket.next = number)
    (hrunning : docket.running = true) (work : Forwarded) :
    (docket.spawn work).2.Holds number work (.queued (work.radio.onRequest work.request)) ∧
      decisive number (docket.spawn work).1 = [] := by
  subst hnext
  rw [spawn, if_pos hrunning]
  exact ⟨.queued .start (numbered_snoc_of_free hlacks.ready _) hlacks.waiting, rfl⟩

/-- A docket that has been shut down drops what is handed over. -/
theorem spawn_drops (hlacks : docket.Lacks number) (hnext : docket.next = number)
    (hstopped : docket.running = false) (hopen : work.responder.completed = false) :
    (docket.spawn work).2.Lacks number ∧
      decisive number (docket.spawn work).1 = work.closing number .dropped := by
  subst hnext
  rw [spawn, if_neg (by simp [hstopped])]
  exact ⟨⟨hlacks.ready, hlacks.waiting⟩, (work.decisive_dropEntries hopen _ _).trans (if_pos rfl)⟩

/-! ### Runs -/

theorem decisive_run (hopen : docket.Open) (number : Nat) :
    decisive number docket.run.1 =
      (numbered number docket.ready).flatMap fun task => decisive number (task.entries number) := by
  refine decisive_flatMap ?_
  intro entry hentry hother
  rw [Task.decisive_entries (hopen.ready hentry)]
  cases entry.1.conduct.course with
  | finish outcome => exact if_neg hother
  | wait => rfl

theorem numbered_waiting_run (docket : Docket) (number : Nat) :
    numbered number docket.run.2.waiting =
      numbered number docket.waiting ++
        (numbered number docket.ready).filterMap Task.remainder := by
  simp only [run, numbered_append, numbered_filterMap]

theorem run_leavesAlone (hopen : docket.Open) (hready : numbered number docket.ready = []) :
    LeavesAlone number docket docket.run where
  ready := hready.symm
  waiting := by rw [numbered_waiting_run, hready, List.filterMap_nil, List.append_nil]
  idle := by rw [decisive_run hopen, hready, List.flatMap_nil]

/-- In its turn a request is closed if its hosted call finishes, and waits otherwise. -/
theorem Holds.run {conduct : Conduct} (hholds : docket.Holds number work (.queued conduct))
    (hopen : docket.Open) :
    match conduct.course with
    | .finish outcome => docket.run.2.Lacks number ∧
        decisive number docket.run.1 = work.closing number (.finished outcome)
    | .wait => docket.run.2.Holds number work .waiting ∧ decisive number docket.run.1 = [] := by
  cases hholds with
  | queued turn hready hwaiting =>
      have hmem : (⟨work, turn⟩, number) ∈ docket.ready := by
        rw [← mem_numbered, hready]
        exact List.mem_cons_self
      have hafter := docket.numbered_waiting_run number
      rw [hwaiting, hready, List.nil_append, List.filterMap_cons, List.filterMap_nil,
        Task.remainder] at hafter
      have hentries := Task.decisive_entries (hopen.ready hmem) number number
      have hdecisive := decisive_run hopen number
      rw [hready, List.flatMap_cons, List.flatMap_nil, List.append_nil, hentries] at hdecisive
      cases hcourse : Task.conduct ⟨work, turn⟩ |>.course with
      | finish outcome =>
          rw [hcourse] at hafter hdecisive
          exact ⟨⟨rfl, hafter⟩, hdecisive.trans (if_pos rfl)⟩
      | wait =>
          rw [hcourse] at hafter hdecisive
          exact ⟨.waiting rfl hafter, hdecisive⟩

/-! ### Releases -/

theorem release_of_none {token : Token} (hwakes : docket.wakes token = none)
    (how : Request → Conduct) : docket.release token how = docket := by
  rw [release, Option.map_eq_none_iff.mp hwakes]

/-- The request that is woken is taken out of those that wait, and queued. -/
theorem exists_release_eq {token : Token} {woken : Nat} (hwakes : docket.wakes token = some woken)
    (how : Request → Conduct) :
    ∃ work first rest, docket.waiting = first ++ (work, woken) :: rest ∧
      docket.release token how =
        { docket with
          ready := docket.ready ++ [(⟨work, .resume (how work.request)⟩, woken)]
          waiting := first ++ rest } := by
  obtain ⟨⟨work, _⟩, hfind, rfl⟩ := Option.map_eq_some_iff.mp hwakes
  obtain ⟨htoken, first, rest, hwaiting, hfirst⟩ := List.find?_eq_some_iff_append.mp hfind
  refine ⟨work, first, rest, hwaiting, ?_⟩
  have hnot : ∀ entry ∈ first, ¬Executor.hasToken token entry.1 := by
    intro entry hentry
    simpa using hfirst entry hentry
  have herase : docket.waiting.eraseP (fun entry => Executor.hasToken token entry.1) =
      first ++ rest := by
    rw [hwaiting, List.eraseP_append_right _ hnot]
    exact congrArg (first ++ ·) (List.eraseP_cons_of_pos htoken)
  rw [release, hfind, herase]

theorem release_leavesAlone {token : Token} (hother : docket.wakes token ≠ some number)
    (how : Request → Conduct) :
    LeavesAlone number docket ([], docket.release token how) := by
  cases hwakes : docket.wakes token with
  | none =>
      rw [release_of_none hwakes]
      exact ⟨rfl, rfl, rfl⟩
  | some woken =>
      obtain ⟨work, first, rest, hwaiting, hrelease⟩ := exists_release_eq hwakes how
      have hne : woken ≠ number := by
        rintro rfl
        exact hother hwakes
      rw [hrelease]
      refine ⟨numbered_snoc_of_ne hne _ _, ?_, rfl⟩
      rw [hwaiting]
      exact (numbered_middle_of_ne hne first rest work).symm

/-- A request that is woken goes on as the release says. -/
theorem Holds.release {token : Token} (hholds : docket.Holds number work .waiting)
    (hwakes : docket.wakes token = some number) (how : Request → Conduct) :
    (docket.release token how).Holds number work (.queued (how work.request)) := by
  cases hholds with
  | waiting hready hwaiting =>
      obtain ⟨woken, first, rest, hparts, hrelease⟩ := exists_release_eq hwakes how
      rw [hparts, numbered_append, numbered_cons, if_pos rfl] at hwaiting
      rcases List.append_eq_singleton_iff.mp hwaiting with ⟨hfirst, hrest⟩ | ⟨-, hrest⟩
      · obtain ⟨rfl, hlast⟩ := List.cons.inj hrest
        have hothers : numbered number (first ++ rest) = [] := by
          rw [numbered_append, hfirst, hlast]
          rfl
        rw [hrelease]
        exact .queued (.resume (how woken.request)) (numbered_snoc_of_free hready _) hothers
      · contradiction

/-! ### Shutdown -/

theorem numbered_unfinished (docket : Docket) (number : Nat) :
    numbered number docket.unfinished =
      (numbered number docket.ready).map Task.work ++ numbered number docket.waiting := by
  rw [unfinished, numbered_append, numbered_map]

theorem decisive_shutdown (hopen : docket.Open) (number : Nat) :
    decisive number docket.shutdown.1 =
      (numbered number docket.unfinished).flatMap fun work => work.closing number .dropped := by
  have hdecisive : decisive number docket.shutdown.1 =
      (numbered number docket.unfinished).flatMap fun work =>
        decisive number (work.dropEntries number) := by
    refine decisive_flatMap ?_
    intro entry hentry hother
    rw [Forwarded.decisive_dropEntries (hopen.responder hentry), if_neg hother]
  refine hdecisive.trans (List.flatMap_congr ?_)
  intro work hwork
  have hresponder := hopen.responder (mem_numbered.mp hwork)
  rw [Forwarded.decisive_dropEntries hresponder, if_pos rfl]

theorem shutdown_leavesAlone (hopen : docket.Open) (hlacks : docket.Lacks number) :
    LeavesAlone number docket docket.shutdown where
  ready := hlacks.ready.symm
  waiting := hlacks.waiting.symm
  idle := by
    rw [decisive_shutdown hopen, numbered_unfinished, hlacks.ready, hlacks.waiting]
    rfl

/-- A shutdown drops a request wherever it stands. -/
theorem Holds.shutdown (hholds : docket.Holds number work progress) (hopen : docket.Open) :
    docket.shutdown.2.Lacks number ∧
      decisive number docket.shutdown.1 = work.closing number .dropped := by
  refine ⟨⟨rfl, rfl⟩, ?_⟩
  rw [decisive_shutdown hopen, numbered_unfinished]
  cases hholds with
  | queued _ hready hwaiting =>
      rw [hready, hwaiting]
      rfl
  | waiting hready hwaiting =>
      rw [hready, hwaiting]
      rfl

/-! ### Steps -/

/-- A step leaves a request alone that it does not hand over, move on or end. -/
theorem step_leavesAlone (hopen : docket.Open) {world : World} {step : Step}
    (hspawn : ∀ work, step.forwarded? world = some work → docket.next ≠ number)
    (hrun : step = .run → numbered number docket.ready = [])
    (hrelease : ∀ token how, step = .release token how → docket.wakes token ≠ some number)
    (hshutdown : step = .shutdown → docket.Lacks number) :
    LeavesAlone number docket (docket.step world step) := by
  rcases docket.step_cases world step with
    ⟨work, hwork, hstep⟩ |
    ⟨-, ⟨hstep, hmade⟩ | ⟨token, how, hstep, hmade⟩ | ⟨hstep, hmade⟩ | ⟨-, hmade⟩⟩
  · rw [hstep]
    exact spawn_leavesAlone (Step.responder_of_forwarded hwork) (hspawn work hwork)
  · rw [hmade]
    exact run_leavesAlone hopen (hrun hstep)
  · rw [hmade]
    exact release_leavesAlone (hrelease token how hstep) how
  · rw [hmade]
    exact shutdown_leavesAlone hopen (hshutdown hstep)
  · rw [hmade]
    exact ⟨rfl, rfl, decisive_map_other number _⟩

/-- A request that is finished, or not handed over yet, is not touched. -/
theorem Lacks.step_leavesAlone (hlacks : docket.Lacks number) (hopen : docket.Open)
    {world : World} {step : Step}
    (hspawn : ∀ work, step.forwarded? world = some work → docket.next ≠ number) :
    LeavesAlone number docket (docket.step world step) :=
  Docket.step_leavesAlone hopen hspawn (fun _ => hlacks.ready)
    (fun token _ _ => wakes_ne hlacks.waiting token) fun _ => hlacks

/-- A step that does not move a request on leaves it alone. -/
theorem Holds.step_leavesAlone (hholds : docket.Holds number work progress) (hopen : docket.Open)
    (world : World) {step : Step} (hnumber : number < docket.next)
    (hstays : ¬progress.MovedBy number docket step) :
    LeavesAlone number docket (docket.step world step) := by
  refine Docket.step_leavesAlone hopen (fun _ _ => by omega) ?_ ?_ ?_
  · rintro rfl
    cases hholds with
    | queued => exact absurd ⟨_, rfl⟩ hstays
    | waiting hready _ => exact hready
  · rintro token how rfl
    cases hholds with
    | queued _ _ hwaiting => exact wakes_ne hwaiting token
    | waiting => exact fun hwakes => hstays ⟨rfl, hwakes⟩
  · rintro rfl
    exact absurd trivial hstays

end Docket

end RadioAdapter
