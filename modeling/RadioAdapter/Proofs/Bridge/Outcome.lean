import RadioAdapter.Proofs.Bridge.Passage

/-! # A forwarded request reports its own outcome

Whatever else happens in a session, a forwarded request ends once, and its one
completion says how: as its hosted call finishes, if a run gives it a turn in which it
does, and as a failure without a response if the request is dropped. The completion goes
to the host that made the request and carries the request's own token.
-/

namespace RadioAdapter

/-- The decisive entries for a number within the first steps of a session. -/
def decided (number : Nat) (steps : List Step) : List Entry :=
  decisive number (accountSession steps).1.flatten

variable {number : Nat} {work : Forwarded} {before steps : List Step} {step : Step}
variable {progress : Progress} {ending : Ending}

theorem decided_snoc (number : Nat) (before : List Step) (step : Step) :
    decided number (before ++ [step]) = decided number before ++
      decisive number ((Docket.after before).step (World.after {} before) step).1 := by
  have haccount : (accountSession (before ++ [step])).1 = (accountSession before).1 ++
      [((Docket.after before).step (World.after {} before) step).1] :=
    congrArg Prod.fst (Docket.follow_snoc ..)
  rw [decided, haccount, List.flatten_append, decisive_append, List.flatten_singleton]
  rfl

/-! ## The docket of a session -/

namespace Docket

theorem open_after (steps : List Step) : (after steps).Open := by
  rw [Open, executor_after]
  exact (World.open_iff.mp (World.open_after World.empty_open steps)).2

/-- A number that is not given yet stays free in a step that does not give it, and a number
whose request has ended stays free for good. -/
theorem Lacks.after_snoc (hlacks : (after before).Lacks number)
    (hspawn : ∀ work, step.forwarded? (World.after {} before) = some work →
      (World.forwarded {} before).length ≠ number) :
    (after (before ++ [step])).Lacks number ∧
      decided number (before ++ [step]) = decided number before := by
  rw [← next_after] at hspawn
  have halone := hlacks.step_leavesAlone (open_after before) hspawn
  rw [Docket.after_snoc, decided_snoc, halone.idle, List.append_nil]
  exact ⟨halone.lacks hlacks, rfl⟩

/-- A number that no request has yet is free. -/
theorem lacks_after (hnumber : (World.forwarded {} steps).length ≤ number) :
    (after steps).Lacks number ∧ decided number steps = [] := by
  induction steps using List.reverseRecOn with
  | nil => exact ⟨⟨rfl, rfl⟩, rfl⟩
  | append_singleton before step ih =>
      rw [World.forwarded_snoc, List.length_append] at hnumber
      obtain ⟨hlacks, hnothing⟩ := ih (by omega)
      rw [← hnothing]
      refine hlacks.after_snoc ?_
      intro work hwork
      rw [hwork, Option.toList_some, List.length_singleton] at hnumber
      omega

end Docket

/-! ## The life of a request -/

namespace Forwarded

/-- The step that hands a request over finds its number free. -/
theorem HandedOver.lacks (hhanded : work.HandedOver number before step) :
    (Docket.after before).Lacks number ∧ decided number before = [] :=
  Docket.lacks_after (Nat.le_of_eq hhanded.position)

theorem HandedOver.next (hhanded : work.HandedOver number before step) :
    (Docket.after before).next = number :=
  (Docket.next_after before).trans hhanded.position

/-- The step that hands a request over hands it to the docket. -/
theorem HandedOver.step_eq (hhanded : work.HandedOver number before step) :
    (Docket.after before).step (World.after {} before) step =
      (Docket.after before).spawn work := by
  rcases (Docket.after before).step_cases (World.after {} before) step with
    ⟨other, hother, hstep⟩ | ⟨hnone, -⟩
  · rw [hstep, Option.some.inj (hother.symm.trans hhanded.forwarded)]
  · exact absurd (hhanded.forwarded.symm.trans hnone) nofun

/-- An unfinished request is in the docket where it stands, and nothing is decided about it. -/
theorem Stands.holds (hstands : work.Stands number steps progress) :
    (Docket.after steps).Holds number work progress ∧ decided number steps = [] := by
  induction hstands with
  | @handedOver before step hhanded hrunning =>
      obtain ⟨hlacks, hnothing⟩ := hhanded.lacks
      rw [Docket.after_snoc, decided_snoc, hnothing, hhanded.step_eq]
      exact Docket.spawn_queues hlacks hhanded.next
        ((Docket.running_after before).mpr hrunning) work
  | @waits before conduct hqueued hcourse ih =>
      obtain ⟨hholds, hnothing⟩ := ih
      have hrun := hholds.run (Docket.open_after before)
      rw [hcourse] at hrun
      rw [Docket.after_snoc, decided_snoc, hnothing]
      exact hrun
  | @woken before token how hwaiting hwakes ih =>
      obtain ⟨hholds, hnothing⟩ := ih
      rw [Docket.after_snoc, decided_snoc, hnothing]
      exact ⟨hholds.release hwakes how, rfl⟩
  | @stays before step progress hstands hstays ih =>
      obtain ⟨hholds, hnothing⟩ := ih
      have hnumber := hstands.lt_length
      rw [← Docket.next_after] at hnumber
      have halone := hholds.step_leavesAlone (Docket.open_after before) (World.after {} before)
        hnumber hstays
      rw [Docket.after_snoc, decided_snoc, hnothing, halone.idle]
      exact ⟨halone.holds hholds, rfl⟩

/-- A request that has ended is gone from the docket, and has been closed as it ended. -/
theorem Ended.closed (hended : work.Ended number steps ending) :
    (Docket.after steps).Lacks number ∧ decided number steps = work.closing number ending := by
  induction hended with
  | @finished before conduct outcome hqueued hcourse =>
      obtain ⟨hholds, hnothing⟩ := hqueued.holds
      have hrun := hholds.run (Docket.open_after before)
      rw [hcourse] at hrun
      rw [Docket.after_snoc, decided_snoc, hnothing]
      exact hrun
  | @late before step hhanded hstopped =>
      obtain ⟨hlacks, hnothing⟩ := hhanded.lacks
      have hrunning : (Docket.after before).running = false := by
        rw [← Bool.not_eq_true, Docket.running_after]
        exact not_not_intro hstopped
      rw [Docket.after_snoc, decided_snoc, hnothing, hhanded.step_eq]
      exact Docket.spawn_drops hlacks hhanded.next hrunning
        (Step.responder_of_forwarded hhanded.forwarded)
  | @stopped before progress hstands =>
      obtain ⟨hholds, hnothing⟩ := hstands.holds
      rw [Docket.after_snoc, decided_snoc, hnothing]
      exact hholds.shutdown (Docket.open_after before)
  | @remains before ending hended step ih =>
      obtain ⟨hlacks, hclosed⟩ := ih
      rw [← hclosed]
      refine hlacks.after_snoc ?_
      intro _ _ hlength
      exact absurd hended.lt_length (by omega)

/-- The account of a session closes a request as it ends in the session. The responders that
handlers hold back do not matter to it. -/
theorem EndsIn.closes (hends : work.EndsIn number steps ending) :
    decisive number ((accountSession steps).1.flatten ++ (accountSession steps).2) =
      work.closing number ending := by
  have hlast : decisive number (accountSession steps).2 =
      decisive number (Docket.after steps).shutdown.1 := by
    rw [accountSession, decisive_append, decisive_map_other, List.nil_append]
    rfl
  rw [decisive_append, ← decided, hlast]
  cases hends with
  | ended hended =>
      obtain ⟨hlacks, hclosed⟩ := hended.closed
      have halone := Docket.shutdown_leavesAlone (Docket.open_after steps) hlacks
      rw [hclosed, halone.idle, List.append_nil]
  | unfinished hstands =>
      obtain ⟨hholds, hnothing⟩ := hstands.holds
      rw [hnothing]
      exact (hholds.shutdown (Docket.open_after steps)).2

theorem exists_endsIn (hwork : (World.forwarded {} steps)[number]? = some work) :
    ∃ ending, work.EndsIn number steps ending := by
  rcases stands_or_ended hwork with ⟨progress, hstands⟩ | ⟨ending, hended⟩
  · exact ⟨.dropped, .unfinished hstands⟩
  · exact ⟨ending, .ended hended⟩

theorem closing_inj {first second : Ending}
    (hsame : work.closing number first = work.closing number second) : first = second :=
  (Entry.ended.inj (List.cons.inj hsame).1).2

end Forwarded

/-- A forwarded request ends in one way, and is completed once, as that ending says: with
what its hosted call returned or raised if the call finishes in a turn, with a failure if it
panics, and if the request is dropped. So it is completed with a success if and only if the
call returns. The docket that numbers the requests is the world's executor throughout, and
the account shows what the session shows. -/
theorem completion_reports_ending {steps : List Step} {number : Nat} {work : Forwarded}
    (hwork : (World.forwarded {} steps)[number]? = some work) :
    (∀ before, before <+: steps →
        (Docket.after before).executor = (World.after {} before).executor) ∧
      ((accountSession steps).1.map calls = (showSession steps).1.map Prod.snd ∧
        calls (accountSession steps).2 = (showSession steps).2) ∧
      ∃ ending, (∀ other, work.EndsIn number steps other ↔ other = ending) ∧
        decisive number ((accountSession steps).1.flatten ++ (accountSession steps).2) =
          work.closing number ending ∧
        (ending.status = .success ↔
          ∃ data, work.EndsIn number steps (.finished (.returned data))) ∧
        ∀ error, work.EndsIn number steps (.finished (.raised error)) →
          ending.status = error.status ∧ ending.response = error.response := by
  refine ⟨fun before _ => Docket.executor_after before, calls_accountSession steps, ?_⟩
  obtain ⟨ending, hends⟩ := Forwarded.exists_endsIn hwork
  have honly : ∀ other, work.EndsIn number steps other ↔ other = ending := by
    intro other
    constructor
    · intro hother
      exact Forwarded.closing_inj (hother.closes.symm.trans hends.closes)
    · rintro rfl
      exact hends
  refine ⟨ending, honly, hends.closes, ?_, ?_⟩
  · simp only [honly, ending.status_eq_success_iff, eq_comm]
  · intro error hraised
    rw [← (honly _).mp hraised]
    exact ⟨Ending.status_raised error, Ending.response_raised error⟩

/-- Two requests with one token: the first waits, is cancelled and released after its table is
gone, and reports its own failure, although the second one has been completed with a success
meanwhile. -/
theorem completion_reports_ending_of_shared_token :
    let failure := AdapterError.configurationFailed "wlan0" "no carrier" (some (-1))
    let radio : HostedRadio :=
      { init := fun _ => {}
        supports := fun _ => true
        onRequest := fun request =>
          { course := if request.code = ⟨2⟩ then .wait else .finish (.returned request.data) }
        hearsCancel := true }
    let launcher : Launcher := fun _ => .ok { construct := fun _ => .ok radio }
    let session : List Step :=
      [.register "slot" "radio" [] (.bridge {} launcher), .request "radio" ⟨2⟩ [1] 1 ⟨7⟩,
        .request "radio" ⟨3⟩ [5, 6] 9 ⟨7⟩, .run, .cancel "radio" ⟨7⟩, .forget "radio",
        .release ⟨7⟩ (fun _ => { course := .finish (.raised failure) }), .run, .shutdown]
    let responder : Responder := { host := "radio", token := ⟨7⟩, code := ⟨2⟩ }
    let work : Forwarded :=
      { request := { code := ⟨2⟩, token := ⟨7⟩, data := [1] }, responder, radio }
    let account := (accountSession session).1.flatten ++ (accountSession session).2
    (World.forwarded {} session)[0]? = some work ∧
      work.EndsIn 0 session (.finished (.raised failure)) ∧
      decisive 0 account = [.ended 0 (.finished (.raised failure)),
        .call 0 (.complete "radio" ⟨7⟩ .genericFailure [255, 255, 255, 255])] ∧
      decisive 1 account = [.ended 1 (.finished (.returned [5, 6])),
        .call 1 (.complete "radio" ⟨7⟩ .success [5, 6])] := by
  intro failure radio launcher session responder work account
  have hwork : (World.forwarded {} session)[0]? = some work := rfl
  have hfirst : decisive 0 account = [.ended 0 (.finished (.raised failure)),
      .call 0 (.complete "radio" ⟨7⟩ .genericFailure [255, 255, 255, 255])] := by
    subst account session launcher radio failure
    rfl
  have hsecond : decisive 1 account = [.ended 1 (.finished (.returned [5, 6])),
      .call 1 (.complete "radio" ⟨7⟩ .success [5, 6])] := by
    subst account session launcher radio failure
    rfl
  obtain ⟨_, _, ending, honly, hdecisive, _⟩ := completion_reports_ending hwork
  have hended : .finished (.raised failure) = ending :=
    (Entry.ended.inj (List.cons.inj (hfirst.symm.trans hdecisive)).1).2
  exact ⟨hwork, (honly _).mpr hended, hfirst, hsecond⟩

end RadioAdapter
