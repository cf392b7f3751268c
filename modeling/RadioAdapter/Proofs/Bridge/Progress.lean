import RadioAdapter.Proofs.Bridge.Docket

/-! # Where a forwarded request stands

The life of a forwarded request, told by the steps of its session. Handed over, it is
queued for the first turn of its hosted call. A run gives the call its turn, in which it
finishes or begins to wait; a release that wakes the request queues it for another turn.
A request is dropped if it is handed over after a shutdown, if it is unfinished at one,
or if it is unfinished when the session is over. There is a rule for each of these; the
docket is asked for one thing only, which of the waiting requests a release wakes.
-/

namespace RadioAdapter

/-- Where an unfinished request stands. -/
inductive Progress where
  /-- Its turn comes with the next run, and this is what its hosted call does then. -/
  | queued (conduct : Conduct)
  /-- It waits until it is woken. -/
  | waiting
deriving DecidableEq, Repr

/-- The number of the request that the release of a token wakes: of those that wait for it,
the one that has waited longest. -/
def Docket.wakes (docket : Docket) (token : Token) : Option Nat :=
  (docket.waiting.find? fun entry => Executor.hasToken token entry.1).map Prod.snd

/-- Whether a step moves the request with a number on from where it stands. -/
def Progress.MovedBy (progress : Progress) (number : Nat) (docket : Docket) : Step → Prop
  | .run => ∃ conduct, progress = .queued conduct
  | .release token _ => progress = .waiting ∧ docket.wakes token = some number
  | .shutdown => True
  | _ => False

namespace Forwarded

/-- A step that hands a request over, as the one with a number. -/
structure HandedOver (work : Forwarded) (number : Nat) (before : List Step) (step : Step) :
    Prop where
  forwarded : step.forwarded? (World.after {} before) = some work
  position : (World.forwarded {} before).length = number

/-- Where an unfinished request stands after the first steps of a session. -/
inductive Stands (work : Forwarded) (number : Nat) : List Step → Progress → Prop where
  | handedOver {before : List Step} {step : Step} (hhanded : work.HandedOver number before step)
      (hrunning : .shutdown ∉ before) :
      Stands work number (before ++ [step]) (.queued (work.radio.onRequest work.request))
  | waits {before : List Step} {conduct : Conduct}
      (hqueued : Stands work number before (.queued conduct)) (hcourse : conduct.course = .wait) :
      Stands work number (before ++ [.run]) .waiting
  | woken {before : List Step} {token : Token} {how : Request → Conduct}
      (hwaiting : Stands work number before .waiting)
      (hwakes : (Docket.after before).wakes token = some number) :
      Stands work number (before ++ [.release token how]) (.queued (how work.request))
  | stays {before : List Step} {step : Step} {progress : Progress}
      (hstands : Stands work number before progress)
      (hstays : ¬progress.MovedBy number (Docket.after before) step) :
      Stands work number (before ++ [step]) progress

/-- How a request has ended within the first steps of a session. -/
inductive Ended (work : Forwarded) (number : Nat) : List Step → Ending → Prop where
  /-- In its turn the hosted call finishes. -/
  | finished {before : List Step} {conduct : Conduct} {outcome : HostedOutcome}
      (hqueued : work.Stands number before (.queued conduct))
      (hcourse : conduct.course = .finish outcome) :
      Ended work number (before ++ [.run]) (.finished outcome)
  /-- It is handed over after a shutdown. -/
  | late {before : List Step} {step : Step} (hhanded : work.HandedOver number before step)
      (hstopped : .shutdown ∈ before) : Ended work number (before ++ [step]) .dropped
  /-- It is unfinished at a shutdown. -/
  | stopped {before : List Step} {progress : Progress}
      (hstands : work.Stands number before progress) :
      Ended work number (before ++ [.shutdown]) .dropped
  | remains {before : List Step} {ending : Ending} (hended : Ended work number before ending)
      (step : Step) : Ended work number (before ++ [step]) ending

/-- How a request ends in a session. -/
inductive EndsIn (work : Forwarded) (number : Nat) (session : List Step) : Ending → Prop where
  | ended {ending : Ending} (hended : work.Ended number session ending) :
      EndsIn work number session ending
  /-- It is unfinished when the session is over. -/
  | unfinished {progress : Progress} (hstands : work.Stands number session progress) :
      EndsIn work number session .dropped

variable {work : Forwarded} {number : Nat} {before steps : List Step} {step : Step}
variable {progress : Progress} {ending : Ending}

/-- An unfinished request goes on with the next step: it stands somewhere or has ended. -/
theorem Stands.goesOn (hstands : work.Stands number before progress) (step : Step) :
    (∃ next, work.Stands number (before ++ [step]) next) ∨
      ∃ ending, work.Ended number (before ++ [step]) ending := by
  by_cases hmoved : progress.MovedBy number (Docket.after before) step
  · cases step with
    | run =>
        obtain ⟨conduct, rfl⟩ := hmoved
        cases hcourse : conduct.course with
        | finish outcome => exact .inr ⟨_, .finished hstands hcourse⟩
        | wait => exact .inl ⟨_, .waits hstands hcourse⟩
    | release token how =>
        obtain ⟨rfl, hwakes⟩ := hmoved
        exact .inl ⟨_, .woken hstands hwakes⟩
    | shutdown => exact .inr ⟨_, .stopped hstands⟩
    | _ => exact hmoved.elim
  · exact .inl ⟨_, .stays hstands hmoved⟩

/-- A request that has been forwarded stands somewhere or has ended. -/
theorem stands_or_ended (hwork : (World.forwarded {} steps)[number]? = some work) :
    (∃ progress, work.Stands number steps progress) ∨ ∃ ending, work.Ended number steps ending := by
  induction steps using List.reverseRecOn with
  | nil => contradiction
  | append_singleton before step ih =>
      rw [World.forwarded_snoc] at hwork
      by_cases hearlier : number < (World.forwarded {} before).length
      · rw [List.getElem?_append_left hearlier] at hwork
        rcases ih hwork with ⟨progress, hstands⟩ | ⟨ending, hended⟩
        · exact hstands.goesOn step
        · exact .inr ⟨ending, .remains hended step⟩
      · -- A step hands one request over at most, so this one has the next number.
        rw [List.getElem?_append_right (by omega)] at hwork
        cases hforwarded : step.forwarded? (World.after {} before) with
        | none =>
            rw [hforwarded] at hwork
            contradiction
        | some handed =>
            rw [hforwarded, Option.toList_some, List.getElem?_singleton] at hwork
            obtain ⟨hposition, hhanded⟩ := Option.ite_none_right_eq_some.mp hwork
            have hhands : work.HandedOver number before step :=
              ⟨hforwarded.trans hhanded, by omega⟩
            by_cases hstopped : .shutdown ∈ before
            · exact .inr ⟨_, .late hhands hstopped⟩
            · exact .inl ⟨_, .handedOver hhands hstopped⟩

/-! ## Numbers that are given -/

theorem HandedOver.lt_length (hhanded : work.HandedOver number before step) :
    number < (World.forwarded {} (before ++ [step])).length := by
  rw [World.forwarded_snoc, hhanded.forwarded, List.length_append, hhanded.position]
  exact Nat.lt_succ_self number

/-- A number that is given stays given. -/
theorem lt_length_snoc (hlt : number < (World.forwarded {} before).length) (step : Step) :
    number < (World.forwarded {} (before ++ [step])).length := by
  rw [World.forwarded_snoc, List.length_append]
  exact Nat.lt_add_right _ hlt

theorem Stands.lt_length (hstands : work.Stands number steps progress) :
    number < (World.forwarded {} steps).length := by
  induction hstands with
  | handedOver hhanded _ => exact hhanded.lt_length
  | waits _ _ ih | woken _ _ ih | stays _ _ ih => exact lt_length_snoc ih _

theorem Ended.lt_length (hended : work.Ended number steps ending) :
    number < (World.forwarded {} steps).length := by
  induction hended with
  | late hhanded _ => exact hhanded.lt_length
  | finished hstands _ | stopped hstands => exact lt_length_snoc hstands.lt_length _
  | remains _ _ ih => exact lt_length_snoc ih _

end Forwarded

end RadioAdapter
