import RadioAdapter.Proofs.Registration.Sequential
import RadioAdapter.Proofs.Registration.Standing

/-! # An adapter is registered once

However registration calls move between each other, at most one of them gets a
table for an adapter. The adapter is initialised exactly when one has, and stays
so. All others return an error: their setup's own, or that the adapter was
initialised before they looked or before they could publish.
-/

namespace RadioAdapter

/-! ## The winner -/

/-- Whether a call has returned a table for an adapter. -/
def Call.hasWon (adapter : String) (call : Call) : Bool :=
  decide (call.registration.adapter = adapter ∧ call.stage = .returned none)

/-- The number of calls that have returned a table for an adapter. -/
def Race.winners (race : Race) (adapter : String) : Nat := race.calls.countP (Call.hasWon adapter)

/-- A call's own step wins exactly what it initialises. -/
theorem Call.Advances.hasWon_add {call : Call} {world : World} {made : Reaction Call}
    (hadvances : call.Advances world made) (adapter : String) :
    (made.result.hasWon adapter).toNat + (world.isInitialized adapter).toNat =
      (call.hasWon adapter).toNat + (made.world.isInitialized adapter).toNat := by
  cases hadvances with
  | late hstage | early hstage | calling _ _ hstage | failed _ hstage | lost _ hstage =>
      simp [hasWon, returning, hstage]
  | returned => rfl
  | won handler next hstage hresult hpublish =>
      obtain ⟨hfree, _⟩ := World.eq_of_publish_eq_some hpublish
      simp only [World.isInitialized_of_publish hpublish, hasWon, returning, hstage]
      by_cases hadapter : call.registration.adapter = adapter
      · subst hadapter
        simp [hfree]
      · simp [hadapter, beq_eq_decide]

/-- Replacing one element changes a count by what the two elements count for. -/
theorem countP_set_add {α : Type} {list : List α} {position : Nat} {old : α}
    (hold : list[position]? = some old) (test : α → Bool) (new : α) :
    (list.set position new).countP test + (test old).toNat =
      list.countP test + (test new).toNat := by
  obtain ⟨hposition, hget⟩ := List.getElem?_eq_some_iff.mp hold
  have hpos : test old = true → 0 < list.countP test := fun htest =>
    List.countP_pos_iff.mpr ⟨old, List.mem_of_getElem? hold, htest⟩
  rw [List.countP_set hposition, hget]
  cases htest : test old with
  | false => cases test new <;> simp
  | true =>
      have hcount := hpos htest
      cases test new <;> simp <;> omega

namespace Race

variable {race : Race}

/-- Every adapter has as many winners as its flag says. -/
def Single (race : Race) : Prop :=
  ∀ adapter, race.winners adapter = (race.world.isInitialized adapter).toNat

theorem move_single (hrace : race.Single) (move : Move) : (race.move move).result.Single := by
  intro adapter
  have hadapter := hrace adapter
  have hmoves := race.move_moves move
  generalize race.move move = next at hmoves ⊢
  cases hmoves with
  | arrive registration setup =>
      have hnew : Call.hasWon adapter { registration := registration, setup } = false := by
        simp [Call.hasWon]
      simpa [winners, hnew] using hadapter
  | advance position call made hcall hadvances =>
      -- Winners and flag change together, so their difference stays.
      have hcount := countP_set_add hcall (Call.hasWon adapter) made.result
      have hbalance := hadvances.hasWon_add adapter
      simp only [winners] at hadapter ⊢
      omega
  | take step hstep =>
      rw [race.world.isInitialized_step hstep]
      exact hadapter
  | idle => exact hadapter

theorem single_run (hrace : race.Single) (moves : List Move) : (race.run moves).result.Single :=
  invariant_run Single (fun _ move hsingle => move_single hsingle move) hrace moves

theorem empty_single : ({} : Race).Single := fun _ => rfl

/-! ## The flag -/

/-- An adapter becomes initialised by the exchange of a call of its own whose setup
has succeeded, and by nothing else. The call then returns its table. -/
theorem exists_winner_of_initialized {move : Move} {adapter : String}
    (hbefore : race.world.isInitialized adapter = false)
    (hafter : (race.move move).result.world.isInitialized adapter = true) :
    ∃ position call handler, move = .advance position ∧
      race.calls[position]? = some call ∧ call.registration.adapter = adapter ∧
      call.stage = .settingUp [] ∧ call.setup.result = .ok handler ∧
      (race.move move).result.calls[position]? = some (call.returning none) := by
  have hmoves := race.move_moves move
  generalize race.move move = next at hmoves hafter ⊢
  cases hmoves with
  | arrive | idle =>
      rw [hbefore] at hafter
      contradiction
  | take step hstep =>
      rw [race.world.isInitialized_step hstep, hbefore] at hafter
      contradiction
  | advance position call made hcall hadvances =>
      obtain ⟨hposition, _⟩ := List.getElem?_eq_some_iff.mp hcall
      cases hadvances with
      | won handler next hstage hresult hpublish =>
          have hadapter : call.registration.adapter = adapter := by
            simpa [World.isInitialized_of_publish hpublish, hbefore] using hafter
          exact ⟨position, call, handler, rfl, hcall, hadapter, hstage, hresult,
            List.getElem?_set_self hposition⟩
      | late | early | calling | failed | lost | returned =>
          rw [hbefore] at hafter
          contradiction

/-- An adapter stays initialised. -/
theorem isInitialized_run {adapter : String} (hrace : race.world.isInitialized adapter = true)
    (moves : List Move) : (race.run moves).result.world.isInitialized adapter = true :=
  invariant_run (fun later => later.world.isInitialized adapter = true)
    (fun later move hlater => (later.move_extends move).initialized adapter hlater) hrace moves

end Race

/-! ## One call from now on -/

namespace Call

/-- How many steps of its own a call has to take at most before it has returned. -/
def remaining (call : Call) : Nat :=
  match call.stage with
  | .arrived => call.setup.events.length + 2
  | .settingUp left => left.length + 1
  | .returned _ => 0

/-- How a call that is setting up may end: with its setup's own error, or, if its setup
succeeds, as the winner or because its adapter is initialised by then. The flags
are those of its adapter now and at the end. -/
inductive Ends (result : Except AdapterError Handler) (now later : Bool) :
    Option AdapterError → Prop where
  | failed (error : AdapterError) (hresult : result = .error error) :
      Ends result now later (some error)
  | lost (handler : Handler) (hresult : result = .ok handler) (hlater : later = true) :
      Ends result now later (some .alreadyInitialized)
  | won (handler : Handler) (hresult : result = .ok handler) (hnow : now = false)
      (hlater : later = true) : Ends result now later none

/-- What a call is later on, while the flag of its adapter goes from one value to
another. -/
structure Becomes (call : Call) (now : Bool) (other : Call) (later : Bool) : Prop where
  registration : other.registration = call.registration
  setup : other.setup = call.setup
  /-- The flag is never cleared. -/
  flag : now = true → later = true
  /-- A call that has returned stays as it is. -/
  returned : ∀ failure, call.stage = .returned failure → other = call
  /-- A call that is late makes no call of its setup. -/
  late : call.stage = .arrived → now = true →
    other.made = [] ∧ (other.stage = .arrived ∨ other.stage = .returned (some .alreadyInitialized))
  /-- A call that is setting up goes on with its setup, or has come to its end. -/
  settingUp : ∀ left, call.stage = .settingUp left →
    (∃ rest, other.stage = .settingUp rest ∧ other.made ++ rest = call.setup.events) ∨
      ∃ failure, other.stage = .returned failure ∧ other.made = call.setup.events ∧
        Ends call.setup.result now later failure

variable {call other : Call} {world : World} {made : Reaction Call} {now later : Bool}

theorem Ends.mono {result : Except AdapterError Handler} {failure : Option AdapterError}
    (hends : Ends result now later failure) {after : Bool} (hflag : later = true → after = true) :
    Ends result now after failure := by
  cases hends with
  | failed error hresult => exact .failed error hresult
  | lost handler hresult hlater => exact .lost handler hresult (hflag hlater)
  | won handler hresult hnow hlater => exact .won handler hresult hnow (hflag hlater)

theorem becomes_self (hstands : call.Stands world) (now : Bool) : call.Becomes now call now where
  registration := rfl
  setup := rfl
  flag := id
  returned _ _ := rfl
  late hstage _ := ⟨hstands.made_of_arrived hstage, Or.inl hstage⟩
  settingUp left hstage := by
    cases hstands with
    | settingUp rest hstage' hmade => exact Or.inl ⟨rest, hstage', hmade⟩
    | arrived hstage' | late hstage' | failed _ hstage' | lost _ hstage' | won _ hstage' =>
        rw [hstage] at hstage'
        contradiction

theorem Becomes.mono (hbecomes : call.Becomes now other later) {after : Bool}
    (hflag : later = true → after = true) : call.Becomes now other after where
  registration := hbecomes.registration
  setup := hbecomes.setup
  flag := hflag ∘ hbecomes.flag
  returned := hbecomes.returned
  late := hbecomes.late
  settingUp left hstage := by
    rcases hbecomes.settingUp left hstage with hrest | ⟨failure, hreturned, hmade, hends⟩
    · exact Or.inl hrest
    · exact Or.inr ⟨failure, hreturned, hmade, hends.mono hflag⟩

/-- A call's own step is about the same registration and the same setup. -/
theorem Advances.same (hadvances : call.Advances world made) :
    made.result.registration = call.registration ∧ made.result.setup = call.setup := by
  cases hadvances <;> exact ⟨rfl, rfl⟩

theorem Advances.eq_of_returned (hadvances : call.Advances world made)
    {failure : Option AdapterError} (hstage : call.stage = .returned failure) :
    made.result = call := by
  cases hadvances with
  | returned => rfl
  | late hstage' | early hstage' | calling _ _ hstage' | failed _ hstage' | lost _ hstage'
  | won _ _ hstage' =>
      rw [hstage] at hstage'
      contradiction

/-- A call that is late stays so in its own steps. -/
theorem Advances.late_of_late (hadvances : call.Advances world made)
    (hinitialized : world.isInitialized call.registration.adapter = true)
    (hmade : call.made = [])
    (hstage : call.stage = .arrived ∨ call.stage = .returned (some .alreadyInitialized)) :
    made.result.made = [] ∧ (made.result.stage = .arrived ∨
      made.result.stage = .returned (some .alreadyInitialized)) := by
  cases hadvances with
  | late => exact ⟨hmade, Or.inr rfl⟩
  | early _ hfree =>
      rw [hinitialized] at hfree
      contradiction
  | returned => exact ⟨hmade, hstage⟩
  | calling _ _ hstage' | failed _ hstage' | lost _ hstage' | won _ _ hstage' =>
      rw [hstage'] at hstage
      rcases hstage with hstage | hstage <;> contradiction

/-- A call that is setting up makes the next call of its setup, or comes to its end. -/
theorem Advances.settingUp (hadvances : call.Advances world made) {left : List Event}
    (hstage : call.stage = .settingUp left) (hmade : call.made ++ left = call.setup.events)
    (hflag : now = true → world.isInitialized call.registration.adapter = true) :
    (∃ rest, made.result.stage = .settingUp rest ∧
      made.result.made ++ rest = call.setup.events) ∨
    ∃ failure, made.result.stage = .returned failure ∧ made.result.made = call.setup.events ∧
      Ends call.setup.result now (made.world.isInitialized call.registration.adapter)
        failure := by
  cases hadvances with
  | late hstage' | early hstage' | returned _ hstage' =>
      rw [hstage] at hstage'
      contradiction
  | calling event rest hstage' =>
      cases hstage.symm.trans hstage'
      refine Or.inl ⟨rest, rfl, ?_⟩
      simpa only [List.append_assoc, List.singleton_append] using hmade
  | failed error hstage' hresult =>
      cases hstage.symm.trans hstage'
      rw [List.append_nil] at hmade
      exact Or.inr ⟨some error, rfl, hmade, .failed error hresult⟩
  | lost handler hstage' hresult hinitialized =>
      cases hstage.symm.trans hstage'
      rw [List.append_nil] at hmade
      exact Or.inr ⟨_, rfl, hmade, .lost handler hresult hinitialized⟩
  | won handler next hstage' hresult hpublish =>
      cases hstage.symm.trans hstage'
      rw [List.append_nil] at hmade
      -- A flag that was set at first would still be set, and nothing would be published.
      obtain ⟨hfree, _⟩ := World.eq_of_publish_eq_some hpublish
      have hnow : now = false := by
        cases now with
        | false => rfl
        | true => rw [hfree] at hflag; exact (hflag rfl).symm
      refine Or.inr ⟨none, rfl, hmade, .won handler hresult hnow ?_⟩
      simp [World.isInitialized_of_publish hpublish]

/-- What a call has become, it goes on to become in its own next step. -/
theorem Becomes.advance
    (hbecomes : call.Becomes now other (world.isInitialized call.registration.adapter))
    (hadvances : other.Advances world made) :
    call.Becomes now made.result (made.world.isInitialized call.registration.adapter) := by
  obtain ⟨hregistration, hsetup, hflag, hreturned, hlate, hsettingUp⟩ := hbecomes
  have hlater := hadvances.extends.initialized call.registration.adapter
  have hinitialized (hnow : now = true) :
      world.isInitialized other.registration.adapter = true := by
    rw [hregistration]
    exact hflag hnow
  refine ⟨hadvances.same.1.trans hregistration, hadvances.same.2.trans hsetup,
    hlater ∘ hflag, ?_, ?_, ?_⟩
  · intro failure hstage
    have hother := hreturned failure hstage
    subst hother
    exact hadvances.eq_of_returned hstage
  · intro hstage hnow
    obtain ⟨hmade, hstages⟩ := hlate hstage hnow
    exact hadvances.late_of_late (hinitialized hnow) hmade hstages
  · intro left hstage
    -- Either the setup is still going on, or the call has ended and no longer moves.
    rcases hsettingUp left hstage with ⟨rest, hrest, hmade⟩ | ⟨failure, hend, hmade, hends⟩
    · have hgoes := hadvances.settingUp hrest (by rw [hsetup]; exact hmade) hinitialized
      rw [hsetup, hregistration] at hgoes
      exact hgoes
    · rw [hadvances.eq_of_returned hend]
      exact Or.inr ⟨failure, hend, hmade, hends.mono hlater⟩

/-- Each step of its own brings a call nearer to its return. -/
theorem Advances.remaining (hadvances : call.Advances world made) :
    made.result.remaining ≤ call.remaining - 1 := by
  cases hadvances with
  | late | failed | lost | won => simp [Call.remaining, returning]
  | early hstage => simp [Call.remaining, hstage]
  | calling event left hstage => simp [Call.remaining, hstage]
  | returned failure hstage => simp [Call.remaining, hstage]

theorem returned_of_remaining_eq_zero (hremaining : call.remaining = 0) :
    ∃ failure, call.stage = .returned failure := by
  unfold Call.remaining at hremaining
  split at hremaining
  next => omega
  next => omega
  next failure hstage => exact ⟨failure, hstage⟩

end Call

/-- Whether a move is the own step of the call at a position. -/
def Move.isTurnOf (position : Nat) : Move → Bool
  | .advance other => other == position
  | _ => false

namespace Race

variable {race : Race} {position : Nat} {call : Call}

/-- A call stays at its position and goes on from where it is. -/
theorem becomes_run (hrace : race.Stands) (hcall : race.calls[position]? = some call)
    (moves : List Move) :
    let later := (race.run moves).result
    ∃ other, later.calls[position]? = some other ∧
      call.Becomes (race.world.isInitialized call.registration.adapter) other
        (later.world.isInitialized call.registration.adapter) := by
  let flag (other : Race) := other.world.isInitialized call.registration.adapter
  let invariant (later : Race) :=
    ∃ other, later.calls[position]? = some other ∧ call.Becomes (flag race) other (flag later)
  have hmove : ∀ later move, invariant later → invariant (later.move move).result := by
    intro later move hlater
    obtain ⟨other, hother, hbecomes⟩ := hlater
    have hextends := later.move_extends move
    -- A move of another call can still set the flag.
    rcases getElem?_move hother move with ⟨_, hkept⟩ | ⟨made, hadvances, _, hworld, hmade⟩
    · exact ⟨other, hkept, hbecomes.mono (hextends.initialized _)⟩
    · refine ⟨made.result, hmade, ?_⟩
      show call.Becomes (flag race) made.result
        ((later.move move).result.world.isInitialized call.registration.adapter)
      rw [hworld]
      exact hbecomes.advance hadvances
  have hself : invariant race :=
    ⟨call, hcall, Call.becomes_self (hrace call (List.mem_of_getElem? hcall)) _⟩
  exact invariant_run invariant hmove hself moves

/-- A call that gets its turn often enough returns, whatever happens in between. -/
theorem remaining_run (hcall : race.calls[position]? = some call) (moves : List Move) :
    ∃ other, (race.run moves).result.calls[position]? = some other ∧
      other.remaining ≤ call.remaining - moves.countP (Move.isTurnOf position) := by
  induction moves generalizing race call with
  | nil => exact ⟨call, hcall, Nat.le_refl _⟩
  | cons move rest ih =>
      rcases getElem?_move hcall move with ⟨hmove, hkept⟩ | ⟨made, hadvances, hmove, _, hmade⟩
      · obtain ⟨other, hother, hremaining⟩ := ih hkept
        have hturn : Move.isTurnOf position move = false := by
          cases move with
          | advance position' => simpa [Move.isTurnOf] using hmove
          | arrive | take => rfl
        refine ⟨other, hother, ?_⟩
        rwa [List.countP_cons_of_neg (by simp [hturn])]
      · obtain ⟨other, hother, hremaining⟩ := ih hmade
        have hturn : Move.isTurnOf position move = true := by
          rw [hmove]
          exact beq_self_eq_true position
        have hstep := hadvances.remaining
        refine ⟨other, hother, ?_⟩
        rw [List.countP_cons_of_pos hturn]
        omega

end Race

/-- In every run an adapter has one winner when it is initialised and none otherwise.
It stays initialised, and becomes so only by the exchange of a call of its own whose
setup has succeeded. From any moment on each of its calls becomes what its stage
then says, and has returned after enough steps of its own: a call that is late makes
no call of its setup and returns that the adapter is initialised, and a call that is
setting up makes all of them and then returns its setup's error, a table, or that
the adapter is initialised. Every registration, with all that is nested in it, is
such a run. -/
theorem single_registration (moves : List Move) (adapter : String) :
    let race := (Race.run {} moves).result
    race.winners adapter = (race.world.isInitialized adapter).toNat ∧
      (race.world.isInitialized adapter = true →
        ∀ sequel, (race.run sequel).result.world.isInitialized adapter = true) ∧
      (∀ move, race.world.isInitialized adapter = false →
        (race.move move).result.world.isInitialized adapter = true →
        ∃ position call handler, move = .advance position ∧
          race.calls[position]? = some call ∧ call.registration.adapter = adapter ∧
          call.stage = .settingUp [] ∧ call.setup.result = .ok handler ∧
          (race.move move).result.calls[position]? = some (call.returning none)) ∧
      (∀ (position : Nat) (call : Call) (sequel : List Move),
        race.calls[position]? = some call → call.registration.adapter = adapter →
        let later := (race.run sequel).result
        ∃ other, later.calls[position]? = some other ∧
          call.Becomes (race.world.isInitialized adapter) other
            (later.world.isInitialized adapter) ∧
          (call.remaining ≤ sequel.countP (Move.isTurnOf position) →
            ∃ failure, other.stage = .returned failure)) ∧
      ∀ (registration : Registration) (backend : Backend),
        let made := race.world.register registration backend
        ∃ call nested,
          race.Reaches made.events ⟨made.world, race.calls ++ call :: nested⟩ ∧
          call.registration = registration ∧ call.Completes backend made.result ∧
          ∀ other ∈ nested, ∃ inner failure, other.Completes inner failure := by
  intro race
  have hsingle : race.Single := Race.single_run Race.empty_single moves
  have hstands : race.Stands := Race.stands_run Race.empty_stands moves
  refine ⟨hsingle adapter, Race.isInitialized_run,
    fun move => Race.exists_winner_of_initialized, ?_, race.world.register_reaches race.calls⟩
  intro position call sequel hcall hadapter later
  obtain ⟨other, hother, hbecomes⟩ := Race.becomes_run hstands hcall sequel
  rw [hadapter] at hbecomes
  refine ⟨other, hother, hbecomes, ?_⟩
  intro hturns
  obtain ⟨other', hother', hremaining⟩ := Race.remaining_run hcall sequel
  cases hother.symm.trans hother'
  exact Call.returned_of_remaining_eq_zero (by omega)

/-- Two calls look at a free adapter before either of them publishes: the adapter has
one winner, and the other call returns that it is initialised. -/
theorem single_registration_of_two :
    let registration : Registration :=
      { adapter := "slot", host := "host", table := "radio", args := [] }
    let setup : Traced (Except AdapterError Handler) := ⟨[], .ok (.direct {})⟩
    let race := (Race.run {} [.arrive registration setup, .arrive registration setup,
      .advance 0, .advance 1, .advance 1, .advance 0]).result
    race.winners "slot" = 1 ∧
      race.calls.map Call.stage = [.returned (some .alreadyInitialized), .returned none] := by
  intro registration setup race
  have hwinners := (single_registration [.arrive registration setup, .arrive registration setup,
    .advance 0, .advance 1, .advance 1, .advance 0] "slot").1
  exact ⟨hwinners, rfl⟩

end RadioAdapter
