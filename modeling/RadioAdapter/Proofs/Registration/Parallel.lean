import RadioAdapter.Adapter.Registration

/-! # Registrations in two worlds

A registration looks at nothing but which adapters are initialised, and changes the world
only by publishing handlers. So it takes the same course in two worlds that have the same
adapters initialised, and keeps them related in any way that publishing does.
-/

namespace RadioAdapter

/-- Two reactions show the same, and leave worlds that are related. -/
structure Reaction.Matches {α : Type} (related : World → World → Prop)
    (first second : Reaction α) : Prop where
  result : first.result = second.result
  events : first.events = second.events
  world : related first.world second.world

namespace World

/-- In related worlds the same adapters are initialised, and the worlds stay related when a
handler is published in both. -/
structure Congenial (related : World → World → Prop) : Prop where
  initialized : ∀ {first second : World}, related first second →
    first.initialized = second.initialized
  publish : ∀ {first second next other : World}, related first second →
    ∀ registration handler, first.publish registration handler = some next →
      second.publish registration handler = some other → related next other

variable {related : World → World → Prop} {first second : World}

theorem Congenial.isInitialized (hcongenial : Congenial related) (hrelated : related first second)
    (adapter : String) : first.isInitialized adapter = second.isInitialized adapter := by
  rw [World.isInitialized, World.isInitialized, hcongenial.initialized hrelated]

theorem Congenial.registerWith_matches (hcongenial : Congenial related)
    (hrelated : related first second) (registration : Registration)
    {setup : World → Reaction (Except AdapterError Handler)}
    (hsetup : (setup first).Matches related (setup second)) :
    (first.registerWith registration setup).Matches related
      (second.registerWith registration setup) := by
  have hsame := hcongenial.isInitialized hrelated registration.adapter
  cases hfree : second.isInitialized registration.adapter with
  | true =>
      rw [registerWith_of_initialized hfree, registerWith_of_initialized (hsame.trans hfree)]
      exact ⟨rfl, rfl, hrelated⟩
  | false =>
      have hfree' := hsame.trans hfree
      cases hresult : (setup second).result with
      | error error =>
          rw [registerWith_of_error hfree hresult,
            registerWith_of_error hfree' (hsetup.result.trans hresult)]
          exact ⟨rfl, hsetup.events, hsetup.world⟩
      | ok handler =>
          have hresult' := hsetup.result.trans hresult
          have hlate := hcongenial.isInitialized hsetup.world registration.adapter
          -- The last look finds the adapter initialised in both worlds or in neither.
          cases hstill : (setup second).world.isInitialized registration.adapter with
          | true =>
              have hrefused : (setup second).world.publish registration handler = none :=
                publish_of_initialized hstill
              have hrefused' : (setup first).world.publish registration handler = none :=
                publish_of_initialized (hlate.trans hstill)
              rw [registerWith_of_refused hfree hresult hrefused,
                registerWith_of_refused hfree' hresult' hrefused']
              exact ⟨rfl, hsetup.events, hsetup.world⟩
          | false =>
              obtain ⟨other, hother⟩ : ∃ other,
                  (setup second).world.publish registration handler = some other :=
                exists_publish_of_free hstill
              obtain ⟨next, hnext⟩ : ∃ next,
                  (setup first).world.publish registration handler = some next :=
                exists_publish_of_free (hlate.trans hstill)
              rw [registerWith_of_published hfree hresult hother,
                registerWith_of_published hfree' hresult' hnext]
              exact ⟨rfl, hsetup.events, hcongenial.publish hsetup.world _ _ hnext hother⟩

end World

/-- A setup takes the same course in related worlds. -/
theorem Backend.setup_matches {related : World → World → Prop}
    (hcongenial : World.Congenial related) (backend : Backend) (registration : Registration)
    {first second : World} (hrelated : related first second) :
    (backend.setup registration first).Matches related (backend.setup registration second) := by
  induction backend generalizing registration first second with
  | direct | bridge | stub | custom | failing => exact ⟨rfl, rfl, hrelated⟩
  | nested inner outer ihinner ihouter =>
      have hinner := hcongenial.registerWith_matches hrelated registration.inner
        (ihinner registration.inner hrelated)
      have houter := ihouter registration hinner.world
      refine ⟨houter.result, ?_, houter.world⟩
      simp only [setup, hinner.result, hinner.events, houter.events]

/-- So does a registration. -/
theorem World.Congenial.register_matches {related : World → World → Prop}
    (hcongenial : Congenial related) {first second : World} (hrelated : related first second)
    (registration : Registration) (backend : Backend) :
    (first.register registration backend).Matches related
      (second.register registration backend) :=
  hcongenial.registerWith_matches hrelated registration
    (backend.setup_matches hcongenial registration hrelated)

end RadioAdapter
