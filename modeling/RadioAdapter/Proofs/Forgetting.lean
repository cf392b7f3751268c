import RadioAdapter.Proofs.Erasure
import RadioAdapter.Proofs.Registration.Parallel

/-! # Names that are dropped

To drop the name of a table is to forget a name and nothing else. What the name stood
for stays published, and what has been accepted under it stays in hand. A world in which
a name has been dropped and the world as it was do the same at every step that does not
go through the name, until it is bound again and they are the same.
-/

namespace RadioAdapter

/-- The name that a step goes through, if it is one on a table. -/
def Step.addressee : Step → Option String
  | .request table .. | .supports table _ | .radioState table | .info table | .cancel table _
  | .clone table _ | .forget table | .returnCodes table _ => some table
  | _ => none

namespace World

/-- Whether a step goes through a name that stands for nothing. -/
def misses (world : World) (name : String) (step : Step) : Bool :=
  step.addressee == some name && (world.position? name).isNone

variable {world long short : World} {name : String} {step : Step}

/-- Such a step is answered that there is no such table, and does nothing. -/
theorem step_of_misses (hmisses : world.misses name step = true) :
    world.step step = { result := .noTable, world } := by
  obtain ⟨haddressee, hmissing⟩ := Bool.and_eq_true_iff.mp hmisses
  have hposition : world.position? name = none := Option.isNone_iff_eq_none.mp hmissing
  have hpublication : world.publication? name = none := by
    rw [publication?, hposition, Option.bind_none]
  cases step with
  | request | supports | radioState | info | cancel =>
      cases Option.some.inj (beq_iff_eq.mp haddressee)
      simp only [World.step, onTable, hpublication]
  | clone | forget | returnCodes =>
      cases Option.some.inj (beq_iff_eq.mp haddressee)
      simp only [World.step, onName, hposition]
  | _ => contradiction

/-! ## A world without a name -/

/-- A name that is bound anew might as well not have been bound before. -/
theorem bind_unbind_self (world : World) (name : String) (position : Nat) :
    (world.unbind name).bind name position = world.bind name position := by
  simp only [bind, unbind, List.filter_filter, Bool.and_self]

theorem unbind_unbind (world : World) (name table : String) :
    (world.unbind name).unbind table = (world.unbind table).unbind name := by
  simp only [unbind, List.filter_filter, Bool.and_comm]

theorem bind_unbind_of_ne (world : World) {table : String} (htable : table ≠ name)
    (position : Nat) :
    (world.unbind name).bind table position = (world.bind table position).unbind name := by
  have hkeep (entries : List (String × Nat)) :
      ((table, position) :: entries).filter (·.1 != name) =
        (table, position) :: entries.filter (·.1 != name) :=
    List.filter_cons_of_pos (bne_iff_ne.mpr htable)
  simp only [bind, unbind, hkeep, List.filter_filter, Bool.and_comm]

/-- The first world is the second, except that a name may be missing in it. -/
def LacksAtMost (name : String) (first second : World) : Prop :=
  first = second ∨ first = second.unbind name

theorem lacksAtMost_bind (world : World) (name table : String) (position : Nat) :
    LacksAtMost name ((world.unbind name).bind table position) (world.bind table position) := by
  by_cases htable : table = name
  · subst htable
    exact .inl (world.bind_unbind_self table position)
  · exact .inr (world.bind_unbind_of_ne htable position)

theorem congenial_lacksAtMost (name : String) : Congenial (LacksAtMost name) where
  initialized hlacks := by
    rcases hlacks with rfl | rfl
    · rfl
    · rfl
  publish {first second next other} hlacks registration handler hnext hother := by
    rcases hlacks with rfl | rfl
    · exact .inl (Option.some.inj (hnext.symm.trans hother))
    · rw [(publish_eq_some_iff.mp hnext).2, (publish_eq_some_iff.mp hother).2]
      exact lacksAtMost_bind { second with
        initialized := second.initialized ++ [registration.adapter]
        published := second.published ++ [{ host := registration.host, handler }] } name
          registration.table second.published.length

theorem request_unbind (world : World) (name : String) (publication : Publication)
    (request : Request) :
    (world.unbind name).request publication request =
      ((world.request publication request).1,
        (world.request publication request).2.unbind name) := by
  cases intake publication request with
  | ignored _ hrequest | served _ _ hrequest | settled _ _ _ hrequest => rw [hrequest, hrequest]
  | forwarded _ _ _ hrequest | held _ _ hrequest =>
      rw [hrequest, hrequest]
      rfl

/-- A step that does not go through a name does the same without it. -/
theorem step_unbind (world : World) (hother : step.addressee ≠ some name) :
    ((world.unbind name).step step).Matches (LacksAtMost name) (world.step step) := by
  have hname {table : String} (htable : some table ≠ some name) : table ≠ name :=
    fun heq => htable (congrArg some heq)
  have hposition {table : String} (htable : some table ≠ some name) :
      (world.unbind name).position? table = world.position? table := by
    rw [position?_unbind, if_neg (hname htable)]
  have hpublication {table : String} (htable : some table ≠ some name) :
      (world.unbind name).publication? table = world.publication? table := by
    rw [publication?, publication?, hposition htable]
    rfl
  cases step with
  | register adapter table args backend host =>
      have hmatches := (congenial_lacksAtMost name).register_matches
        (.inr (Eq.refl (world.unbind name))) { adapter, host, table, args } backend
      refine ⟨?_, hmatches.events, hmatches.world⟩
      simp only [World.step, hmatches.result]
  | request table code buffer declared token =>
      simp only [World.step, onTable, hpublication hother]
      cases world.publication? table with
      | none => exact ⟨rfl, rfl, .inr rfl⟩
      | some publication =>
          simp only [request_unbind]
          exact ⟨rfl, rfl, .inr rfl⟩
  | supports table | radioState table | info table | cancel table =>
      simp only [World.step, onTable, hpublication hother]
      cases world.publication? table <;> exact ⟨rfl, rfl, .inr rfl⟩
  | clone table copy =>
      simp only [World.step, onName, hposition hother]
      cases world.position? table with
      | none => exact ⟨rfl, rfl, .inr rfl⟩
      | some position => exact ⟨rfl, rfl, world.lacksAtMost_bind name copy position⟩
  | forget table =>
      simp only [World.step, onName, hposition hother]
      cases world.position? table with
      | none => exact ⟨rfl, rfl, .inr rfl⟩
      | some position => exact ⟨rfl, rfl, .inr (world.unbind_unbind name table)⟩
  | returnCodes table =>
      simp only [World.step, onName, hposition hother]
      cases world.position? table <;> exact ⟨rfl, rfl, .inr rfl⟩
  | finish token how =>
      have hheld : (world.unbind name).held = world.held := rfl
      simp only [World.step, finish, hheld]
      cases world.held.find? (·.token == token) <;> exact ⟨rfl, rfl, .inr rfl⟩
  | release token how =>
      have hexecutor : (world.unbind name).executor = world.executor := rfl
      simp only [World.step, release, hexecutor]
      exact ⟨rfl, rfl, .inr rfl⟩
  | initialized | run | shutdown => exact ⟨rfl, rfl, .inr rfl⟩

/-- Where a name is missing, every step that does not miss it does the same as where it may
still be there. -/
theorem step_matches_of_lacksAtMost (hlacks : LacksAtMost name long short)
    (hmisses : long.misses name step = false) :
    (long.step step).Matches (LacksAtMost name) (short.step step) := by
  rcases hlacks with rfl | rfl
  · exact ⟨rfl, rfl, .inl rfl⟩
  · refine short.step_unbind fun haddressee => ?_
    rw [misses, haddressee, position?_unbind, if_pos rfl] at hmisses
    simp at hmisses

theorem close_of_lacksAtMost (hlacks : LacksAtMost name long short) :
    short.close.1 = long.close.1 := by
  rcases hlacks with rfl | rfl
  · rfl
  · rfl

theorem step_forget_lacksAtMost (world : World) (name : String) :
    LacksAtMost name (world.step (.forget name)).world world := by
  simp only [World.step, onName]
  cases world.position? name with
  | none => exact .inl rfl
  | some position => exact .inr rfl

end World

/-- The positions of a session at which a name is dropped or, later on, missed. -/
def droppedOrMissed (session : List Step) (dropped : Nat) (name : String) (position : Nat) : Bool :=
  position == dropped || (decide (dropped < position) &&
    session[position]?.any ((World.after {} (session.take position)).misses name))

/-- What misses the name shows that there is no such table. -/
theorem shown_of_missed {session : List Step} {dropped position : Nat} {name : String}
    (hmissed : droppedOrMissed session dropped name position = true)
    (hposition : position ≠ dropped) :
    (showSession session).1[position]? = some (.noTable, []) := by
  have hlater : (position == dropped) = false := beq_eq_false_iff_ne.mpr hposition
  rw [droppedOrMissed, hlater, Bool.false_or, Bool.and_eq_true] at hmissed
  obtain ⟨step, hstep, hmisses⟩ := (Option.any_eq_true _ _).mp hmissed.2
  refine (World.getElem?_shownBy hstep).trans ?_
  rw [World.step_of_misses hmisses]

/-- But for the drop of a name and the steps that miss it, a session shows the same without the
drop. -/
theorem showSession_without_drop {session : List Step} {dropped : Nat} {name : String}
    (hdrop : session[dropped]? = some (.forget name)) :
    let erased := droppedOrMissed session dropped name
    showSession (without erased session) =
      (without erased (showSession session).1, (showSession session).2) := by
  intro erased
  -- Up to the drop the worlds are the same. From then on the name may be missing in the one.
  let related (position : Nat) (long short : World) : Prop :=
    if position ≤ dropped then long = short else World.LacksAtMost name long short
  have hsame {position : Nat} {long short : World} (hbefore : position ≤ dropped) :
      related position long short = (long = short) := if_pos hbefore
  have hlacks {position : Nat} {long short : World} (hlater : dropped < position) :
      related position long short = World.LacksAtMost name long short :=
    if_neg (Nat.not_le.mpr hlater)
  have hstart : related 0 {} {} := (hsame (Nat.zero_le dropped)).mpr rfl
  have herased : ∀ position step short, session[position]? = some step →
      erased position = true → let before := World.after {} (session.take position)
      related position before short → related (position + 1) (before.step step).world short := by
    intro position step short hstep hposition before hrelated
    simp only [erased, droppedOrMissed, hstep, Option.any_some, Bool.or_eq_true, beq_iff_eq,
      Bool.and_eq_true, decide_eq_true_eq] at hposition
    rcases hposition with rfl | ⟨hlater, hmisses⟩
    · cases hstep.symm.trans hdrop
      rw [hsame (Nat.le_refl position)] at hrelated
      rw [hlacks (Nat.lt_succ_self position), ← hrelated]
      exact before.step_forget_lacksAtMost name
    · rw [hlacks hlater] at hrelated
      rw [hlacks (Nat.lt_succ_of_lt hlater), World.step_of_misses hmisses]
      exact hrelated
  have hkept : ∀ position step short, session[position]? = some step →
      erased position = false → let before := World.after {} (session.take position)
      related position before short → short.shown step = before.shown step ∧
        related (position + 1) (before.step step).world (short.step step).world := by
    intro position step short hstep hposition before hrelated
    simp only [erased, droppedOrMissed, hstep, Option.any_some, Bool.or_eq_false_iff,
      beq_eq_false_iff_ne, ne_eq, Bool.and_eq_false_imp, decide_eq_true_eq] at hposition
    obtain ⟨hne, hmisses⟩ := hposition
    rcases Nat.lt_or_gt_of_ne hne with hbefore | hlater
    · rw [hsame (Nat.le_of_lt hbefore)] at hrelated
      rw [hsame hbefore, hrelated]
      exact ⟨rfl, rfl⟩
    · rw [hlacks hlater] at hrelated
      have hmatches := World.step_matches_of_lacksAtMost hrelated (hmisses hlater)
      rw [hlacks (Nat.lt_succ_of_lt hlater), World.shown, World.shown, hmatches.result,
        hmatches.events]
      exact ⟨rfl, hmatches.world⟩
  obtain ⟨hshown, hafter⟩ :=
    World.run_without_of_related related World.shown erased session hstart herased hkept
  have hbound : dropped < session.length := (List.getElem?_eq_some_iff.mp hdrop).1
  rw [World.along_shown] at hshown
  rw [hlacks hbound] at hafter
  exact Prod.ext hshown (World.close_of_lacksAtMost hafter)

end RadioAdapter
