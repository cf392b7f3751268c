import Mathlib.Logic.Equiv.Basic
import RadioAdapter.Proofs.Completion.ExactlyOnce
import RadioAdapter.Proofs.Exchange
import RadioAdapter.Proofs.Forgetting
import RadioAdapter.Proofs.Registration.Published

/-! # Clones

A clone is a second name for what is published already. Everything that a table has, its
host, its handler, its return codes and its requests in flight, belongs to what is
published and not to the name. So it makes no difference through which of the two names a
step goes, as long as neither is bound again, and one of them can be dropped without a
trace at the other.
-/

namespace RadioAdapter

/-- The same step through another name. The drop of a name stays as it is, and so does what a
clone is called. -/
def Step.readdress (change : String → String) : Step → Step
  | .request table code buffer declared token => .request (change table) code buffer declared token
  | .supports table codes => .supports (change table) codes
  | .radioState table => .radioState (change table)
  | .info table => .info (change table)
  | .cancel table token => .cancel (change table) token
  | .clone table name => .clone (change table) name
  | .returnCodes table codes => .returnCodes (change table) codes
  | step => step

namespace World

variable {world : World} {table copy name : String} {step : Step} {index : Nat}

/-- A step does not depend on the name that it goes through, but on what the name stands for. -/
theorem step_readdress {change : String → String}
    (hsame : ∀ name, world.position? (change name) = world.position? name) (step : Step) :
    world.step (step.readdress change) = world.step step := by
  have hpublication (name : String) :
      world.publication? (change name) = world.publication? name := by
    rw [publication?, publication?, hsame]
  cases step <;> simp only [Step.readdress, World.step, onTable, onName, hsame, hpublication]

theorem position?_swap (hsame : world.position? copy = world.position? table) (name : String) :
    world.position? (Equiv.swap table copy name) = world.position? name := by
  rw [Equiv.swap_apply_def]
  split
  next htable => rw [htable, hsame]
  next =>
    split
    next hcopy => rw [hcopy, hsame]
    next => rfl

/-- Whether a step makes a name stand for something that it did not stand for before. -/
def rebinds (world : World) (step : Step) (name : String) : Bool :=
  ((world.step step).world.position? name).any fun index => world.position? name != some index

/-- A name that is not bound anew keeps what it stands for, or loses it. -/
theorem position?_of_not_rebinds (hrebinds : world.rebinds step name = false)
    (hbefore : world.position? name = none ∨ world.position? name = some index) :
    (world.step step).world.position? name = none ∨
      (world.step step).world.position? name = some index := by
  cases hafter : (world.step step).world.position? name with
  | none => exact .inl rfl
  | some found =>
      have hfound : world.position? name = some found := by
        simpa [rebinds, hafter] using hrebinds
      rcases hbefore with hnone | hsome
      · rw [hnone] at hfound
        contradiction
      · exact .inr (hfound.symm.trans hsome)

/-- After a table has been cloned both names stand for what it stood for. -/
theorem position?_step_clone (htable : world.position? table = some index)
    (hname : name = table ∨ name = copy) :
    (world.step (.clone table copy)).world.position? name = some index := by
  simp only [World.step, onName, htable, position?_bind]
  split
  next => rfl
  next hother => rw [hname.resolve_right hother, htable]

end World

/-- Two names are clones at a position of a session, since the one was cloned as the other:
neither has been bound anew in between, and both are still there. -/
structure AreClones (session : List Step) (cloned : Nat) (table copy : String) (position : Nat) :
    Prop where
  later : cloned < position
  kept : ∀ between < position, cloned < between → ∀ step, session[between]? = some step →
    ∀ name, name = table ∨ name = copy →
      (World.after {} (session.take between)).rebinds step name = false
  there : ∀ name, name = table ∨ name = copy →
    (World.after {} (session.take position)).position? name ≠ none

section

variable {session : List Step} {cloned position index : Nat} {table copy name : String}
variable {publication : Publication}

/-- Clones stand for what the table stood for when it was cloned. -/
theorem AreClones.position?_eq (hclones : AreClones session cloned table copy position)
    (hclone : session[cloned]? = some (.clone table copy))
    (htable : (World.after {} (session.take cloned)).position? table = some index)
    (hname : name = table ∨ name = copy) :
    (World.after {} (session.take position)).position? name = some index := by
  have hbetween : ∀ count, cloned < count → count ≤ position →
      (World.after {} (session.take count)).position? name = none ∨
        (World.after {} (session.take count)).position? name = some index := by
    intro count hcount
    induction hcount with
    | refl =>
        intro _
        rw [World.after_take_add_one hclone]
        exact .inr (World.position?_step_clone htable hname)
    | @step count hcount ih =>
        intro hposition
        have hbefore := ih (Nat.le_of_succ_le hposition)
        cases hstep : session[count]? with
        | none =>
            rw [List.take_add_one, hstep, Option.toList_none, List.append_nil]
            exact hbefore
        | some step =>
            rw [World.after_take_add_one hstep]
            exact World.position?_of_not_rebinds
              (hclones.kept count hposition hcount step hstep name hname) hbefore
  exact (hbetween position hclones.later (Nat.le_refl position)).resolve_left
    (hclones.there name hname)

/-- What clones stand for keeps its host. -/
theorem AreClones.exists_publication (hclones : AreClones session cloned table copy position)
    (hclone : session[cloned]? = some (.clone table copy))
    (hpublication : (World.after {} (session.take cloned)).publication? table = some publication)
    (hname : name = table ∨ name = copy) :
    ∃ found, (World.after {} (session.take position)).publication? name = some found ∧
      found.host = publication.host := by
  obtain ⟨index, htable, hindex⟩ := Option.bind_eq_some_iff.mp hpublication
  have hhost : (World.after {} (session.take cloned)).hosts[index]? = some publication.host := by
    rw [World.hosts, List.getElem?_map, hindex, Option.map_some]
  -- Publications stay where they are and keep their hosts.
  obtain ⟨made, hmade⟩ := (World.after {} (session.take cloned)).hosts_after
    ((session.take position).drop cloned)
  rw [← World.after_take_of_le _ _ (Nat.le_of_lt hclones.later)] at hmade
  have hkept : (World.after {} (session.take position)).hosts[index]? = some publication.host := by
    rw [hmade, List.getElem?_append_left (List.getElem?_eq_some_iff.mp hhost).1, hhost]
  rw [World.hosts, List.getElem?_map] at hkept
  obtain ⟨found, hfound, hsame⟩ := Option.map_eq_some_iff.mp hkept
  refine ⟨found, ?_, hsame⟩
  rw [World.publication?, hclones.position?_eq hclone htable hname, Option.bind_some, hfound]

end

/-! ## The host of a request -/

/-- What is completed when a request is handed to the executor is the request itself. -/
theorem Executor.completions_spawn {executor : Executor} {work : Forwarded}
    (hopen : work.responder.completed = false) {duty : Duty}
    (hduty : duty ∈ completions (executor.spawn work).1) : duty = work.duty := by
  unfold spawn at hduty
  split at hduty
  next => contradiction
  next =>
    rw [completions_settle hopen] at hduty
    exact List.mem_singleton.mp hduty

/-- A request to a table is for the table's host: so is what is completed on the spot, and what
comes to life. -/
theorem World.request_host (world : World) (publication : Publication) (request : Request) :
    let made := world.request publication request
    (∀ duty ∈ completions made.1, duty.1 = publication.host) ∧
      ∀ responder ∈ made.2.live, responder ∈ world.live ∨ responder.host = publication.host := by
  intro made
  have hopen : (publication.responder request).completed = false := rfl
  simp only [made]
  cases intake publication request with
  | ignored _ hrequest =>
      rw [hrequest]
      exact ⟨nofun, fun _ hlive => .inl hlive⟩
  | served configurator _ hrequest =>
      rw [hrequest, configurator.completions_serve request hopen]
      refine ⟨fun duty hduty => ?_, fun _ hlive => .inl hlive⟩
      rw [List.mem_singleton.mp hduty]
      rfl
  | forwarded radio _ _ hrequest =>
      rw [hrequest]
      constructor
      · intro duty hduty
        rw [Executor.completions_spawn hopen hduty]
        rfl
      · intro responder hlive
        rcases List.mem_append.mp hlive with hheld | hforwarded
        · exact .inl (List.mem_append_left _ hheld)
        · obtain ⟨work, hwork, rfl⟩ := List.mem_map.mp hforwarded
          rcases Executor.mem_unfinished_spawn hwork with hbefore | rfl
          · exact .inl (List.mem_append_right _ (List.mem_map_of_mem hbefore))
          · exact .inr rfl
  | held _ _ hrequest =>
      rw [hrequest]
      refine ⟨nofun, fun responder hlive => ?_⟩
      simp only [live, List.append_assoc, List.mem_append, List.mem_singleton] at hlive
      rcases hlive with hheld | rfl | hforwarded
      · exact .inl (List.mem_append_left _ hheld)
      · exact .inr rfl
      · exact .inl (List.mem_append_right _ hforwarded)
  | settled _ _ settlement hrequest =>
      rw [hrequest, completions_cons, completions_settle hopen]
      refine ⟨fun duty hduty => ?_, fun _ hlive => .inl hlive⟩
      rw [List.mem_singleton.mp hduty]
      rfl

/-! ## Sessions -/

/-- A session in which some steps go through the other of two names. -/
def readdressed (redirected : Nat → Bool) (table copy : String) (session : List Step) : List Step :=
  session.mapIdx fun position step =>
    if redirected position then step.readdress (Equiv.swap table copy) else step

theorem exchanges_readdressed {session : List Step} {cloned index : Nat} {table copy : String}
    {redirected : Nat → Bool} (hclone : session[cloned]? = some (.clone table copy))
    (htable : (World.after {} (session.take cloned)).position? table = some index)
    (hredirected : ∀ position, redirected position = true →
      AreClones session cloned table copy position) :
    Exchanges {} session (readdressed redirected table copy session) where
  length := List.length_mapIdx
  step position original replaced hsession hother := by
    intro before
    rw [readdressed, List.getElem?_mapIdx, hsession, Option.map_some] at hother
    cases hother
    cases hposition : redirected position with
    | false => rfl
    | true =>
        have hclones := hredirected position hposition
        have hsame : before.position? copy = before.position? table :=
          (hclones.position?_eq hclone htable (.inr rfl)).trans
            (hclones.position?_eq hclone htable (.inl rfl)).symm
        exact World.step_readdress (World.position?_swap hsame) original

/-- When a table has been cloned, and as long as neither name is bound anew, any later steps may
go through the other of the two names: the session shows the same and leads to the same worlds.
All requests through either are for the host that the table was first registered for. That is
where they are completed, on the spot or, if a token is used for nothing else, at any time. And
a session goes on in the same way without the drop of one of the names, but for the later steps
that miss it, so nothing changes at the other name or for what is in flight. -/
theorem clones_are_one_table {session : List Step} {cloned : Nat} {table copy : String}
    {publication : Publication} (hclone : session[cloned]? = some (.clone table copy))
    (hpublication : (World.after {} (session.take cloned)).publication? table = some publication) :
    (∀ redirected : Nat → Bool,
      (∀ position, redirected position = true → AreClones session cloned table copy position) →
        let other := readdressed redirected table copy session
        showSession other = showSession session ∧
          ∀ count, World.after {} (other.take count) = World.after {} (session.take count)) ∧
      (∃ registered adapter name args backend index,
        session[registered]? = some (.register adapter name args backend publication.host) ∧
          registered < cloned ∧
          (World.after {} (session.take registered)).published.length ≤ index ∧
          index < (World.after {} (session.take (registered + 1))).published.length ∧
          (World.after {} (session.take cloned)).position? table = some index) ∧
      (∀ position name code buffer declared token, AreClones session cloned table copy position →
        name = table ∨ name = copy →
          let before := World.after {} (session.take position)
          let made := before.step (.request name code buffer declared token)
          (∀ duty ∈ completions made.events, duty.1 = publication.host) ∧
            ∀ responder ∈ made.world.live,
              responder ∈ before.live ∨ responder.host = publication.host) ∧
      (∀ token,
        (∀ position name code buffer declared,
          session[position]? = some (.request name code buffer declared token) →
            AreClones session cloned table copy position ∧ (name = table ∨ name = copy)) →
        ∀ host status data,
          .complete host token status data ∈
              (showSession session).1.flatMap Prod.snd ++ (showSession session).2 →
            host = publication.host) ∧
      ∀ dropped name, session[dropped]? = some (.forget name) → cloned < dropped →
        name = table ∨ name = copy →
          let erased := droppedOrMissed session dropped name
          showSession (without erased session) =
              (without erased (showSession session).1, (showSession session).2) ∧
            ∀ position, erased position = true → position ≠ dropped →
              (showSession session).1[position]? = some (.noTable, []) := by
  obtain ⟨index, htable, -⟩ := Option.bind_eq_some_iff.mp hpublication
  refine ⟨?_, World.exists_register_of_publication hpublication, ?_, ?_, ?_⟩
  · intro redirected hredirected
    have hexchanges := exchanges_readdressed hclone htable hredirected
    exact ⟨hexchanges.showSession_eq, hexchanges.after_take_eq⟩
  · intro position name code buffer declared token hclones hname before made
    obtain ⟨found, hfound, hhost⟩ := hclones.exists_publication hclone hpublication hname
    have hmade : made = World.silently
        (before.request found (.ofBuffer code buffer declared token)) := by
      simp only [made, World.step, World.onTable, before, hfound]
    have hrequest := before.request_host found (.ofBuffer code buffer declared token)
    rw [hhost] at hrequest
    rw [hmade]
    exact hrequest
  · intro token htoken host status data hcomplete
    obtain ⟨position, step, hstep, haccepted⟩ :=
      World.exists_of_mem_accepted (mem_accepted_of_completion hcomplete)
    obtain ⟨name, code, buffer, declared, found, rfl, hfound, -, hhost⟩ :=
      World.exists_of_mem_step_accepted haccepted
    obtain ⟨hclones, hname⟩ := htoken position name code buffer declared hstep
    obtain ⟨other, hother, hsame⟩ := hclones.exists_publication hclone hpublication hname
    cases hfound.symm.trans hother
    exact hhost.trans hsame
  · intro dropped name hdrop _ _
    exact ⟨showSession_without_drop hdrop, fun position => shown_of_missed⟩

/-- A bridge with a request in its queue is cloned, and the clone is cloned. A request, a cancel
and that clone change to the other name. The first name is dropped while requests wait, and then
missed once. -/
theorem clones_are_one_table_of_busy :
    let ending (request : Request) : Conduct := { course := .finish (.returned request.data) }
    let before : List Step :=
      [.register "modem" "radio" [] (.bridge {} (.ofRadio .echoing)) "host",
        .request "radio" ⟨2⟩ [1] 1 ⟨1⟩, .clone "radio" "spare", .run]
    let changing : List Step :=
      [.request "radio" ⟨2⟩ [2] 1 ⟨2⟩, .cancel "spare" ⟨1⟩, .clone "spare" "third"]
    let changed : List Step :=
      [.request "spare" ⟨2⟩ [2] 1 ⟨2⟩, .cancel "radio" ⟨1⟩, .clone "radio" "third"]
    let around : List Step := [.request "third" ⟨3⟩ [3] 1 ⟨3⟩, .run]
    let dropping : List Step := [.forget "radio", .request "radio" ⟨3⟩ [4] 1 ⟨4⟩]
    let later : List Step :=
      [.request "spare" ⟨3⟩ [5] 1 ⟨5⟩, .release ⟨1⟩ ending, .run, .shutdown]
    let session := before ++ changing ++ around ++ dropping ++ later
    let redirected (position : Nat) : Bool := 4 ≤ position && position < 7
    session[2]? = some (.clone "radio" "spare") ∧
      (World.after {} (session.take 2)).publication? "radio" =
        some { host := "host", handler := .bridge .echoing } ∧
      (∀ position, redirected position = true → AreClones session 2 "radio" "spare" position) ∧
      showSession (before ++ changed ++ around ++ dropping ++ later) = showSession session ∧
      (showSession session).1[13]? = some (.done,
        [.hosted ⟨⟨3⟩, [5], ⟨5⟩⟩, .complete "host" ⟨5⟩ .success [5],
          .complete "host" ⟨1⟩ .success [1]]) ∧
      showSession (before ++ changing ++ around ++ later) =
        (without (droppedOrMissed session 9 "radio") (showSession session).1,
          (showSession session).2) := by
  intro ending before changing changed around dropping later session redirected
  have hclone : session[2]? = some (.clone "radio" "spare") := rfl
  have hpublication : (World.after {} (session.take 2)).publication? "radio" =
      some { host := "host", handler := .bridge .echoing } := by
    subst session before
    rfl
  have hkept : ∀ between < 7, 2 < between → ∀ name ∈ ["radio", "spare"],
      session[between]?.all fun step =>
        !(World.after {} (session.take between)).rebinds step name := by
    subst session later dropping around changing before ending
    decide
  have hthere : ∀ position < 7, 3 < position → ∀ name ∈ ["radio", "spare"],
      (World.after {} (session.take position)).position? name ≠ none := by
    subst session later dropping around changing before ending
    decide
  have hclones : ∀ position, redirected position = true →
      AreClones session 2 "radio" "spare" position := by
    intro position hposition
    simp only [redirected, Bool.and_eq_true, decide_eq_true_eq] at hposition
    obtain ⟨hfirst, hlast⟩ := hposition
    have hmem {name : String} (hname : name = "radio" ∨ name = "spare") :
        name ∈ ["radio", "spare"] := by simpa using hname
    refine ⟨Nat.lt_of_succ_lt hfirst, ?_, fun name hname =>
      hthere position hlast hfirst name (hmem hname)⟩
    intro between hbefore hafter step hstep name hname
    have hnot := hkept between (Nat.lt_trans hbefore hlast) hafter name (hmem hname)
    simpa [hstep] using hnot
  have hchanged : readdressed redirected "radio" "spare" session =
      before ++ changed ++ around ++ dropping ++ later := by
    simp [readdressed, Step.readdress, session, before, changing, changed, around, dropping, later,
      redirected]
  have hwithout : without (droppedOrMissed session 9 "radio") session =
      before ++ changing ++ around ++ later := by
    subst session later dropping around changing before ending
    rfl
  have hran : (showSession session).1[13]? = some (.done,
      [.hosted ⟨⟨3⟩, [5], ⟨5⟩⟩, .complete "host" ⟨5⟩ .success [5],
        .complete "host" ⟨1⟩ .success [1]]) := by
    subst session later dropping around changing before ending
    rfl
  obtain ⟨hredirected, -, -, -, hdropped⟩ := clones_are_one_table hclone hpublication
  have hsame := (hredirected redirected hclones).1
  have hdrop := (hdropped 9 "radio" rfl (by decide) (.inl rfl)).1
  rw [hchanged] at hsame
  rw [hwithout] at hdrop
  exact ⟨hclone, hpublication, hclones, hsame, hran, hdrop⟩

end RadioAdapter
