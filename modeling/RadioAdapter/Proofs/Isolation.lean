import RadioAdapter.Proofs.Completion.ExactlyOnce
import RadioAdapter.Proofs.Erasure
import RadioAdapter.Proofs.Registration.Parallel

/-! # One request cannot disturb another

Requests meet in one place only, the executor's queue and its list of waiting
requests. Leaving out of both what carries a certain token gives a view of the
world, and every step that does not name the token does the same in the view as in
the world, except for the calls that were made for the requests left out. So a
request can be taken out of a session, whatever comes of it, and nothing else that
the session shows changes.
-/

namespace RadioAdapter

/-! ## Whom a call is made for -/

/-- A call, with the token of the forwarded request that it is made for, if there is one. -/
abbrev Attributed := Option Token × Event

/-- Calls that are made for a forwarded request. -/
def Forwarded.ascribe (work : Forwarded) (events : List Event) : List Attributed :=
  events.map (some work.request.token, ·)

/-- The calls that are not made for a forwarded request with a token. -/
def apartFrom (token : Token) (calls : List Attributed) : List Event :=
  (calls.filter (·.1 != some token)).map Prod.snd

/-- What a round of turns does, turn by turn. -/
def Executor.attributedRun (executor : Executor) : List Attributed :=
  executor.ready.flatMap fun task => task.work.ascribe task.events

/-- What a shutdown does, request by request. -/
def Executor.attributedShutdown (executor : Executor) : List Attributed :=
  executor.unfinished.flatMap fun work => work.ascribe (work.responder.settle .drop)

namespace World

/-- The calls of a step, each with the request that it is made for. A call is made for a
forwarded request in the request's own turn or when the request is dropped. -/
def attributed (world : World) : Step → List Attributed
  | .run => world.executor.attributedRun
  | .shutdown => world.executor.attributedShutdown
  | step => (world.step step).events.map (none, ·)

/-- The calls made when everything that is left is let go. -/
def attributedClose (world : World) : List Attributed :=
  (world.held.flatMap (·.settle .drop)).map (none, ·) ++ world.executor.attributedShutdown

end World

/-- What a session shows, with the request that each call is made for. -/
def attributeSession (steps : List Step) : List (Reply × List Attributed) × List Attributed :=
  (World.along (fun world step => ((world.step step).result, world.attributed step)) {} steps,
    (World.after {} steps).attributedClose)

theorem Forwarded.map_ascribe (work : Forwarded) (events : List Event) :
    (work.ascribe events).map Prod.snd = events := by
  rw [ascribe, List.map_map]
  exact List.map_id events

theorem Executor.map_attributedShutdown (executor : Executor) :
    executor.attributedShutdown.map Prod.snd = executor.shutdown.1 := by
  rw [attributedShutdown, List.map_flatMap]
  simp only [Forwarded.map_ascribe]
  rfl

section

variable (token : Token)

theorem apartFrom_append (first second : List Attributed) :
    apartFrom token (first ++ second) = apartFrom token first ++ apartFrom token second := by
  simp only [apartFrom, List.filter_append, List.map_append]

theorem apartFrom_flatMap {α : Type} (list : List α) (calls : α → List Attributed) :
    apartFrom token (list.flatMap calls) =
      list.flatMap fun element => apartFrom token (calls element) := by
  simp only [apartFrom, List.filter_flatMap, List.map_flatMap]

theorem apartFrom_none (events : List Event) :
    apartFrom token (events.map (none, ·)) = events := by
  simp [apartFrom, List.filter_map, Function.comp_def]

/-- A request's calls are left out if it carries the token, and all of them stay if not. -/
theorem apartFrom_ascribe (work : Forwarded) (events : List Event) :
    apartFrom token (work.ascribe events) =
      if Executor.hasToken token work then [] else events := by
  cases htoken : Executor.hasToken token work with
  | true =>
      have hown : work.request.token = token := beq_iff_eq.mp htoken
      simp [apartFrom, Forwarded.ascribe, List.filter_map, Function.comp_def, hown]
  | false =>
      have hother : work.request.token ≠ token := beq_eq_false_iff_ne.mp htoken
      simp [apartFrom, Forwarded.ascribe, List.filter_map, Function.comp_def, hother]

end

/-! ## The executor without a token -/

/-- Elements that are left out add nothing, and all others add what they did. -/
theorem flatMap_filter_not {α β : Type} (list : List α) (test : α → Bool) (calls : α → List β) :
    (list.filter fun element => !test element).flatMap calls =
      list.flatMap fun element => if test element then [] else calls element := by
  induction list with
  | nil => rfl
  | cons element rest ih =>
      cases htest : test element <;> simp [htest, ih]

section

variable {α : Type} {keep test : α → Bool}

/-- A search is not changed by leaving out what it passes over. -/
theorem find?_filter_of_imp (list : List α)
    (himp : ∀ element, test element = true → keep element = true) :
    (list.filter keep).find? test = list.find? test := by
  have htests : (fun element => decide (keep element = true ∧ test element = true)) = test := by
    funext element
    cases htest : test element with
    | true => simp [himp element htest]
    | false => simp
  rw [List.find?_filter, htests]

/-- Nor is the removal of what the search finds. -/
theorem eraseP_filter_of_imp (list : List α)
    (himp : ∀ element, test element = true → keep element = true) :
    (list.filter keep).eraseP test = (list.eraseP test).filter keep := by
  have htests : (fun element => test element && keep element) = test := by
    funext element
    cases htest : test element with
    | true => simp [himp element htest]
    | false => simp
  rw [List.eraseP_filter, htests]

end

theorem filter_not_eraseP {α : Type} (list : List α) (test : α → Bool) :
    (list.eraseP test).filter (fun element => !test element) =
      list.filter fun element => !test element := by
  induction list with
  | nil => rfl
  | cons element rest ih =>
      cases htest : test element <;> simp [htest, ih]

namespace Executor

/-- An executor without the requests that carry a token. -/
def lacking (executor : Executor) (token : Token) : Executor :=
  { executor with
    ready := executor.ready.filter fun task => !hasToken token task.work
    waiting := executor.waiting.filter fun work => !hasToken token work }

variable (executor : Executor) {token : Token}

theorem lacking_spawn {work : Forwarded} (hother : hasToken token work = false) :
    (executor.lacking token).spawn work =
      ((executor.spawn work).1, (executor.spawn work).2.lacking token) := by
  cases hrunning : executor.running <;> simp [spawn, lacking, hrunning, hother]

theorem lacking_spawn_own {work : Forwarded} (hown : hasToken token work = true) :
    (executor.spawn work).2.lacking token = executor.lacking token := by
  cases hrunning : executor.running <;> simp [spawn, lacking, hrunning, hown]

theorem lacking_unfinished :
    (executor.lacking token).unfinished =
      executor.unfinished.filter fun work => !hasToken token work := by
  rw [unfinished, unfinished, List.filter_append, List.filter_map]
  rfl

/-- A request that waits after its turn still carries its token. -/
theorem filter_remainder (task : Task) :
    task.remainder.filter (fun work => !hasToken token work) =
      if !hasToken token task.work then task.remainder else none := by
  unfold Task.remainder
  cases task.conduct.course with
  | finish outcome => simp
  | wait => simp [Option.filter]

theorem lacking_run :
    (executor.lacking token).run =
      (apartFrom token executor.attributedRun, executor.run.2.lacking token) := by
  refine Prod.ext ?_ ?_
  · rw [attributedRun, apartFrom_flatMap]
    simp only [apartFrom_ascribe]
    exact flatMap_filter_not _ _ _
  · simp only [run, lacking, List.filter_nil, List.filter_append, List.filter_filterMap,
      List.filterMap_filter, filter_remainder]

theorem lacking_shutdown :
    (executor.lacking token).shutdown =
      (apartFrom token executor.attributedShutdown, executor.shutdown.2) := by
  refine Prod.ext ?_ rfl
  rw [attributedShutdown, apartFrom_flatMap]
  simp only [apartFrom_ascribe, shutdown, lacking_unfinished]
  exact flatMap_filter_not _ _ _

/-- A request with one token is not looked for by another. -/
theorem hasToken_of_ne {other : Token} (hother : other ≠ token) {work : Forwarded}
    (hfound : hasToken other work = true) : hasToken token work = false := by
  rw [hasToken, beq_iff_eq] at hfound
  rw [hasToken, hfound]
  exact beq_eq_false_iff_ne.mpr hother

/-- Waking a request with another token is the same whether or not the token is left out. -/
theorem lacking_release {other : Token} (hother : other ≠ token) (how : Request → Conduct) :
    (executor.lacking token).release other how =
      ((executor.release other how).1, (executor.release other how).2.lacking token) := by
  -- The search for another token passes over everything that is left out.
  have hkeep (work : Forwarded) (hfound : hasToken other work = true) :
      (!hasToken token work) = true := by
    rw [hasToken_of_ne hother hfound]
    rfl
  have hfind : (executor.waiting.filter fun work => !hasToken token work).find? (hasToken other) =
      executor.waiting.find? (hasToken other) :=
    find?_filter_of_imp _ hkeep
  have herase : (executor.waiting.filter fun work => !hasToken token work).eraseP
      (hasToken other) =
        (executor.waiting.eraseP (hasToken other)).filter fun work => !hasToken token work :=
    eraseP_filter_of_imp _ hkeep
  simp only [release, lacking, hfind, herase]
  cases hfound : executor.waiting.find? (hasToken other) with
  | none => rfl
  | some work =>
      have hwork := hasToken_of_ne hother (List.find?_some hfound)
      simp [List.filter_append, hwork]

theorem lacking_release_own (token : Token) (how : Request → Conduct) :
    (executor.release token how).2.lacking token = executor.lacking token := by
  unfold release
  cases hfound : executor.waiting.find? (hasToken token) with
  | none => rfl
  | some work =>
      have hwork := List.find?_some hfound
      simp [lacking, List.filter_append, hwork, filter_not_eraseP]

end Executor

/-! ## Registration does not look at the executor -/

namespace World

/-- The same world with another executor. -/
def withExecutor (world : World) (executor : Executor) : World := { world with executor }

theorem congenial_withExecutor (executor : Executor) :
    Congenial fun short long => short = long.withExecutor executor where
  initialized hshort := by rw [hshort, withExecutor]
  publish hshort registration handler hnext hother := by
    subst hshort
    rw [(publish_eq_some_iff.mp hnext).2, (publish_eq_some_iff.mp hother).2]
    rfl

theorem register_withExecutor (world : World) (registration : Registration) (backend : Backend)
    (executor : Executor) :
    (world.withExecutor executor).register registration backend =
      { world.register registration backend with
        world := (world.register registration backend).world.withExecutor executor } := by
  have hmatches := (congenial_withExecutor executor).register_matches
    (Eq.refl (world.withExecutor executor)) registration backend
  simp only [← hmatches.result, ← hmatches.events, ← hmatches.world]

end World

/-! ## The world without a token -/

/-- Whether a step cancels or wakes requests that carry a token. -/
def Step.pursues (token : Token) : Step → Bool
  | .cancel _ of | .release of _ => of == token
  | _ => false

/-- Whether a step makes a request that carries a token. -/
def Step.requests (token : Token) : Step → Bool
  | .request _ _ _ _ of => of == token
  | _ => false

namespace World

/-- The world without the forwarded requests that carry a token. -/
def lacking (world : World) (token : Token) : World :=
  world.withExecutor (world.executor.lacking token)

variable {world : World} {token : Token}

@[simp] theorem publication?_lacking (table : String) :
    (world.lacking token).publication? table = world.publication? table := rfl

@[simp] theorem position?_lacking (table : String) :
    (world.lacking token).position? table = world.position? table := rfl

@[simp] theorem held_lacking : (world.lacking token).held = world.held := rfl

theorem register_lacking (registration : Registration) (backend : Backend) :
    (world.lacking token).register registration backend =
      { world.register registration backend with
        world := (world.register registration backend).world.lacking token } := by
  have hsparing : world.Sparing (world.register registration backend) :=
    registerWith_sparing (backend.setup_sparing _ world)
  rw [lacking, lacking, hsparing.executor]
  exact world.register_withExecutor registration backend _

theorem request_lacking (world : World) (publication : Publication) (request : Request)
    (hother : request.token ≠ token) :
    (world.lacking token).request publication request =
      ((world.request publication request).1,
        (world.request publication request).2.lacking token) := by
  cases intake publication request with
  | ignored _ hrequest | served _ _ hrequest | settled _ _ _ hrequest => rw [hrequest, hrequest]
  | forwarded radio _ _ hrequest =>
      have hwork : Executor.hasToken token
          { request, responder := publication.responder request, radio } = false :=
        beq_eq_false_iff_ne.mpr hother
      have hspawn := world.executor.lacking_spawn hwork
      rw [hrequest, hrequest]
      simp only [lacking, withExecutor, hspawn]
  | held _ _ hrequest =>
      rw [hrequest, hrequest]
      rfl

/-- A request is gone when its token is left out, unless a custom handler serves it. -/
theorem request_lacking_own {publication : Publication} {request : Request}
    (hserved : ∀ handler, publication.handler ≠ .custom handler) (hown : request.token = token) :
    (world.request publication request).2.lacking token = world.lacking token := by
  cases intake publication request with
  | ignored _ hrequest | served _ _ hrequest => rw [hrequest]
  | forwarded radio _ _ hrequest =>
      have hwork : Executor.hasToken token
          { request, responder := publication.responder request, radio } = true :=
        beq_iff_eq.mpr hown
      have hspawn := world.executor.lacking_spawn_own hwork
      rw [hrequest]
      simp only [lacking, withExecutor, hspawn]
  | held handler hhandler | settled handler hhandler => exact absurd hhandler (hserved handler)

/-- A step that does not name a token does the same without it, except for the calls made for
requests that carry it. -/
theorem step_lacking {step : Step} (hrequests : step.requests token = false)
    (hpursues : step.pursues token = false) :
    (world.lacking token).step step =
      { result := (world.step step).result
        events := apartFrom token (world.attributed step)
        world := (world.step step).world.lacking token } := by
  cases step with
  | run =>
      simp only [World.step, silently, run, lacking, withExecutor, Executor.lacking_run]
      rfl
  | shutdown =>
      simp only [World.step, silently, shutdown, lacking, withExecutor, Executor.lacking_shutdown]
      rfl
  | register adapter table args backend host =>
      simp only [World.step, attributed, register_lacking, apartFrom_none]
  | request table code buffer declared other =>
      have hother : other ≠ token := beq_eq_false_iff_ne.mp hrequests
      simp only [World.step, attributed, apartFrom_none, onTable, publication?_lacking]
      cases world.publication? table with
      | none => rfl
      | some publication =>
          have hrequest := world.request_lacking publication
            (.ofBuffer code buffer declared other) hother
          simp only [silently, hrequest]
  | release other how =>
      have hother : other ≠ token := beq_eq_false_iff_ne.mp hpursues
      have hrelease := world.executor.lacking_release hother how
      simp only [World.step, attributed, apartFrom_none, release, lacking, withExecutor, hrelease]
  -- From here on no step reaches the executor.
  | initialized => rfl
  | supports table | radioState table | info table | cancel table =>
      simp only [World.step, attributed, apartFrom_none, onTable, publication?_lacking]
      cases world.publication? table <;> rfl
  | clone table | forget table | returnCodes table =>
      simp only [World.step, attributed, apartFrom_none, onName, position?_lacking]
      cases world.position? table <;> rfl
  | finish other how =>
      simp only [World.step, attributed, apartFrom_none, finish, held_lacking]
      cases world.held.find? (·.token == other) <;> rfl

theorem step_request_lacking {table : String}
    (hserved : ∀ publication, world.publication? table = some publication →
      ∀ handler, publication.handler ≠ .custom handler)
    (code : RequestCode) (buffer : Bytes) (declared : Nat) :
    (world.step (.request table code buffer declared token)).world.lacking token =
      world.lacking token := by
  simp only [World.step, onTable]
  cases hpublication : world.publication? table with
  | none => rfl
  | some publication => exact request_lacking_own (hserved publication hpublication) rfl

/-- Cancelling or waking what carries a token makes no difference without it. -/
theorem step_lacking_of_pursues {step : Step} (hpursues : step.pursues token = true) :
    (world.step step).world.lacking token = world.lacking token := by
  cases step with
  | cancel table other =>
      simp only [World.step, onTable]
      cases world.publication? table <;> rfl
  | release other how =>
      rw [beq_iff_eq.mp hpursues]
      have hrelease := world.executor.lacking_release_own token how
      simp only [World.step, release, lacking, withExecutor, hrelease]
  | _ => contradiction

theorem close_lacking :
    (world.lacking token).close.1 = apartFrom token world.attributedClose := by
  rw [attributedClose, apartFrom_append, apartFrom_none]
  show _ ++ (world.executor.lacking token).shutdown.1 = _
  rw [Executor.lacking_shutdown]
  rfl

/-! ## Without the attribution -/

/-- Without the attribution these are the calls of the step. -/
theorem map_attributed (world : World) (step : Step) :
    (world.attributed step).map Prod.snd = (world.step step).events := by
  have hnone (events : List Event) :
      (events.map fun event => ((none, event) : Attributed)).map Prod.snd = events := by
    rw [List.map_map]
    exact List.map_id events
  cases step with
  | run =>
      rw [attributed, Executor.attributedRun, List.map_flatMap]
      simp only [Forwarded.map_ascribe]
      rfl
  | shutdown => exact world.executor.map_attributedShutdown
  | _ => exact hnone _

theorem map_attributedClose (world : World) :
    world.attributedClose.map Prod.snd = world.close.1 := by
  rw [attributedClose, List.map_append, List.map_map, world.executor.map_attributedShutdown]
  exact congrArg (· ++ _) (List.map_id _)

end World

/-- What is seen of a session, when something is made of the calls of each step. -/
theorem map_attributeSession (change : List Attributed → List Event) (session : List Step) :
    (attributeSession session).1.map (fun shown => (shown.1, change shown.2)) =
      World.along (fun world step => ((world.step step).result, change (world.attributed step)))
        {} session :=
  World.map_along _ _ _ _

/-- Without the attribution, a session shows its calls. -/
theorem forget_attributeSession (session : List Step) :
    (attributeSession session).1.map (fun shown => (shown.1, shown.2.map Prod.snd)) =
        (showSession session).1 ∧
      (attributeSession session).2.map Prod.snd = (showSession session).2 := by
  constructor
  · rw [map_attributeSession (List.map Prod.snd)]
    simp only [World.map_attributed]
    exact World.along_shown {} session
  · exact World.map_attributedClose _

/-- Taking a request to a direct or a bridge table out of a session, together with the steps that
cancel or wake it, changes nothing else, provided that no other request carries its token: every
other step answers the same and makes the same calls in the same order, except for those that were
made for the request itself, and so does the end of the session. Without the attribution, the
calls are those that the session shows. -/
theorem request_disturbs_no_other {session : List Step} {position : Nat} {table : String}
    {code : RequestCode} {buffer : Bytes} {declared : Nat} {token : Token}
    (hrequest : session[position]? = some (.request table code buffer declared token))
    (hunique : ∀ other table code buffer declared,
      session[other]? = some (.request table code buffer declared token) → other = position)
    (hserved : ∀ publication,
      (World.after {} (session.take position)).publication? table = some publication →
        ∀ handler, publication.handler ≠ .custom handler) :
    let erased (other : Nat) : Bool :=
      other == position || session[other]?.any (Step.pursues token)
    let account := attributeSession session
    (account.1.map (fun shown => (shown.1, shown.2.map Prod.snd)) = (showSession session).1 ∧
        account.2.map Prod.snd = (showSession session).2) ∧
      showSession (without erased session) =
        (without erased (account.1.map fun shown => (shown.1, apartFrom token shown.2)),
          apartFrom token account.2) := by
  intro erased account
  have herased : ∀ other step, session[other]? = some step → erased other = true →
      let before := World.after {} (session.take other)
      (before.step step).world.lacking token = before.lacking token := by
    intro other step hstep hother
    cases hpursues : step.pursues token with
    | true => exact World.step_lacking_of_pursues hpursues
    | false =>
        have hposition : other = position := by
          simpa [erased, hstep, hpursues] using hother
        subst hposition
        cases hstep.symm.trans hrequest
        exact World.step_request_lacking hserved code buffer declared
  have hkept : ∀ other step, session[other]? = some step → erased other = false →
      step.requests token = false ∧ step.pursues token = false := by
    intro other step hstep hother
    simp only [erased, hstep, Option.any_some, Bool.or_eq_false_iff, beq_eq_false_iff_ne] at hother
    refine ⟨?_, hother.2⟩
    cases step with
    | request table code buffer declared found =>
        refine beq_eq_false_iff_ne.mpr fun htoken => hother.1 ?_
        exact hunique other table code buffer declared (htoken ▸ hstep)
    | _ => rfl
  obtain ⟨hshown, hafter⟩ := World.run_without (·.lacking token)
    (fun world step => ((world.step step).result, apartFrom token (world.attributed step)))
    erased {} session herased fun other step hstep hother =>
      World.step_lacking (hkept other step hstep hother).1 (hkept other step hstep hother).2
  refine ⟨forget_attributeSession session, Prod.ext ?_ ?_⟩
  · rw [map_attributeSession (apartFrom token)]
    exact hshown
  · show (World.after {} (without erased session)).close.1 = _
    have hafter' : World.after {} (without erased session) =
        (World.after {} session).lacking token := hafter
    rw [hafter', World.close_lacking]
    rfl

/-- A request waits in its hosted call, is cancelled and woken, waits again and is dropped by the
shutdown. Without it the requests around it in the queue go the same way, and so does the one
that a direct table serves. -/
theorem request_disturbs_no_other_of_waiting :
    let before : List Step :=
      [.register "first" "radio" [] (.bridge {} (.ofRadio .echoing)),
        .register "second" "net" [] (.direct {}), .request "radio" ⟨2⟩ [1] 1 ⟨1⟩]
    let disturbing : Step := .request "radio" ⟨2⟩ [2] 1 ⟨2⟩
    let others : List Step :=
      [.request "net" .oemHookRaw [3] 1 ⟨3⟩, .request "radio" ⟨3⟩ [4] 1 ⟨3⟩, .run]
    let pursuing : List Step := [.cancel "radio" ⟨2⟩, .release ⟨2⟩ fun _ => { course := .wait }]
    let later : List Step :=
      [.release ⟨1⟩ fun request => { course := .finish (.returned request.data) }, .run, .shutdown]
    let session := before ++ disturbing :: others ++ pursuing ++ later
    let account := attributeSession session
    session[3]? = some disturbing ∧
      (∀ other table code buffer declared,
        session[other]? = some (.request table code buffer declared ⟨2⟩) → other = 3) ∧
      (World.after {} before).publication? "radio" =
        some { host := "radio", handler := .bridge .echoing } ∧
      account.1[6]? = some (.done,
        [(some ⟨1⟩, .hosted ⟨⟨2⟩, [1], ⟨1⟩⟩), (some ⟨2⟩, .hosted ⟨⟨2⟩, [2], ⟨2⟩⟩),
          (some ⟨3⟩, .hosted ⟨⟨3⟩, [4], ⟨3⟩⟩),
          (some ⟨3⟩, .complete "radio" ⟨3⟩ .success [4])]) ∧
      account.1[11]? = some (.done, [(some ⟨2⟩, .complete "radio" ⟨2⟩ .genericFailure [])]) ∧
      showSession (before ++ others ++ later) =
        (without [3, 7, 8].contains (account.1.map fun shown => (shown.1, apartFrom ⟨2⟩ shown.2)),
          apartFrom ⟨2⟩ account.2) := by
  intro before disturbing others pursuing later session account
  have hunique : ∀ other table code buffer declared,
      session[other]? = some (.request table code buffer declared ⟨2⟩) → other = 3 := by
    intro other table code buffer declared hother
    have hbound : other < session.length := (List.getElem?_eq_some_iff.mp hother).1
    have hsearch : ∀ other < session.length,
        session[other]?.any (Step.requests ⟨2⟩) = true → other = 3 := by
      subst session later pursuing others disturbing before
      decide
    refine hsearch other hbound ?_
    rw [hother]
    rfl
  have hrequest : session[3]? = some disturbing := rfl
  have htable : (World.after {} before).publication? "radio" =
      some { host := "radio", handler := .bridge .echoing } := by
    subst before
    rfl
  have hserved : ∀ publication,
      (World.after {} (session.take 3)).publication? "radio" = some publication →
        ∀ handler, publication.handler ≠ .custom handler := by
    intro publication hpublication handler
    cases htable.symm.trans hpublication
    nofun
  have hrun : account.1[6]? = some (.done,
      [(some ⟨1⟩, .hosted ⟨⟨2⟩, [1], ⟨1⟩⟩), (some ⟨2⟩, .hosted ⟨⟨2⟩, [2], ⟨2⟩⟩),
        (some ⟨3⟩, .hosted ⟨⟨3⟩, [4], ⟨3⟩⟩),
        (some ⟨3⟩, .complete "radio" ⟨3⟩ .success [4])]) := by
    subst account session later pursuing others disturbing before
    rfl
  have hshutdown : account.1[11]? =
      some (.done, [(some ⟨2⟩, .complete "radio" ⟨2⟩ .genericFailure [])]) := by
    subst account session later pursuing others disturbing before
    rfl
  exact ⟨hrequest, hunique, htable, hrun, hshutdown,
    (request_disturbs_no_other hrequest hunique hserved).2⟩

end RadioAdapter
