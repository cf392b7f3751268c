import RadioAdapter.Proofs.Exchange
import RadioAdapter.Proofs.Record.RoundTrip

/-! # Bytes beyond the payload never matter

The payload of a request ends where the shorter of the host's buffer and the declared
length does. A session shows nothing of the bytes behind it, nor of the declared length
itself. A direct table looks at even less: of a payload that is long enough it reads the
name up to its first NUL and the five words, so two payloads with the same record
content are served alike.
-/

namespace RadioAdapter

/-! ## The content of a record -/

namespace Record

/-- Two byte strings have the same record in them, or the same mistake: they are long enough,
their name buffers agree up to the first NUL and with it, and so do the words behind. -/
structure SameContent (first second : Bytes) : Prop where
  long : 36 ≤ first.length
  longOther : 36 ≤ second.length
  name : ∀ position < 16, 0 ∉ first.take position → first[position]? = second[position]?
  words : ∀ position < 36, 16 ≤ position → first[position]? = second[position]?

/-- Byte strings that agree up to a first NUL have the same bytes before it, and have one
within a bound together. -/
theorem name_congr {first second : Bytes} {bound : Nat}
    (hagree : ∀ position < bound, 0 ∉ first.take position → first[position]? = second[position]?) :
    (first.take bound).takeWhile (· != 0) = (second.take bound).takeWhile (· != 0) ∧
      (0 ∈ first.take bound ↔ 0 ∈ second.take bound) := by
  induction bound generalizing first second with
  | zero => simp
  | succ bound ih =>
      have hhead := hagree 0 (Nat.succ_pos bound) (by simp)
      cases first with
      | nil =>
          cases second with
          | nil => simp
          | cons byte rest => simp at hhead
      | cons byte rest =>
          cases second with
          | nil => simp at hhead
          | cons other later =>
              have hbyte : other = byte := by simpa using hhead.symm
              subst hbyte
              by_cases hnul : other = 0
              · simp [hnul]
              · obtain ⟨hname, hmem⟩ := ih fun position hposition hbefore =>
                  hagree (position + 1) (Nat.succ_lt_succ hposition)
                    (by simp [Ne.symm hnul, hbefore])
                simp [hnul, Ne.symm hnul, hname, hmem]

variable {first second : Bytes}

theorem SameContent.startingAt_eq (hsame : SameContent first second) {offset : Nat}
    (hstart : 16 ≤ offset) (hend : offset + 4 ≤ 36) :
    Word.startingAt first offset = Word.startingAt second offset := by
  have hbytes : (first.drop offset).take 4 = (second.drop offset).take 4 := by
    apply List.ext_getElem?
    intro index
    rw [List.getElem?_take, List.getElem?_take, List.getElem?_drop, List.getElem?_drop]
    split
    next hindex => exact hsame.words (offset + index) (by omega) (by omega)
    next => rfl
  have hwords : Word.bytes (Word.startingAt first offset) =
      Word.bytes (Word.startingAt second offset) := by
    rw [Word.bytes_startingAt (Nat.le_trans hend hsame.long),
      Word.bytes_startingAt (Nat.le_trans hend hsame.longOther), hbytes]
  -- A word is read back from its own bytes.
  have hback (word : UInt32) : Word.startingAt (Word.bytes word) 0 = word :=
    Word.startingAt_eq (List.append_nil _).symm
  rw [← hback (Word.startingAt first offset), hwords, hback]

theorem SameContent.signedAt_eq (hsame : SameContent first second) {offset : Nat}
    (hstart : 16 ≤ offset) (hend : offset + 4 ≤ 36) :
    Word.signedAt first offset = Word.signedAt second offset :=
  congrArg UInt32.toInt32 (hsame.startingAt_eq hstart hend)

/-- What is read from a byte string depends on its record content only. -/
theorem SameContent.decode_eq (hsame : SameContent first second) :
    decode first = decode second := by
  obtain ⟨hname, hmem⟩ := name_congr hsame.name
  by_cases hnul : 0 ∈ first.take nameSize
  · have hnul' : 0 ∈ second.take nameSize := hmem.mp hnul
    have hbefore : first.takeWhile (· != 0) = second.takeWhile (· != 0) := by
      rw [← takeWhile_take hnul, ← takeWhile_take hnul']
      exact hname
    have hreading : reading first = reading second := by
      simp only [reading, nameSize, hbefore, hsame.startingAt_eq (show 16 ≤ 16 + 4 by decide),
        hsame.signedAt_eq (show 16 ≤ 16 by decide), hsame.signedAt_eq (show 16 ≤ 16 + 8 by decide),
        hsame.signedAt_eq (show 16 ≤ 16 + 12 by decide),
        hsame.signedAt_eq (show 16 ≤ 16 + 16 by decide), Nat.reduceAdd, Nat.reduceLeDiff]
    rw [decode_of_terminated hsame.long hnul, decode_of_terminated hsame.longOther hnul', hbefore,
      hreading]
  · have hnul' : 0 ∉ second.take nameSize := fun hmem' => hnul (hmem.mpr hmem')
    rw [decode_of_unterminated hsame.long hnul, decode_of_unterminated hsame.longOther hnul']

end Record

/-! ## Requests with the same payload -/

/-- The bytes of a host's buffer that a request carries: as many as both the buffer and the
declared length allow. -/
def payload (buffer : Bytes) (declared : Nat) : Bytes := buffer.take (min declared buffer.length)

theorem Request.ofBuffer_eq (code : RequestCode) (buffer : Bytes) (declared : Nat) (token : Token) :
    Request.ofBuffer code buffer declared token =
      { code, data := payload buffer declared, token } := by
  rw [ofBuffer, payload, ← List.take_eq_take_min]

/-- Two steps that differ at most in what is behind the payload of a request or, if a direct
table serves it, in what is no content of a record in it. -/
inductive Step.Alike (world : World) : Step → Step → Prop where
  | same (step : Step) : Alike world step step
  | payload (table : String) (code : RequestCode) (token : Token) {buffer other : Bytes}
      {declared otherDeclared : Nat}
      (hpayload : payload other otherDeclared = payload buffer declared) :
      Alike world (.request table code buffer declared token)
        (.request table code other otherDeclared token)
  | content (table : String) (code : RequestCode) (token : Token) {buffer other : Bytes}
      {declared otherDeclared : Nat} {host : String} {configurator : Configurator}
      (htable : world.publication? table = some { host, handler := .direct configurator })
      (hsame : Record.SameContent (payload buffer declared) (payload other otherDeclared)) :
      Alike world (.request table code buffer declared token)
        (.request table code other otherDeclared token)

/-- A direct handler serves by the record in a payload, not by its bytes. -/
theorem Configurator.serve_congr (configurator : Configurator) (responder : Responder)
    (code : RequestCode) (token : Token) {first second : Bytes}
    (hdecode : Record.decode first = Record.decode second) :
    configurator.serve { code, data := first, token } responder =
      configurator.serve { code, data := second, token } responder := by
  simp only [serve, handleHook, hdecode]

namespace World

variable {world : World}

theorem request_of_direct {host : String} {configurator : Configurator} (request : Request) :
    world.request { host, handler := .direct configurator } request =
      if Configurator.supports request.code then
        (configurator.serve request
          { host, token := request.token, code := request.code }, world)
      else ([], world) := rfl

/-- Such steps do the same. -/
theorem step_of_alike {original replaced : Step} (halike : original.Alike world replaced) :
    world.step replaced = world.step original := by
  cases halike with
  | same => rfl
  | payload table code token hpayload =>
      simp only [World.step, Request.ofBuffer_eq, hpayload]
  | content table code token htable hsame =>
      simp only [World.step, onTable, htable, Request.ofBuffer_eq, request_of_direct,
        Configurator.serve_congr _ _ code token hsame.decode_eq]

end World

/-! ## Sessions -/

/-- Giving requests of a session other buffers and other declared lengths, with the same
payloads, changes nothing that the session shows, nor any world that it leads to. For a request
that a direct table serves it is enough that both payloads have the same record content. -/
theorem bytes_beyond_payload_never_matter {session other : List Step}
    (hlength : other.length = session.length)
    (halike : ∀ position (step replaced : Step), session[position]? = some step →
      other[position]? = some replaced →
        step.Alike (World.after {} (session.take position)) replaced) :
    showSession other = showSession session ∧
      ∀ count, World.after {} (other.take count) = World.after {} (session.take count) := by
  have hexchanges : Exchanges {} session other :=
    { length := hlength
      step := fun position step replaced hstep hreplaced =>
        World.step_of_alike (halike position step replaced hstep hreplaced) }
  exact ⟨hexchanges.showSession_eq, hexchanges.after_take_eq⟩

/-- A forwarded request is given a longer buffer with an understated length, and another one an
overstated length. Of a record to a direct table all that changes is behind the name's NUL and
behind the words. -/
theorem bytes_beyond_payload_never_matter_of_garbage :
    let words : Bytes := [10, 0, 0, 1, 24, 0, 0, 0, 0, 0, 0, 0, 8, 8, 8, 8, 0, 0, 0, 128]
    let tidy : Bytes := [114, 109, 0] ++ List.replicate 13 0 ++ words
    let messy : Bytes := [114, 109, 0] ++ List.replicate 13 255 ++ words ++ [1, 2, 3]
    let setup : List Step :=
      [.register "first" "radio" [] (.bridge {} (.ofRadio .echoing)),
        .register "second" "net" [] (.direct {})]
    let session : List Step := setup ++
      [.request "radio" ⟨3⟩ [1, 2] 2 ⟨1⟩, .request "radio" ⟨3⟩ [1, 2] 9 ⟨1⟩,
        .request "net" .oemHookRaw tidy 36 ⟨2⟩, .run]
    let other : List Step := setup ++
      [.request "radio" ⟨3⟩ [1, 2, 7, 7] 2 ⟨1⟩,
        .request "radio" ⟨3⟩ [1, 2] 18446744073709551615 ⟨1⟩,
        .request "net" .oemHookRaw messy 38 ⟨2⟩, .run]
    let record : Record :=
      { ifname := "rm", ipaddr := 16777226, prefixLength := 24, gateway := 0
        dns0 := 134744072, dns1 := -2147483648 }
    other.length = session.length ∧
      (∀ position (step replaced : Step), session[position]? = some step →
        other[position]? = some replaced →
          step.Alike (World.after {} (session.take position)) replaced) ∧
      (showSession session).1[4]? =
        some (.done, [.configure record, .complete "net" ⟨2⟩ .success [0, 0, 0, 0]]) ∧
      showSession other = showSession session := by
  intro words tidy messy setup session other record
  have hcontent : Record.SameContent (payload tidy 36) (payload messy 38) :=
    { long := by decide
      longOther := by decide
      name := by decide
      words := by decide }
  have halike : ∀ position (step replaced : Step), session[position]? = some step →
      other[position]? = some replaced →
        step.Alike (World.after {} (session.take position)) replaced := by
    intro position step replaced hstep hreplaced
    have hbound : position < 6 := (List.getElem?_eq_some_iff.mp hstep).1
    match position with
    | 0 | 1 | 5 =>
        cases hstep.symm.trans hreplaced
        exact .same step
    | 2 | 3 =>
        cases hstep
        cases hreplaced
        exact .payload _ _ _ rfl
    | 4 =>
        cases hstep
        cases hreplaced
        exact .content "net" _ _ rfl hcontent
    | _ + 6 => omega
  have hserved : (showSession session).1[4]? =
      some (.done, [.configure record, .complete "net" ⟨2⟩ .success [0, 0, 0, 0]]) := by
    subst record session setup tidy words
    rfl
  have hlength : other.length = session.length := rfl
  exact ⟨hlength, halike, hserved, (bytes_beyond_payload_never_matter hlength halike).1⟩

end RadioAdapter
