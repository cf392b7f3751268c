import RadioAdapter.Adapter.World
import RadioAdapter.Bytes.Slice
import RadioAdapter.Proofs.Record.RoundTrip

/-! # No access is out of bounds

Records and requests are cut out of buffers whose lengths nobody has promised. Here each of them
is written and read once more, access by access: every slice, every copy and every word of four
bytes is guarded. The checks that protect an access are made well before it, so what is shown is
that they come in time: the guarded computations never stop, and they yield what is yielded
without guards.
-/

namespace RadioAdapter

/-! ## Records -/

namespace Record

/-- Write a record into a buffer of zeros, part by part. -/
def encodeGuarded (record : Record) : Guarded (Except Error Bytes) :=
  let name := Text.utf8 record.ifname
  match checkName name with
  | .error error => return .error error
  | .ok () =>
      if nameSize ≤ name.length then return .error (.nameTooLong name.length)
      else do
        let buffer : Bytes := List.replicate size 0
        let buffer ← buffer.overwrite 0 name.length name
        let buffer ← buffer.overwrite nameSize (nameSize + 4) (Word.signedBytes record.ipaddr)
        let buffer ← buffer.overwrite (nameSize + 4) (nameSize + 8) (Word.bytes record.prefixLength)
        let buffer ←
          buffer.overwrite (nameSize + 8) (nameSize + 12) (Word.signedBytes record.gateway)
        let buffer ← buffer.overwrite (nameSize + 12) (nameSize + 16) (Word.signedBytes record.dns0)
        let buffer ← buffer.overwrite (nameSize + 16) size (Word.signedBytes record.dns1)
        return .ok buffer

/-- Read a record from the parts of a buffer. -/
def decodeGuarded (data : Bytes) : Guarded (Except Error Record) :=
  if data.length < size then return .error (.tooShort data.length)
  else do
    let buffer ← data.slice 0 nameSize
    match buffer.findIdx? (· == 0) with
    | none => return .error .unterminatedName
    | some length => do
        let name ← buffer.slice 0 length
        match checkName name with
        | .error error => return .error error
        | .ok () => do
            let ipaddr ← data.signedAt nameSize
            let prefixLength ← data.wordAt (nameSize + 4)
            let gateway ← data.signedAt (nameSize + 8)
            let dns0 ← data.signedAt (nameSize + 12)
            let dns1 ← data.signedAt (nameSize + 16)
            return .ok { ifname := Text.ofAscii name, ipaddr, prefixLength, gateway, dns0, dns1 }

section

variable {record : Record} {name data : Bytes}

/-- Behind a name that fits its buffer there are zeros, be they padding or not yet written. -/
theorem zeroFilled_padName (hfits : name.length < nameSize) :
    Bytes.zeroFilled size (padName name) = Bytes.zeroFilled size name := by
  have hcount : size - name.length = (nameSize - name.length) + (size - nameSize) := by
    unfold size
    omega
  rw [Bytes.zeroFilled, length_padName (Nat.le_of_lt hfits), padName, List.append_assoc,
    List.replicate_append_replicate, ← hcount]
  rfl

/-- Each part is written to where the part before it ends, and the last one ends where the buffer
does. -/
theorem encodeGuarded_of_fits (hname : checkName (Text.utf8 record.ifname) = .ok ())
    (hfits : (Text.utf8 record.ifname).length < nameSize) :
    record.encodeGuarded = .ok (.ok (padName (Text.utf8 record.ifname) ++ record.words)) := by
  have hshort : ¬ nameSize ≤ (Text.utf8 record.ifname).length := Nat.not_le.mpr hfits
  have hpad := length_padName (Nat.le_of_lt hfits)
  have hstart : Bytes.overwrite (List.replicate size 0) 0 (Text.utf8 record.ifname).length
      (Text.utf8 record.ifname) = .ok (.zeroFilled size (padName (Text.utf8 record.ifname))) := by
    rw [zeroFilled_padName hfits, ← Bytes.zeroFilled_nil]
    exact Bytes.overwrite_zeroFilled rfl (Nat.zero_add _) (by unfold size; omega)
  obtain ⟨hipaddr, hlength⟩ :=
    Bytes.overwrite_part size hpad (Word.length_signedBytes record.ipaddr) (by decide)
  obtain ⟨hprefixLength, hlength⟩ :=
    Bytes.overwrite_part size hlength (Word.length_bytes record.prefixLength) (by decide)
  obtain ⟨hgateway, hlength⟩ :=
    Bytes.overwrite_part size hlength (Word.length_signedBytes record.gateway) (by decide)
  obtain ⟨hdns0, hlength⟩ :=
    Bytes.overwrite_part size hlength (Word.length_signedBytes record.dns0) (by decide)
  obtain ⟨hdns1, hlength⟩ :=
    Bytes.overwrite_part size hlength (Word.length_signedBytes record.dns1) (by decide)
  have hlast : nameSize + 20 = size := rfl
  simp only [Nat.add_assoc, Nat.reduceAdd, hlast] at hprefixLength hgateway hdns0 hdns1 hlength
  simp only [encodeGuarded, hname, hshort, hstart, hipaddr, hprefixLength, hgateway, hdns0, hdns1,
    Bytes.zeroFilled_of_length hlength, ↓reduceIte, bind, Except.bind, pure, Except.pure]
  simp only [words, List.append_assoc]

/-- A name is checked before its length is, and both before the first byte is written. -/
theorem encodeGuarded_eq (record : Record) : record.encodeGuarded = .ok record.encode := by
  cases hname : checkName (Text.utf8 record.ifname) with
  | error error =>
      rw [encode_of_error hname]
      simp only [encodeGuarded, hname, pure, Except.pure]
  | ok =>
      by_cases hfits : (Text.utf8 record.ifname).length < nameSize
      · rw [encodeGuarded_of_fits hname hfits, encode_of_fits hname hfits]
      · have hlong := Nat.not_lt.mp hfits
        rw [encode_of_long hname hlong]
        simp only [encodeGuarded, hname, hlong, ↓reduceIte, pure, Except.pure]

/-- The first NUL of a buffer lies in the buffer, and the bytes before it are the name. -/
theorem slice_name {buffer : Bytes} {length : Nat}
    (hfirst : buffer.findIdx? (· == 0) = some length) :
    0 ∈ buffer ∧ buffer.slice 0 length = .ok (buffer.takeWhile (· != 0)) := by
  obtain ⟨hlength, hnul, -⟩ := List.findIdx?_eq_some_iff_getElem.mp hfirst
  obtain ⟨-, hposition⟩ := List.findIdx?_eq_some_iff_findIdx_eq.mp hfirst
  have hname : buffer.takeWhile (· != 0) = buffer.take length := by
    rw [List.takeWhile_eq_take_findIdx_not, ← hposition]
    simp only [bne, Bool.not_not]
  refine ⟨?_, ?_⟩
  · rw [← beq_iff_eq.mp hnul]
    exact List.getElem_mem hlength
  · rw [Bytes.slice_zero_of_le (Nat.le_of_lt hlength), hname]

/-- One check of the length stands for all the words, and the name ends within its buffer. -/
theorem decodeGuarded_eq (data : Bytes) : decodeGuarded data = .ok (decode data) := by
  by_cases hshort : data.length < size
  · rw [decode_of_short hshort]
    exact if_pos hshort
  have hlength := Nat.not_lt.mp hshort
  have hbuffer : data.slice 0 nameSize = .ok (data.take nameSize) :=
    Bytes.slice_zero_of_le (Nat.le_trans (by decide) hlength)
  have hsigned {offset : Nat} (hoffset : offset + 4 ≤ size) :
      data.signedAt offset = .ok (Word.signedAt data offset) :=
    Bytes.signedAt_of_le (Nat.le_trans hoffset hlength)
  have hword {offset : Nat} (hoffset : offset + 4 ≤ size) :
      data.wordAt offset = .ok (Word.startingAt data offset) :=
    Bytes.wordAt_of_le (Nat.le_trans hoffset hlength)
  cases hfirst : (data.take nameSize).findIdx? (· == 0) with
  | none =>
      have hnul : 0 ∉ data.take nameSize := fun hmem =>
        absurd (List.findIdx?_eq_none_iff.mp hfirst 0 hmem) (by decide)
      rw [decode_of_unterminated hlength hnul]
      simp only [decodeGuarded, hshort, hbuffer, hfirst, ↓reduceIte, bind, Except.bind, pure,
        Except.pure]
  | some length =>
      obtain ⟨hnul, hslice⟩ := slice_name hfirst
      rw [takeWhile_take hnul] at hslice
      rw [decode_of_terminated hlength hnul]
      simp only [decodeGuarded, hshort, hbuffer, hfirst, hslice, ↓reduceIte, bind, Except.bind,
        pure, Except.pure]
      cases checkName (data.takeWhile (· != 0)) with
      | error error => rfl
      | ok =>
          simp only [hsigned (show nameSize + 4 ≤ size by decide),
            hword (show nameSize + 4 + 4 ≤ size by decide),
            hsigned (show nameSize + 8 + 4 ≤ size by decide),
            hsigned (show nameSize + 12 + 4 ≤ size by decide),
            hsigned (show nameSize + 16 + 4 ≤ size by decide)]
          rfl

end

end Record

/-! ## Requests -/

def Configurator.handleHookGuarded (configurator : Configurator) (payload : Bytes) :
    Guarded (Traced (Except AdapterError Int32)) := do
  match ← Record.decodeGuarded payload with
  | .ok record => return configurator.apply record
  | .error error => return ⟨[], .error (.malformedRecord error)⟩

def Configurator.serveGuarded (configurator : Configurator) (request : Request)
    (responder : Responder) : Guarded (List Event) :=
  if request.code = .oemHookRaw then do
    let handled ← configurator.handleHookGuarded request.data
    return handled.events ++ responder.settle (hookSettlement handled.result)
  else return responder.settle (.complete .requestNotSupported [])

/-- Cut the payload of a request out of the host's buffer. -/
def Request.ofBufferGuarded (code : RequestCode) (buffer : Bytes) (declared : Nat)
    (token : Token) : Guarded Request := do
  let data ← buffer.slice 0 (min declared buffer.length)
  return { code, data, token }

def World.acceptGuarded (world : World) (publication : Publication) (request : Request) :
    Guarded (List Event × World) :=
  match publication.handler with
  | .direct configurator => do
      return (← configurator.serveGuarded request (publication.responder request), world)
  | _ => return world.accept publication request

/-- A request of the host, from the buffer and the length that it declares. -/
def World.requestGuarded (world : World) (publication : Publication) (code : RequestCode)
    (buffer : Bytes) (declared : Nat) (token : Token) : Guarded (List Event × World) :=
  if publication.handler.supports code then do
    world.acceptGuarded publication (← Request.ofBufferGuarded code buffer declared token)
  else return ([], world)

section

variable (configurator : Configurator)

theorem Configurator.handleHookGuarded_eq (payload : Bytes) :
    configurator.handleHookGuarded payload = .ok (configurator.handleHook payload) := by
  rw [handleHookGuarded, Record.decodeGuarded_eq, handleHook]
  cases Record.decode payload <;> rfl

theorem Configurator.serveGuarded_eq (request : Request) (responder : Responder) :
    configurator.serveGuarded request responder = .ok (configurator.serve request responder) := by
  rw [serveGuarded, handleHookGuarded_eq, serve]
  split <;> rfl

theorem Request.ofBufferGuarded_eq (code : RequestCode) (buffer : Bytes) (declared : Nat)
    (token : Token) :
    ofBufferGuarded code buffer declared token = .ok (ofBuffer code buffer declared token) := by
  rw [ofBufferGuarded, Bytes.slice_zero_of_le (Nat.min_le_right _ _), ofBuffer,
    ← List.take_eq_take_min]
  rfl

theorem World.acceptGuarded_eq (world : World) (publication : Publication) (request : Request) :
    world.acceptGuarded publication request = .ok (world.accept publication request) := by
  cases hhandler : publication.handler with
  | direct configurator =>
      rw [accept_direct hhandler]
      simp only [acceptGuarded, hhandler, Configurator.serveGuarded_eq]
      rfl
  | bridge radio => simp only [acceptGuarded, hhandler]; rfl
  | custom handler => simp only [acceptGuarded, hhandler]; rfl

theorem World.requestGuarded_eq (world : World) (publication : Publication) (code : RequestCode)
    (buffer : Bytes) (declared : Nat) (token : Token) :
    world.requestGuarded publication code buffer declared token =
      .ok (world.request publication (.ofBuffer code buffer declared token)) := by
  rw [requestGuarded, Request.ofBufferGuarded_eq, request]
  split
  next hsupports =>
      exact (World.acceptGuarded_eq world publication _).trans
        (congrArg Except.ok (if_pos hsupports).symm)
  next hsupports =>
      exact congrArg Except.ok (if_neg hsupports).symm

end

/-- An error of a vendor hook is about its record, or about the interface to configure. -/
theorem Configurator.error_of_handleHook {configurator : Configurator} {payload : Bytes}
    {error : AdapterError} (herror : (configurator.handleHook payload).result = .error error) :
    (∃ cause, Record.decode payload = .error cause ∧ error = .malformedRecord cause) ∨
      ∃ ifname reason code, error = .configurationFailed ifname reason (some code) := by
  rw [handleHook] at herror
  cases hdecode : Record.decode payload with
  | error cause =>
      rw [hdecode] at herror
      exact .inl ⟨cause, rfl, (Except.error.inj herror).symm⟩
  | ok record =>
      rw [hdecode] at herror
      simp only [apply] at herror
      split at herror
      · cases hremove : (configurator.remove record.ifname).result with
        | ok =>
            rw [hremove] at herror
            contradiction
        | error failure =>
            rw [hremove] at herror
            exact .inr ⟨_, _, _, (Except.error.inj herror).symm⟩
      · simp only at herror
        split at herror
        · contradiction
        · exact .inr ⟨_, _, _, (Except.error.inj herror).symm⟩

/-- No slice, no copy and no word of four bytes is out of bounds, whatever the record, the buffer
and the declared length. Without guards, records are written and read, vendor hooks handled,
payloads cut out and requests taken in as they are with guards; and what a vendor hook can fail
with is a record that is none, or an interface that was not configured. -/
theorem accesses_stay_in_bounds :
    (∀ record : Record, record.encodeGuarded = .ok record.encode) ∧
      (∀ data : Bytes, Record.decodeGuarded data = .ok (Record.decode data)) ∧
      (∀ (configurator : Configurator) (payload : Bytes),
        configurator.handleHookGuarded payload = .ok (configurator.handleHook payload) ∧
          ∀ error, (configurator.handleHook payload).result = .error error →
            (∃ cause, Record.decode payload = .error cause ∧ error = .malformedRecord cause) ∨
              ∃ ifname reason code, error = .configurationFailed ifname reason (some code)) ∧
      (∀ (code : RequestCode) (buffer : Bytes) (declared : Nat) (token : Token),
        Request.ofBufferGuarded code buffer declared token =
          .ok (Request.ofBuffer code buffer declared token)) ∧
      ∀ (world : World) (publication : Publication) (code : RequestCode) (buffer : Bytes)
        (declared : Nat) (token : Token),
        world.requestGuarded publication code buffer declared token =
          .ok (world.request publication (.ofBuffer code buffer declared token)) :=
  ⟨Record.encodeGuarded_eq, Record.decodeGuarded_eq,
    fun configurator payload => ⟨configurator.handleHookGuarded_eq payload,
      fun _ herror => Configurator.error_of_handleHook herror⟩,
    Request.ofBufferGuarded_eq, World.requestGuarded_eq⟩

end RadioAdapter
