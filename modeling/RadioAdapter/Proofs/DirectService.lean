import RadioAdapter.Proofs.Session

/-! # Direct service, end to end

What one request to a direct table leads to can be said without the handler that
serves it: which primitives are called on which interface, in which order, and
how the request is completed. The main statement is that a request step makes
exactly these calls and changes nothing that outlives it.
-/

namespace RadioAdapter

/-- The bytes of a return code in two's complement, the lowest eight bits first. -/
def littleEndian (code : Int32) : Bytes :=
  (List.range 4).map fun position => (code.toUInt32 >>> UInt32.ofNat (8 * position)).toUInt8

theorem signedBytes_eq_littleEndian (code : Int32) :
    Word.signedBytes code = littleEndian code :=
  Word.bytes_eq_shifts code.toUInt32

/-- The completion of a vendor hook: four zero bytes with a success, and the bytes of
the code that stands for the failure otherwise. -/
def hookCompletion (host : String) (token : Token) : Option Int32 → Event
  | none => .complete host token .success [0, 0, 0, 0]
  | some code => .complete host token .genericFailure (littleEndian code)

/-- The calls that a vendor hook leads to, in order. A teardown runs all of its
primitives and fails with the first return code that is not zero. -/
def hookCalls (configurator : Configurator) (host : String) (token : Token)
    (payload : Bytes) : List Event :=
  let codes := configurator.codes
  match Record.decode payload with
  | .error _ => [.complete host token .genericFailure []]
  | .ok record =>
      if record.ipaddr = 0 then
        match configurator.removal with
        | .stepwise =>
            [.removeDefaultRoute record.ifname, .clearAddresses record.ifname,
              .down record.ifname,
              hookCompletion host token
                ([codes.removeDefaultRoute, codes.clearAddresses, codes.down].find? (· ≠ 0))]
        | .single =>
            [.remove record.ifname,
              hookCompletion host token (codes.removal.map InterfaceError.code)]
      else
        [.configure record, hookCompletion host token ([codes.configure].find? (· ≠ 0))]

namespace Configurator

variable {configurator : Configurator} {responder : Responder}

/-- A vendor hook that ends without a failing code is completed as a success. -/
theorem settle_ok (hopen : responder.completed = false) :
    responder.settle (hookSettlement (.ok 0)) =
      [hookCompletion responder.host responder.token none] := by
  rw [Responder.settle_eq_singleton hopen]
  rfl

/-- A failed primitive is reported by the bytes of its code. -/
theorem settle_interfaceError (hopen : responder.completed = false) (failure : InterfaceError) :
    responder.settle (hookSettlement (.error (.ofInterfaceError failure))) =
      [hookCompletion responder.host responder.token (some failure.code)] := by
  rw [Responder.settle_eq_singleton hopen, hookCompletion, ← signedBytes_eq_littleEndian]
  rfl

/-- The primitives of a teardown all run, and the first code that is not zero is reported. -/
theorem settle_teardown (hopen : responder.completed = false) (codes : ReturnCodes)
    (ifname : String) :
    responder.settle (hookSettlement (teardownResult (codes.teardown ifname))) =
      [hookCompletion responder.host responder.token
        ([codes.removeDefaultRoute, codes.clearAddresses, codes.down].find? (· ≠ 0))] := by
  by_cases hroute : codes.removeDefaultRoute = 0
  · by_cases hclear : codes.clearAddresses = 0
    · by_cases hdown : codes.down = 0
      · simp [ReturnCodes.teardown, teardownResult, hroute, hclear, hdown, settle_ok hopen]
      · simp [ReturnCodes.teardown, teardownResult, hroute, hclear, hdown,
          settle_interfaceError hopen]
    · simp [ReturnCodes.teardown, teardownResult, hroute, hclear, settle_interfaceError hopen]
  · simp [ReturnCodes.teardown, teardownResult, hroute, settle_interfaceError hopen]

theorem serve_teardown (hopen : responder.completed = false) {request : Request}
    {record : Record} (hcode : request.code = .oemHookRaw)
    (hdecode : Record.decode request.data = .ok record) (hteardown : record.ipaddr = 0) :
    configurator.serve request responder =
      hookCalls configurator responder.host responder.token request.data := by
  have hrecord : record.isTeardown = true := by simp [Record.isTeardown, hteardown]
  cases hremoval : configurator.removal with
  | stepwise =>
      simp only [serve, hcode, handleHook, hdecode, apply, hrecord, remove, hookCalls, hteardown,
        hremoval, ↓reduceIte]
      rw [settle_teardown hopen]
      rfl
  | single =>
      simp only [serve, hcode, handleHook, hdecode, apply, hrecord, remove, hookCalls, hteardown,
        hremoval, ReturnCodes.ownTeardown, ↓reduceIte]
      cases configurator.codes.removal with
      | none => simp [teardownResult, settle_ok hopen]
      | some failure => simp [teardownResult, settle_interfaceError hopen]

theorem serve_configure (hopen : responder.completed = false) {request : Request}
    {record : Record} (hcode : request.code = .oemHookRaw)
    (hdecode : Record.decode request.data = .ok record) (hconfigure : record.ipaddr ≠ 0) :
    configurator.serve request responder =
      hookCalls configurator responder.host responder.token request.data := by
  have hrecord : record.isTeardown = false := by simp [Record.isTeardown, hconfigure]
  simp only [serve, hcode, handleHook, hdecode, apply, hrecord, hookCalls, hconfigure,
    Bool.false_eq_true, ↓reduceIte]
  by_cases hzero : configurator.codes.configure = 0
  · simp [hzero, settle_ok hopen]
  · rw [if_neg hzero, Responder.settle_eq_singleton hopen]
    simp [hzero, hookCompletion, hookSettlement, Settlement.status, Settlement.response,
      AdapterError.status, AdapterError.response, signedBytes_eq_littleEndian]

theorem serve_malformed (hopen : responder.completed = false) {request : Request}
    {error : Record.Error} (hcode : request.code = .oemHookRaw)
    (hdecode : Record.decode request.data = .error error) :
    configurator.serve request responder =
      hookCalls configurator responder.host responder.token request.data := by
  simp only [serve, hcode, handleHook, hdecode, hookCalls, ↓reduceIte]
  rw [Responder.settle_eq_singleton hopen]
  rfl

theorem serve_eq_hookCalls (hopen : responder.completed = false) {request : Request}
    (hcode : request.code = .oemHookRaw) :
    configurator.serve request responder =
      hookCalls configurator responder.host responder.token request.data := by
  cases hdecode : Record.decode request.data with
  | error error => exact serve_malformed hopen hcode hdecode
  | ok record =>
      by_cases hzero : record.ipaddr = 0
      · exact serve_teardown hopen hcode hdecode hzero
      · exact serve_configure hopen hcode hdecode hzero

end Configurator

/-- A request step on a direct table makes the calls of a vendor hook for the part
of the buffer that the declared length covers, or none for any other code. All
of them are made within the step, which leaves nothing behind. -/
theorem step_request_of_direct {world : World} {table host : String}
    {configurator : Configurator}
    (htable : world.publication? table = some { host, handler := .direct configurator })
    (code : RequestCode) (buffer : Bytes) (declared : Nat) (token : Token) :
    world.step (.request table code buffer declared token) =
      { result := .done
        events :=
          if code = .oemHookRaw then
            hookCalls configurator host token (buffer.take (min declared buffer.length))
          else []
        world } := by
  have hstep : world.step (.request table code buffer declared token) =
      World.silently (world.request { host, handler := .direct configurator }
        (.ofBuffer code buffer declared token)) := by
    simp only [World.step, World.onTable, htable]
  have hpayload : buffer.take (min declared buffer.length) = buffer.take declared := by
    rw [List.take_eq_take_iff]
    omega
  rw [hstep, hpayload]
  by_cases hcode : code = .oemHookRaw
  · subst hcode
    rw [World.request_of_supported rfl, World.accept_direct rfl, if_pos rfl,
      Configurator.serve_eq_hookCalls rfl rfl]
    rfl
  · rw [World.request_of_unsupported (by simp [Handler.supports, Configurator.supports,
      Request.ofBuffer, hcode]), if_neg hcode]
    rfl

/-- A teardown on a table whose configurator fails in two of its three primitives: all
three are called, and the first code that is not zero is reported. -/
theorem step_request_of_direct_failing_teardown :
    let codes : ReturnCodes := { clearAddresses := -1, down := -2 }
    let world := World.after {} [.register "slot" "radio" [] (.direct { codes })]
    let record : Bytes := [119, 108, 97, 110, 48] ++ List.replicate 31 0
    world.publication? "radio" = some { host := "radio", handler := .direct { codes } } ∧
      (world.step (.request "radio" .oemHookRaw (record ++ [1, 2]) 40 ⟨7⟩)).events =
        [.removeDefaultRoute "wlan0", .clearAddresses "wlan0", .down "wlan0",
          .complete "radio" ⟨7⟩ .genericFailure [255, 255, 255, 255]] := by
  intro codes world record
  have htable : world.publication? "radio" =
      some { host := "radio", handler := .direct { codes } } := rfl
  refine ⟨htable, ?_⟩
  rw [step_request_of_direct htable]
  decide

end RadioAdapter
