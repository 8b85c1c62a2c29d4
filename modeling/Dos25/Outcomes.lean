/-
# The outcomes the responses report

What the firmware makes of a request, its status and its outputs (`Outcome`),
should be told by the bytes a receiver goes by, the first `size` of the data.
`decodeOutcome` reads them back: status first, then the time, or the
attributes and the variable. It succeeds on every response that covers the
status (`Turn.decode_payload`), so such a response determines its outcome.
The others do not: `handle_reset_system` stores four bytes of the eight byte
status, and a `GET_VARIABLE` size that wraps in 32 bits can cut it too. Both
leave out the highest byte, and flipping a bit there is another firmware that
gets the same response (`flipped`).

Key definitions: `Outcome`, `decodeOutcome`, `RuntimeServices.Conforms`,
`Turn.Recoverable`.
Key theorem: `outcomes_recoverable_iff`.
-/
import Dos25.Responses
import Mathlib.Tactic.IntervalCases

namespace Dos25

open Bytes

/-- What the firmware makes of a call: its status and, when that is no error,
what it returns. -/
structure Outcome where
  status : EfiStatus
  time : Option EfiTime := none
  attributes : Option UInt32 := none
  dataSize : Option UInt64 := none
  data : Option (List UInt8) := none

/-- The outcome of the turn's call. -/
def Turn.outcome (fw : RuntimeServices) (t : Turn) : Outcome :=
  if t.request.type = ipcMsgResetSystem then { status := t.resetStatus fw }
  else if t.request.type = ipcMsgGetTime then
    let result := t.getTimeResult fw
    if efiError result.status then { status := result.status }
    else { status := result.status, time := result.time }
  else if t.request.type = ipcMsgSetTime then { status := t.setTimeStatus fw }
  else
    let result := t.getVariableResult fw
    if efiError result.status then { status := result.status }
    else
      { status := result.status
        attributes := result.attributes
        dataSize := some result.dataSize
        data := some result.data }

/-- The bytes of a message a receiver goes by: `size` of them. -/
def IpcMessage.payload (m : IpcMessage) : List UInt8 := read m.data 0 (min m.size.toNat ipcMaxDataSize)

/-- The outcome a payload stands for, given the type of the request. -/
def decodeOutcome (type : UInt32) (payload : List UInt8) : Outcome :=
  let status : EfiStatus := UInt64.ofNat (decode (payload.take 8))
  if efiError status then { status := status }
  else if type = ipcMsgGetTime then
    { status := status, time := some fun i => (payload.drop 8).getD i 0 }
  else if type = ipcMsgGetVariable then
    { status := status
      attributes := some (UInt32.ofNat (decode ((payload.drop 8).take 4)))
      dataSize := some (UInt64.ofNat (payload.drop 12).length)
      data := some (payload.drop 12) }
  else { status := status }

/-- A call that succeeds writes its outputs. -/
structure RuntimeServices.Conforms (fw : RuntimeServices) : Prop where
  getTime : ∀ calls, efiError (fw.getTime calls).status = false → (fw.getTime calls).time.isSome
  attributes : ∀ calls name ends, efiError (fw.getVariable calls name ends).status = false →
    (fw.getVariable calls name ends).attributes.isSome
  data : ∀ calls name ends, efiError (fw.getVariable calls name ends).status = false →
    (fw.getVariable calls name ends).dataSize.toNat = (fw.getVariable calls name ends).data.length

theorem decode_status (status : EfiStatus) :
    UInt64.ofNat (decode (encode 8 status.toNat)) = status := by
  rw [decode_encode status.toNat_lt, UInt64.ofNat_toNat]

theorem IpcMessage.payload_length (m : IpcMessage) :
    m.payload.length = min m.size.toNat ipcMaxDataSize := read_length _ _ _

theorem IpcMessage.take_payload (m : IpcMessage) {k : ℕ} (h : k ≤ m.size.toNat)
    (hk : k ≤ ipcMaxDataSize) : m.payload.take k = read m.data 0 k :=
  take_read m.data 0 (Nat.le_min.mpr ⟨h, hk⟩)

theorem IpcMessage.drop_payload (m : IpcMessage) {k : ℕ} (h : k ≤ m.size.toNat)
    (hm : m.size.toNat ≤ ipcMaxDataSize) : m.payload.drop k = read m.data k (m.size.toNat - k) := by
  rw [payload, Nat.min_eq_left hm, drop_read m.data 0 h, Nat.zero_add]

section

variable {payload : List UInt8} {status : EfiStatus}

theorem decodeOutcome_error (type : UInt32) (h : payload.take 8 = encode 8 status.toNat)
    (he : efiError status = true) : decodeOutcome type payload = { status := status } := by
  rw [decodeOutcome, h, decode_status]
  exact if_pos he

theorem decodeOutcome_getTime {time : EfiTime} (h : payload.take 8 = encode 8 status.toNat)
    (he : efiError status = false) (hd : payload.drop 8 = List.ofFn time) :
    decodeOutcome ipcMsgGetTime payload = { status := status, time := some time } := by
  have htime : (fun i : Fin 16 => (List.ofFn time).getD i 0) = time := by
    funext i
    rw [List.getD_eq_getElem?_getD, List.getElem?_ofFn, dif_pos i.isLt, Option.getD_some]
  rw [decodeOutcome, h, decode_status, hd, htime]
  simp only [he]
  rfl

theorem decodeOutcome_setTime (h : payload.take 8 = encode 8 status.toNat)
    (he : efiError status = false) : decodeOutcome ipcMsgSetTime payload = { status := status } := by
  rw [decodeOutcome, h, decode_status]
  simp only [he]
  rfl

theorem decodeOutcome_getVariable {attributes : UInt32} {data : List UInt8}
    (h : payload.take 8 = encode 8 status.toNat) (he : efiError status = false)
    (ha : (payload.drop 8).take 4 = encode 4 attributes.toNat) (hd : payload.drop 12 = data) :
    decodeOutcome ipcMsgGetVariable payload =
      { status := status
        attributes := some attributes
        dataSize := some (UInt64.ofNat data.length)
        data := some data } := by
  have hattributes : UInt32.ofNat (decode (encode 4 attributes.toNat)) = attributes := by
    rw [decode_encode attributes.toNat_lt, UInt32.ofNat_toNat]
  rw [decodeOutcome, h, decode_status, ha, hattributes, hd]
  simp only [he]
  rfl

end

namespace Turn

variable {fw : RuntimeServices} {locals : ℕ → StackLocals} {t : Turn}

theorem outcome_getTime (h : t.request.type = ipcMsgGetTime) : t.outcome fw =
    if efiError (t.getTimeResult fw).status then { status := (t.getTimeResult fw).status }
    else { status := (t.getTimeResult fw).status, time := (t.getTimeResult fw).time } := by
  rw [outcome, h]
  rfl

theorem outcome_setTime (h : t.request.type = ipcMsgSetTime) :
    t.outcome fw = { status := t.setTimeStatus fw } := by
  rw [outcome, h]
  rfl

theorem outcome_getVariable (h : t.request.type = ipcMsgGetVariable) : t.outcome fw =
    if efiError (t.getVariableResult fw).status then { status := (t.getVariableResult fw).status }
    else
      { status := (t.getVariableResult fw).status
        attributes := (t.getVariableResult fw).attributes
        dataSize := some (t.getVariableResult fw).dataSize
        data := some (t.getVariableResult fw).data } := by
  rw [outcome, h]
  rfl

theorem size_getTime (fw : RuntimeServices) (locals : ℕ → StackLocals)
    (h : t.request.type = ipcMsgGetTime) :
    (t.response fw locals).size.toNat = 24 := by
  rw [response_getTime fw locals t h]
  dsimp only
  split_ifs <;> rfl

/-- A `GET_TIME` response starts with the status; the time stands behind it
unless the call failed. -/
theorem read_getTime (fw : RuntimeServices) (locals : ℕ → StackLocals)
    (h : t.request.type = ipcMsgGetTime) :
    read (t.response fw locals).data 0 8 = encode 8 (t.getTimeResult fw).status.toNat ∧
      (efiError (t.getTimeResult fw).status = false → read (t.response fw locals).data 8 16 =
        List.ofFn ((t.getTimeResult fw).time.getD (locals t.left).time)) := by
  let headed := write t.request.prepared.data 0 (encode 8 (t.getTimeResult fw).status.toNat)
  have hstatus : read headed 0 8 = encode 8 (t.getTimeResult fw).status.toNat :=
    read_write_encode t.request.prepared.data _ (by decide)
  rw [response_getTime fw locals t h]
  dsimp only
  cases he : efiError (t.getTimeResult fw).status with
  | true => exact ⟨hstatus, fun h' => absurd h' (by decide)⟩
  | false =>
    set time := (t.getTimeResult fw).time.getD (locals t.left).time
    have hread : read (write headed 8 (List.ofFn time)) 8 (List.ofFn time).length = List.ofFn time :=
      read_write headed _ (by rw [List.length_ofFn]; decide)
    rw [List.length_ofFn] at hread
    exact ⟨(read_write_of_disjoint headed _ (.inl le_rfl)).trans hstatus, fun _ => hread⟩

/-- A `GET_TIME` response has room for the status and the time. -/
theorem decode_getTime (hc : fw.Conforms) (h : t.request.type = ipcMsgGetTime) :
    decodeOutcome t.request.type (t.response fw locals).payload = t.outcome fw := by
  have hsize := size_getTime fw locals h
  have hmax : ipcMaxDataSize = 4096 := rfl
  obtain ⟨hstatus, htime⟩ := read_getTime fw locals h
  have htake := ((t.response fw locals).take_payload (by omega) (by omega)).trans hstatus
  rw [outcome_getTime h, h]
  cases he : efiError (t.getTimeResult fw).status with
  | true => exact decodeOutcome_error _ htake he
  | false =>
    obtain ⟨time, hwritten⟩ : ∃ time, (t.getTimeResult fw).time = some time :=
      Option.isSome_iff_exists.mp (hc.getTime _ he)
    have hrest : (t.response fw locals).payload.drop 8 = List.ofFn time := by
      rw [IpcMessage.drop_payload _ (by omega) (by omega), hsize, htime he, hwritten,
        Option.getD_some]
    rw [decodeOutcome_getTime htake he hrest, hwritten]
    rfl

theorem decode_setTime (h : t.request.type = ipcMsgSetTime) (hs : 16 ≤ t.request.size) :
    decodeOutcome t.request.type (t.response fw locals).payload = t.outcome fw := by
  have hstatus : read (write t.request.prepared.data 0 (encode 8 (t.setTimeStatus fw).toNat)) 0 8 =
      encode 8 (t.setTimeStatus fw).toNat := read_write_encode _ _ (by decide)
  have htake := (IpcMessage.take_payload ((t.request.prepared.reply t.request 8).pack 0
    (encode 8 (t.setTimeStatus fw).toNat)) (show 8 ≤ (8 : UInt32).toNat by decide)
    (by decide)).trans hstatus
  rw [outcome_setTime h, response_setTime fw locals t h hs, h]
  cases he : efiError (t.setTimeStatus fw) with
  | true => exact decodeOutcome_error _ htake he
  | false => exact decodeOutcome_setTime htake he

/-- A data size that fits behind the header is stored whole. -/
theorem toNat_header_add {dataSize : UInt64} (h : dataSize.toNat ≤ variableDataSize) :
    (8 + 4 + dataSize).toUInt32.toNat = 12 + dataSize.toNat := by
  have hsum : (8 + 4 + dataSize).toNat = (12 + dataSize.toNat) % 2 ^ 64 := UInt64.toNat_add _ _
  rw [UInt64.toNat_toUInt32, hsum]
  unfold variableDataSize at h
  have hmax : ipcMaxDataSize = 4096 := rfl
  omega

/-- The three parts of a `GET_VARIABLE` response do not overlap. -/
theorem read_getVariable (fw : RuntimeServices) (locals : ℕ → StackLocals)
    (h : t.request.type = ipcMsgGetVariable) :
    read (t.response fw locals).data 0 8 = encode 8 (t.getVariableResult fw).status.toNat ∧
      read (t.response fw locals).data 8 4 =
        encode 4 ((t.getVariableResult fw).attributes.getD (locals t.left).attributes).toNat ∧
      read (t.response fw locals).data 12 (t.getVariableResult fw).data.length =
        (t.getVariableResult fw).data := by
  have hmax : ipcMaxDataSize = 4096 := rfl
  let data := (t.getVariableResult fw).data
  have hle : data.length ≤ 4084 := (t.getVariableResult fw).data_le
  let body := write t.request.prepared.data 12 data
  let headed := write body 0 (encode 8 (t.getVariableResult fw).status.toNat)
  let attributes := (t.getVariableResult fw).attributes.getD (locals t.left).attributes
  let packed := write headed 8 (encode 4 attributes.toNat)
  have hpacked : (t.response fw locals).data = packed := by rw [response_getVariable fw locals t h]; rfl
  rw [hpacked]
  refine ⟨?_, read_write_encode headed _ (by omega), ?_⟩
  · calc read packed 0 8
        = read headed 0 8 := read_write_of_disjoint headed _ (.inl le_rfl)
      _ = encode 8 (t.getVariableResult fw).status.toNat := read_write_encode body _ (by omega)
  · calc read packed 12 data.length
        = read headed 12 data.length := read_write_of_disjoint headed _ (.inr (by simp))
      _ = read body 12 data.length := read_write_of_disjoint body _ (.inr (by simp))
      _ = data := read_write t.request.prepared.data _ (by omega)

theorem size_getVariable (fw : RuntimeServices) (locals : ℕ → StackLocals)
    (h : t.request.type = ipcMsgGetVariable) :
    (t.response fw locals).size = (8 + 4 + (t.getVariableResult fw).dataSize).toUInt32 := by
  rw [response_getVariable fw locals t h]
  rfl

/-- A `GET_VARIABLE` response can be decoded once its size covers the status:
on success it covers everything. -/
theorem decode_getVariable (hc : fw.Conforms) (h : t.request.type = ipcMsgGetVariable)
    (hl : 8 ≤ (t.response fw locals).size.toNat) :
    decodeOutcome t.request.type (t.response fw locals).payload = t.outcome fw := by
  have hmax : ipcMaxDataSize = 4096 := rfl
  obtain ⟨hstatus, hattributes, hdata⟩ := read_getVariable fw locals h
  have htake := ((t.response fw locals).take_payload hl (by omega)).trans hstatus
  rw [outcome_getVariable h, h]
  cases he : efiError (t.getVariableResult fw).status with
  | true => exact decodeOutcome_error _ htake he
  | false =>
    obtain ⟨attributes, ha⟩ : ∃ a, (t.getVariableResult fw).attributes = some a :=
      Option.isSome_iff_exists.mp (hc.attributes _ _ _ he)
    have hlength : (t.getVariableResult fw).dataSize.toNat = (t.getVariableResult fw).data.length :=
      hc.data _ _ _ he
    have hle : (t.getVariableResult fw).data.length ≤ 4084 := (t.getVariableResult fw).data_le
    have hsum := toNat_header_add (hlength.trans_le (t.getVariableResult fw).data_le)
    rw [← size_getVariable fw locals h, hlength] at hsum
    rw [ha, Option.getD_some] at hattributes
    have hfield : ((t.response fw locals).payload.drop 8).take 4 = encode 4 attributes.toNat := by
      rw [IpcMessage.drop_payload _ hl (by omega), take_read _ _ (by omega), hattributes]
    have hrest : (t.response fw locals).payload.drop 12 = (t.getVariableResult fw).data := by
      rw [IpcMessage.drop_payload _ (by omega) (by omega), hsum, Nat.add_sub_cancel_left, hdata]
    rw [decodeOutcome_getVariable htake he hfield hrest, ← hlength, UInt64.ofNat_toNat, ha]
    rfl

/-- **A payload that covers the status tells the outcome**, unless the request
is a reset. -/
theorem decode_payload (hc : fw.Conforms) (h : t.request.firmwareCall.isSome = true)
    (hr : t.request.type ≠ ipcMsgResetSystem) (hl : 8 ≤ (t.response fw locals).size.toNat) :
    decodeOutcome t.request.type (t.response fw locals).payload = t.outcome fw := by
  rcases t.request.firmwareCall_isSome.mp h with ⟨ht, -⟩ | ht | ⟨ht, hs⟩ | ht
  · exact absurd ht hr
  · exact decode_getTime hc ht
  · exact decode_setTime ht hs
  · exact decode_getVariable hc ht hl

end Turn

/-- The same status with bit 62 the other way. -/
def flipStatus (status : EfiStatus) : EfiStatus :=
  UInt64.ofNat (if status.toNat / 2 ^ 62 % 2 = 0 then status.toNat + 2 ^ 62
    else status.toNat - 2 ^ 62)

theorem flipStatus_toNat (status : EfiStatus) : (flipStatus status).toNat =
    if status.toNat / 2 ^ 62 % 2 = 0 then status.toNat + 2 ^ 62 else status.toNat - 2 ^ 62 := by
  have hlt := status.toNat_lt
  refine UInt64.toNat_ofNat_of_lt' ?_
  show _ < 2 ^ 64
  split_ifs <;> omega

theorem flipStatus_ne (status : EfiStatus) : flipStatus status ≠ status := by
  rw [Ne, ← UInt64.toNat_inj, flipStatus_toNat]
  split_ifs <;> omega

theorem efiError_flipStatus (status : EfiStatus) : efiError (flipStatus status) = efiError status := by
  have hlt := status.toNat_lt
  unfold efiError
  rw [Bool.eq_iff_iff, decide_eq_true_eq, decide_eq_true_eq, UInt64.le_iff_toNat_le,
    UInt64.le_iff_toNat_le, flipStatus_toNat, show (0x8000000000000000 : UInt64).toNat = 2 ^ 63 from rfl]
  split_ifs <;> omega

/-- Only the highest byte tells a status from its flip. -/
theorem encode_flipStatus (status : EfiStatus) {k : ℕ} (hk : k < 8) :
    encode k (flipStatus status).toNat = encode k status.toNat := by
  refine encode_congr ?_
  rw [flipStatus_toNat]
  interval_cases k <;> split_ifs <;> omega

/-- The firmware with all its statuses flipped. -/
def RuntimeServices.flipped (fw : RuntimeServices) : RuntimeServices where
  resetSystem calls resetType := flipStatus (fw.resetSystem calls resetType)
  getTime calls := { fw.getTime calls with status := flipStatus (fw.getTime calls).status }
  setTime calls time := flipStatus (fw.setTime calls time)
  getVariable calls name ends :=
    { fw.getVariable calls name ends with status := flipStatus (fw.getVariable calls name ends).status }

theorem RuntimeServices.Conforms.flipped {fw : RuntimeServices} (hc : fw.Conforms) :
    fw.flipped.Conforms where
  getTime calls h := hc.getTime calls (by rwa [← efiError_flipStatus])
  attributes calls name ends h := hc.attributes calls name ends (by rwa [← efiError_flipStatus])
  data calls name ends h := hc.data calls name ends (by rwa [← efiError_flipStatus])

namespace Turn

variable (fw : RuntimeServices) (locals : ℕ → StackLocals) (t : Turn)

/-- Request and payload determine the outcome: whatever conforming firmware
the same request is put to, the same payload reports the same outcome. -/
def Recoverable : Prop :=
  ∀ (fw' : RuntimeServices) (locals' : ℕ → StackLocals) (t' : Turn), fw'.Conforms →
    t'.request = t.request →
    (t'.response fw' locals').payload = (t.response fw locals).payload →
    t'.outcome fw' = t.outcome fw

variable {fw locals t}

/-- A reset's response is the same for a status and its flip. -/
theorem not_recoverable_resetSystem (hc : fw.Conforms) (h : t.request.type = ipcMsgResetSystem)
    (hs : 4 ≤ t.request.size) : ¬ t.Recoverable fw locals := by
  intro hrec
  have hresponse : t.response fw.flipped locals = t.response fw locals := by
    rw [t.response_resetSystem fw.flipped locals h hs, t.response_resetSystem fw locals h hs]
    show IpcMessage.pack _ 0 (encode 4 (flipStatus (t.resetStatus fw)).toNat) = _
    rw [encode_flipStatus _ (by decide)]
  have houtcome : ∀ fw', t.outcome fw' = { status := t.resetStatus fw' } := fun fw' => if_pos h
  have heq := hrec fw.flipped locals t hc.flipped rfl (congrArg IpcMessage.payload hresponse)
  rw [houtcome, houtcome] at heq
  exact flipStatus_ne (t.resetStatus fw) (congrArg Outcome.status heq)

/-- A size that cuts the status leaves out its highest byte. -/
theorem not_recoverable_getVariable (hc : fw.Conforms) (h : t.request.type = ipcMsgGetVariable)
    (hl : (t.response fw locals).size.toNat < 8) : ¬ t.Recoverable fw locals := by
  intro hrec
  have hpayload : ∀ fw', (t.response fw' locals).size = (t.response fw locals).size →
      (t.response fw' locals).payload =
        encode (t.response fw locals).size.toNat (t.getVariableResult fw').status.toNat := by
    intro fw' hsize
    have hle : (t.response fw locals).size.toNat ≤ ipcMaxDataSize := hl.le.trans (by decide)
    rw [IpcMessage.payload, hsize, Nat.min_eq_left hle, ← take_read _ _ hl.le,
      (read_getVariable _ _ h).1, take_encode _ hl.le]
  have hsize : (t.response fw.flipped locals).size = (t.response fw locals).size := by
    rw [size_getVariable _ _ h, size_getVariable _ _ h]
    rfl
  have hstatus : ∀ fw', (t.outcome fw').status = (t.getVariableResult fw').status := by
    intro fw'
    rw [outcome_getVariable h]
    split_ifs <;> rfl
  have heq := hrec fw.flipped locals t hc.flipped rfl <| by
    rw [hpayload fw.flipped hsize, hpayload fw rfl]
    exact encode_flipStatus _ hl
  have hflip := congrArg Outcome.status heq
  rw [hstatus, hstatus] at hflip
  exact flipStatus_ne _ hflip

/-- **Which outcomes a payload tells**: not a reset's, and a variable's when
the size covers the status. -/
theorem recoverable_iff (hc : fw.Conforms) (h : t.request.firmwareCall.isSome = true) :
    t.Recoverable fw locals ↔ t.request.type ≠ ipcMsgResetSystem ∧
      (t.request.type = ipcMsgGetVariable →
        8 ≤ (8 + 4 + (t.getVariableResult fw).dataSize).toUInt32.toNat) := by
  have hcases := t.request.firmwareCall_isSome.mp h
  constructor
  · intro hrec
    refine ⟨fun ht => ?_, fun ht => ?_⟩
    · rcases hcases with ⟨-, hs⟩ | ht' | ⟨ht', -⟩ | ht'
      · exact not_recoverable_resetSystem hc ht hs hrec
      all_goals exact absurd (ht.symm.trans ht') (by decide)
    · rw [← size_getVariable fw locals ht]
      by_contra hl
      exact not_recoverable_getVariable hc ht (Nat.lt_of_not_le hl) hrec
  · rintro ⟨hr, hv⟩ fw' locals' t' hc' hreq hpayload
    have hl : 8 ≤ (t.response fw locals).size.toNat := by
      rcases hcases with ⟨ht, -⟩ | ht | ⟨ht, hs⟩ | ht
      · exact absurd ht hr
      · rw [size_getTime _ _ ht]
        decide
      · rw [response_setTime fw locals t ht hs]
        exact (show 8 ≤ (8 : UInt32).toNat by decide)
      · rw [size_getVariable _ _ ht]
        exact hv ht
    have hl' : 8 ≤ (t'.response fw' locals').size.toNat := by
      have hlength := congrArg List.length hpayload
      rw [IpcMessage.payload_length, IpcMessage.payload_length] at hlength
      have hmax : ipcMaxDataSize = 4096 := rfl
      omega
    calc t'.outcome fw'
        = decodeOutcome t'.request.type (t'.response fw' locals').payload :=
          (decode_payload hc' (by rwa [hreq]) (by rwa [hreq]) hl').symm
      _ = decodeOutcome t.request.type (t.response fw locals).payload := by rw [hpayload, hreq]
      _ = t.outcome fw := decode_payload hc h hr hl

end Turn

/-- **Which outcomes a run's responses tell.** Let every call that succeeds
write its outputs. On well-formed queues each answered firmware call's outcome,
status and outputs, is determined by its request and the payload of its
response if and only if no reset is answered and no answered `GET_VARIABLE`
leaves a data size for which 32 bits of the size come out below eight. -/
theorem outcomes_recoverable_iff {fw : RuntimeServices} (hc : fw.Conforms) (stack : Stack)
    {shm : SharedMemoryHeader} (h : shm.WF) :
    ∃ d, daemonMessageLoop (some shm) (some fw) stack = .ok (.success, some d) ∧
      d.shm.daemonToKernel.contents =
        shm.daemonToKernel.contents ++ shm.answeredTurns.map (Turn.response fw stack.locals) ∧
      ((∀ t ∈ shm.answeredTurns, t.request.firmwareCall.isSome = true →
          t.Recoverable fw stack.locals) ↔
        ∀ t ∈ shm.answeredTurns, t.request.type ≠ ipcMsgResetSystem ∧
          (t.request.type = ipcMsgGetVariable →
            8 ≤ (8 + 4 + (t.getVariableResult fw).dataSize).toUInt32.toNat)) := by
  obtain ⟨d, he, hr⟩ := daemonMessageLoop_responses fw stack h
  refine ⟨d, he, hr, forall₂_congr fun t ht => ?_⟩
  rcases t.request.answerable_iff_firmwareCall.mp (shm.answerable_of_mem ht) with hcall | hs
  · rw [← Turn.recoverable_iff hc hcall]
    exact ⟨fun hrec => hrec hcall, fun hrec _ => hrec⟩
  · have hnone : t.request.firmwareCall = none := by
      rw [IpcMessage.firmwareCall, hs]
      rfl
    simp [hnone, hs, ipcMsgShutdown, ipcMsgResetSystem, ipcMsgGetVariable]

/-- A firmware that refuses every call conforms. -/
theorem RuntimeServices.refusing_conforms {status : EfiStatus} (h : efiError status = true)
    (dataSize : UInt64) : (RuntimeServices.refusing status dataSize).Conforms where
  getTime _ h' := absurd (h.symm.trans h') (by decide)
  attributes _ _ _ h' := absurd (h.symm.trans h') (by decide)
  data _ _ _ h' := absurd (h.symm.trans h') (by decide)

theorem outcomes_recoverable_iff_getVariable :
    ∃ d, daemonMessageLoop (some (oneRequest getVariableRequest))
        (some (.refusing efiUnsupported 0)) .zero = .ok (.success, some d) ∧
      ∀ t ∈ (oneRequest getVariableRequest).answeredTurns, t.request.firmwareCall.isSome = true →
        t.Recoverable (.refusing efiUnsupported 0) Stack.zero.locals := by
  obtain ⟨d, he, -, hiff⟩ := outcomes_recoverable_iff
    (RuntimeServices.refusing_conforms (show efiError efiUnsupported = true by decide) 0) .zero
    (oneRequest_wf getVariableRequest)
  refine ⟨d, he, hiff.mpr ?_⟩
  rw [oneRequest_answeredTurns (by decide)]
  intro t ht
  rw [List.mem_singleton.mp ht]
  exact ⟨by decide, fun _ => show 8 ≤ (8 + 4 + 0 : UInt64).toUInt32.toNat by decide⟩

/-- A reset the firmware refuses, and one it answers with the low half of that
status: not even the error flag can be told from the response. -/
theorem reset_error_not_recoverable :
    ¬ ∃ decodeStatus : List UInt8 → EfiStatus,
      ∀ (fw : RuntimeServices) (stack : Stack) (shm : SharedMemoryHeader), fw.Conforms → shm.WF →
        ∀ d, daemonMessageLoop (some shm) (some fw) stack = .ok (.success, some d) →
          ∀ t ∈ shm.answeredTurns, t.request.type = ipcMsgResetSystem →
            efiError (decodeStatus (t.response fw stack.locals).payload) =
              efiError (t.resetStatus fw) := by
  rintro ⟨decodeStatus, h⟩
  let r : IpcMessage := { IpcMessage.zero with type := ipcMsgResetSystem, size := 4 }
  let refused : RuntimeServices := .refusing efiUnsupported 0
  let warned : RuntimeServices := { refused with resetSystem := fun _ _ => 3 }
  have hrefused : refused.Conforms := RuntimeServices.refusing_conforms (by decide) 0
  have hwarned : warned.Conforms := ⟨hrefused.getTime, hrefused.attributes, hrefused.data⟩
  have hwf := oneRequest_wf r
  have hmem : (⟨r, [], 4⟩ : Turn) ∈ (oneRequest r).answeredTurns := by
    rw [oneRequest_answeredTurns (by decide)]
    exact List.mem_cons_self
  obtain ⟨d, he, -⟩ := daemonMessageLoop_responses refused .zero hwf
  obtain ⟨d', he', -⟩ := daemonMessageLoop_responses warned .zero hwf
  have h1 := h refused .zero _ hrefused hwf d he _ hmem rfl
  have h2 := h warned .zero _ hwarned hwf d' he' _ hmem rfl
  have hsame : Turn.response refused Stack.zero.locals ⟨r, [], 4⟩ =
      Turn.response warned Stack.zero.locals ⟨r, [], 4⟩ := by
    have hlow : encode 4 efiUnsupported.toNat = encode 4 (3 : EfiStatus).toNat := by decide
    rw [Turn.response_resetSystem refused _ _ rfl (by decide),
      Turn.response_resetSystem warned _ _ rfl (by decide)]
    exact congrArg (IpcMessage.pack _ 0) hlow
  rw [hsame] at h1
  exact absurd (h1.symm.trans h2) (by decide)

end Dos25
