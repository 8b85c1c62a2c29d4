/-
# What the responses of a run carry

Each answered turn's response in closed form, one equation for each branch of
`process_message` that reports success (`Turn.response_resetSystem` and its
siblings). From these, for the responses a run appends:

* their sizes: `handle_get_variable` adds 12 to whatever `*DataSize` holds
  afterwards, on failure too, so the size fits the message exactly when that
  value does (`response_sizes_iff`);
* their headers: the shutdown branch leaves source and target at zero
  (`responses_addressed_iff`).

Key definitions: `Turn.responseSize`, `IpcMessage.Answers`.
-/
import Dos25.Turns

namespace Dos25

open Bytes

/-! ### The responses in closed form -/

/-- The requests `process_message` answers with success. -/
theorem IpcMessage.answerable_iff (r : IpcMessage) : r.answerable = true ↔
    (r.type = ipcMsgResetSystem ∧ 4 ≤ r.size) ∨ r.type = ipcMsgGetTime ∨
      (r.type = ipcMsgSetTime ∧ 16 ≤ r.size) ∨ r.type = ipcMsgGetVariable ∨
      r.type = ipcMsgShutdown := by
  simp [answerable, or_assoc]

/-- Every answerable request calls the firmware, but for the shutdown. -/
theorem IpcMessage.answerable_iff_firmwareCall (r : IpcMessage) :
    r.answerable = true ↔ r.firmwareCall.isSome = true ∨ r.type = ipcMsgShutdown := by
  rw [answerable_iff, firmwareCall_isSome]
  simp only [or_assoc]

theorem SharedMemoryHeader.answerable_of_mem {shm : SharedMemoryHeader} {t : Turn}
    (h : t ∈ shm.answeredTurns) : t.request.answerable = true :=
  (List.mem_filter.mp (List.mem_of_mem_take h)).2

namespace Turn

variable (fw : RuntimeServices) (locals : ℕ → StackLocals) (t : Turn)

/-- The firmware's answers in the turn. -/
def resetStatus : EfiStatus := fw.resetSystem t.calls t.request.resetType

def getTimeResult : GetTimeResult := fw.getTime t.calls

def setTimeStatus : EfiStatus := fw.setTime t.calls t.request.time

def getVariableResult : GetVariableResult :=
  fw.getVariable t.calls t.request.varName t.request.varNameEnds

theorem response_resetSystem (h : t.request.type = ipcMsgResetSystem) (hs : 4 ≤ t.request.size) :
    t.response fw locals =
      (t.request.prepared.reply t.request 4).pack 0 (encode 4 (t.resetStatus fw).toNat) := by
  rw [response, processMessage, if_pos h, handleResetSystem, if_neg (UInt32.not_lt.mpr hs)]
  rfl

theorem response_getTime (h : t.request.type = ipcMsgGetTime) :
    t.response fw locals =
      let response := (t.request.prepared.reply t.request 24).pack 0
        (encode 8 (t.getTimeResult fw).status.toNat)
      if efiError (t.getTimeResult fw).status then response
      else response.pack 8
        (List.ofFn ((t.getTimeResult fw).time.getD (locals t.left).time)) := by
  rw [response, processMessage, h]
  rfl

theorem response_setTime (h : t.request.type = ipcMsgSetTime) (hs : 16 ≤ t.request.size) :
    t.response fw locals =
      (t.request.prepared.reply t.request 8).pack 0 (encode 8 (t.setTimeStatus fw).toNat) := by
  have hne : ¬ t.request.type = ipcMsgResetSystem ∧ ¬ t.request.type = ipcMsgGetTime := by
    rw [h]
    decide
  rw [response, processMessage, if_neg hne.1, if_neg hne.2, if_pos h, handleSetTime,
    if_neg (UInt32.not_lt.mpr hs)]
  rfl

theorem response_getVariable (h : t.request.type = ipcMsgGetVariable) :
    t.response fw locals =
      (((t.request.prepared.pack 12 (t.getVariableResult fw).data).reply t.request
        (12 + (t.getVariableResult fw).dataSize).toUInt32).pack 0
          (encode 8 (t.getVariableResult fw).status.toNat)).pack 8
            (encode 4 ((t.getVariableResult fw).attributes.getD (locals t.left).attributes).toNat) := by
  rw [response, processMessage, h]
  rfl

theorem response_shutdown (h : t.request.type = ipcMsgShutdown) :
    t.response fw locals = (handleShutdown t.calls t.request t.request.prepared).response := by
  rw [response, processMessage, h]
  rfl

/-! ### Sizes -/

/-- The size of an answered turn's response, as the `UINTN` the handler
computes. -/
def responseSize : UInt64 :=
  if t.request.type = ipcMsgResetSystem then 4
  else if t.request.type = ipcMsgGetTime then 8 + 16
  else if t.request.type = ipcMsgSetTime then 8
  else if t.request.type = ipcMsgGetVariable then 8 + 4 + (t.getVariableResult fw).dataSize
  else 0

/-- The size stored is the size computed, cut to 32 bits. -/
theorem response_size (h : t.request.answerable = true) :
    (t.response fw locals).size = (t.responseSize fw).toUInt32 := by
  rcases t.request.answerable_iff.mp h with ⟨ht, hs⟩ | ht | ⟨ht, hs⟩ | ht | ht
  · rw [response_resetSystem fw locals t ht hs, responseSize, ht]
    rfl
  · have hsize : t.responseSize fw = 24 := by
      rw [responseSize, ht]
      rfl
    rw [response_getTime fw locals t ht, hsize]
    dsimp only
    split_ifs <;> rfl
  · rw [response_setTime fw locals t ht hs, responseSize, ht]
    rfl
  · rw [response_getVariable fw locals t ht, responseSize, ht]
    rfl
  · rw [response_shutdown fw locals t ht, responseSize, ht]
    rfl

/-- A receiver may read `size` bytes of data, and these are all the handler
meant to send. -/
def SizeFits : Prop :=
  (t.response fw locals).size.toNat ≤ ipcMaxDataSize ∧
    (t.response fw locals).size.toUInt64 = t.responseSize fw

end Turn

/-- A 64-bit size survives the cut and fits exactly when it is small. -/
theorem toUInt32_fits_iff (n : UInt64) :
    n.toUInt32.toNat ≤ ipcMaxDataSize ∧ n.toUInt32.toUInt64 = n ↔ n.toNat ≤ ipcMaxDataSize := by
  have hmax : ipcMaxDataSize = 4096 := rfl
  rw [← UInt64.toNat_inj, UInt32.toNat_toUInt64, UInt64.toNat_toUInt32]
  omega

/-- What is added to the data size wraps only for the very last sizes. -/
theorem header_add_le_iff (dataSize : UInt64) : (8 + 4 + dataSize).toNat ≤ ipcMaxDataSize ↔
    dataSize.toNat ≤ variableDataSize ∨ 2 ^ 64 - 12 ≤ dataSize.toNat := by
  have hlt := dataSize.toNat_lt
  have hsum : (8 + 4 + dataSize).toNat = (12 + dataSize.toNat) % 2 ^ 64 := UInt64.toNat_add _ _
  have hmax : ipcMaxDataSize = 4096 := rfl
  rw [hsum, variableDataSize]
  omega

theorem Turn.sizeFits_iff (fw : RuntimeServices) (locals : ℕ → StackLocals) (t : Turn)
    (h : t.request.answerable = true) : t.SizeFits fw locals ↔
      (t.request.type = ipcMsgGetVariable →
        (t.getVariableResult fw).dataSize.toNat ≤ variableDataSize ∨
          2 ^ 64 - 12 ≤ (t.getVariableResult fw).dataSize.toNat) := by
  rw [SizeFits, response_size fw locals t h, toUInt32_fits_iff]
  by_cases ht : t.request.type = ipcMsgGetVariable
  · have hsize : t.responseSize fw = 8 + 4 + (t.getVariableResult fw).dataSize := by
      rw [responseSize, ht]
      rfl
    rw [hsize, header_add_le_iff]
    exact ⟨fun h' _ => h', fun h' => h' ht⟩
  · have hsmall : (t.responseSize fw).toNat ≤ ipcMaxDataSize := by
      unfold responseSize
      split_ifs <;> decide
    exact ⟨fun _ h' => absurd h' ht, fun _ => hsmall⟩

/-- **Which sizes fit.** The responses of a run on well-formed queues all have
a size that fits the message and was stored whole if and only if, in each
`GET_VARIABLE` turn that is answered, the firmware leaves a data size that
fits behind the header, or one so close to 2^64 that the sum wraps. -/
theorem response_sizes_iff (fw : RuntimeServices) (stack : Stack) {shm : SharedMemoryHeader}
    (h : shm.WF) : ∃ d, daemonMessageLoop (some shm) (some fw) stack = .ok (.success, some d) ∧
      d.shm.daemonToKernel.contents =
        shm.daemonToKernel.contents ++ shm.answeredTurns.map (Turn.response fw stack.locals) ∧
      ((∀ t ∈ shm.answeredTurns, t.SizeFits fw stack.locals) ↔
        ∀ t ∈ shm.answeredTurns, t.request.type = ipcMsgGetVariable →
          (t.getVariableResult fw).dataSize.toNat ≤ variableDataSize ∨
            2 ^ 64 - 12 ≤ (t.getVariableResult fw).dataSize.toNat) := by
  obtain ⟨d, he, hr⟩ := daemonMessageLoop_responses fw stack h
  refine ⟨d, he, hr, forall₂_congr fun t ht => ?_⟩
  exact t.sizeFits_iff fw stack.locals (shm.answerable_of_mem ht)

/-- A firmware that refuses every call with `status` and sets `*DataSize`. -/
def RuntimeServices.refusing (status : EfiStatus) (dataSize : UInt64) : RuntimeServices where
  resetSystem _ _ := status
  getTime _ := ⟨status, none⟩
  setTime _ _ := status
  getVariable _ _ _ := ⟨status, none, dataSize, [], Nat.zero_le _⟩

/-- A request for the variable `A`. -/
def getVariableRequest : IpcMessage :=
  { IpcMessage.zero with
    type := ipcMsgGetVariable
    size := 4
    data := write IpcMessage.zero.data 0 (encode 4 0x41) }

theorem response_sizes_iff_getVariable :
    ∃ d, daemonMessageLoop (some (oneRequest getVariableRequest))
        (some (.refusing efiBufferTooSmall 100)) .zero = .ok (.success, some d) ∧
      ∀ t ∈ (oneRequest getVariableRequest).answeredTurns,
        t.SizeFits (.refusing efiBufferTooSmall 100) Stack.zero.locals := by
  obtain ⟨d, he, -, hiff⟩ := response_sizes_iff (.refusing efiBufferTooSmall 100) .zero
    (oneRequest_wf getVariableRequest)
  exact ⟨d, he, hiff.mpr fun _ _ _ => .inl (show (100 : UInt64).toNat ≤ variableDataSize by decide)⟩

/-- A variable of 5000 bytes: the size of the response runs past the message. -/
theorem response_size_too_large :
    ¬ ∀ (fw : RuntimeServices) (stack : Stack) (shm : SharedMemoryHeader), shm.WF →
      ∀ d responses, daemonMessageLoop (some shm) (some fw) stack = .ok (.success, some d) →
        d.shm.daemonToKernel.contents = shm.daemonToKernel.contents ++ responses →
        ∀ m ∈ responses, m.size.toNat ≤ ipcMaxDataSize := by
  intro h
  have hwf := oneRequest_wf getVariableRequest
  obtain ⟨d, he, hr⟩ := daemonMessageLoop_responses (.refusing efiBufferTooSmall 5000) .zero hwf
  rw [oneRequest_answeredTurns (by decide)] at hr
  have hm := h _ .zero _ hwf d _ he hr _ List.mem_cons_self
  rw [Turn.response_size _ _ _ (by decide)] at hm
  exact absurd hm (by decide)

/-! ### Headers -/

/-- `m` goes from the daemon, PID 1, to the sender of `r`, with the type, the
timestamp and the sequence number of `r`. -/
def IpcMessage.Answers (m r : IpcMessage) : Prop :=
  m.key = r.key ∧ m.source = 1 ∧ m.target = r.source

/-- `IPC_MSG_SHUTDOWN` alone leaves source and target as `SetMem` left them. -/
theorem Turn.answers_iff (fw : RuntimeServices) (locals : ℕ → StackLocals) (t : Turn)
    (h : t.request.answerable = true) :
    (t.response fw locals).Answers t.request ↔ t.request.type ≠ ipcMsgShutdown := by
  have hkey : (t.response fw locals).key = t.request.key :=
    processMessage_key fw (locals t.left) t.calls true t.request .zero
  have hcases := t.request.answerable_iff.mp h
  constructor
  · rintro ⟨-, hsource, -⟩ ht
    rw [t.response_shutdown fw locals ht] at hsource
    exact absurd hsource (show ¬ (0 : UInt32) = 1 by decide)
  · intro hne
    refine ⟨hkey, ?_⟩
    rcases hcases with ⟨ht, hs⟩ | ht | ⟨ht, hs⟩ | ht | ht
    · rw [t.response_resetSystem fw locals ht hs]
      exact ⟨rfl, rfl⟩
    · rw [t.response_getTime fw locals ht]
      dsimp only
      split_ifs <;> exact ⟨rfl, rfl⟩
    · rw [t.response_setTime fw locals ht hs]
      exact ⟨rfl, rfl⟩
    · rw [t.response_getVariable fw locals ht]
      exact ⟨rfl, rfl⟩
    · exact absurd ht hne

/-- **Which responses are addressed.** The responses of a run on well-formed
queues all carry type, timestamp and sequence number of their requests, the
daemon's PID and the requester's if and only if no shutdown is answered. -/
theorem responses_addressed_iff (fw : RuntimeServices) (stack : Stack) {shm : SharedMemoryHeader}
    (h : shm.WF) : ∃ d, daemonMessageLoop (some shm) (some fw) stack = .ok (.success, some d) ∧
      d.shm.daemonToKernel.contents =
        shm.daemonToKernel.contents ++ shm.answeredTurns.map (Turn.response fw stack.locals) ∧
      ((∀ t ∈ shm.answeredTurns, (t.response fw stack.locals).Answers t.request) ↔
        ∀ t ∈ shm.answeredTurns, t.request.type ≠ ipcMsgShutdown) := by
  obtain ⟨d, he, hr⟩ := daemonMessageLoop_responses fw stack h
  refine ⟨d, he, hr, forall₂_congr fun t ht => ?_⟩
  exact t.answers_iff fw stack.locals (shm.answerable_of_mem ht)

theorem responses_addressed_iff_getVariable :
    ∃ d, daemonMessageLoop (some (oneRequest getVariableRequest))
        (some (.refusing efiUnsupported 0)) .zero = .ok (.success, some d) ∧
      ∀ t ∈ (oneRequest getVariableRequest).answeredTurns,
        (t.response (.refusing efiUnsupported 0) Stack.zero.locals).Answers t.request := by
  obtain ⟨d, he, -, hiff⟩ := responses_addressed_iff (.refusing efiUnsupported 0) .zero
    (oneRequest_wf getVariableRequest)
  refine ⟨d, he, hiff.mpr ?_⟩
  rw [oneRequest_answeredTurns (by decide)]
  decide

/-- A shutdown sent by process 7: the response names neither process. -/
theorem shutdown_response_unaddressed :
    ¬ ∀ (fw : RuntimeServices) (stack : Stack) (shm : SharedMemoryHeader), shm.WF →
      ∀ d responses, daemonMessageLoop (some shm) (some fw) stack = .ok (.success, some d) →
        d.shm.daemonToKernel.contents = shm.daemonToKernel.contents ++ responses →
        ∀ m ∈ responses, ∃ r ∈ d.served, m.Answers r := by
  intro h
  let r : IpcMessage := { IpcMessage.zero with type := ipcMsgShutdown, source := 7, target := 1 }
  have hwf := oneRequest_wf r
  obtain ⟨d, he, hr⟩ := daemonMessageLoop_responses .idle .zero hwf
  rw [oneRequest_answeredTurns (by decide)] at hr
  obtain ⟨-, -, -, hsource, -⟩ := h _ .zero _ hwf d _ he hr _ List.mem_cons_self
  exact absurd hsource (show ¬ (0 : UInt32) = 1 by decide)

end Dos25
