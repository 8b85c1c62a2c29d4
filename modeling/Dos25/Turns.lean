/-
# A run of the daemon, request by request

What a run of `daemon_message_loop` will do can be read off the queue before
it starts. The firmware calls a request causes depend on the request alone
(`firmwareCall`), so the calls made before each request, and the passes left
behind it, are known: its `Turn`. The run takes exactly the first
`servedCount` requests, makes their firmware calls in order, and appends the
responses of the turns that are answered and find room
(`daemonMessageLoop_turns`). Everything said about the responses of a run is
said about `answeredTurns`.

Key definitions: `IpcMessage.firmwareCall`, `Turn`, `turns`, `answeredTurns`.
Key theorems: `toServe_eq_take`, `daemonMessageLoop_turns`.
-/
import Dos25.DaemonLoop

namespace Dos25

open Bytes

/-! ### The firmware call of a request -/

/-- `reset_type` of a `RESET_SYSTEM` request. -/
def IpcMessage.resetType (r : IpcMessage) : UInt32 := UInt32.ofNat (decode (read r.data 0 4))

/-- An `EFI_TIME` fits a message. -/
theorem efiTime_le : 16 ≤ ipcMaxDataSize := by decide

/-- `time` of a `SET_TIME` request. -/
def IpcMessage.time (r : IpcMessage) : EfiTime := fun i => r.data (i.castLE efiTime_le)

/-- `var_name` of a `GET_VARIABLE` request, up to its terminator. -/
def IpcMessage.varName (r : IpcMessage) : List UInt16 := (char16s r.data).takeWhile (· ≠ 0)

/-- The terminator of `var_name` lies in the message. -/
def IpcMessage.varNameEnds (r : IpcMessage) : Bool := (char16s r.data).contains 0

/-- The firmware call a request causes, if it is one of the four services and
carries the payload the handler asks for. -/
def IpcMessage.firmwareCall (r : IpcMessage) : Option FirmwareCall :=
  if r.type = ipcMsgResetSystem then if 4 ≤ r.size then some (.resetSystem r.resetType) else none
  else if r.type = ipcMsgGetTime then some .getTime
  else if r.type = ipcMsgSetTime then if 16 ≤ r.size then some (.setTime r.time) else none
  else if r.type = ipcMsgGetVariable then
    some (.getVariable r.varName r.varNameEnds (UInt64.ofNat variableDataSize))
  else none

/-- The well-formed requests for a service. -/
theorem IpcMessage.firmwareCall_isSome (r : IpcMessage) : r.firmwareCall.isSome = true ↔
    (r.type = ipcMsgResetSystem ∧ 4 ≤ r.size) ∨ r.type = ipcMsgGetTime ∨
      (r.type = ipcMsgSetTime ∧ 16 ≤ r.size) ∨ r.type = ipcMsgGetVariable := by
  unfold firmwareCall
  split_ifs with h1 h2 h3 h4 h5 h6 <;>
    simp_all [ipcMsgResetSystem, ipcMsgGetTime, ipcMsgSetTime, ipcMsgGetVariable]

theorem filterMap_firmwareCall_cons (r : IpcMessage) (l : List IpcMessage) :
    (r :: l).filterMap (·.firmwareCall) = r.firmwareCall.toList ++ l.filterMap (·.firmwareCall) := by
  cases h : r.firmwareCall <;> simp [h]

section

variable (fw : RuntimeServices) (stack : StackLocals) (calls : List FirmwareCall)

/-- One call for each request that is served, none for any other. -/
theorem processMessage_calls (running : Bool) (request response : IpcMessage) :
    (processMessage fw stack calls running request response).1.calls =
      calls ++ request.firmwareCall.toList := by
  refine processMessage_cases (P := fun p => p.1.calls = _) fw stack calls running request response
    (fun h => ?_) (fun h => ?_) (fun h => ?_) (fun h => ?_) (fun h => ?_) (fun h => ?_)
  · rw [handleResetSystem, IpcMessage.firmwareCall, if_pos h]
    by_cases hs : request.size < 4
    · rw [if_pos hs, if_neg (UInt32.not_le.mpr hs)]
      exact (List.append_nil calls).symm
    · rw [if_neg hs, if_pos (UInt32.not_lt.mp hs)]
      rfl
  · rw [IpcMessage.firmwareCall, h]
    rfl
  · rw [handleSetTime, IpcMessage.firmwareCall, if_pos h, h]
    by_cases hs : request.size < 16
    · rw [if_pos hs, if_neg (UInt32.not_le.mpr hs)]
      exact (List.append_nil calls).symm
    · rw [if_neg hs, if_pos (UInt32.not_lt.mp hs)]
      rfl
  · rw [IpcMessage.firmwareCall, h]
    rfl
  · rw [IpcMessage.firmwareCall, h]
    exact (List.append_nil calls).symm
  · simp only [List.mem_cons, List.not_mem_nil, or_false, not_or] at h
    simp [handleUnknown, IpcMessage.firmwareCall, h]

/-- The outcome reads neither the flag nor what the response held before. -/
theorem processMessage_handled (running running' : Bool) (request response response' : IpcMessage) :
    (processMessage fw stack calls running request response).1 =
      (processMessage fw stack calls running' request response').1 := by
  unfold processMessage
  split_ifs <;> rfl

end

/-! ### How many requests a run takes -/

/-- Five, all that are queued, or up to and with the first shutdown. -/
def servedCount (requests : List IpcMessage) : ℕ :=
  min maxMessages (min requests.length (requests.findIdx (·.type == ipcMsgShutdown) + 1))

theorem toServe_eq_take_min : ∀ (left : ℕ) (l : List IpcMessage),
    toServe left l = l.take (min left (l.findIdx (·.type == ipcMsgShutdown) + 1))
  | 0, _ => by rw [toServe, Nat.zero_min, List.take_zero]
  | _ + 1, [] => by rw [toServe, List.take_nil]
  | left + 1, r :: rest => by
    rw [toServe, List.findIdx_cons]
    by_cases h : r.type = ipcMsgShutdown
    · simp [h]
    · have hb : (r.type == ipcMsgShutdown) = false := by simpa using h
      rw [if_neg h, hb, cond_false, Nat.add_min_add_right, List.take_succ_cons,
        toServe_eq_take_min left rest]

/-- A run takes the first `servedCount` requests. -/
theorem toServe_eq_take (l : List IpcMessage) : toServe maxMessages l = l.take (servedCount l) := by
  have hmin : servedCount l =
      min (min maxMessages (l.findIdx (·.type == ipcMsgShutdown) + 1)) l.length := by
    unfold servedCount
    omega
  rw [toServe_eq_take_min, hmin, ← List.take_eq_take_min]

/-! ### Turns -/

/-- A request as its turn comes: the firmware calls made before it, and the
passes left behind it. -/
structure Turn where
  request : IpcMessage
  calls : List FirmwareCall
  left : ℕ

/-- The turns of a run with `left` passes left. -/
def turns : ℕ → List FirmwareCall → List IpcMessage → List Turn
  | 0, _, _ => []
  | _ + 1, _, [] => []
  | left + 1, calls, r :: rest =>
    ⟨r, calls, left⟩ :: if r.type = ipcMsgShutdown then []
      else turns left (calls ++ r.firmwareCall.toList) rest

/-- The turns are the requests the run takes. -/
theorem turns_request : ∀ (left : ℕ) (calls : List FirmwareCall) (l : List IpcMessage),
    (turns left calls l).map (·.request) = toServe left l
  | 0, _, _ => rfl
  | _ + 1, _, [] => rfl
  | left + 1, calls, r :: rest => by
    rw [turns, toServe, List.map_cons]
    by_cases h : r.type = ipcMsgShutdown
    · rw [if_pos h, if_pos h, List.map_nil]
    · rw [if_neg h, if_neg h, turns_request left]

/-- The turns whose responses are appended: the answerable ones, while there
is room. -/
def answered (room : ℕ) (ts : List Turn) : List Turn := (ts.filter (·.request.answerable)).take room

/-- The turns a run answers on these queues. -/
def SharedMemoryHeader.answeredTurns (shm : SharedMemoryHeader) : List Turn :=
  answered (ipcQueueSize - shm.daemonToKernel.contents.length)
    (turns maxMessages [] shm.kernelToDaemon.contents)

/-- The response `process_message` builds in the turn. -/
def Turn.response (fw : RuntimeServices) (locals : ℕ → StackLocals) (t : Turn) : IpcMessage :=
  (processMessage fw (locals t.left) t.calls true t.request .zero).1.response

@[simp] theorem answered_nil (room : ℕ) : answered room [] = [] := List.take_nil

theorem answered_cons (room : ℕ) (t : Turn) (ts : List Turn) :
    answered room (t :: ts) =
      if t.request.answerable ∧ 0 < room then t :: answered (room - 1) ts else answered room ts := by
  unfold answered
  rw [List.filter_cons]
  cases room with
  | zero => simp
  | succ room => by_cases h : t.request.answerable = true <;> simp [h]

/-! ### The run -/

/-- What a run with `left` passes left does: its firmware calls, and its
responses. -/
structure RanTurns (fw : RuntimeServices) (locals : ℕ → StackLocals) (left : ℕ) (d d' : Daemon) :
    Prop where
  served : d'.served = d.served ++ toServe left d.shm.kernelToDaemon.contents
  taken : d.shm.kernelToDaemon.contents =
    toServe left d.shm.kernelToDaemon.contents ++ d'.shm.kernelToDaemon.contents
  calls : d'.calls =
    d.calls ++ (toServe left d.shm.kernelToDaemon.contents).filterMap (·.firmwareCall)
  responses : d'.shm.daemonToKernel.contents = d.shm.daemonToKernel.contents ++
    (answered (ipcQueueSize - d.shm.daemonToKernel.contents.length)
      (turns left d.calls d.shm.kernelToDaemon.contents)).map (Turn.response fw locals)

/-- A pass makes the call of its request. -/
theorem Pass.calls_eq {fw : RuntimeServices} {stack : StackLocals} {d d' : Daemon} {r : IpcMessage}
    (h : Pass fw stack d r d') : d'.calls = d.calls ++ r.firmwareCall.toList := by
  rw [h.calls, processMessage_calls]

/-- The response a pass appends is that of its turn. -/
theorem Daemon.answers_eq (fw : RuntimeServices) (locals : ℕ → StackLocals) (left : ℕ) (d : Daemon)
    (r : IpcMessage) : d.answers fw (locals left) r =
      if r.answerable ∧ 0 < ipcQueueSize - d.shm.daemonToKernel.contents.length then
        [Turn.response fw locals ⟨r, d.calls, left⟩]
      else [] := by
  have hroom : 0 < ipcQueueSize - d.shm.daemonToKernel.contents.length ↔
      d.shm.daemonToKernel.contents.length < ipcQueueSize := Nat.sub_pos_iff_lt
  rw [answers, Turn.response, processMessage_handled fw (locals left) d.calls d.running true r
    d.response .zero]
  simp only [hroom]

theorem RanTurns.nil {fw : RuntimeServices} {locals : ℕ → StackLocals} {left : ℕ} {d d' : Daemon}
    (hn : toServe left d.shm.kernelToDaemon.contents = []) (hi : Idle d d') :
    RanTurns fw locals left d d' where
  served := by rw [hi.served, hn, List.append_nil]
  taken := by rw [hi.shm, hn, List.nil_append]
  calls := by rw [hi.calls, hn, List.filterMap_nil, List.append_nil]
  responses := by
    have ht : turns left d.calls d.shm.kernelToDaemon.contents = [] := by
      rw [← List.map_eq_nil_iff, turns_request, hn]
    rw [hi.shm, ht, answered_nil, List.map_nil, List.append_nil]

/-- A pass, then the run behind it. -/
theorem RanTurns.cons {fw : RuntimeServices} {locals : ℕ → StackLocals} {left : ℕ}
    {d d1 d' : Daemon} {r : IpcMessage} (ht : r.type ≠ ipcMsgShutdown)
    (hp : Pass fw (locals left) d r d1) (h : RanTurns fw locals left d1 d') :
    RanTurns fw locals (left + 1) d d' where
  served := by
    rw [h.served, hp.served, hp.requests, toServe, if_neg ht, List.append_assoc,
      List.singleton_append]
  taken := by
    rw [hp.requests, toServe, if_neg ht, List.cons_append, ← h.taken]
  calls := by
    rw [h.calls, hp.calls_eq, hp.requests, toServe, if_neg ht, filterMap_firmwareCall_cons,
      List.append_assoc]
  responses := by
    have hroom : ipcQueueSize - d1.shm.daemonToKernel.contents.length =
        ipcQueueSize - d.shm.daemonToKernel.contents.length -
          (d.answers fw (locals left) r).length := by
      rw [hp.responses, List.length_append, Nat.sub_add_eq]
    rw [h.responses, hroom, hp.responses, hp.calls_eq, hp.requests, turns, if_neg ht, answered_cons,
      d.answers_eq, List.append_assoc]
    congr 1
    split_ifs <;> rfl

/-- A pass over a shutdown ends the run. -/
theorem RanTurns.shutdown {fw : RuntimeServices} {locals : ℕ → StackLocals} {left : ℕ}
    {d d' : Daemon} {r : IpcMessage} (ht : r.type = ipcMsgShutdown)
    (hp : Pass fw (locals left) d r d') : RanTurns fw locals (left + 1) d d' where
  served := by rw [hp.served, hp.requests, toServe, if_pos ht]
  taken := by
    rw [hp.requests, toServe, if_pos ht]
    rfl
  calls := by
    rw [hp.calls_eq, hp.requests, toServe, if_pos ht, filterMap_firmwareCall_cons,
      List.filterMap_nil, List.append_nil]
  responses := by
    rw [hp.responses, hp.requests, turns, if_pos ht, answered_cons, d.answers_eq]
    congr 1
    split_ifs <;> simp

/-- **A run of the loop**, turn by turn. -/
theorem messageLoop_turns (fw : RuntimeServices) (locals : ℕ → StackLocals) (left : ℕ) {d : Daemon}
    (h : d.shm.WF) (hr : d.running = true) :
    ∃ d', messageLoop fw locals left d = .ok d' ∧ RanTurns fw locals left d d' := by
  refine messageLoop_rule fw locals ?_ ?_ ?_ ?_ left h hr
  · intro d _
    exact .nil rfl (.refl d)
  · intro left d d' _ hc hi
    refine .nil ?_ hi
    rw [hc, toServe]
  · intro left d r d' ht hp
    exact .shutdown ht hp
  · intro left d r d1 d' ht hp hrest
    exact .cons ht hp hrest

/-- `daemon_message_loop` on well-formed queues, turn by turn. -/
theorem daemonMessageLoop_turns (fw : RuntimeServices) (stack : Stack) {shm : SharedMemoryHeader}
    (h : shm.WF) : ∃ d, daemonMessageLoop (some shm) (some fw) stack = .ok (.success, some d) ∧
      RanTurns fw stack.locals maxMessages (.start shm stack) d := by
  obtain ⟨d, he, hran⟩ := messageLoop_turns fw stack.locals maxMessages (d := .start shm stack) h rfl
  refine ⟨d.printStatistics, ?_, hran.served, hran.taken, hran.calls, hran.responses⟩
  rw [daemonMessageLoop, runDaemon, he]
  rfl

/-- The responses a run appends, turn by turn. -/
theorem daemonMessageLoop_responses (fw : RuntimeServices) (stack : Stack) {shm : SharedMemoryHeader}
    (h : shm.WF) : ∃ d, daemonMessageLoop (some shm) (some fw) stack = .ok (.success, some d) ∧
      d.shm.daemonToKernel.contents =
        shm.daemonToKernel.contents ++ shm.answeredTurns.map (Turn.response fw stack.locals) := by
  obtain ⟨d, he, hran⟩ := daemonMessageLoop_turns fw stack h
  exact ⟨d, he, hran.responses⟩

/-- **What a run of the daemon does to requests and firmware.** On well-formed
queues it takes exactly the first `servedCount` requests and leaves the others
as they were, and the firmware calls it makes are those of the requests taken,
one each and in order. -/
theorem daemonMessageLoop_served (fw : RuntimeServices) (stack : Stack) {shm : SharedMemoryHeader}
    (h : shm.WF) : ∃ d, daemonMessageLoop (some shm) (some fw) stack = .ok (.success, some d) ∧
      d.served = shm.kernelToDaemon.contents.take (servedCount shm.kernelToDaemon.contents) ∧
      d.shm.kernelToDaemon.contents =
        shm.kernelToDaemon.contents.drop (servedCount shm.kernelToDaemon.contents) ∧
      d.calls = d.served.filterMap (·.firmwareCall) := by
  obtain ⟨d, he, hran⟩ := daemonMessageLoop_turns fw stack h
  have hserved : d.served = toServe maxMessages shm.kernelToDaemon.contents := hran.served
  refine ⟨d, he, ?_, ?_, ?_⟩
  · rw [hserved, toServe_eq_take]
  · have htaken : shm.kernelToDaemon.contents =
        toServe maxMessages shm.kernelToDaemon.contents ++ d.shm.kernelToDaemon.contents := hran.taken
    have hsplit := List.take_append_drop (servedCount shm.kernelToDaemon.contents)
      shm.kernelToDaemon.contents
    rw [← toServe_eq_take] at hsplit
    exact List.append_cancel_left (htaken.symm.trans hsplit.symm)
  · rw [hserved]
    exact hran.calls

theorem oneRequest_contents (r : IpcMessage) : (oneRequest r).kernelToDaemon.contents = [r] :=
  (IpcQueue.initialized_wf _).pushed_contents (by decide) r

/-- The one request has the first turn. -/
theorem oneRequest_answeredTurns {r : IpcMessage} (h : r.answerable = true) :
    (oneRequest r).answeredTurns = [⟨r, [], 4⟩] := by
  have hturns : turns maxMessages [] [r] = [⟨r, [], 4⟩] := by
    show Turn.mk r [] 4 :: (if r.type = ipcMsgShutdown then [] else []) = _
    rw [ite_self]
  have hroom : (oneRequest r).daemonToKernel.contents = [] := rfl
  rw [SharedMemoryHeader.answeredTurns, oneRequest_contents, hturns, hroom, answered_cons,
    if_pos ⟨h, by decide⟩, answered_nil]

/-- Sends that all find room. -/
theorem IpcQueue.WF.pushed_all : ∀ (l : List IpcMessage) {q : IpcQueue}, q.WF →
    q.contents.length + l.length ≤ ipcQueueSize →
    (l.foldl IpcQueue.pushed q).WF ∧ (l.foldl IpcQueue.pushed q).contents = q.contents ++ l
  | [], _, h, _ => ⟨h, (List.append_nil _).symm⟩
  | m :: l, q, h, hl => by
    rw [List.length_cons] at hl
    have hc : q.count.toNat < ipcQueueSize := by
      rw [← IpcQueue.contents_length]
      omega
    have hrest := IpcQueue.WF.pushed_all l (h.pushed hc m) (by rw [h.pushed_length hc]; omega)
    rwa [h.pushed_contents hc, List.append_assoc, List.singleton_append] at hrest

/-- An initialised region with these requests. -/
def queued (requests : List IpcMessage) : SharedMemoryHeader :=
  let shm := (initializeIpcQueues .zero).2
  { shm with kernelToDaemon := requests.foldl IpcQueue.pushed shm.kernelToDaemon }

theorem queued_spec (requests : List IpcMessage) (hl : requests.length ≤ ipcQueueSize) :
    (queued requests).WF ∧ (queued requests).kernelToDaemon.contents = requests := by
  have hk : (initializeIpcQueues .zero).2.kernelToDaemon.WF := IpcQueue.initialized_wf _
  obtain ⟨hwf, hcontents⟩ := hk.pushed_all requests ((Nat.zero_add _).trans_le hl)
  exact ⟨.of hwf (IpcQueue.initialized_wf _), hcontents⟩

/-- Seven requests, of which two wait for the next run. -/
theorem daemonMessageLoop_served_seven :
    ∃ d, daemonMessageLoop
        (some (queued (List.replicate 7 { IpcMessage.zero with type := ipcMsgGetTime })))
        (some .idle) .zero = .ok (.success, some d) ∧ d.served.length = 5 ∧
      d.shm.kernelToDaemon.contents.length = 2 ∧ d.calls = List.replicate 5 .getTime := by
  obtain ⟨hwf, hcontents⟩ := queued_spec
    (List.replicate 7 { IpcMessage.zero with type := ipcMsgGetTime }) (by decide)
  obtain ⟨d, he, hs, hrest, hc⟩ := daemonMessageLoop_served .idle .zero hwf
  rw [hcontents] at hs hrest
  refine ⟨d, he, ?_, ?_, ?_⟩
  · rw [hs]
    rfl
  · rw [hrest]
    rfl
  · rw [hc, hs]
    rfl

end Dos25
