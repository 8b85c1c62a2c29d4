/-
# What a run of the daemon does to well-formed queues

One pass of `daemon_message_loop` takes the oldest request and, if
`process_message` reports success and there is room, appends its response
(`Pass`, `messageLoopBody_cons`). A run of the loop is such passes until the
requests, the five passes or a shutdown end it: it takes exactly `toServe`,
the responses it appends carry the keys of answerable requests taken, and the
slots it touches lie in their arrays (`Ran`, `messageLoop_spec`).

The loop sends a response only when `process_message` reports success, so
the error responses prepared for unknown types and undersized payloads are
dropped: every request is answered exactly when all are answerable
(`every_request_answered_iff`).

Key definitions: `Pass`, `toServe`, `Ran`.
-/
import Dos25.Daemon

namespace Dos25

/-- Both queues well formed. -/
theorem SharedMemoryHeader.WF.of {h : SharedMemoryHeader} (hk : h.kernelToDaemon.WF)
    (hd : h.daemonToKernel.WF) : h.WF
  | .kernelToDaemon => hk
  | .daemonToKernel => hd

/-- The responses a pass over `r` appends: one, or none. -/
def Daemon.answers (fw : RuntimeServices) (stack : StackLocals) (d : Daemon) (r : IpcMessage) :
    List IpcMessage :=
  if r.answerable ∧ d.shm.daemonToKernel.contents.length < ipcQueueSize then
    [(processMessage fw stack d.calls d.running r d.response).1.response]
  else []

/-- The slots touched since `d` lie in their arrays. -/
def Daemon.Touched (d d' : Daemon) : Prop :=
  ∀ a ∈ d'.accesses, a ∈ d.accesses ∨ a.field.SlotLt

theorem Daemon.Touched.refl (d : Daemon) : d.Touched d := fun _ h => .inl h

theorem Daemon.Touched.trans {d d1 d' : Daemon} (h : d.Touched d1) (h' : d1.Touched d') :
    d.Touched d' :=
  fun a ha => (h' a ha).elim (h a) .inr

theorem Daemon.Touched.of_append {d d' : Daemon} {new : List (Access HeaderField)}
    (he : d'.accesses = d.accesses ++ new) (hn : ∀ a ∈ new, a.field.SlotLt) : d.Touched d' := by
  intro a ha
  rw [he, List.mem_append] at ha
  exact ha.imp_right (hn a)

/-- `f++`. -/
theorem slotLt_increment {f : HeaderField} (h : f.SlotLt) :
    ∀ a ∈ [Access.read f, Access.write f], a.field.SlotLt := by
  simp [Access.field, h]

theorem IpcQueue.WF.send_touches {q : IpcQueue} (h : q.WF) :
    ∀ a ∈ (ipcSendMessageAccesses q).map (Access.map HeaderField.daemonToKernel),
      a.field.SlotLt :=
  ofQueue_slotLt .daemonToKernel fun _ => h.send_slotLt

theorem IpcQueue.WF.receive_touches {q : IpcQueue} (h : q.WF) :
    ∀ a ∈ (ipcReceiveMessageAccesses q).map (Access.map HeaderField.kernelToDaemon),
      a.field.SlotLt :=
  ofQueue_slotLt .kernelToDaemon fun _ => h.receive_slotLt

/-- What one pass that takes the request `r` does. -/
structure Pass (fw : RuntimeServices) (stack : StackLocals) (d : Daemon) (r : IpcMessage)
    (d' : Daemon) : Prop where
  wf : d'.shm.WF
  requests : d.shm.kernelToDaemon.contents = r :: d'.shm.kernelToDaemon.contents
  responses : d'.shm.daemonToKernel.contents =
    d.shm.daemonToKernel.contents ++ d.answers fw stack r
  sent : d'.shm.messagesSent = d.shm.messagesSent + UInt64.ofNat (d.answers fw stack r).length
  errors : d'.shm.errors = d.shm.errors + UInt64.ofNat (1 - (d.answers fw stack r).length)
  received : d'.shm.messagesReceived = d.shm.messagesReceived + 1
  served : d'.served = d.served ++ [r]
  running : d'.running = (d.running && r.type != ipcMsgShutdown)
  calls : d'.calls = (processMessage fw stack d.calls d.running r d.response).1.calls
  touched : d.Touched d'

/-- What changes no more than the access history. -/
structure Idle (d d' : Daemon) : Prop where
  shm : d'.shm = d.shm
  served : d'.served = d.served
  calls : d'.calls = d.calls
  touched : d.Touched d'

theorem Idle.refl (d : Daemon) : Idle d d := ⟨rfl, rfl, rfl, .refl d⟩

/-- A pass over an empty queue breaks. -/
theorem messageLoopBody_nil (fw : RuntimeServices) (stack : StackLocals) {d : Daemon} (h : d.shm.WF)
    (hn : d.shm.kernelToDaemon.contents = []) :
    ∃ d', messageLoopBody fw stack d = .ok (false, d') ∧ Idle d d' := by
  have hk : d.shm.kernelToDaemon.WF := h .kernelToDaemon
  unfold messageLoopBody
  rw [ipcReceiveMessage_spec hk, hn]
  exact ⟨_, rfl, rfl, rfl, rfl, .of_append rfl hk.receive_touches⟩

/-- What sending `answers`, one response or none, does. -/
structure Sent (answers : List IpcMessage) (d d' : Daemon) : Prop where
  kernelToDaemon : d'.shm.kernelToDaemon = d.shm.kernelToDaemon
  wf : d'.shm.daemonToKernel.WF
  responses : d'.shm.daemonToKernel.contents = d.shm.daemonToKernel.contents ++ answers
  sent : d'.shm.messagesSent = d.shm.messagesSent + UInt64.ofNat answers.length
  errors : d'.shm.errors = d.shm.errors + UInt64.ofNat (1 - answers.length)
  received : d'.shm.messagesReceived = d.shm.messagesReceived
  served : d'.served = d.served
  running : d'.running = d.running
  calls : d'.calls = d.calls
  touched : d.Touched d'

/-- No response: an error is counted. -/
theorem Sent.failed {d : Daemon} {daemonToKernel : IpcQueue} (accesses : List (Access HeaderField))
    (hq : daemonToKernel = d.shm.daemonToKernel) (h : d.shm.daemonToKernel.WF)
    (ha : ∀ a ∈ accesses, a.field.SlotLt) :
    Sent [] d { d with
      shm.daemonToKernel := daemonToKernel
      shm.errors := d.shm.errors + 1
      accesses := d.accesses ++ accesses ++ [.read .errors, .write .errors] } where
  kernelToDaemon := rfl
  wf := hq ▸ h
  responses := by rw [List.append_nil]; exact congrArg IpcQueue.contents hq
  sent := (UInt64.add_zero _).symm
  errors := rfl
  received := rfl
  served := rfl
  running := rfl
  calls := rfl
  touched := .of_append (List.append_assoc _ _ _)
    (List.forall_mem_append.mpr ⟨ha, slotLt_increment trivial⟩)

/-- A response is sent if its request was answered and there is room; else it
counts as an error. -/
theorem sendResponse_spec (status : BootStatus) {d : Daemon} (h : d.shm.daemonToKernel.WF) :
    ∃ d', sendResponse status d = .ok d' ∧
      Sent (if status = .success ∧ d.shm.daemonToKernel.contents.length < ipcQueueSize then
        [d.response] else []) d d' := by
  rw [sendResponse]
  by_cases hs : status = .success
  · rw [if_pos hs, ipcSendMessage_spec h]
    by_cases hl : d.shm.daemonToKernel.contents.length < ipcQueueSize
    · have hc : d.shm.daemonToKernel.count.toNat < ipcQueueSize := by simpa using hl
      rw [if_pos hl, if_pos ⟨hs, hl⟩]
      refine ⟨_, rfl, {
        kernelToDaemon := rfl
        wf := h.pushed hc _
        responses := h.pushed_contents hc _
        sent := rfl
        errors := (UInt64.add_zero _).symm
        received := rfl
        served := rfl
        running := rfl
        calls := rfl
        touched := .of_append (List.append_assoc _ _ _) ?_ }⟩
      exact List.forall_mem_append.mpr ⟨h.send_touches, slotLt_increment trivial⟩
    · rw [if_neg hl, if_neg fun h' => hl h'.2]
      exact ⟨_, rfl, .failed _ rfl h h.send_touches⟩
  · rw [if_neg hs, if_neg fun h' => hs h'.1]
    refine ⟨_, rfl, ?_⟩
    have hfailed := Sent.failed (d := d) [] rfl h (by simp)
    rwa [List.append_nil] at hfailed

/-- The daemon that has taken the request `r`, which left `queue`, and
processed it, before it sends the response. -/
def Daemon.handled (fw : RuntimeServices) (stack : StackLocals) (d : Daemon) (r : IpcMessage)
    (queue : IpcQueue) : Daemon :=
  let handled := processMessage fw stack d.calls d.running r d.response
  { d with
    shm.kernelToDaemon := queue
    request := r
    running := handled.2
    response := handled.1.response
    served := d.served ++ [r]
    calls := handled.1.calls
    accesses := d.accesses ++
      (ipcReceiveMessageAccesses d.shm.kernelToDaemon).map (.map .kernelToDaemon) }

/-- The daemon after `messages_received++`. -/
def Daemon.counted (d : Daemon) : Daemon :=
  { d with
    shm.messagesReceived := d.shm.messagesReceived + 1
    accesses := d.accesses ++ [.read .messagesReceived, .write .messagesReceived] }

/-- A pass that receives `r` processes it, sends the response and counts. -/
theorem messageLoopBody_received (fw : RuntimeServices) (stack : StackLocals) {d : Daemon}
    {r : IpcMessage} {queue : IpcQueue}
    (h : ipcReceiveMessage d.shm.kernelToDaemon d.request = .ok (.success, r, queue)) :
    messageLoopBody fw stack d =
      sendResponse (processMessage fw stack d.calls d.running r d.response).1.status
        (d.handled fw stack r queue) >>= fun d' => .ok (true, d'.counted) := by
  unfold messageLoopBody
  rw [h]
  rfl

/-- **A pass over a queue that is not empty** takes its oldest request. -/
theorem messageLoopBody_cons (fw : RuntimeServices) (stack : StackLocals) {d : Daemon}
    (h : d.shm.WF) {r : IpcMessage} {rest : List IpcMessage}
    (hc : d.shm.kernelToDaemon.contents = r :: rest) :
    ∃ d', messageLoopBody fw stack d = .ok (true, d') ∧ Pass fw stack d r d' := by
  have hk : d.shm.kernelToDaemon.WF := h .kernelToDaemon
  have hne : d.shm.kernelToDaemon.count.toNat ≠ 0 := by
    rw [← IpcQueue.contents_length, hc]
    simp
  have hcons := hk.contents_cons hne
  rw [hc, List.cons.injEq] at hcons
  have hreceive : ipcReceiveMessage d.shm.kernelToDaemon d.request =
      .ok (.success, r, d.shm.kernelToDaemon.popped) := by
    rw [ipcReceiveMessage_spec hk, hc]
  obtain ⟨d', he, hsent⟩ := sendResponse_spec
    (processMessage fw stack d.calls d.running r d.response).1.status
    (d := d.handled fw stack r d.shm.kernelToDaemon.popped) (h .daemonToKernel)
  have hanswers : (if (processMessage fw stack d.calls d.running r d.response).1.status = .success ∧
        (d.handled fw stack r d.shm.kernelToDaemon.popped).shm.daemonToKernel.contents.length <
          ipcQueueSize then
      [(d.handled fw stack r d.shm.kernelToDaemon.popped).response] else []) =
      d.answers fw stack r := by
    rw [processMessage_status, Daemon.answers]
    congr 1
    simp [Daemon.handled]
  rw [hanswers] at hsent
  rw [messageLoopBody_received fw stack hreceive, he]
  refine ⟨d'.counted, rfl, {
    wf := .of ?_ hsent.wf
    requests := ?_
    responses := hsent.responses
    sent := hsent.sent
    errors := hsent.errors
    received := congrArg (· + 1) hsent.received
    served := hsent.served
    running := ?_
    calls := hsent.calls
    touched := ?_ }⟩
  · exact hsent.kernelToDaemon ▸ hk.popped hne
  · rw [hc, hcons.2]
    exact congrArg (fun q => r :: IpcQueue.contents q) hsent.kernelToDaemon.symm
  · exact hsent.running.trans (processMessage_running fw stack d.calls d.running r d.response)
  · exact (Daemon.Touched.of_append rfl hk.receive_touches).trans
      (hsent.touched.trans (.of_append rfl (slotLt_increment trivial)))

/-! ### A run of passes -/

/-- The requests a run takes from `l` with `left` passes left: up to that
many, and none behind a shutdown. -/
def toServe : ℕ → List IpcMessage → List IpcMessage
  | 0, _ => []
  | _ + 1, [] => []
  | left + 1, r :: rest => if r.type = ipcMsgShutdown then [r] else r :: toServe left rest

/-- The flag ends the loop. -/
theorem messageLoop_stopped (fw : RuntimeServices) (locals : ℕ → StackLocals) (left : ℕ) {d : Daemon}
    (h : d.running = false) : messageLoop fw locals left d = .ok d := by
  cases left with
  | zero => rfl
  | succ left => rw [messageLoop, h, if_neg Bool.false_ne_true]

/-- **The rule of the loop.** What holds of a run without passes, of one that
finds no request and of a pass over a shutdown, and what a pass over any other
request adds to the run behind it, holds of every run; and no run faults. -/
theorem messageLoop_rule (fw : RuntimeServices) (locals : ℕ → StackLocals)
    {P : ℕ → Daemon → Daemon → Prop}
    (out : ∀ d, d.shm.WF → P 0 d d)
    (idle : ∀ left d d', d.shm.WF → d.shm.kernelToDaemon.contents = [] → Idle d d' →
      P (left + 1) d d')
    (shutdown : ∀ left d r d', r.type = ipcMsgShutdown → Pass fw (locals left) d r d' →
      P (left + 1) d d')
    (pass : ∀ left d r d1 d', r.type ≠ ipcMsgShutdown → Pass fw (locals left) d r d1 →
      P left d1 d' → P (left + 1) d d') :
    ∀ (left : ℕ) {d : Daemon}, d.shm.WF → d.running = true →
      ∃ d', messageLoop fw locals left d = .ok d' ∧ P left d d'
  | 0, d, h, _ => ⟨d, rfl, out d h⟩
  | left + 1, d, h, hr => by
    rw [messageLoop, if_pos hr]
    cases hc : d.shm.kernelToDaemon.contents with
    | nil =>
      obtain ⟨d', he, hi⟩ := messageLoopBody_nil fw (locals left) h hc
      rw [he]
      exact ⟨d', rfl, idle left d d' h hc hi⟩
    | cons r rest =>
      obtain ⟨d1, he, hp⟩ := messageLoopBody_cons fw (locals left) h hc
      rw [he]
      by_cases ht : r.type = ipcMsgShutdown
      · -- the shutdown clears the flag, so the next check of the loop ends it
        have hstop : d1.running = false := by rw [hp.running, ht, bne_self_eq_false, Bool.and_false]
        exact ⟨d1, messageLoop_stopped fw locals left hstop, shutdown left d r d1 ht hp⟩
      · have hgo : d1.running = true := by rw [hp.running, hr]; simpa using ht
        obtain ⟨d', he', hP⟩ :=
          messageLoop_rule fw locals out idle shutdown pass left hp.wf hgo
        exact ⟨d', he', pass left d r d1 d' ht hp hP⟩

/-- What a run that takes `requests` and appends `responses` does. -/
structure Ran (d : Daemon) (requests responses : List IpcMessage) (d' : Daemon) : Prop where
  wf : d'.shm.WF
  served : d'.served = d.served ++ requests
  taken : d.shm.kernelToDaemon.contents = requests ++ d'.shm.kernelToDaemon.contents
  appended : d'.shm.daemonToKernel.contents = d.shm.daemonToKernel.contents ++ responses
  keys : (responses.map (·.key)).Sublist ((requests.filter (·.answerable)).map (·.key))
  room : d.shm.daemonToKernel.contents.length + requests.length ≤ ipcQueueSize →
    responses.map (·.key) = (requests.filter (·.answerable)).map (·.key)
  sent : d'.shm.messagesSent = d.shm.messagesSent + UInt64.ofNat responses.length
  errors : d'.shm.errors = d.shm.errors + UInt64.ofNat (requests.length - responses.length)
  received : d'.shm.messagesReceived = d.shm.messagesReceived + UInt64.ofNat requests.length
  touched : d.Touched d'

/-- A run of no passes. -/
theorem Ran.nil {d d' : Daemon} (h : d.shm.WF) (hi : Idle d d') : Ran d [] [] d' where
  wf := hi.shm ▸ h
  served := hi.served.trans (List.append_nil _).symm
  taken := by rw [hi.shm, List.nil_append]
  appended := by rw [hi.shm, List.append_nil]
  keys := .slnil
  room _ := rfl
  sent := by rw [hi.shm]; exact (UInt64.add_zero _).symm
  errors := by rw [hi.shm]; exact (UInt64.add_zero _).symm
  received := by rw [hi.shm]; exact (UInt64.add_zero _).symm
  touched := hi.touched

theorem Ran.length_le {d d' : Daemon} {requests responses : List IpcMessage}
    (h : Ran d requests responses d') : responses.length ≤ requests.length := by
  have hk := h.keys.length_le
  rw [List.length_map, List.length_map] at hk
  exact hk.trans (List.length_filter_le _ _)

theorem Daemon.answers_length_le (fw : RuntimeServices) (stack : StackLocals) (d : Daemon)
    (r : IpcMessage) : (d.answers fw stack r).length ≤ 1 := by
  unfold answers
  split_ifs <;> simp

/-- A pass, then a run. -/
theorem Pass.cons {fw : RuntimeServices} {stack : StackLocals} {d d1 d' : Daemon} {r : IpcMessage}
    {requests responses : List IpcMessage} (h : Pass fw stack d r d1)
    (hr : Ran d1 requests responses d') :
    Ran d (r :: requests) (d.answers fw stack r ++ responses) d' := by
  have hle := d.answers_length_le fw stack r
  have hkey := processMessage_key fw stack d.calls d.running r d.response
  refine {
    wf := hr.wf
    served := ?_
    taken := ?_
    appended := ?_
    keys := ?_
    room := fun hroom => ?_
    sent := ?_
    errors := ?_
    received := ?_
    touched := h.touched.trans hr.touched }
  · rw [hr.served, h.served, List.append_assoc, List.singleton_append]
  · rw [h.requests, hr.taken, List.cons_append]
  · rw [hr.appended, h.responses, List.append_assoc]
  · unfold Daemon.answers
    rw [List.filter_cons]
    by_cases ha : r.answerable = true
    · rw [if_pos ha]
      split_ifs
      · simpa [hkey] using hr.keys
      · simpa using hr.keys.cons _
    · rw [if_neg ha, if_neg fun h' => ha h'.1]
      simpa using hr.keys
  · simp only [List.length_cons] at hroom
    have hlen : d1.shm.daemonToKernel.contents.length + requests.length ≤ ipcQueueSize := by
      rw [h.responses, List.length_append]
      omega
    have hlt : d.shm.daemonToKernel.contents.length < ipcQueueSize := by omega
    unfold Daemon.answers
    rw [List.filter_cons, List.map_append, hr.room hlen]
    by_cases ha : r.answerable = true
    · rw [if_pos ha, if_pos ⟨ha, hlt⟩, List.map_singleton, hkey]
      rfl
    · rw [if_neg ha, if_neg fun h' => ha h'.1]
      rfl
  · rw [hr.sent, h.sent, List.length_append, UInt64.ofNat_add, UInt64.add_assoc]
  · have := hr.length_le
    rw [hr.errors, h.errors, List.length_append, List.length_cons, UInt64.add_assoc,
      ← UInt64.ofNat_add]
    congr 2
    omega
  · rw [hr.received, h.received, List.length_cons, Nat.add_comm, UInt64.ofNat_add, UInt64.add_assoc]
    rfl

/-- **A run of the loop** takes `toServe` and never faults. -/
theorem messageLoop_spec (fw : RuntimeServices) (locals : ℕ → StackLocals) (left : ℕ) {d : Daemon}
    (h : d.shm.WF) (hr : d.running = true) :
    ∃ d' responses, messageLoop fw locals left d = .ok d' ∧
      Ran d (toServe left d.shm.kernelToDaemon.contents) responses d' := by
  let P : ℕ → Daemon → Daemon → Prop := fun left d d' =>
    ∃ responses, Ran d (toServe left d.shm.kernelToDaemon.contents) responses d'
  have hrule : ∃ d', messageLoop fw locals left d = .ok d' ∧ P left d d' := by
    refine messageLoop_rule fw locals ?_ ?_ ?_ ?_ left h hr
    · intro d h
      exact ⟨[], .nil h (.refl d)⟩
    · intro left d d' h hc hi
      show ∃ responses, _
      rw [hc]
      exact ⟨[], .nil h hi⟩
    · intro left d r d' ht hp
      show ∃ responses, _
      rw [hp.requests, toServe, if_pos ht]
      exact ⟨_, hp.cons (.nil hp.wf (.refl d'))⟩
    · rintro left d r d1 d' ht hp ⟨responses, hran⟩
      show ∃ responses, _
      rw [hp.requests, toServe, if_neg ht]
      exact ⟨_, hp.cons hran⟩
  obtain ⟨d', he, responses, hran⟩ := hrule
  exact ⟨d', responses, he, hran⟩

/-- `daemon_message_loop` on well-formed queues. -/
theorem daemonMessageLoop_spec (fw : RuntimeServices) (stack : Stack) {shm : SharedMemoryHeader}
    (h : shm.WF) : ∃ d responses,
      daemonMessageLoop (some shm) (some fw) stack = .ok (.success, some d) ∧
      Ran (.start shm stack) (toServe maxMessages shm.kernelToDaemon.contents) responses d := by
  obtain ⟨d, responses, he, hran⟩ := messageLoop_spec fw stack.locals maxMessages
    (d := .start shm stack) h rfl
  refine ⟨d.printStatistics, responses, ?_, { hran with
    wf := hran.wf
    touched := hran.touched.trans (.of_append rfl (by simp [Access.field, HeaderField.SlotLt])) }⟩
  rw [daemonMessageLoop, runDaemon, he]
  rfl

/-! ### Which requests are answered -/

/-- The responses to `requests` are the new tail of `daemon_to_kernel`: one to
each, with its sequence number and type, in order. -/
def AnsweredInOrder (requests : List IpcMessage) (before after : SharedMemoryHeader) : Prop :=
  ∃ responses, after.daemonToKernel.contents = before.daemonToKernel.contents ++ responses ∧
    responses.map (fun m => (m.sequence, m.type)) = requests.map (fun m => (m.sequence, m.type))

/-- With room for all, the requests a run takes are answered in order exactly
when each is answerable: the response prepared for any other is dropped. -/
theorem Ran.answered_iff {d d' : Daemon} {requests responses : List IpcMessage}
    (h : Ran d requests responses d')
    (hroom : d.shm.daemonToKernel.contents.length + requests.length ≤ ipcQueueSize) :
    AnsweredInOrder requests d.shm d'.shm ↔ ∀ r ∈ requests, r.answerable = true := by
  have hkeys := h.room hroom
  constructor
  · rintro ⟨responses', ha, hm⟩
    rw [h.appended, List.append_cancel_left_eq] at ha
    have h1 := congrArg List.length hkeys
    have h2 := congrArg List.length hm
    rw [List.length_map, List.length_map] at h1 h2
    rw [← ha, h1] at h2
    exact List.length_filter_eq_length_iff.mp h2
  · intro hall
    refine ⟨responses, h.appended, ?_⟩
    rw [List.filter_eq_self.mpr hall] at hkeys
    have := congrArg (List.map fun k : UInt32 × UInt64 × UInt32 => (k.2.2, k.1)) hkeys
    rw [List.map_map, List.map_map] at this
    exact this

/-- **Which requests are answered.** On well-formed queues with room for an
answer to every request a run takes, each of these gets exactly one response,
with its sequence number and type and in order, if and only if all of them
are answerable. -/
theorem every_request_answered_iff (fw : RuntimeServices) (stack : Stack) {shm : SharedMemoryHeader}
    (h : shm.WF) (hroom : shm.daemonToKernel.contents.length +
      (toServe maxMessages shm.kernelToDaemon.contents).length ≤ ipcQueueSize) :
    ∃ d, daemonMessageLoop (some shm) (some fw) stack = .ok (.success, some d) ∧
      d.served = toServe maxMessages shm.kernelToDaemon.contents ∧
      shm.kernelToDaemon.contents = d.served ++ d.shm.kernelToDaemon.contents ∧
      (AnsweredInOrder d.served shm d.shm ↔
        ∀ r ∈ toServe maxMessages shm.kernelToDaemon.contents, r.answerable = true) := by
  obtain ⟨d, responses, he, hran⟩ := daemonMessageLoop_spec fw stack h
  have hserved : d.served = toServe maxMessages shm.kernelToDaemon.contents := hran.served
  refine ⟨d, he, hserved, ?_, ?_⟩
  · rw [hserved]
    exact hran.taken
  · rw [hserved]
    exact hran.answered_iff hroom

/-- A firmware that answers `EFI_SUCCESS` and writes nothing. -/
def RuntimeServices.idle : RuntimeServices where
  resetSystem _ _ := 0
  getTime _ := ⟨0, none⟩
  setTime _ _ := 0
  getVariable _ _ _ := ⟨0, none, 0, [], Nat.zero_le _⟩

def Stack.zero : Stack := ⟨.zero, .zero, fun _ => ⟨fun _ => 0, 0⟩⟩

/-- An initialised region with the one request `r`. -/
def oneRequest (r : IpcMessage) : SharedMemoryHeader :=
  let shm := (initializeIpcQueues .zero).2
  { shm with kernelToDaemon := shm.kernelToDaemon.pushed r }

theorem oneRequest_wf (r : IpcMessage) : (oneRequest r).WF :=
  .of ((IpcQueue.initialized_wf _).pushed (by decide) r) (IpcQueue.initialized_wf _)

theorem every_request_answered_iff_getTime :
    ∃ d, daemonMessageLoop (some (oneRequest { IpcMessage.zero with type := ipcMsgGetTime }))
        (some .idle) .zero = .ok (.success, some d) ∧ d.served.length = 1 := by
  obtain ⟨d, he, hs, -⟩ := every_request_answered_iff .idle .zero
    (oneRequest_wf { IpcMessage.zero with type := ipcMsgGetTime }) (by decide)
  exact ⟨d, he, congrArg List.length hs⟩

/-- A `SET_VARIABLE` request, an announced type without a handler: its
`EFI_UNSUPPORTED` response is built and never sent. -/
theorem set_variable_unanswered :
    ¬ ∀ (fw : RuntimeServices) (stack : Stack) (shm : SharedMemoryHeader), shm.WF →
      shm.daemonToKernel.contents.length +
        (toServe maxMessages shm.kernelToDaemon.contents).length ≤ ipcQueueSize →
      ∀ d, daemonMessageLoop (some shm) (some fw) stack = .ok (.success, some d) →
        AnsweredInOrder d.served shm d.shm := by
  intro h
  have hwf := oneRequest_wf { IpcMessage.zero with type := ipcMsgSetVariable }
  obtain ⟨d, responses, he, hran⟩ := daemonMessageLoop_spec .idle .zero hwf
  have ha := h .idle .zero _ hwf (by decide) d he
  have hserved : d.served = _ := hran.served
  rw [hserved] at ha
  exact absurd ((hran.answered_iff (by decide)).mp ha _ List.mem_cons_self) (by decide)

end Dos25
