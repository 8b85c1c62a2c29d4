/-
# The books of kernel and daemon balance

Runs of complete kernel sends, complete kernel receives and complete daemon
runs, in any order, from an initialised region. A `Session` records what the
kernel sent and received with success and what the daemon took. `Balanced`
holds at first and survives every operation (`Balanced.exec`), so in every
reached state the statistics of the header add up and the responses are, by
key, a subsequence of the requests taken (`books_balance`).

Key definitions: `Session`, `SessionOp.exec`, `Balanced`.
-/
import Dos25.DaemonLoop
import Dos25.Lib.System

namespace Dos25

/-- The region, the messages of the kernel's successful sends, those of its
successful receives, and the requests the daemon has taken. -/
structure Session where
  shm : SharedMemoryHeader
  sent : List IpcMessage
  received : List IpcMessage
  served : List IpcMessage

inductive SessionOp
  | kernelSend (msg : IpcMessage)
  | kernelReceive (buffer : IpcMessage)
  | daemon (fw : RuntimeServices) (stack : Stack)

def SessionOp.exec (s : Session) : SessionOp → Except Fault Session
  | kernelSend msg => do
    let (status, queue) ← ipcSendMessage s.shm.kernelToDaemon msg
    .ok { s with
      shm.kernelToDaemon := queue
      sent := if status = .success then s.sent ++ [msg] else s.sent }
  | kernelReceive buffer => do
    let (status, msg, queue) ← ipcReceiveMessage s.shm.daemonToKernel buffer
    .ok { s with
      shm.daemonToKernel := queue
      received := if status = .success then s.received ++ [msg] else s.received }
  | daemon fw stack => do
    match ← daemonMessageLoop (some s.shm) (some fw) stack with
    | (_, some d) => .ok { s with shm := d.shm, served := s.served ++ d.served }
    | (_, none) => .ok s

/-- Nothing sent, received or taken yet. -/
def Session.start (header : SharedMemoryHeader) : Session :=
  ⟨(initializeIpcQueues header).2, [], [], []⟩

/-- The states that runs from an initialised region reach. -/
abbrev Session.Reachable (header : SharedMemoryHeader) : Session → Prop :=
  System.Reach (fun s op t => op.exec s = .ok t) (fun _ (_ : SessionOp) => True) (.start header)

/-- The invariant of a session. -/
structure Balanced (s : Session) : Prop where
  wf : s.shm.WF
  requests : s.sent = s.served ++ s.shm.kernelToDaemon.contents
  responses : ((s.received ++ s.shm.daemonToKernel.contents).map (·.key)).Sublist
    (s.served.map (·.key))
  taken : s.shm.messagesReceived = UInt64.ofNat s.served.length
  sent : s.shm.messagesSent =
    UInt64.ofNat (s.received.length + s.shm.daemonToKernel.contents.length)
  total : s.shm.messagesReceived = s.shm.messagesSent + s.shm.errors

theorem Session.start_balanced (header : SharedMemoryHeader) : Balanced (.start header) :=
  ⟨initializeIpcQueues_wf header, rfl, .slnil, rfl, rfl, rfl⟩

namespace Balanced

variable {s : Session}

theorem kernelSend (h : Balanced s) (msg : IpcMessage) :
    ∃ t, (SessionOp.kernelSend msg).exec s = .ok t ∧ Balanced t := by
  have hk : s.shm.kernelToDaemon.WF := h.wf .kernelToDaemon
  rw [SessionOp.exec, ipcSendMessage_spec hk]
  by_cases hl : s.shm.kernelToDaemon.contents.length < ipcQueueSize
  · have hc : s.shm.kernelToDaemon.count.toNat < ipcQueueSize := by simpa using hl
    rw [if_pos hl]
    refine ⟨_, rfl, { h with wf := .of (hk.pushed hc msg) (h.wf .daemonToKernel), requests := ?_ }⟩
    show s.sent ++ [msg] = s.served ++ (s.shm.kernelToDaemon.pushed msg).contents
    rw [hk.pushed_contents hc, h.requests, List.append_assoc]
  · rw [if_neg hl]
    exact ⟨_, rfl, { h with wf := h.wf }⟩

theorem kernelReceive (h : Balanced s) (buffer : IpcMessage) :
    ∃ t, (SessionOp.kernelReceive buffer).exec s = .ok t ∧ Balanced t := by
  have hd : s.shm.daemonToKernel.WF := h.wf .daemonToKernel
  rw [SessionOp.exec, ipcReceiveMessage_spec hd]
  by_cases he : s.shm.daemonToKernel.count.toNat = 0
  · have hn : s.shm.daemonToKernel.contents = [] := List.eq_nil_of_length_eq_zero (by simpa using he)
    rw [hn]
    exact ⟨_, rfl, { h with wf := h.wf }⟩
  · have hcons := hd.contents_cons he
    have hresp := h.responses
    have hsent := h.sent
    rw [hcons] at hresp hsent ⊢
    refine ⟨_, rfl, { h with
      wf := .of (h.wf .kernelToDaemon) (hd.popped he)
      responses := ?_
      sent := ?_ }⟩
    · simpa [List.append_assoc] using hresp
    · refine hsent.trans (congrArg UInt64.ofNat ?_)
      simp only [↓reduceIte, List.length_append, List.length_cons, List.length_nil]
      omega

theorem daemon (h : Balanced s) (fw : RuntimeServices) (stack : Stack) :
    ∃ t, (SessionOp.daemon fw stack).exec s = .ok t ∧ Balanced t := by
  obtain ⟨d, responses, he, hran⟩ := daemonMessageLoop_spec fw stack h.wf
  generalize toServe maxMessages s.shm.kernelToDaemon.contents = requests at hran
  have hserved : d.served = requests := hran.served
  have htaken : s.shm.kernelToDaemon.contents = requests ++ d.shm.kernelToDaemon.contents := hran.taken
  have happ : d.shm.daemonToKernel.contents = s.shm.daemonToKernel.contents ++ responses :=
    hran.appended
  have hreceived : d.shm.messagesReceived = s.shm.messagesReceived + UInt64.ofNat requests.length :=
    hran.received
  have hsent : d.shm.messagesSent = s.shm.messagesSent + UInt64.ofNat responses.length := hran.sent
  have herrors : d.shm.errors =
      s.shm.errors + UInt64.ofNat (requests.length - responses.length) := hran.errors
  rw [SessionOp.exec, he]
  refine ⟨_, rfl, {
    wf := hran.wf
    requests := ?_
    responses := ?_
    taken := ?_
    sent := ?_
    total := ?_ }⟩
  · show s.sent = s.served ++ d.served ++ d.shm.kernelToDaemon.contents
    rw [hserved, List.append_assoc, ← htaken, h.requests]
  · -- old responses answer old requests, new ones answer new ones
    have happend := h.responses.append (hran.keys.trans (List.filter_sublist.map _))
    simpa only [happ, hserved, List.map_append, List.append_assoc] using happend
  · show d.shm.messagesReceived = UInt64.ofNat (s.served ++ d.served).length
    rw [hreceived, h.taken, hserved, List.length_append, UInt64.ofNat_add]
  · show d.shm.messagesSent =
      UInt64.ofNat (s.received.length + d.shm.daemonToKernel.contents.length)
    rw [hsent, h.sent, happ, List.length_append, ← UInt64.ofNat_add, Nat.add_assoc]
  · have hsplit : UInt64.ofNat requests.length =
        UInt64.ofNat responses.length + UInt64.ofNat (requests.length - responses.length) := by
      rw [← UInt64.ofNat_add, Nat.add_sub_of_le hran.length_le]
    calc d.shm.messagesReceived
        = s.shm.messagesReceived + UInt64.ofNat requests.length := hreceived
      _ = s.shm.messagesSent + s.shm.errors + (UInt64.ofNat responses.length +
          UInt64.ofNat (requests.length - responses.length)) := by rw [h.total, hsplit]
      _ = s.shm.messagesSent + UInt64.ofNat responses.length +
          (s.shm.errors + UInt64.ofNat (requests.length - responses.length)) := by ac_rfl
      _ = d.shm.messagesSent + d.shm.errors := by rw [hsent, herrors]

/-- **Every operation can be carried out and keeps the books balanced.** -/
theorem exec (h : Balanced s) : ∀ op : SessionOp, ∃ t, op.exec s = .ok t ∧ Balanced t
  | .kernelSend msg => h.kernelSend msg
  | .kernelReceive buffer => h.kernelReceive buffer
  | .daemon fw stack => h.daemon fw stack

end Balanced

/-- **The books balance in every reached state.** Successful kernel sends are
the requests still queued plus `messages_received`; `messages_sent` is the
responses still queued plus the successful kernel receives;
`messages_received` is `messages_sent` plus `errors`; and the responses, those
received and then those queued, are by type, timestamp and sequence number a
subsequence of the requests taken. No operation faults. -/
theorem books_balance (header : SharedMemoryHeader) {s : Session} (h : Session.Reachable header s) :
    UInt64.ofNat s.sent.length = s.shm.kernelToDaemon.count.toUInt64 + s.shm.messagesReceived ∧
      s.shm.messagesSent = s.shm.daemonToKernel.count.toUInt64 + UInt64.ofNat s.received.length ∧
      s.shm.messagesReceived = s.shm.messagesSent + s.shm.errors ∧
      s.sent = s.served ++ s.shm.kernelToDaemon.contents ∧
      ((s.received ++ s.shm.daemonToKernel.contents).map (·.key)).Sublist (s.served.map (·.key)) ∧
      ∀ op : SessionOp, ∃ t, op.exec s = .ok t := by
  have hb : Balanced s := by
    refine h.invariant (Session.start_balanced header) fun s op t hI _ hst => ?_
    obtain ⟨u, hu, hU⟩ := hI.exec op
    exact Except.ok.inj (hu.symm.trans hst) ▸ hU
  refine ⟨?_, ?_, hb.total, hb.requests, hb.responses, fun op => ?_⟩
  · rw [hb.requests, hb.taken, List.length_append, IpcQueue.contents_length, Nat.add_comm,
      UInt64.ofNat_add, UInt64.ofNat_uInt32ToNat]
  · rw [hb.sent, IpcQueue.contents_length, Nat.add_comm, UInt64.ofNat_add, UInt64.ofNat_uInt32ToNat]
  · obtain ⟨t, ht, -⟩ := hb.exec op
    exact ⟨t, ht⟩

/-- A `GET_TIME` request, sent, answered and its response received. -/
theorem books_balance_getTime : ∃ s, Session.Reachable .zero s ∧ s.sent.length = 1 ∧
    s.received.length = 1 ∧ UInt64.ofNat s.sent.length =
      s.shm.kernelToDaemon.count.toUInt64 + s.shm.messagesReceived := by
  have h : Session.Reachable .zero (.start .zero) := .init
  have h1 := h.step (a := .kernelSend { IpcMessage.zero with type := ipcMsgGetTime }) trivial rfl
  have h2 := h1.step (a := .daemon .idle .zero) trivial rfl
  have h3 := h2.step (a := .kernelReceive .zero) trivial rfl
  exact ⟨_, h3, rfl, rfl, (books_balance .zero h3).1⟩

end Dos25
