/-
# No request waits for ever

A run of the daemon that finds requests takes at least one, and as many as
five where no shutdown is among them. Sends, receives and further runs do not
change that. So whatever kernel and daemon do from a reached state on, `k` runs
of the daemon take the first `k` of the requests that wait there, or the first
`5 * k` if none of these is a shutdown (`served_within`).

Key definitions: `Session.execAll`, `daemonRate`, `Session.Later`.
-/
import Dos25.Ledger
import Dos25.Turns
import Mathlib.Data.List.Infix

namespace Dos25

def SessionOp.isDaemon : SessionOp → Bool
  | .daemon _ _ => true
  | _ => false

/-- One operation after the other. -/
def Session.execAll (s : Session) (ops : List SessionOp) : Except Fault Session :=
  ops.foldlM SessionOp.exec s

/-- The requests that wait. -/
def Session.pending (s : Session) : List IpcMessage := s.shm.kernelToDaemon.contents

/-- What a run of the daemon takes of these requests at least, as long as there
are so many. -/
def daemonRate (pending : List IpcMessage) : ℕ :=
  if pending.any (·.type == ipcMsgShutdown) then 1 else maxMessages

/-- `t` comes after `s`, with `n` more requests taken. -/
structure Session.Later (s t : Session) (n : ℕ) : Prop where
  balanced : Balanced t
  sent : s.sent <+: t.sent
  served : s.served.length + n ≤ t.served.length

/-! ### The rate -/

theorem daemonRate_le_drop (pending : List IpcMessage) (n : ℕ) :
    daemonRate pending ≤ daemonRate (pending.drop n) := by
  unfold daemonRate
  by_cases hdrop : (pending.drop n).any (·.type == ipcMsgShutdown) = true
  · have hany : pending.any (·.type == ipcMsgShutdown) = true := by
      obtain ⟨r, hr, ht⟩ := List.any_eq_true.mp hdrop
      exact List.any_eq_true.mpr ⟨r, List.mem_of_mem_drop hr, ht⟩
    rw [if_pos hany, if_pos hdrop]
  · rw [if_neg hdrop]
    split_ifs <;> decide

/-- Requests that come later do not lower what a run takes. -/
theorem min_daemonRate_le_servedCount (pending later : List IpcMessage) :
    min pending.length (daemonRate pending) ≤ servedCount (pending ++ later) := by
  unfold servedCount daemonRate
  rw [List.length_append]
  by_cases hany : pending.any (·.type == ipcMsgShutdown) = true
  · rw [if_pos hany]
    have hmax : 1 ≤ maxMessages := by decide
    omega
  · have hnone : pending.findIdx (·.type == ipcMsgShutdown) = pending.length := by
      rw [List.findIdx_eq_length]
      intro r hr
      exact Bool.eq_false_iff.mpr fun ht => hany (List.any_eq_true.mpr ⟨r, hr, ht⟩)
    rw [if_neg hany, List.findIdx_append, hnone, if_neg (Nat.lt_irrefl _)]
    omega

/-! ### One operation -/

section

variable {s t : Session}

theorem kernelSend_later {msg : IpcMessage} (h : (SessionOp.kernelSend msg).exec s = .ok t) :
    s.sent <+: t.sent ∧ t.served = s.served := by
  rw [SessionOp.exec] at h
  cases hsend : ipcSendMessage s.shm.kernelToDaemon msg with
  | error fault => simp [hsend, bind, Except.bind] at h
  | ok result =>
    rw [hsend] at h
    obtain rfl := Except.ok.inj h
    refine ⟨?_, rfl⟩
    show s.sent <+: if result.1 = .success then s.sent ++ [msg] else s.sent
    split_ifs
    · exact List.prefix_append _ _
    · exact List.prefix_rfl

theorem kernelReceive_later {buffer : IpcMessage}
    (h : (SessionOp.kernelReceive buffer).exec s = .ok t) :
    t.sent = s.sent ∧ t.served = s.served := by
  rw [SessionOp.exec] at h
  cases hreceive : ipcReceiveMessage s.shm.daemonToKernel buffer with
  | error fault => simp [hreceive, bind, Except.bind] at h
  | ok result =>
    rw [hreceive] at h
    obtain rfl := Except.ok.inj h
    exact ⟨rfl, rfl⟩

/-- A run of the daemon takes what it serves. -/
theorem daemon_later (hs : Balanced s) {fw : RuntimeServices} {stack : Stack}
    (h : (SessionOp.daemon fw stack).exec s = .ok t) :
    t.sent = s.sent ∧ t.served.length = s.served.length + servedCount s.pending := by
  obtain ⟨d, he, hran⟩ := daemonMessageLoop_turns fw stack hs.wf
  have hserved : d.served = toServe maxMessages s.pending := hran.served
  have hle : servedCount s.pending ≤ s.pending.length := by
    unfold servedCount
    omega
  rw [SessionOp.exec, he] at h
  obtain rfl := Except.ok.inj h
  refine ⟨rfl, ?_⟩
  show (s.served ++ d.served).length = s.served.length + servedCount s.pending
  rw [hserved, toServe_eq_take, List.length_append, List.length_take_of_le hle]

/-- **What one operation does for the requests that wait.** -/
theorem exec_later (hs : Balanced s) (op : SessionOp) : ∃ t, op.exec s = .ok t ∧
    s.Later t (if op.isDaemon then servedCount s.pending else 0) := by
  obtain ⟨t, ht, hbalanced⟩ := hs.exec op
  refine ⟨t, ht, hbalanced, ?_, ?_⟩
  · cases op with
    | kernelSend msg => exact (kernelSend_later ht).1
    | kernelReceive buffer => exact (kernelReceive_later ht).1 ▸ List.prefix_rfl
    | daemon fw stack => exact (daemon_later hs ht).1 ▸ List.prefix_rfl
  · cases op with
    | kernelSend msg => exact (congrArg List.length (kernelSend_later ht).2).ge
    | kernelReceive buffer => exact (congrArg List.length (kernelReceive_later ht).2).ge
    | daemon fw stack => exact (daemon_later hs ht).2.ge

/-! ### Any operations -/

/-- Requests that were sent when the operations begin: each daemon run takes
`rate` of them, while there are so many. -/
theorem execAll_later (rate : ℕ) (early : List IpcMessage) : ∀ (ops : List SessionOp) {s : Session},
    Balanced s → early <+: s.sent → rate ≤ daemonRate (early.drop s.served.length) →
    ∃ t, s.execAll ops = .ok t ∧ Balanced t ∧ s.sent <+: t.sent ∧
      min early.length (s.served.length + rate * ops.countP (·.isDaemon)) ≤ t.served.length
  | [], s, hs, _, _ => ⟨s, rfl, hs, List.prefix_rfl, Nat.min_le_right _ _⟩
  | op :: ops, s, hs, hearly, hrate => by
    obtain ⟨u, hu, hlater⟩ := exec_later hs op
    have hserved := hlater.served
    have hrate' : rate ≤ daemonRate (early.drop u.served.length) := by
      have hdrop := daemonRate_le_drop (early.drop s.served.length)
        (u.served.length - s.served.length)
      rw [List.drop_drop, Nat.add_sub_of_le (by omega)] at hdrop
      exact hrate.trans hdrop
    obtain ⟨t, ht, hbalanced, hsent, hcount⟩ :=
      execAll_later rate early ops hlater.balanced (hearly.trans hlater.sent) hrate'
    refine ⟨t, ?_, hbalanced, hlater.sent.trans hsent, ?_⟩
    · rw [Session.execAll, List.foldlM_cons, hu]
      exact ht
    · -- the early requests that wait come first in the queue
      have hpending : early.drop s.served.length <+: s.pending := by
        have hdrop := hearly.drop s.served.length
        rwa [hs.requests, List.drop_left] at hdrop
      obtain ⟨later, hqueue⟩ := hpending
      have htaken := min_daemonRate_le_servedCount (early.drop s.served.length) later
      rw [hqueue, List.length_drop] at htaken
      rw [List.countP_cons]
      by_cases hop : op.isDaemon = true
      · rw [if_pos hop] at hserved
        rw [if_pos hop, Nat.mul_succ]
        omega
      · rw [if_neg hop] at hserved
        rw [if_neg hop, Nat.add_zero]
        omega

end

/-- **No request waits for ever.** From every reached state, any operations can
be carried out one after the other, and `k` runs of the daemon among them take
the first `k` of the requests that wait, or the first `5 * k` if no shutdown is
among those that wait. -/
theorem served_within (header : SharedMemoryHeader) {s : Session}
    (h : Session.Reachable header s) (ops : List SessionOp) :
    ∃ t, s.execAll ops = .ok t ∧
      s.served ++ s.pending.take (daemonRate s.pending * ops.countP (·.isDaemon)) <+: t.served := by
  have hs : Balanced s := h.invariant (Session.start_balanced header) fun s op t hI _ hst => by
    obtain ⟨u, hu, hU⟩ := hI.exec op
    exact Except.ok.inj (hu.symm.trans hst) ▸ hU
  have hdrop : s.sent.drop s.served.length = s.pending := by
    rw [hs.requests]
    exact List.drop_left
  obtain ⟨t, ht, hbalanced, hsent, hcount⟩ := execAll_later (daemonRate s.pending) s.sent ops hs
    List.prefix_rfl (le_of_eq (congrArg daemonRate hdrop.symm))
  refine ⟨t, ht, ?_⟩
  have hfirst : s.served ++ s.pending.take (daemonRate s.pending * ops.countP (·.isDaemon)) <+:
      t.sent := by
    refine .trans ?_ hsent
    rw [hs.requests]
    exact (List.prefix_append_right_inj s.served).mpr (List.take_prefix _ _)
  have hserved : t.served <+: t.sent := by
    rw [hbalanced.requests]
    exact List.prefix_append _ _
  refine List.prefix_of_prefix_length_le hfirst hserved ?_
  rw [List.length_append, List.length_take]
  have hlen : s.sent.length = s.served.length + s.pending.length := by
    rw [hs.requests]
    exact List.length_append
  omega

/-- Two requests that wait, and a run. -/
theorem served_within_two : ∃ t, (Session.start .zero).execAll
    [.kernelSend .zero, .kernelSend .zero] = .ok t ∧ t.pending.length = 2 ∧
    ∃ u, t.execAll [.daemon .idle .zero] = .ok u ∧ 2 ≤ u.served.length := by
  have h : Session.Reachable .zero (.start .zero) := .init
  have h1 := h.step (a := .kernelSend .zero) trivial rfl
  have h2 := h1.step (a := .kernelSend .zero) trivial rfl
  obtain ⟨u, hu, hserved⟩ := served_within .zero h2 [.daemon .idle .zero]
  exact ⟨_, rfl, rfl, u, hu, hserved.length_le⟩

end Dos25
