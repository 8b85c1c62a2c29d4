/-
# Two runs that should not differ

What a request did not declare and what the stack happened to hold should not
show in what the daemon does. Two requests with the same header and the same
declared bytes (`SameDeclared`) are handled alike unless a `GET_VARIABLE` name
runs out of the declared bytes before its terminator: `handle_get_variable`
alone never looks at the size (`declaredOnly_iff`). Two runs on different
stacks append the same responses unless a local is copied that the firmware
left unwritten: `handle_get_variable` copies its `attributes` whatever the
status says (`same_responses_iff`).

Key definitions: `IpcMessage.SameDeclared`, `IpcMessage.DeclaredOnly`.
-/
import Dos25.Outcomes
import Dos25.Lib.Scan

namespace Dos25

open Bytes

/-! ### What a request declares -/

/-- The same header, and the same declared bytes. -/
structure IpcMessage.SameDeclared (r r' : IpcMessage) : Prop where
  header : r' = { r with data := r'.data }
  data : ∀ i : Fin ipcMaxDataSize, i < min r.size.toNat ipcMaxDataSize → r'.data i = r.data i

/-- What the request does not declare makes no difference: neither to the
firmware calls nor to the response. -/
def IpcMessage.DeclaredOnly (r : IpcMessage) : Prop :=
  ∀ r', r.SameDeclared r' → ∀ fw stack calls running response,
    processMessage fw stack calls running r' response =
      processMessage fw stack calls running r response

/-- A NUL character among the declared ones. -/
def IpcMessage.DeclaresNul (r : IpcMessage) : Prop :=
  ∃ k, 2 * k + 2 ≤ min r.size.toNat ipcMaxDataSize ∧ (char16s r.data)[k]? = some 0

namespace IpcMessage.SameDeclared

variable {r r' : IpcMessage}

theorem read_eq (h : r.SameDeclared r') {off k : ℕ}
    (hk : off + k ≤ min r.size.toNat ipcMaxDataSize) :
    Bytes.read r'.data off k = Bytes.read r.data off k :=
  read_congr fun i hi => h.data i (hi.trans_le hk)

/-- The declared characters agree. -/
theorem take_char16s (h : r.SameDeclared r') {k : ℕ} (hk : 2 * k ≤ min r.size.toNat ipcMaxDataSize) :
    (char16s r'.data).take k = (char16s r.data).take k := by
  unfold char16s
  rw [← List.map_take, ← List.map_take, List.take_range]
  refine List.map_congr_left fun i hi => ?_
  have hik := List.mem_range.mp hi
  rw [h.read_eq (by omega)]

/-- A name that ends in the declared bytes is the same name. -/
theorem varName_eq (h : r.SameDeclared r') (hn : r.DeclaresNul) :
    r'.varName = r.varName ∧ r'.varNameEnds = r.varNameEnds := by
  obtain ⟨k, hk, hnul⟩ := hn
  have htake := h.take_char16s (k := k + 1) (by omega)
  have hnul' : (char16s r'.data)[k]? = some 0 := by
    rw [← List.getElem?_take_of_lt (Nat.lt_succ_self k), htake,
      List.getElem?_take_of_lt (Nat.lt_succ_self k), hnul]
  refine ⟨Scan.takeWhile_eq_of_take_eq htake hnul' (by simp), ?_⟩
  rw [varNameEnds, varNameEnds, List.contains_iff_mem.mpr (List.mem_of_getElem? hnul),
    List.contains_iff_mem.mpr (List.mem_of_getElem? hnul')]

/-- Every handler but `handle_get_variable` asks for the bytes it uses. -/
theorem processMessage_eq (h : r.SameDeclared r')
    (hname : r.type = ipcMsgGetVariable → r'.varName = r.varName ∧ r'.varNameEnds = r.varNameEnds)
    (fw : RuntimeServices) (stack : StackLocals) (calls : List FirmwareCall) (running : Bool)
    (response : IpcMessage) : processMessage fw stack calls running r' response =
      processMessage fw stack calls running r response := by
  obtain ⟨data, rfl⟩ : ∃ data, r' = { r with data := data } := ⟨_, h.header⟩
  unfold processMessage
  split_ifs with h1 h2 h3 h4 h5
  · refine congrArg (·, running) ?_
    unfold handleResetSystem
    by_cases hs : r.size < 4
    · rw [if_pos hs, if_pos hs]
      rfl
    · have hread : Bytes.read data 0 4 = Bytes.read r.data 0 4 := by
        rw [UInt32.not_lt, UInt32.le_iff_toNat_le] at hs
        exact h.read_eq (Nat.le_min.mpr ⟨hs, by decide⟩)
      rw [if_neg hs, if_neg hs]
      dsimp only
      rw [hread]
      rfl
  · rfl
  · refine congrArg (·, running) ?_
    unfold handleSetTime
    by_cases hs : r.size < 16
    · rw [if_pos hs, if_pos hs]
      rfl
    · have htime : ∀ i : Fin 16, data (i.castLE efiTime_le) = r.data (i.castLE efiTime_le) := by
        intro i
        rw [UInt32.not_lt, UInt32.le_iff_toNat_le] at hs
        exact h.data _ (Nat.lt_min.mpr ⟨i.isLt.trans_le hs, i.isLt.trans_le (by decide)⟩)
      rw [if_neg hs, if_neg hs]
      dsimp only
      simp only [htime]
      rfl
  · obtain ⟨hvar, hends⟩ := hname h4
    unfold IpcMessage.varName at hvar
    unfold IpcMessage.varNameEnds at hends
    refine congrArg (·, running) ?_
    unfold handleGetVariable
    dsimp only at hvar hends ⊢
    rw [hvar, hends]
    rfl
  · rfl
  · rfl

end IpcMessage.SameDeclared

theorem char16s_getElem? (data : Fin ipcMaxDataSize → UInt8) {k : ℕ} (hk : 2 * k + 1 < ipcMaxDataSize) :
    (char16s data)[k]? = some (UInt16.ofNat
      ((data ⟨2 * k, by omega⟩).toNat + 256 * (data ⟨2 * k + 1, hk⟩).toNat)) := by
  have hread : read data (2 * k) 2 = [data ⟨2 * k, by omega⟩, data ⟨2 * k + 1, hk⟩] := by
    have h0 : 2 * k < ipcMaxDataSize := by omega
    simp [Bytes.read, List.range_succ, h0, hk]
  have hrange : k < ipcMaxDataSize / 2 := by omega
  rw [char16s, List.getElem?_map, List.getElem?_range hrange, Option.map_some, hread]
  rfl

/-- The request with one byte of its data changed. -/
def IpcMessage.changed (r : IpcMessage) (i : Fin ipcMaxDataSize) : IpcMessage :=
  { r with data := Function.update r.data i (r.data i + 1) }

theorem IpcMessage.sameDeclared_changed {r : IpcMessage} {i : Fin ipcMaxDataSize}
    (h : r.size.toNat ≤ i) : r.SameDeclared (r.changed i) where
  header := rfl
  data j hj := Function.update_of_ne (by rintro rfl; omega) _ _

theorem IpcMessage.firmwareCall_getVariable {r : IpcMessage} (h : r.type = ipcMsgGetVariable) :
    r.firmwareCall = some (.getVariable r.varName r.varNameEnds (UInt64.ofNat variableDataSize)) := by
  rw [firmwareCall, h]
  rfl

/-- A name without a terminator among the declared bytes of a message with
bytes to spare takes in the character behind them. -/
theorem IpcMessage.not_declaredOnly {r : IpcMessage} (ht : r.type = ipcMsgGetVariable)
    (hn : ¬ r.DeclaresNul) (hs : r.size.toNat < ipcMaxDataSize) : ¬ r.DeclaredOnly := by
  intro h
  have hmax : ipcMaxDataSize = 4096 := rfl
  -- the first character not declared whole; its high byte is not declared
  let k := r.size.toNat / 2
  have hk : 2 * k + 1 < ipcMaxDataSize := by omega
  let i : Fin ipcMaxDataSize := ⟨2 * k + 1, hk⟩
  have hsame : r.SameDeclared (r.changed i) := sameDeclared_changed (by show _ ≤ 2 * k + 1; omega)
  have hname : (r.changed i).varName = r.varName := by
    have hcalls := congrArg (·.1.calls) (h _ hsame .idle ⟨fun _ => 0, 0⟩ [] true .zero)
    simp only [processMessage_calls, List.nil_append] at hcalls
    rw [firmwareCall_getVariable ht, firmwareCall_getVariable (r := r.changed i) ht] at hcalls
    simp only [Option.toList_some, List.cons.injEq, FirmwareCall.getVariable.injEq] at hcalls
    exact hcalls.1.1
  have hnonzero : ∀ c ∈ (char16s (r.changed i).data).take k, decide (c ≠ 0) = true := by
    rw [hsame.take_char16s (by omega)]
    intro c hc
    obtain ⟨j, hj, rfl⟩ := List.mem_iff_getElem.mp hc
    rw [List.length_take] at hj
    refine decide_eq_true fun hzero => hn ⟨j, by omega, ?_⟩
    rw [List.getElem_take] at hzero
    rw [List.getElem?_eq_getElem (by omega), hzero]
  have hchar := Scan.getElem?_eq_of_takeWhile_eq (p := fun c : UInt16 => decide (c ≠ 0))
    (by simp) (hsame.take_char16s (by omega)) hnonzero hname
    (char16s_getElem? _ hk) (char16s_getElem? _ hk)
  have hlow : (r.changed i).data ⟨2 * k, by omega⟩ = r.data ⟨2 * k, by omega⟩ :=
    Function.update_of_ne (by simp [i]) _ _
  have hhigh : (r.changed i).data ⟨2 * k + 1, hk⟩ = r.data ⟨2 * k + 1, hk⟩ + 1 :=
    Function.update_self _ _ _
  rw [hlow, hhigh, ← UInt16.toNat_inj, UInt16.toNat_ofNat', UInt16.toNat_ofNat', UInt8.toNat_add,
    UInt8.toNat_one] at hchar
  have hl := (r.data ⟨2 * k, by omega⟩).toNat_lt
  have hh := (r.data ⟨2 * k + 1, hk⟩).toNat_lt
  omega

namespace IpcMessage

variable {r : IpcMessage}

theorem declaredOnly_iff : r.DeclaredOnly ↔
    (r.type = ipcMsgGetVariable → r.DeclaresNul ∨ ipcMaxDataSize ≤ r.size.toNat) := by
  constructor
  · intro h ht
    by_contra hn
    rw [not_or, Nat.not_le] at hn
    exact not_declaredOnly ht hn.1 hn.2 h
  · intro h r' hsame
    refine hsame.processMessage_eq fun ht => ?_
    rcases h ht with hn | hs
    · exact hsame.varName_eq hn
    · have hdata : r'.data = r.data :=
        funext fun i => hsame.data i (Nat.lt_min.mpr ⟨i.isLt.trans_le hs, i.isLt⟩)
      rw [varName, varName, varNameEnds, varNameEnds, hdata]
      exact ⟨rfl, rfl⟩

/-- The name passed to `GetVariable` ends, with its terminator, among the
declared bytes. -/
def NameDeclared (r : IpcMessage) : Prop :=
  ∀ name ends dataSize, r.firmwareCall = some (.getVariable name ends dataSize) →
    ends = true ∧ 2 * (name.length + 1) ≤ min r.size.toNat ipcMaxDataSize

theorem nameDeclared_iff : r.NameDeclared ↔ (r.type = ipcMsgGetVariable → r.DeclaresNul) := by
  constructor
  · intro h ht
    obtain ⟨hends, hle⟩ := h _ _ _ (firmwareCall_getVariable ht)
    rw [varNameEnds, List.contains_iff_mem] at hends
    obtain ⟨c, hc, hzero⟩ := Scan.getElem?_length_takeWhile
      (p := fun c : UInt16 => decide (c ≠ 0)) ⟨0, hends, by decide⟩
    have hc0 : c = 0 := by simpa using hzero
    exact ⟨r.varName.length, hle, hc0 ▸ hc⟩
  · intro h name ends dataSize hcall
    have ht : r.type = ipcMsgGetVariable := by
      unfold firmwareCall at hcall
      split_ifs at hcall with h1 h2 h3 h4 h5 h6
      · simp at hcall
      · simp at hcall
      · simp at hcall
      · exact h6
    obtain ⟨k, hk, hnul⟩ := h ht
    rw [firmwareCall_getVariable ht] at hcall
    simp only [Option.some.injEq, FirmwareCall.getVariable.injEq] at hcall
    obtain ⟨rfl, rfl, -⟩ := hcall
    have hzero : decide ((0 : UInt16) ≠ 0) = false := by decide
    have hlength : r.varName.length ≤ k := Scan.length_takeWhile_le hnul hzero
    rw [varNameEnds, List.contains_iff_mem]
    refine ⟨List.mem_of_getElem? hnul, ?_⟩
    calc 2 * (r.varName.length + 1)
        ≤ 2 * (k + 1) := Nat.mul_le_mul_left 2 (Nat.succ_le_succ hlength)
      _ ≤ min r.size.toNat ipcMaxDataSize := hk

end IpcMessage

/-- **What a request has to declare.** What it does not declare makes no
difference if and only if it is no `GET_VARIABLE`, declares a NUL character or
fills the message; and the name passed to the firmware ends among the declared
bytes as well if and only if such a NUL character is there. -/
theorem processMessage_declared_iff (r : IpcMessage) :
    (r.DeclaredOnly ↔
      (r.type = ipcMsgGetVariable → r.DeclaresNul ∨ ipcMaxDataSize ≤ r.size.toNat)) ∧
    (r.DeclaredOnly ∧ r.NameDeclared ↔ (r.type = ipcMsgGetVariable → r.DeclaresNul)) := by
  refine ⟨IpcMessage.declaredOnly_iff, ?_⟩
  rw [IpcMessage.declaredOnly_iff, IpcMessage.nameDeclared_iff]
  exact ⟨And.right, fun h => ⟨fun ht => .inl (h ht), h⟩⟩

/-- A `GET_VARIABLE` request that declares no byte at all. -/
theorem undeclared_name_used : ¬ ∀ r : IpcMessage, r.DeclaredOnly := by
  intro h
  refine IpcMessage.not_declaredOnly (r := { IpcMessage.zero with type := ipcMsgGetVariable }) rfl
    ?_ (by decide) (h _)
  rintro ⟨k, hk, -⟩
  have hzero : min (IpcMessage.zero.size.toNat) ipcMaxDataSize = 0 := rfl
  rw [hzero] at hk
  omega

/-! ### What the stack held -/

namespace Turn

variable {fw : RuntimeServices} {t : Turn}

/-- Every local the response copies was written by the firmware. -/
structure Written (fw : RuntimeServices) (t : Turn) : Prop where
  time : t.request.type = ipcMsgGetTime → efiError (t.getTimeResult fw).status = false →
    (t.getTimeResult fw).time.isSome = true
  attributes : t.request.type = ipcMsgGetVariable →
    (t.getVariableResult fw).attributes.isSome = true

/-- Locals that differ throughout. -/
def zeros : ℕ → StackLocals := fun _ => ⟨fun _ => 0, 0⟩

def ones : ℕ → StackLocals := fun _ => ⟨fun _ => 1, 1⟩

theorem Written.response_eq (h : t.Written fw) (ha : t.request.answerable = true)
    (locals locals' : ℕ → StackLocals) : t.response fw locals = t.response fw locals' := by
  rcases t.request.answerable_iff.mp ha with ⟨ht, hs⟩ | ht | ⟨ht, hs⟩ | ht | ht
  · rw [t.response_resetSystem fw _ ht hs, t.response_resetSystem fw _ ht hs]
  · rw [t.response_getTime fw locals ht, t.response_getTime fw locals' ht]
    dsimp only
    split_ifs with he
    · rfl
    · obtain ⟨time, hw⟩ := Option.isSome_iff_exists.mp (h.time ht (Bool.eq_false_of_not_eq_true he))
      rw [hw, Option.getD_some, Option.getD_some]
  · rw [t.response_setTime fw _ ht hs, t.response_setTime fw _ ht hs]
  · obtain ⟨attributes, hw⟩ := Option.isSome_iff_exists.mp (h.attributes ht)
    rw [t.response_getVariable fw locals ht, t.response_getVariable fw locals' ht, hw,
      Option.getD_some, Option.getD_some]
  · rw [t.response_shutdown fw _ ht, t.response_shutdown fw _ ht]

/-- A local left unwritten and copied shows. -/
theorem written_of_response_eq (h : t.response fw zeros = t.response fw ones) : t.Written fw where
  time ht he := by
    by_contra hnone
    rw [Bool.not_eq_true, Option.isSome_eq_false_iff, Option.isNone_iff_eq_none] at hnone
    have hzeros := (read_getTime fw zeros ht).2 he
    have hones := (read_getTime fw ones ht).2 he
    rw [hnone, Option.getD_none] at hzeros hones
    rw [h, hones] at hzeros
    exact absurd hzeros
      (show List.ofFn (fun _ : Fin 16 => (1 : UInt8)) ≠ List.ofFn fun _ => 0 by decide)
  attributes ht := by
    by_contra hnone
    rw [Bool.not_eq_true, Option.isSome_eq_false_iff, Option.isNone_iff_eq_none] at hnone
    have hzeros := (read_getVariable fw zeros ht).2.1
    have hones := (read_getVariable fw ones ht).2.1
    rw [hnone, Option.getD_none] at hzeros hones
    rw [h, hones] at hzeros
    exact absurd hzeros (show encode 4 (1 : UInt32).toNat ≠ encode 4 (0 : UInt32).toNat by decide)

end Turn

/-- **When the stack does not show.** On well-formed queues a run never faults,
and any two stacks lead to the same messages on `daemon_to_kernel` if and only
if, in the turns answered, the firmware writes the time of every `GET_TIME`
that does not fail and the attributes of every `GET_VARIABLE`. -/
theorem same_responses_iff (fw : RuntimeServices) {shm : SharedMemoryHeader} (h : shm.WF) :
    (∀ stack, ∃ d, daemonMessageLoop (some shm) (some fw) stack = .ok (.success, some d)) ∧
    ((∀ stack stack' d d', daemonMessageLoop (some shm) (some fw) stack = .ok (.success, some d) →
        daemonMessageLoop (some shm) (some fw) stack' = .ok (.success, some d') →
        d.shm.daemonToKernel.contents = d'.shm.daemonToKernel.contents) ↔
      ∀ t ∈ shm.answeredTurns, t.Written fw) := by
  have hrun := fun stack => daemonMessageLoop_responses fw stack h
  have hresponses : ∀ {stack d}, daemonMessageLoop (some shm) (some fw) stack =
      .ok (.success, some d) → d.shm.daemonToKernel.contents =
        shm.daemonToKernel.contents ++ shm.answeredTurns.map (Turn.response fw stack.locals) := by
    intro stack d he
    obtain ⟨d', he', hr⟩ := hrun stack
    rw [he, Except.ok.injEq, Prod.mk.injEq, Option.some.injEq] at he'
    rw [he'.2, hr]
  refine ⟨fun stack => (hrun stack).imp fun _ hd => hd.1, fun hsame t ht => ?_, ?_⟩
  · let stack (locals : ℕ → StackLocals) : Stack := ⟨.zero, .zero, locals⟩
    obtain ⟨d, he, hr⟩ := hrun (stack Turn.zeros)
    obtain ⟨d', he', hr'⟩ := hrun (stack Turn.ones)
    have hmap := hsame _ _ d d' he he'
    rw [hr, hr', List.append_cancel_left_eq] at hmap
    exact Turn.written_of_response_eq (List.map_inj_left.mp hmap t ht)
  · intro hwritten stack stack' d d' he he'
    rw [hresponses he, hresponses he', List.append_cancel_left_eq]
    exact List.map_congr_left fun t ht =>
      (hwritten t ht).response_eq (shm.answerable_of_mem ht) stack.locals stack'.locals

theorem same_responses_iff_getTime :
    let shm := oneRequest { IpcMessage.zero with type := ipcMsgGetTime }
    let fw : RuntimeServices := .refusing efiUnsupported 0
    ∃ d d', daemonMessageLoop (some shm) (some fw) ⟨.zero, .zero, Turn.zeros⟩ =
        .ok (.success, some d) ∧
      daemonMessageLoop (some shm) (some fw) ⟨.zero, .zero, Turn.ones⟩ = .ok (.success, some d') ∧
      d.shm.daemonToKernel.contents = d'.shm.daemonToKernel.contents := by
  intro shm fw
  obtain ⟨hrun, hiff⟩ := same_responses_iff fw (show shm.WF from oneRequest_wf _)
  have hwritten : ∀ t ∈ shm.answeredTurns, t.Written fw := by
    rw [oneRequest_answeredTurns (by decide)]
    intro t ht
    rw [List.mem_singleton.mp ht]
    exact ⟨fun _ he => absurd he (show ¬ efiError efiUnsupported = false by decide),
      fun ht => absurd ht (show ¬ ipcMsgGetTime = ipcMsgGetVariable by decide)⟩
  obtain ⟨d, he⟩ := hrun ⟨.zero, .zero, Turn.zeros⟩
  obtain ⟨d', he'⟩ := hrun ⟨.zero, .zero, Turn.ones⟩
  exact ⟨d, d', he, he', hiff.mpr hwritten _ _ d d' he he'⟩

/-- `EFI_NOT_FOUND`. -/
def efiNotFound : EfiStatus := 0x800000000000000E

/-- A variable that does not exist: `GetVariable` writes no attributes, and the
response carries what the stack held. -/
theorem missing_variable_shows_stack :
    ¬ ∀ (fw : RuntimeServices) (shm : SharedMemoryHeader) (stack stack' : Stack) (d d' : Daemon),
      fw.Conforms → shm.WF →
      daemonMessageLoop (some shm) (some fw) stack = .ok (.success, some d) →
      daemonMessageLoop (some shm) (some fw) stack' = .ok (.success, some d') →
      d.shm.daemonToKernel.contents = d'.shm.daemonToKernel.contents := by
  intro h
  let fw : RuntimeServices := .refusing efiNotFound 4084
  have hwf := oneRequest_wf getVariableRequest
  obtain ⟨d, he, hr⟩ := daemonMessageLoop_responses fw ⟨.zero, .zero, Turn.zeros⟩ hwf
  obtain ⟨d', he', hr'⟩ := daemonMessageLoop_responses fw ⟨.zero, .zero, Turn.ones⟩ hwf
  have hsame := h fw _ _ _ d d' (RuntimeServices.refusing_conforms (by decide) _) hwf he he'
  rw [hr, hr', oneRequest_answeredTurns (by decide), List.append_cancel_left_eq, List.map_singleton,
    List.map_singleton, List.cons.injEq] at hsame
  exact absurd ((Turn.written_of_response_eq hsame.1).attributes rfl) (by decide)

end Dos25
