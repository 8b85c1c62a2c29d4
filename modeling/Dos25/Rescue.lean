/-
# `hms.c`: the rescue system and its prompts

Every prompt reads the one standard input through a buffer of a fixed size.
`restore_from_backup` asks for two paths and a confirmation, and installs over
the target device if the confirmation reads "yes". Where an answer is longer
than its buffer the rest of the line answers the next prompt. So a restore is
proper, that is, it reads the device and the confirmation from lines of their
own and installs for a whole line "yes" only, exactly if the two paths fit
their buffers and neither a NUL nor an input that is over makes up the
confirmation (`restoreFromBackup_proper_iff`); and so are all restores of a run
(`restores_proper_iff`).

Printed text is left out, apart from the arguments of the installation.

Key definitions: `mainStep`, `mainRun`, `restoreFromBackup`, `Restore.Proper`,
`AnswersFit`.
-/
import Dos25.Lib.LineInput

namespace Dos25

open LineInput

/-! ### The code -/

def maxPathLength : ℕ := 256

inductive HmsState
  | booting
  | mainMenu
  | recovery
  | diagnostics
  | exit
  deriving DecidableEq, Repr

/-- What the local buffers of the functions called in one iteration hold before
they are written: C leaves it open. -/
structure Locals where
  choice : List UInt8
  backupPath : List UInt8
  devicePath : List UInt8
  confirmation : List UInt8
  bootPath : List UInt8
  kernelPath : List UInt8
  outputPath : List UInt8

/-- A call of `restore_from_backup`: the input as each of its prompts meets
it, and the paths it installs from and over, if it does. -/
structure Restore where
  backup : Stream
  device : Stream
  confirm : Stream
  install : Option (List UInt8 × List UInt8)

/-- The bytes of "yes". -/
def yes : List UInt8 := [0x79, 0x65, 0x73]

def restoreFromBackup (b : Locals) (stdin : Stream) : Restore × Stream :=
  let (backupPath, device) := fgets maxPathLength b.backupPath stdin
  let backupPath := chomp backupPath
  let (devicePath, confirm) := fgets maxPathLength b.devicePath device
  let devicePath := chomp devicePath
  let (confirmation, rest) := fgets 10 b.confirmation confirm
  let confirmation := chomp confirmation
  let install :=
    if cString confirmation = yes then some (cString backupPath, cString devicePath) else none
  (⟨stdin, device, confirm, install⟩, getchar rest)

def createBackup (b : Locals) (stdin : Stream) : Stream :=
  let (_, stdin) := fgets maxPathLength b.bootPath stdin
  let (_, stdin) := fgets maxPathLength b.kernelPath stdin
  let (_, stdin) := fgets maxPathLength b.outputPath stdin
  getchar stdin

def verifyBackup (b : Locals) (stdin : Stream) : Stream :=
  let (_, stdin) := fgets maxPathLength b.backupPath stdin
  getchar stdin

/-- `choice[0]` is looked at, and '1' is 0x31. -/
def systemRecoveryMenu (b : Locals) (stdin : Stream) : Option Restore × Stream :=
  let (choice, stdin) := fgets 10 b.choice stdin
  match choice.headD 0 with
  | 0x31 =>
    let (restore, stdin) := restoreFromBackup b stdin
    (some restore, stdin)
  | 0x32 => (none, createBackup b stdin)
  | 0x33 => (none, verifyBackup b stdin)
  | 0x34 => (none, stdin)
  | _ => (none, getchar stdin)

/-- A menu that prints what was chosen and waits. -/
def showChoice (b : Locals) (stdin : Stream) : Stream :=
  let (_, stdin) := fgets 10 b.choice stdin
  getchar stdin

def diskDiagnosticsMenu (b : Locals) (stdin : Stream) : Stream := showChoice b stdin

def bootSectorRepairMenu (b : Locals) (stdin : Stream) : Stream := showChoice b stdin

def manualInstallationMenu (b : Locals) (stdin : Stream) : Stream := showChoice b stdin

def viewSystemLogs (stdin : Stream) : Stream := getchar stdin

/-- The state of `main`, and the restores so far. -/
structure Hms where
  state : HmsState
  choice : List UInt8
  stdin : Stream
  restores : List Restore

/-- One iteration of the loop in `main`; it has none in `exit`. -/
def mainStep (b : Locals) (m : Hms) : Hms :=
  match m.state with
  | .booting => { m with state := .mainMenu, stdin := getchar m.stdin }
  | .mainMenu =>
    let (choice, stdin) := fgets 10 m.choice m.stdin
    let m := { m with choice := choice, stdin := stdin }
    match choice.headD 0 with
    | 0x31 => { m with state := .recovery }
    | 0x32 => { m with stdin := diskDiagnosticsMenu b stdin }
    | 0x33 => { m with stdin := bootSectorRepairMenu b stdin }
    | 0x34 => { m with stdin := manualInstallationMenu b stdin }
    | 0x35 => { m with stdin := viewSystemLogs stdin }
    | 0x36 => { m with state := .exit }
    | _ => { m with stdin := getchar stdin }
  | .recovery =>
    let (restore, stdin) := systemRecoveryMenu b m.stdin
    { m with state := .mainMenu, stdin := stdin, restores := m.restores ++ restore.toList }
  | .diagnostics => { m with state := .mainMenu, stdin := diskDiagnosticsMenu b m.stdin }
  | .exit => m

/-- `main` after `n` iterations, for an input `stdin` and a `choice` that holds
what was on the stack. -/
def mainRun (locals : ℕ → Locals) (choice stdin : List UInt8) : ℕ → Hms
  | 0 => ⟨.booting, choice, ⟨[], stdin⟩, []⟩
  | n + 1 => mainStep (locals n) (mainRun locals choice stdin n)

/-! ### One restore -/

/-- What the prompts are there for: the device and the confirmation are read
from the start of a line, if there is one, and nothing is installed but after
two lines for the paths and a third that is "yes". -/
structure Restore.Proper (r : Restore) : Prop where
  device : r.device.rest ≠ [] → AtLineStart r.device
  confirm : r.confirm.rest ≠ [] → AtLineStart r.confirm
  install : r.install.isSome → ∃ backup device, newline ∉ backup ∧ newline ∉ device ∧
    r.backup.rest = backup ++ newline :: r.device.rest ∧
    r.device.rest = device ++ newline :: r.confirm.rest ∧ firstLine r.confirm.rest = yes

theorem Restore.Proper.confirmed {r : Restore} (h : r.Proper) (hinstalls : r.install.isSome) :
    firstLine r.confirm.rest = yes := by
  obtain ⟨_, _, -, -, -, -, hyes⟩ := h.install hinstalls
  exact hyes

/-- The answers fit their buffers, and "yes" does not come of a NUL or of what
`confirmation` held before. -/
structure AnswersFit (confirmation input : List UInt8) : Prop where
  backup : Fits 255 input
  device : Fits 255 (afterLine input)
  ended : afterLine (afterLine input) = [] → text confirmation ≠ yes
  nul : ¬ yes ++ [0] <+: afterLine (afterLine input)

theorem firstLine_ne_yes_of_nul {input : List UInt8} (h : yes ++ [0] <+: input) :
    firstLine input ≠ yes := by
  obtain ⟨tail, rfl⟩ := h
  simp [firstLine, yes, newline]

theorem text_eq_yes_iff (input : List UInt8) :
    text input = yes ↔ firstLine input = yes ∨ yes ++ [0] <+: input := by
  apply text_eq_iff
  simp [yes, newline]

section

variable (b : Locals) (stdin : Stream)

theorem restoreFromBackup_installs : (restoreFromBackup b stdin).1.install.isSome ↔
    cString (chomp (fgets 10 b.confirmation (restoreFromBackup b stdin).1.confirm).1) = yes := by
  obtain ⟨paths, hpaths⟩ : ∃ paths, (restoreFromBackup b stdin).1.install =
      if cString (chomp (fgets 10 b.confirmation (restoreFromBackup b stdin).1.confirm).1) = yes
      then some paths else none := ⟨_, rfl⟩
  rw [hpaths]
  exact Option.isSome_ite

/-- With nothing left to read the confirmation is what was on the stack. -/
theorem restoreFromBackup_installs_of_ended (h : (restoreFromBackup b stdin).1.confirm.rest = []) :
    (restoreFromBackup b stdin).1.install.isSome ↔ text b.confirmation = yes := by
  rw [restoreFromBackup_installs, fgets_of_rest_nil 10 b.confirmation h, cString_chomp]

/-- Nine bytes are enough to tell "yes" from every other answer. -/
theorem restoreFromBackup_installs_of_answer (h : (restoreFromBackup b stdin).1.confirm.rest ≠ []) :
    (restoreFromBackup b stdin).1.install.isSome ↔
      text (restoreFromBackup b stdin).1.confirm.rest = yes := by
  rw [restoreFromBackup_installs, cString_chomp_fgets (by decide) b.confirmation h]
  constructor
  · intro htake
    have hshort : (text (restoreFromBackup b stdin).1.confirm.rest).length ≤ 9 := by
      by_contra hlong
      have hlen := congrArg List.length htake
      rw [List.length_take_of_le (by omega)] at hlen
      exact absurd hlen (by decide)
    exact (List.take_of_length_le hshort).symm.trans htake
  · intro htext
    rw [htext]
    rfl

/-- The device is read from the start of a line exactly if the first path
fits. -/
theorem restoreFromBackup_device_iff : ((restoreFromBackup b stdin).1.device.rest ≠ [] →
    AtLineStart (restoreFromBackup b stdin).1.device) ↔ Fits 255 stdin.rest :=
  fgets_atLineStart_iff (by decide) b.backupPath stdin

/-- And the confirmation exactly if the second does. -/
theorem restoreFromBackup_confirm_iff : ((restoreFromBackup b stdin).1.confirm.rest ≠ [] →
    AtLineStart (restoreFromBackup b stdin).1.confirm) ↔
      Fits 255 (restoreFromBackup b stdin).1.device.rest :=
  fgets_atLineStart_iff (by decide) b.devicePath (restoreFromBackup b stdin).1.device

theorem restoreFromBackup_device_rest (h : Fits 255 stdin.rest) :
    (restoreFromBackup b stdin).1.device.rest = afterLine stdin.rest :=
  fgets_rest_of_fits (by decide) b.backupPath h

theorem restoreFromBackup_confirm_rest (h : Fits 255 stdin.rest)
    (hdevice : Fits 255 (afterLine stdin.rest)) :
    (restoreFromBackup b stdin).1.confirm.rest = afterLine (afterLine stdin.rest) := by
  have hrest := restoreFromBackup_device_rest b stdin h
  have hfits : Fits 255 (restoreFromBackup b stdin).1.device.rest := by rw [hrest]; exact hdevice
  exact (fgets_rest_of_fits (by decide) b.devicePath hfits).trans (congrArg afterLine hrest)

/-- What an installation has read, where the answers fit. -/
theorem AnswersFit.install {b : Locals} {stdin : Stream} (h : AnswersFit b.confirmation stdin.rest)
    (hinstalls : (restoreFromBackup b stdin).1.install.isSome) :
    afterLine (afterLine stdin.rest) ≠ [] ∧ firstLine (afterLine (afterLine stdin.rest)) = yes := by
  have hconfirm := restoreFromBackup_confirm_rest b stdin h.backup h.device
  have hne : afterLine (afterLine stdin.rest) ≠ [] := by
    intro hended
    exact h.ended hended
      ((restoreFromBackup_installs_of_ended b stdin (hconfirm.trans hended)).mp hinstalls)
  have htext := (restoreFromBackup_installs_of_answer b stdin (hconfirm ▸ hne)).mp hinstalls
  rw [hconfirm] at htext
  exact ⟨hne, ((text_eq_yes_iff _).mp htext).resolve_right h.nul⟩

theorem AnswersFit.proper {b : Locals} {stdin : Stream} (h : AnswersFit b.confirmation stdin.rest) :
    (restoreFromBackup b stdin).1.Proper := by
  have hdevice := restoreFromBackup_device_rest b stdin h.backup
  have hconfirm := restoreFromBackup_confirm_rest b stdin h.backup h.device
  refine ⟨(restoreFromBackup_device_iff b stdin).mpr h.backup,
    (restoreFromBackup_confirm_iff b stdin).mpr (hdevice ▸ h.device), fun hinstalls => ?_⟩
  obtain ⟨hne, hyes⟩ := h.install hinstalls
  have hne' : afterLine stdin.rest ≠ [] := by
    intro hnil
    rw [hnil] at hne
    exact hne rfl
  refine ⟨firstLine stdin.rest, firstLine (afterLine stdin.rest), newline_notMem_firstLine _,
    newline_notMem_firstLine _, ?_, ?_, ?_⟩
  · rw [hdevice]
    exact eq_line_of_afterLine_ne_nil hne'
  · rw [hdevice, hconfirm]
    exact eq_line_of_afterLine_ne_nil hne
  · rw [hconfirm]
    exact hyes

theorem AnswersFit.of_proper {b : Locals} {stdin : Stream}
    (h : (restoreFromBackup b stdin).1.Proper) : AnswersFit b.confirmation stdin.rest := by
  have hbackup := (restoreFromBackup_device_iff b stdin).mp h.device
  have hdevice := (restoreFromBackup_confirm_iff b stdin).mp h.confirm
  rw [restoreFromBackup_device_rest b stdin hbackup] at hdevice
  have hrest := restoreFromBackup_confirm_rest b stdin hbackup hdevice
  have hended : (restoreFromBackup b stdin).1.confirm.rest = [] → text b.confirmation ≠ yes := by
    intro hended htext
    have hyes := h.confirmed ((restoreFromBackup_installs_of_ended b stdin hended).mpr htext)
    rw [hended] at hyes
    exact absurd hyes (by decide)
  have hnul : ¬ yes ++ [0] <+: (restoreFromBackup b stdin).1.confirm.rest := by
    intro hnul
    have hne : (restoreFromBackup b stdin).1.confirm.rest ≠ [] := by
      intro hnil
      rw [hnil] at hnul
      exact absurd (List.prefix_nil.mp hnul) (by decide)
    have htext := (text_eq_yes_iff _).mpr (.inr hnul)
    have hyes := h.confirmed ((restoreFromBackup_installs_of_answer b stdin hne).mpr htext)
    exact firstLine_ne_yes_of_nul hnul hyes
  rw [hrest] at hended hnul
  exact ⟨hbackup, hdevice, hended, hnul⟩

/-- **One restore is proper** exactly if its answers fit. -/
theorem restoreFromBackup_proper_iff :
    (restoreFromBackup b stdin).1.Proper ↔ AnswersFit b.confirmation stdin.rest :=
  ⟨AnswersFit.of_proper, AnswersFit.proper⟩

end

/-! ### The main loop -/

/-- The input with which an iteration calls `restore_from_backup`, if it does. -/
def restoreCall (b : Locals) (m : Hms) : Option Stream :=
  let chosen := fgets 10 b.choice m.stdin
  if m.state = .recovery ∧ chosen.1.headD 0 = 0x31 then some chosen.2 else none

/-- What the recovery menu does with each option. -/
theorem systemRecoveryMenu_cases (b : Locals) (stdin : Stream) {choice : List UInt8} {rest : Stream}
    (h : fgets 10 b.choice stdin = (choice, rest)) :
    choice.headD 0 = 0x31 ∧ systemRecoveryMenu b stdin =
      (some (restoreFromBackup b rest).1, (restoreFromBackup b rest).2) ∨
    choice.headD 0 = 0x32 ∧ systemRecoveryMenu b stdin = (none, createBackup b rest) ∨
    choice.headD 0 = 0x33 ∧ systemRecoveryMenu b stdin = (none, verifyBackup b rest) ∨
    choice.headD 0 = 0x34 ∧ systemRecoveryMenu b stdin = (none, rest) ∨
    choice.headD 0 ∉ [0x31, 0x32, 0x33, 0x34] ∧
      systemRecoveryMenu b stdin = (none, getchar rest) := by
  unfold systemRecoveryMenu
  rw [h]
  dsimp only
  split <;> simp_all

/-- What the main menu does with each option. -/
theorem mainStep_mainMenu_cases (b : Locals) {m : Hms} (hstate : m.state = .mainMenu)
    {choice : List UInt8} {rest : Stream} (h : fgets 10 m.choice m.stdin = (choice, rest)) :
    choice.headD 0 = 0x31 ∧ mainStep b m = ⟨.recovery, choice, rest, m.restores⟩ ∨
    choice.headD 0 ∈ [0x32, 0x33, 0x34] ∧
      mainStep b m = ⟨.mainMenu, choice, showChoice b rest, m.restores⟩ ∨
    choice.headD 0 = 0x36 ∧ mainStep b m = ⟨.exit, choice, rest, m.restores⟩ ∨
    choice.headD 0 ∉ [0x31, 0x32, 0x33, 0x34, 0x36] ∧
      mainStep b m = ⟨.mainMenu, choice, getchar rest, m.restores⟩ := by
  unfold mainStep
  rw [hstate, h]
  dsimp only
  split <;> simp_all [diskDiagnosticsMenu, bootSectorRepairMenu, manualInstallationMenu,
    viewSystemLogs]

theorem systemRecoveryMenu_restore (b : Locals) (stdin : Stream) :
    (systemRecoveryMenu b stdin).1 =
      if (fgets 10 b.choice stdin).1.headD 0 = 0x31
      then some (restoreFromBackup b (fgets 10 b.choice stdin).2).1 else none := by
  rcases hread : fgets 10 b.choice stdin with ⟨choice, rest⟩
  rcases systemRecoveryMenu_cases b stdin hread with ⟨hkey, hmenu⟩ | ⟨hkey, hmenu⟩ |
    ⟨hkey, hmenu⟩ | ⟨hkey, hmenu⟩ | ⟨hkey, hmenu⟩
  · rw [hmenu, if_pos hkey]
  · rw [hmenu, hkey]
    rfl
  · rw [hmenu, hkey]
    rfl
  · rw [hmenu, hkey]
    rfl
  · rw [hmenu, if_neg]
    intro hone
    rw [show choice.headD 0 = 0x31 from hone] at hkey
    exact hkey List.mem_cons_self

/-- An iteration logs the restore it calls, and no other. -/
theorem mainStep_restores (b : Locals) (m : Hms) : (mainStep b m).restores =
    m.restores ++ ((restoreCall b m).map fun stdin => (restoreFromBackup b stdin).1).toList := by
  have hnone : m.state ≠ .recovery → restoreCall b m = none := fun h => if_neg fun hand => h hand.1
  cases hstate : m.state with
  | booting => simp [hnone, mainStep, hstate]
  | mainMenu =>
    rw [hnone (by simp [hstate])]
    rcases hread : fgets 10 m.choice m.stdin with ⟨choice, rest⟩
    rcases mainStep_mainMenu_cases b hstate hread with ⟨-, hstep⟩ | ⟨-, hstep⟩ | ⟨-, hstep⟩ |
      ⟨-, hstep⟩ <;> simp [hstep]
  | recovery =>
    have hcall : (restoreCall b m).map (fun stdin => (restoreFromBackup b stdin).1) =
        (systemRecoveryMenu b m.stdin).1 := by
      rw [systemRecoveryMenu_restore, restoreCall]
      by_cases hone : (fgets 10 b.choice m.stdin).1.headD 0 = 0x31
      · rw [if_pos hone, if_pos ⟨hstate, hone⟩]
        rfl
      · rw [if_neg hone, if_neg fun hand => hone hand.2]
        rfl
    rw [hcall]
    simp [mainStep, hstate]
  | diagnostics => simp [hnone, mainStep, hstate]
  | exit => simp [hnone, mainStep, hstate]

theorem createBackup_bytes (b : Locals) (stdin : Stream) :
    (createBackup b stdin).bytes = stdin.bytes := by
  simp [createBackup]

theorem verifyBackup_bytes (b : Locals) (stdin : Stream) :
    (verifyBackup b stdin).bytes = stdin.bytes := by
  simp [verifyBackup]

theorem showChoice_bytes (b : Locals) (stdin : Stream) : (showChoice b stdin).bytes = stdin.bytes := by
  simp [showChoice]

/-- The prompts of a restore meet the one input, at places of it. -/
theorem restoreFromBackup_bytes (b : Locals) (stdin : Stream) :
    (restoreFromBackup b stdin).1.device.bytes = stdin.bytes ∧
      (restoreFromBackup b stdin).1.confirm.bytes = stdin.bytes ∧
      (restoreFromBackup b stdin).2.bytes = stdin.bytes := by
  simp [restoreFromBackup]

theorem systemRecoveryMenu_bytes (b : Locals) (stdin : Stream) :
    (systemRecoveryMenu b stdin).2.bytes = stdin.bytes := by
  rcases hread : fgets 10 b.choice stdin with ⟨choice, rest⟩
  have hrest : rest.bytes = stdin.bytes := by
    have hbytes := fgets_bytes 10 b.choice stdin
    rwa [hread] at hbytes
  rcases systemRecoveryMenu_cases b stdin hread with ⟨-, hmenu⟩ | ⟨-, hmenu⟩ | ⟨-, hmenu⟩ |
    ⟨-, hmenu⟩ | ⟨-, hmenu⟩ <;> rw [hmenu]
  · exact (restoreFromBackup_bytes b rest).2.2.trans hrest
  · exact (createBackup_bytes b rest).trans hrest
  · exact (verifyBackup_bytes b rest).trans hrest
  · exact hrest
  · exact (getchar_bytes rest).trans hrest

theorem mainStep_bytes (b : Locals) (m : Hms) : (mainStep b m).stdin.bytes = m.stdin.bytes := by
  cases hstate : m.state with
  | booting => simp [mainStep, hstate]
  | mainMenu =>
    rcases hread : fgets 10 m.choice m.stdin with ⟨choice, rest⟩
    have hrest : rest.bytes = m.stdin.bytes := by
      have hbytes := fgets_bytes 10 m.choice m.stdin
      rwa [hread] at hbytes
    rcases mainStep_mainMenu_cases b hstate hread with ⟨-, hstep⟩ | ⟨-, hstep⟩ | ⟨-, hstep⟩ |
      ⟨-, hstep⟩ <;> simp [hstep, hrest, showChoice_bytes]
  | recovery => simp [mainStep, hstate, systemRecoveryMenu_bytes]
  | diagnostics => simp [mainStep, hstate, diskDiagnosticsMenu, showChoice_bytes]
  | exit => simp [mainStep, hstate]

/-- A run reads `stdin`, from its start. -/
theorem mainRun_bytes (locals : ℕ → Locals) (choice stdin : List UInt8) : ∀ n : ℕ,
    (mainRun locals choice stdin n).stdin.bytes = stdin
  | 0 => rfl
  | n + 1 => (mainStep_bytes _ _).trans (mainRun_bytes locals choice stdin n)

/-- And every prompt of its restores is at a place of it. -/
theorem restores_bytes (locals : ℕ → Locals) (choice stdin : List UInt8) (n : ℕ) :
    ∀ r ∈ (mainRun locals choice stdin n).restores,
      r.backup.bytes = stdin ∧ r.device.bytes = stdin ∧ r.confirm.bytes = stdin := by
  induction n with
  | zero => simp [mainRun]
  | succ n ih =>
    rw [mainRun, mainStep_restores, List.forall_mem_append]
    refine ⟨ih, ?_⟩
    simp only [Option.mem_toList, Option.map_eq_some_iff]
    rintro _ ⟨input, hcall, rfl⟩
    have hinput : input.bytes = stdin := by
      unfold restoreCall at hcall
      obtain ⟨-, hchosen⟩ := Option.ite_none_right_eq_some.mp hcall
      rw [← Option.some.inj hchosen, fgets_bytes, mainRun_bytes]
    obtain ⟨hdevice, hconfirm, -⟩ := restoreFromBackup_bytes (locals n) input
    exact ⟨hinput, hdevice.trans hinput, hconfirm.trans hinput⟩

/-- **When the restores of a run are proper**: exactly if the answers fit at
every call. -/
theorem restores_proper_iff (locals : ℕ → Locals) (choice stdin : List UInt8) (n : ℕ) :
    (∀ r ∈ (mainRun locals choice stdin n).restores, r.Proper) ↔
      ∀ k < n, ∀ input ∈ restoreCall (locals k) (mainRun locals choice stdin k),
        AnswersFit (locals k).confirmation input.rest := by
  induction n with
  | zero => simp [mainRun]
  | succ n ih =>
    have hlast : (∀ r ∈ ((restoreCall (locals n) (mainRun locals choice stdin n)).map fun input =>
        (restoreFromBackup (locals n) input).1).toList, r.Proper) ↔
        ∀ input ∈ restoreCall (locals n) (mainRun locals choice stdin n),
          AnswersFit (locals n).confirmation input.rest := by
      cases restoreCall (locals n) (mainRun locals choice stdin n) with
      | none => simp
      | some input => simpa using restoreFromBackup_proper_iff (locals n) input
    rw [mainRun, mainStep_restores, List.forall_mem_append, ih, hlast, Nat.forall_lt_succ_right]

/-- Enter, the two menus' "1", and a first path of 513 bytes that ends in
"yes". -/
def overlongPath : List UInt8 :=
  [newline, 0x31, newline, 0x31, newline] ++ (List.replicate 510 0x2f ++ (yes ++ [newline]))

theorem overlong_path_confirms : ¬ ∀ (locals : ℕ → Locals) (choice stdin : List UInt8) (n : ℕ),
    ∀ r ∈ (mainRun locals choice stdin n).restores, r.Proper := by
  intro h
  let b : Locals := ⟨[], [], [], [], [], [], []⟩
  let tail := List.replicate 510 0x2f ++ (yes ++ [newline])
  have hcall : restoreCall b (mainRun (fun _ => b) [] overlongPath 2) =
      some ⟨[newline, 0x31, newline, 0x31, newline], tail⟩ := rfl
  have hproper := h (fun _ => b) [] overlongPath 3
    (restoreFromBackup b ⟨[newline, 0x31, newline, 0x31, newline], tail⟩).1
    (by rw [mainRun, mainStep_restores, hcall]; simp)
  exact not_fits_replicate (by decide) (by decide) _
    ((restoreFromBackup_proper_iff _ _).mp hproper).backup

end Dos25
