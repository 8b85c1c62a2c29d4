/-
# When the rescue system's main loop ends

At the end of the input `fgets` leaves the main menu's `choice` as it was, and
no caller looks at its result. So the loop ends exactly if the exit option is
answered while there is input, or if `choice` held it all along and the input
is over at the first menu (`main_exits_iff`); every other input, once it is
over, has the loop repeat its last choice for ever. Where the input does end
the loop, twice its length bounds the iterations (`mainRun_exits_within`).

Which bytes the main menu is answered with depends on the input alone: each
option reads a fixed list of prompts (`menuKeys`).

Key definitions: `menuKeys`, `ExitAnswered`, `Hms.WillExit`, `Hms.ahead`.
-/
import Dos25.Rescue
import Dos25.Lib.System

namespace Dos25

open LineInput

/-! ### What an option reads -/

/-- The prompts behind an option of the recovery menu. -/
def recoveryPrompts : UInt8 → List Prompt
  | 0x31 => [.line 255, .line 255, .line 9, .key]
  | 0x32 => [.line 255, .line 255, .line 255, .key]
  | 0x33 => [.line 255, .key]
  | 0x34 => []
  | _ => [.key]

/-- The prompts behind an option of the main menu that opens no other menu. -/
def menuPrompts : UInt8 → List Prompt
  | 0x32 => [.line 9, .key]
  | 0x33 => [.line 9, .key]
  | 0x34 => [.line 9, .key]
  | 0x36 => []
  | _ => [.key]

theorem recoveryPrompts_invalid {key : UInt8} (h : key ∉ [0x31, 0x32, 0x33, 0x34]) :
    recoveryPrompts key = [.key] := by
  unfold recoveryPrompts
  split <;> simp_all

theorem menuPrompts_shown {key : UInt8} (h : key ∈ [0x32, 0x33, 0x34]) :
    menuPrompts key = [.line 9, .key] := by
  simp only [List.mem_cons, List.not_mem_nil, or_false] at h
  rcases h with rfl | rfl | rfl <;> rfl

theorem menuPrompts_other {key : UInt8} (h : key ∉ [0x31, 0x32, 0x33, 0x34, 0x36]) :
    menuPrompts key = [.key] := by
  unfold menuPrompts
  split <;> simp_all

/-- What the recovery menu leaves. -/
def afterRecovery (bytes : List UInt8) : List UInt8 :=
  afterPrompts (recoveryPrompts (bytes.headD 0)) ((Prompt.line 9).after bytes)

/-- What an option of the main menu leaves. -/
def afterOption (key : UInt8) (bytes : List UInt8) : List UInt8 :=
  if key = 0x31 then afterRecovery bytes else afterPrompts (menuPrompts key) bytes

theorem afterRecovery_length_le (bytes : List UInt8) :
    (afterRecovery bytes).length ≤ bytes.length :=
  (afterPrompts_length_le _ _).trans (Prompt.after_length_le _ bytes)

theorem afterOption_length_le (key : UInt8) (bytes : List UInt8) :
    (afterOption key bytes).length ≤ bytes.length := by
  unfold afterOption
  by_cases h : key = 0x31
  · rw [if_pos h]
    exact afterRecovery_length_le bytes
  · rw [if_neg h]
    exact afterPrompts_length_le _ bytes

theorem afterOption_of_nil (key : UInt8) : afterOption key [] = [] :=
  List.length_eq_zero_iff.mp (Nat.le_zero.mp (afterOption_length_le key []))

/-- The first bytes of the answers that the main menu gets from its input, if
it goes on after an exit. -/
def menuKeys : List UInt8 → List UInt8
  | [] => []
  | key :: bytes => key :: menuKeys (afterOption key ((Prompt.line 9).after (key :: bytes)))
termination_by bytes => bytes.length
decreasing_by
  exact (afterOption_length_le _ _).trans_lt
    (Prompt.line_length_lt (by decide) (List.cons_ne_nil _ _))

/-- The exit option is answered, or `choice[0]`, which is `key`, is the exit
option and there is no input to replace it. -/
def ExitAnswered (key : UInt8) (bytes : List UInt8) : Prop :=
  0x36 ∈ menuKeys bytes ∨ bytes = [] ∧ key = 0x36

instance (key : UInt8) (bytes : List UInt8) : Decidable (ExitAnswered key bytes) :=
  inferInstanceAs (Decidable (_ ∨ _))

theorem exitAnswered_nil (key : UInt8) : ExitAnswered key [] ↔ key = 0x36 := by
  simp [ExitAnswered, menuKeys]

/-- The exit option is answered now, or after what this answer opens. -/
theorem exitAnswered_iff (key : UInt8) (bytes : List UInt8) : ExitAnswered key bytes ↔
    bytes.headD key = 0x36 ∨ ExitAnswered (bytes.headD key)
      (afterOption (bytes.headD key) ((Prompt.line 9).after bytes)) := by
  cases bytes with
  | nil =>
    have hline : (Prompt.line 9).after [] = [] := afterPrompts_of_nil [.line 9]
    rw [hline, afterOption_of_nil]
    simp [exitAnswered_nil]
  | cons b bytes =>
    simp only [ExitAnswered, menuKeys, List.mem_cons, List.headD_cons, List.cons_ne_nil, false_and,
      or_false]
    constructor
    · rintro (rfl | hlater)
      · exact .inl rfl
      · exact .inr (.inl hlater)
    · rintro (rfl | hlater | ⟨-, rfl⟩)
      · exact .inl rfl
      · exact .inr hlater
      · exact .inl rfl

/-! ### What the functions leave -/

section

variable (b : Locals) (stdin : Stream)

theorem restoreFromBackup_rest : (restoreFromBackup b stdin).2.rest =
    afterPrompts [.line 255, .line 255, .line 9, .key] stdin.rest := by
  simp [restoreFromBackup, maxPathLength, getchar_rest, fgets_rest]

theorem createBackup_rest : (createBackup b stdin).rest =
    afterPrompts [.line 255, .line 255, .line 255, .key] stdin.rest := by
  simp [createBackup, maxPathLength, getchar_rest, fgets_rest]

theorem verifyBackup_rest :
    (verifyBackup b stdin).rest = afterPrompts [.line 255, .key] stdin.rest := by
  simp [verifyBackup, maxPathLength, getchar_rest, fgets_rest]

theorem showChoice_rest : (showChoice b stdin).rest = afterPrompts [.line 9, .key] stdin.rest := by
  simp [showChoice, getchar_rest, fgets_rest]

/-- Its own `choice` matters at the end of the input only, where every option
leaves nothing. -/
theorem systemRecoveryMenu_rest : (systemRecoveryMenu b stdin).2.rest = afterRecovery stdin.rest := by
  have hprompts : (systemRecoveryMenu b stdin).2.rest =
      afterPrompts (recoveryPrompts (stdin.rest.headD (b.choice.headD 0)))
        ((Prompt.line 9).after stdin.rest) := by
    rw [← fgets_headD (by decide : 0 < 9), ← fgets_rest (by decide : 0 < 9) b.choice]
    rcases hread : fgets 10 b.choice stdin with ⟨choice, rest⟩
    rcases systemRecoveryMenu_cases b stdin hread with ⟨hkey, hmenu⟩ | ⟨hkey, hmenu⟩ |
      ⟨hkey, hmenu⟩ | ⟨hkey, hmenu⟩ | ⟨hkey, hmenu⟩ <;> rw [hmenu]
    · rw [hkey]
      exact restoreFromBackup_rest b rest
    · rw [hkey]
      exact createBackup_rest b rest
    · rw [hkey]
      exact verifyBackup_rest b rest
    · rw [hkey]
      rfl
    · rw [recoveryPrompts_invalid hkey]
      rfl
  rw [hprompts]
  unfold afterRecovery
  cases hs : stdin.rest with
  | nil =>
    have hnil : (Prompt.line 9).after [] = [] := afterPrompts_of_nil [.line 9]
    rw [hnil, afterPrompts_of_nil, afterPrompts_of_nil]
  | cons key bytes => rfl

end

/-! ### One iteration -/

/-- What an iteration in the main menu does: `key` is the first byte of the
answer or, at the end of the input, of the last one. -/
theorem mainStep_mainMenu (b : Locals) {m : Hms} (h : m.state = .mainMenu) {key : UInt8}
    (hkey : m.stdin.rest.headD (m.choice.headD 0) = key) :
    (mainStep b m).choice.headD 0 = key ∧
      (key = 0x36 ∧ (mainStep b m).state = .exit ∨
      key = 0x31 ∧ (mainStep b m).state = .recovery ∧
        (mainStep b m).stdin.rest = (Prompt.line 9).after m.stdin.rest ∨
      key ≠ 0x36 ∧ key ≠ 0x31 ∧ (mainStep b m).state = .mainMenu ∧ (mainStep b m).stdin.rest =
        afterPrompts (menuPrompts key) ((Prompt.line 9).after m.stdin.rest)) := by
  rw [← fgets_headD (by decide : 0 < 9)] at hkey
  rw [← fgets_rest (by decide : 0 < 9) m.choice]
  rcases hread : fgets 10 m.choice m.stdin with ⟨choice, rest⟩
  rw [hread] at hkey
  dsimp only at hkey ⊢
  subst hkey
  rcases mainStep_mainMenu_cases b h hread with ⟨hkey, hstep⟩ | ⟨hkey, hstep⟩ | ⟨hkey, hstep⟩ |
    ⟨hkey, hstep⟩ <;> rw [hstep]
  · exact ⟨rfl, .inr (.inl ⟨hkey, rfl, rfl⟩)⟩
  · refine ⟨rfl, .inr (.inr ⟨?_, ?_, rfl, ?_⟩)⟩
    · intro hexit
      rw [hexit] at hkey
      exact absurd hkey (by decide)
    · intro hone
      rw [hone] at hkey
      exact absurd hkey (by decide)
    · rw [menuPrompts_shown hkey]
      exact showChoice_rest b rest
  · exact ⟨rfl, .inl ⟨hkey, rfl⟩⟩
  · refine ⟨rfl, .inr (.inr ⟨?_, ?_, rfl, ?_⟩)⟩
    · intro hexit
      rw [hexit] at hkey
      exact absurd hkey (by decide)
    · intro hone
      rw [hone] at hkey
      exact absurd hkey (by decide)
    · rw [menuPrompts_other hkey]
      rfl

/-- The exit option will be answered. -/
def Hms.WillExit (m : Hms) : Prop :=
  match m.state with
  | .booting => ExitAnswered (m.choice.headD 0) (Prompt.key.after m.stdin.rest)
  | .mainMenu => ExitAnswered (m.choice.headD 0) m.stdin.rest
  | .recovery => ExitAnswered (m.choice.headD 0) (afterRecovery m.stdin.rest)
  | .diagnostics => ExitAnswered (m.choice.headD 0) (afterPrompts [.line 9, .key] m.stdin.rest)
  | .exit => True

/-- **No iteration changes** whether the exit option will be answered. -/
theorem mainStep_willExit (b : Locals) (m : Hms) : (mainStep b m).WillExit ↔ m.WillExit := by
  cases h : m.state with
  | booting => simp [mainStep, Hms.WillExit, h, getchar_rest]
  | mainMenu =>
    have hnow : m.WillExit ↔ ExitAnswered (m.choice.headD 0) m.stdin.rest := by
      simp [Hms.WillExit, h]
    rw [hnow, exitAnswered_iff]
    obtain ⟨hchoice, hcases⟩ := mainStep_mainMenu b h rfl
    rcases hcases with ⟨hkey, hstate⟩ | ⟨hkey, hstate, hrest⟩ | ⟨hexit, hkey, hstate, hrest⟩
    · have hwill : (mainStep b m).WillExit := by simp [Hms.WillExit, hstate]
      exact iff_of_true hwill (.inl hkey)
    · have hoption : afterOption 0x31 = afterRecovery := rfl
      simp only [Hms.WillExit, hstate, hchoice, hrest, hkey, hoption]
      exact (or_iff_right (by decide)).symm
    · simp only [Hms.WillExit, hstate, hchoice, hrest]
      rw [or_iff_right hexit, afterOption, if_neg hkey]
  | recovery => simp [mainStep, Hms.WillExit, h, systemRecoveryMenu_rest]
  | diagnostics => simp [mainStep, Hms.WillExit, h, diskDiagnosticsMenu, showChoice_rest]
  | exit => simp [mainStep, Hms.WillExit, h]

/-- The iterations that may be left. -/
def Hms.ahead (m : Hms) : ℕ :=
  match m.state with
  | .exit => 0
  | .mainMenu => 2 * m.stdin.rest.length + 1
  | _ => 2 * m.stdin.rest.length + 2

/-- Another answer than the exit takes input, where the exit is to come. -/
theorem ExitAnswered.line_length_lt {key : UInt8} {bytes : List UInt8} (h : ExitAnswered key bytes)
    (hkey : bytes.headD key ≠ 0x36) :
    ((Prompt.line 9).after bytes).length < bytes.length := by
  apply Prompt.line_length_lt (by decide)
  rintro rfl
  exact hkey ((exitAnswered_nil key).mp h)

theorem mainStep_ahead (b : Locals) {m : Hms} (hm : m.WillExit) (h : m.state ≠ .exit) :
    (mainStep b m).ahead < m.ahead := by
  cases hs : m.state with
  | booting =>
    have hle := Prompt.after_length_le .key m.stdin.rest
    simp only [mainStep, Hms.ahead, hs, getchar_rest]
    omega
  | mainMenu =>
    have hnow : ExitAnswered (m.choice.headD 0) m.stdin.rest := by
      simpa only [Hms.WillExit, hs] using hm
    obtain ⟨-, hcases⟩ := mainStep_mainMenu b hs rfl
    rcases hcases with ⟨-, hstate⟩ | ⟨hkey, hstate, hrest⟩ | ⟨hexit, -, hstate, hrest⟩
    · simp [Hms.ahead, hs, hstate]
    · have hlt := hnow.line_length_lt (hkey ▸ by decide)
      simp only [Hms.ahead, hs, hstate, hrest]
      omega
    · have hlt := hnow.line_length_lt hexit
      have hle := afterPrompts_length_le (menuPrompts (m.stdin.rest.headD (m.choice.headD 0)))
        ((Prompt.line 9).after m.stdin.rest)
      simp only [Hms.ahead, hs, hstate, hrest]
      omega
  | recovery =>
    have hle := afterRecovery_length_le m.stdin.rest
    simp only [mainStep, Hms.ahead, hs, systemRecoveryMenu_rest]
    omega
  | diagnostics =>
    have hle := afterPrompts_length_le [.line 9, .key] m.stdin.rest
    simp only [mainStep, Hms.ahead, hs, diskDiagnosticsMenu, showChoice_rest]
    omega
  | exit => exact absurd hs h

/-! ### Whole runs -/

section

variable (locals : ℕ → Locals) (choice stdin : List UInt8)

theorem mainRun_willExit (n : ℕ) : (mainRun locals choice stdin n).WillExit ↔
    ExitAnswered (choice.headD 0) (stdin.drop 1) := by
  induction n with
  | zero => exact Iff.rfl
  | succ n ih =>
    rw [mainRun, mainStep_willExit]
    exact ih

/-- An exit has been answered. -/
theorem exitAnswered_of_exit {n : ℕ} (h : (mainRun locals choice stdin n).state = .exit) :
    ExitAnswered (choice.headD 0) (stdin.drop 1) := by
  rw [← mainRun_willExit locals choice stdin n]
  simp [Hms.WillExit, h]

/-- **How long it takes**, if the exit option is answered. -/
theorem mainRun_exits_within (h : ExitAnswered (choice.headD 0) (stdin.drop 1)) :
    ∃ n ≤ 2 * stdin.length + 2, (mainRun locals choice stdin n).state = .exit := by
  apply System.exists_done (mainRun locals choice stdin) (·.state = .exit) Hms.ahead
  intro n hn
  exact mainStep_ahead (locals n) ((mainRun_willExit locals choice stdin n).mpr h) hn

end

/-- **When the main loop ends**: exactly if the exit option is answered. -/
theorem main_exits_iff (locals : ℕ → Locals) (choice stdin : List UInt8) :
    (∃ n, (mainRun locals choice stdin n).state = .exit) ↔
      ExitAnswered (choice.headD 0) (stdin.drop 1) := by
  constructor
  · rintro ⟨n, hn⟩
    exact exitAnswered_of_exit locals choice stdin hn
  · intro h
    obtain ⟨n, -, hn⟩ := mainRun_exits_within locals choice stdin h
    exact ⟨n, hn⟩

/-- Enter, and the option "2", whose menu the input does not live to answer. -/
theorem end_of_input_repeats : ¬ ∀ (locals : ℕ → Locals) (choice stdin : List UInt8),
    ∃ n, (mainRun locals choice stdin n).state = .exit := by
  intro h
  obtain ⟨n, hn⟩ := h (fun _ => ⟨[], [], [], [], [], [], []⟩) [] [newline, 0x32, newline]
  have hanswered := exitAnswered_of_exit _ _ _ hn
  rw [exitAnswered_iff] at hanswered
  rcases hanswered with hnow | hlater
  · exact absurd hnow (by decide)
  · exact absurd ((exitAnswered_nil _).mp hlater) (by decide)

end Dos25
