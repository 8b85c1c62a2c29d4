/-
# The rescue system as a dialogue in lines

What `hms.c` is for: a user types a line at every prompt, and presses Enter
where it waits for a key. As long as each line fits the buffer of its prompt,
the program on bytes follows that dialogue turn by turn, whatever its
buffers held before: it is in the same menu, has read the same lines, installs
the same images over the same devices, and all of its restores are proper
(`mainRun_follows`). In this way every list of restores can be asked for
(`restoreScript_installs`).

The dialogue ends where a prompt does not accept its line, or where the
lines are over; nothing is said of the program from there on.

Key definitions: `turnPrompts`, `nextState`, `Dialogue.step`, `Follows`,
`restoreScript`.
-/
import Dos25.RescueExit
import Dos25.Lib.LineScript

namespace Dos25

open LineInput

/-! ### The dialogue -/

/-- The prompts of an iteration whose first answer starts with `key`. -/
def turnPrompts : HmsState → UInt8 → List Prompt
  | .booting, _ => [.key]
  | .mainMenu, key => .line 9 :: if key = 0x31 then [] else menuPrompts key
  | .recovery, key => .line 9 :: recoveryPrompts key
  | .diagnostics, _ => [.line 9, .key]
  | .exit, _ => []

def nextState : HmsState → UInt8 → HmsState
  | .mainMenu, key => if key = 0x31 then .recovery else if key = 0x36 then .exit else .mainMenu
  | .exit, _ => .exit
  | _, _ => .mainMenu

/-- What the lines of an iteration have it install: the image of the second
line over the device of the third, if the fourth confirms that. -/
def installsOf : HmsState → List Line → List (List UInt8 × List UInt8)
  | .recovery, [option, backup, device, confirm, _] =>
    if option.key = 0x31 ∧ confirm.bytes = yes then [(backup.bytes, device.bytes)] else []
  | _, _ => []

/-- A menu, the lines still to be typed, and what has been installed. -/
structure Dialogue where
  state : HmsState
  lines : List Line
  installs : List (List UInt8 × List UInt8)

/-- The first byte of the next line. -/
def Dialogue.key (s : Dialogue) : UInt8 := (s.lines.head?.map Line.key).getD newline

/-- One turn, if the prompts accept their lines. -/
def Dialogue.step (s : Dialogue) : Option Dialogue :=
  (answers (turnPrompts s.state s.key) s.lines).map fun (read, rest) =>
    ⟨nextState s.state s.key, rest, s.installs ++ installsOf s.state read⟩

def Dialogue.run (script : List Line) : ℕ → Option Dialogue
  | 0 => some ⟨.booting, script, []⟩
  | n + 1 => (Dialogue.run script n).bind Dialogue.step

/-- The program is where the dialogue is. -/
structure Follows (m : Hms) (s : Dialogue) : Prop where
  state : m.state = s.state
  rest : m.stdin.rest = encode s.lines
  installs : m.restores.filterMap (·.install) = s.installs
  proper : ∀ r ∈ m.restores, r.Proper

theorem Dialogue.step_eq_some_iff {s t : Dialogue} : s.step = some t ↔ ∃ read,
    s.lines = read ++ t.lines ∧ List.Forall₂ Accepts (turnPrompts s.state s.key) read ∧
      t.state = nextState s.state s.key ∧ t.installs = s.installs ++ installsOf s.state read := by
  unfold Dialogue.step
  constructor
  · intro h
    obtain ⟨⟨read, rest⟩, hread, rfl⟩ := Option.map_eq_some_iff.mp h
    obtain ⟨hlines, haccepts⟩ := answers_eq_some_iff.mp hread
    exact ⟨read, hlines, haccepts, rfl, rfl⟩
  · rintro ⟨read, hlines, haccepts, hstate, hinstalls⟩
    obtain ⟨state, lines, installs⟩ := t
    dsimp only at hlines hstate hinstalls
    rw [answers_eq_some_iff.mpr ⟨hlines, haccepts⟩, hstate, hinstalls]
    rfl

/-! ### One iteration on bytes -/

theorem nextState_mainMenu {key : UInt8} (hone : key ≠ 0x31) (hsix : key ≠ 0x36) :
    nextState .mainMenu key = .mainMenu :=
  (if_neg hone).trans (if_neg hsix)

/-- Where an iteration leads and what it leaves, for every input: `key` is the
first byte of the input or, at its end, of the last choice. -/
theorem mainStep_turn (b : Locals) {m : Hms} {key : UInt8}
    (hkey : m.stdin.rest.headD (m.choice.headD 0) = key) :
    (mainStep b m).state = nextState m.state key ∧
      (mainStep b m).stdin.rest = afterPrompts (turnPrompts m.state key) m.stdin.rest := by
  cases hstate : m.state with
  | booting => simp [mainStep, nextState, turnPrompts, hstate, getchar_rest]
  | mainMenu =>
    rw [← fgets_headD (by decide : 0 < 9)] at hkey
    show _ ∧ _ = afterPrompts _ ((Prompt.line 9).after m.stdin.rest)
    rw [← fgets_rest (by decide : 0 < 9) m.choice]
    rcases hread : fgets 10 m.choice m.stdin with ⟨choice, rest⟩
    rw [hread] at hkey
    dsimp only at hkey ⊢
    subst hkey
    rcases mainStep_mainMenu_cases b hstate hread with ⟨hkey, hstep⟩ | ⟨hkey, hstep⟩ |
      ⟨hkey, hstep⟩ | ⟨hkey, hstep⟩ <;> rw [hstep]
    · rw [hkey]
      exact ⟨rfl, rfl⟩
    · have hone : choice.headD 0 ≠ 0x31 := fun heq => absurd (heq ▸ hkey) (by decide)
      have hsix : choice.headD 0 ≠ 0x36 := fun heq => absurd (heq ▸ hkey) (by decide)
      rw [if_neg hone, menuPrompts_shown hkey]
      exact ⟨(nextState_mainMenu hone hsix).symm, showChoice_rest b rest⟩
    · rw [hkey]
      exact ⟨rfl, rfl⟩
    · have hone : choice.headD 0 ≠ 0x31 := fun heq => absurd (heq ▸ hkey) (by decide)
      have hsix : choice.headD 0 ≠ 0x36 := fun heq => absurd (heq ▸ hkey) (by decide)
      rw [if_neg hone, menuPrompts_other hkey]
      exact ⟨(nextState_mainMenu hone hsix).symm, rfl⟩
  | recovery =>
    refine ⟨by simp [mainStep, nextState, hstate], ?_⟩
    have hrest : (mainStep b m).stdin.rest = afterRecovery m.stdin.rest := by
      simp [mainStep, hstate, systemRecoveryMenu_rest]
    rw [hrest]
    subst hkey
    cases hs : m.stdin.rest with
    | nil =>
      rw [afterPrompts_of_nil]
      exact afterOption_of_nil 0x31
    | cons key bytes => rfl
  | diagnostics =>
    simp [mainStep, nextState, turnPrompts, hstate, diskDiagnosticsMenu, showChoice_rest]
  | exit => simp [mainStep, nextState, turnPrompts, hstate]

/-! ### A restore that is typed in -/

section

variable (b : Locals) {stdin : Stream} {backup device confirm : Line} {lines : List Line}

theorem answersFit_encode (hbackup : backup.bytes.length < 255)
    (hdevice : device.bytes.length < 255) (confirmation : List UInt8) :
    AnswersFit confirmation (encode (backup :: device :: confirm :: lines)) where
  backup := fits_encode backup _ hbackup
  device := by
    rw [afterLine_encode]
    exact fits_encode device _ hdevice
  ended := by
    rw [afterLine_encode, afterLine_encode]
    exact fun hended => absurd hended (encode_cons_ne_nil confirm lines)
  nul := by
    rw [afterLine_encode, afterLine_encode]
    intro hnul
    -- a line has no NUL, so its text is all of it
    have hyes := (text_eq_yes_iff _).mpr (.inr hnul)
    rw [text_encode, ← firstLine_encode confirm lines] at hyes
    exact firstLine_ne_yes_of_nul hnul hyes

/-- It installs what the lines say, if the third confirms it. -/
theorem restoreFromBackup_encode (hs : stdin.rest = encode (backup :: device :: confirm :: lines))
    (hbackup : backup.bytes.length < 255) (hdevice : device.bytes.length < 255)
    (hconfirm : confirm.bytes.length < 9) : (restoreFromBackup b stdin).1.install =
      if confirm.bytes = yes then some (backup.bytes, device.bytes) else none := by
  have hfit : AnswersFit b.confirmation stdin.rest :=
    hs ▸ answersFit_encode hbackup hdevice b.confirmation
  have hdevice' := restoreFromBackup_device_rest b stdin hfit.backup
  have hconfirm' := restoreFromBackup_confirm_rest b stdin hfit.backup hfit.device
  rw [hs, afterLine_encode] at hdevice' hconfirm'
  rw [afterLine_encode] at hconfirm'
  show (if cString (chomp (fgets 10 b.confirmation (restoreFromBackup b stdin).1.confirm).1) = yes
    then some (cString (chomp (fgets 256 b.backupPath stdin).1),
      cString (chomp (fgets 256 b.devicePath (restoreFromBackup b stdin).1.device).1)) else none) = _
  rw [cString_chomp_fgets_encode confirm lines hconfirm _ hconfirm',
    cString_chomp_fgets_encode device _ hdevice _ hdevice',
    cString_chomp_fgets_encode backup _ hbackup _ hs]

end

/-! ### One turn -/

theorem turnPrompts_ne_nil {state : HmsState} (h : state ≠ .exit) (key : UInt8) :
    turnPrompts state key ≠ [] := by
  cases state <;> simp_all [turnPrompts]

theorem installsOf_other {state : HmsState} {option : Line} (read : List Line)
    (h : ¬ (state = .recovery ∧ option.key = 0x31)) : installsOf state (option :: read) = [] := by
  unfold installsOf
  split
  · next heq =>
    obtain ⟨rfl, -⟩ := List.cons.inj heq
    exact if_neg fun hand => h ⟨rfl, hand.1⟩
  · rfl

theorem restoreCall_encode (b : Locals) {m : Hms} {option : Line} {lines : List Line}
    (hs : m.stdin.rest = encode (option :: lines)) : restoreCall b m =
      if m.state = .recovery ∧ option.key = 0x31 then some (fgets 10 b.choice m.stdin).2
      else none := by
  unfold restoreCall
  dsimp only
  rw [fgets_headD (by decide : 0 < 9), hs, headD_encode]

/-- The restore of an iteration, if there is one, installs what its lines say,
and is proper. -/
theorem restoreCall_installs (b : Locals) {m : Hms} {option : Line} {read lines : List Line}
    (hs : m.stdin.rest = encode (option :: (read ++ lines)))
    (haccepts : List.Forall₂ Accepts (turnPrompts m.state option.key) (option :: read)) :
    (((restoreCall b m).map fun stdin => (restoreFromBackup b stdin).1).toList.filterMap
        (·.install) = installsOf m.state (option :: read)) ∧
      ∀ r ∈ ((restoreCall b m).map fun stdin => (restoreFromBackup b stdin).1).toList,
        r.Proper := by
  rw [restoreCall_encode b hs]
  by_cases hcall : m.state = .recovery ∧ option.key = 0x31
  · rw [if_pos hcall]
    obtain ⟨hstate, hkey⟩ := hcall
    have hprompts : turnPrompts m.state option.key =
        [.line 9, .line 255, .line 255, .line 9, .key] := by
      rw [hstate, hkey]
      rfl
    rw [hprompts] at haccepts
    obtain ⟨hoption, htail⟩ := List.forall₂_cons.mp haccepts
    obtain ⟨backup, read₁, hbackup, htail₁, rfl⟩ := List.forall₂_cons_left_iff.mp htail
    obtain ⟨device, read₂, hdevice, htail₂, rfl⟩ := List.forall₂_cons_left_iff.mp htail₁
    obtain ⟨confirm, read₃, hconfirm, htail₃, rfl⟩ := List.forall₂_cons_left_iff.mp htail₂
    obtain ⟨enter, read₄, -, htail₄, rfl⟩ := List.forall₂_cons_left_iff.mp htail₃
    obtain rfl := List.forall₂_nil_left_iff.mp htail₄
    have hrest : (fgets 10 b.choice m.stdin).2.rest =
        encode (backup :: device :: confirm :: enter :: lines) := by
      rw [fgets_rest (by decide), hs]
      exact hoption.after _
    refine ⟨?_, ?_⟩
    · have hinstall := restoreFromBackup_encode b hrest hbackup hdevice hconfirm
      rw [hstate]
      by_cases hyes : confirm.bytes = yes
      · rw [if_pos hyes] at hinstall
        simp [hinstall, installsOf, hkey, hyes]
      · rw [if_neg hyes] at hinstall
        simp [hinstall, installsOf, hyes]
    · intro r hr
      obtain rfl := List.mem_singleton.mp hr
      refine AnswersFit.proper ?_
      rw [hrest]
      exact answersFit_encode hbackup hdevice b.confirmation
  · rw [if_neg hcall, installsOf_other read hcall]
    simp

/-- **A turn is followed.** -/
theorem Follows.step {m : Hms} {s t : Dialogue} (h : Follows m s) (hstep : s.step = some t)
    (b : Locals) : Follows (mainStep b m) t := by
  obtain ⟨read, hlines, haccepts, hstate, hinstalls⟩ := Dialogue.step_eq_some_iff.mp hstep
  by_cases hexit : s.state = .exit
  · -- the loop is over, and the dialogue stays where it is
    rw [hexit] at haccepts hstate hinstalls
    obtain rfl := List.forall₂_nil_left_iff.mp haccepts
    have hstay : mainStep b m = m := by simp [mainStep, h.state, hexit]
    rw [hstay]
    refine ⟨h.state.trans (hexit.trans hstate.symm), ?_, ?_, h.proper⟩
    · rw [h.rest, hlines]
      rfl
    · rw [h.installs, hinstalls]
      exact (List.append_nil _).symm
  · obtain ⟨prompt, prompts, hprompts⟩ :=
      List.exists_cons_of_ne_nil (turnPrompts_ne_nil hexit s.key)
    obtain ⟨option, read, -, -, rfl⟩ := List.forall₂_cons_left_iff.mp (hprompts ▸ haccepts)
    have hs : m.stdin.rest = encode (option :: (read ++ t.lines)) := h.rest.trans (congrArg _ hlines)
    have hkey : s.key = option.key := by
      unfold Dialogue.key
      rw [hlines]
      rfl
    rw [hkey, ← h.state] at haccepts hstate
    obtain ⟨hnext, hrest⟩ := mainStep_turn b (hs ▸ headD_encode option _ _)
    obtain ⟨hnew, hproper⟩ := restoreCall_installs b hs haccepts
    refine ⟨hnext.trans hstate.symm, ?_, ?_, ?_⟩
    · rw [hrest, hs]
      exact afterPrompts_encode haccepts t.lines
    · rw [mainStep_restores, List.filterMap_append, hnew, h.installs, h.state, hinstalls]
    · rw [mainStep_restores, List.forall_mem_append]
      exact ⟨h.proper, hproper⟩

/-! ### Whole runs -/

theorem Follows.run {script : List Line} {s : Dialogue} {n : ℕ}
    (h : Dialogue.run script n = some s) (locals : ℕ → Locals) (choice : List UInt8) :
    Follows (mainRun locals choice (encode script) n) s := by
  induction n generalizing s with
  | zero =>
    obtain rfl := Option.some.inj h
    exact ⟨rfl, rfl, rfl, fun r hr => absurd hr List.not_mem_nil⟩
  | succ n ih =>
    obtain ⟨before, hbefore, hstep⟩ := Option.bind_eq_some_iff.mp h
    exact (ih hbefore).step hstep (locals n)

/-- A dialogue has had its turns one by one. -/
theorem Dialogue.run_of_le {script : List Line} {s : Dialogue} {n : ℕ}
    (h : Dialogue.run script n = some s) {k : ℕ} (hk : k ≤ n) :
    ∃ t, Dialogue.run script k = some t := by
  induction n generalizing s with
  | zero =>
    obtain rfl := Nat.le_zero.mp hk
    exact ⟨s, h⟩
  | succ n ih =>
    obtain hlt | rfl := Nat.lt_or_eq_of_le hk
    · obtain ⟨before, hbefore, -⟩ := Option.bind_eq_some_iff.mp h
      exact ih hbefore (Nat.le_of_lt_succ hlt)
    · exact ⟨s, h⟩

/-- **The program follows the dialogue** turn by turn, for as long as that
goes on, and whatever was on the stack. -/
theorem mainRun_follows {script : List Line} {s : Dialogue} {n : ℕ}
    (h : Dialogue.run script n = some s) (locals : ℕ → Locals) (choice : List UInt8) :
    ∀ k ≤ n, ∃ t, Dialogue.run script k = some t ∧
      Follows (mainRun locals choice (encode script) k) t := by
  intro k hk
  obtain ⟨t, ht⟩ := Dialogue.run_of_le h hk
  exact ⟨t, ht, .run ht locals choice⟩

def enter : Line := ⟨[], by simp⟩

def optionOne : Line := ⟨[0x31], by simp [newline]⟩

def optionSix : Line := ⟨[0x36], by simp [newline]⟩

/-- A restore of "a" over "b" that is not confirmed, and the exit. -/
def declinedScript : List Line :=
  [enter, optionOne, optionOne, ⟨[0x61], by simp [newline]⟩, ⟨[0x62], by simp [newline]⟩,
    ⟨[0x6e], by simp [newline]⟩, enter, optionSix]

theorem mainRun_follows_declined : ∃ t, Dialogue.run declinedScript 3 = some t ∧
    Follows (mainRun (fun _ => ⟨[], [], [], yes, [], [], []⟩) [] (encode declinedScript) 3) t :=
  mainRun_follows (n := 4) (s := ⟨.exit, [], []⟩) rfl _ _ 3 (by decide)

/-! ### Asking for restores -/

/-- Two paths that fit their buffers. -/
structure Request where
  backup : Line
  device : Line
  backup_fits : backup.bytes.length < 255
  device_fits : device.bytes.length < 255

def Request.paths (r : Request) : List UInt8 × List UInt8 := (r.backup.bytes, r.device.bytes)

def confirmed : Line := ⟨yes, by simp [yes, newline]⟩

/-- What is typed in the two menus for each request. -/
def restoreLines : List Request → List Line
  | [] => []
  | r :: rs =>
    optionOne :: optionOne :: r.backup :: r.device :: confirmed :: enter :: restoreLines rs

/-- Enter, the requests, and the exit. -/
def restoreScript (rs : List Request) : List Line := enter :: (restoreLines rs ++ [optionSix])

section

variable (lines : List Line) (installs : List (List UInt8 × List UInt8))

theorem step_enter :
    (⟨.booting, enter :: lines, installs⟩ : Dialogue).step = some ⟨.mainMenu, lines, installs⟩ :=
  Dialogue.step_eq_some_iff.mpr ⟨[enter], rfl, .cons rfl .nil, rfl, (List.append_nil _).symm⟩

theorem step_optionOne : (⟨.mainMenu, optionOne :: lines, installs⟩ : Dialogue).step =
    some ⟨.recovery, lines, installs⟩ :=
  Dialogue.step_eq_some_iff.mpr
    ⟨[optionOne], rfl, .cons (by decide) .nil, rfl, (List.append_nil _).symm⟩

theorem step_optionSix : (⟨.mainMenu, optionSix :: lines, installs⟩ : Dialogue).step =
    some ⟨.exit, lines, installs⟩ :=
  Dialogue.step_eq_some_iff.mpr
    ⟨[optionSix], rfl, .cons (by decide) .nil, rfl, (List.append_nil _).symm⟩

theorem step_request (r : Request) :
    (⟨.recovery, optionOne :: r.backup :: r.device :: confirmed :: enter :: lines, installs⟩ :
      Dialogue).step = some ⟨.mainMenu, lines, installs ++ [r.paths]⟩ := by
  refine Dialogue.step_eq_some_iff.mpr
    ⟨[optionOne, r.backup, r.device, confirmed, enter], rfl, ?_, rfl, rfl⟩
  exact .cons (by decide) (.cons r.backup_fits (.cons r.device_fits
    (.cons (by decide) (.cons rfl .nil))))

end

/-- The requests are met in order, in two turns each. -/
theorem run_restoreLines {script : List Line} : ∀ (rs : List Request) {n : ℕ} {lines : List Line}
    {installs : List (List UInt8 × List UInt8)},
    Dialogue.run script n = some ⟨.mainMenu, restoreLines rs ++ lines, installs⟩ →
    Dialogue.run script (n + 2 * rs.length) =
      some ⟨.mainMenu, lines, installs ++ rs.map Request.paths⟩
  | [], n, lines, installs, h => by
    rw [List.map_nil, List.append_nil]
    exact h
  | r :: rs, n, lines, installs, h => by
    have hmenu : Dialogue.run script (n + 1) = some ⟨.recovery, optionOne :: r.backup :: r.device ::
        confirmed :: enter :: (restoreLines rs ++ lines), installs⟩ := by
      rw [Dialogue.run, h]
      exact step_optionOne _ installs
    have hturn : Dialogue.run script (n + 2) =
        some ⟨.mainMenu, restoreLines rs ++ lines, installs ++ [r.paths]⟩ := by
      rw [Dialogue.run, hmenu]
      exact step_request _ installs r
    have hrest := run_restoreLines rs hturn
    rw [List.append_assoc] at hrest
    rw [List.length_cons, show n + 2 * (rs.length + 1) = n + 2 + 2 * rs.length by omega]
    exact hrest

theorem run_restoreScript (rs : List Request) (tail : List Line) :
    Dialogue.run (restoreScript rs ++ tail) (2 * rs.length + 2) =
      some ⟨.exit, tail, rs.map Request.paths⟩ := by
  have hmenu : Dialogue.run (restoreScript rs ++ tail) 1 =
      some ⟨.mainMenu, restoreLines rs ++ (optionSix :: tail), []⟩ := by
    rw [← List.singleton_append, ← List.append_assoc]
    exact step_enter _ []
  have hrun := run_restoreLines rs hmenu
  rw [show 2 * rs.length + 2 = 1 + 2 * rs.length + 1 by omega, Dialogue.run, hrun]
  exact step_optionSix tail _

/-- **Every list of restores can be asked for**: the program does them in
order, each proper, and then exits with what follows unread. -/
theorem restoreScript_installs (rs : List Request) (tail : List Line) (locals : ℕ → Locals)
    (choice : List UInt8) : Follows
      (mainRun locals choice (encode (restoreScript rs ++ tail)) (2 * rs.length + 2))
      ⟨.exit, tail, rs.map Request.paths⟩ :=
  .run (run_restoreScript rs tail) locals choice

end Dos25
