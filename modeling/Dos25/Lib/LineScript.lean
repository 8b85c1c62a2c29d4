/-
# Scripts of lines

A script is the input as lines, and not yet as bytes (`encode`). A prompt
accepts a line if its buffer can take the line whole, and a key press if the
line is empty. Where each prompt accepts its line, prompts that ask one after
the other read one line each, and of the bytes they leave the lines that follow
(`afterPrompts_encode`): the two levels stay in step. A buffer then holds its
line as typed (`cString_chomp_fgets_encode`).

Key definitions: `Line`, `encode`, `Accepts`, `answers`.
-/
import Dos25.Lib.LineInput
import Mathlib.Data.List.Forall2

namespace LineInput

/-- A line as it is typed, without its newline. -/
structure Line where
  bytes : List UInt8
  plain : ∀ b ∈ bytes, b ≠ newline ∧ b ≠ 0
  deriving DecidableEq

/-- Lines as bytes, each ended by a newline. -/
def encode : List Line → List UInt8
  | [] => []
  | line :: lines => line.bytes ++ newline :: encode lines

/-- The first byte that is read of a line. -/
def Line.key (line : Line) : UInt8 := line.bytes.headD newline

/-- The line fits in the buffer with its newline; a key is Enter alone. -/
def Accepts : Prompt → Line → Prop
  | .line n, line => line.bytes.length < n
  | .key, line => line.bytes = []

instance : ∀ (prompt : Prompt) (line : Line), Decidable (Accepts prompt line)
  | .line n, line => inferInstanceAs (Decidable (line.bytes.length < n))
  | .key, line => inferInstanceAs (Decidable (line.bytes = []))

/-- The lines that answer the prompts and those that follow, if every prompt
accepts its line. -/
def answers : List Prompt → List Line → Option (List Line × List Line)
  | [], lines => some ([], lines)
  | _ :: _, [] => none
  | prompt :: prompts, line :: lines =>
    if Accepts prompt line then
      (answers prompts lines).map fun (read, rest) => (line :: read, rest)
    else none

theorem answers_eq_some_iff : ∀ {prompts : List Prompt} {lines read rest : List Line},
    answers prompts lines = some (read, rest) ↔
      lines = read ++ rest ∧ List.Forall₂ Accepts prompts read
  | [], lines, read, rest => by
    constructor
    · rintro ⟨⟩
      exact ⟨rfl, .nil⟩
    · rintro ⟨rfl, ⟨⟩⟩
      rfl
  | prompt :: prompts, [], read, rest => by
    refine iff_of_false (by simp [answers]) ?_
    rintro ⟨hnil, hread⟩
    obtain ⟨rfl, -⟩ := List.append_eq_nil_iff.mp hnil.symm
    cases hread
  | prompt :: prompts, line :: lines, read, rest => by
    constructor
    · intro h
      obtain ⟨haccepts, h⟩ := Option.ite_none_right_eq_some.mp h
      obtain ⟨⟨tail, rest'⟩, htail, hpair⟩ := Option.map_eq_some_iff.mp h
      obtain ⟨rfl, rfl⟩ := Prod.mk.inj hpair
      obtain ⟨rfl, hread⟩ := answers_eq_some_iff.mp htail
      exact ⟨rfl, .cons haccepts hread⟩
    · rintro ⟨hlines, hread⟩
      obtain ⟨line', tail, haccepts, htail, rfl⟩ := List.forall₂_cons_left_iff.mp hread
      obtain ⟨rfl, hrest⟩ := List.cons.inj hlines
      unfold answers
      rw [if_pos haccepts, answers_eq_some_iff.mpr ⟨hrest, htail⟩]
      rfl

/-! ### One line -/

section

variable (line : Line) (lines : List Line)

theorem encode_cons : encode (line :: lines) = line.bytes ++ newline :: encode lines := rfl

theorem encode_cons_ne_nil : encode (line :: lines) ≠ [] := by simp [encode_cons]

theorem firstLine_encode : firstLine (encode (line :: lines)) = line.bytes := by
  have hplain : ∀ b ∈ line.bytes, decide (b ≠ newline) = true :=
    fun b hb => decide_eq_true (line.plain b hb).1
  unfold firstLine
  rw [encode_cons, List.takeWhile_append_of_pos hplain]
  simp

theorem afterLine_encode : afterLine (encode (line :: lines)) = encode lines := by
  unfold afterLine
  rw [firstLine_encode, encode_cons, ← List.singleton_append, ← List.append_assoc]
  exact List.drop_left' (by simp)

theorem text_encode : text (encode (line :: lines)) = line.bytes := by
  refine (text_eq_iff line.plain).mpr (.inl ?_)
  exact firstLine_encode line lines

theorem headD_encode (b : UInt8) : (encode (line :: lines)).headD b = line.key := by
  rw [encode_cons]
  unfold Line.key
  cases line.bytes <;> rfl

theorem fits_encode {n : ℕ} (h : line.bytes.length < n) : Fits n (encode (line :: lines)) := by
  obtain ⟨k, rfl⟩ := Nat.exists_eq_add_of_lt h
  refine .inl ?_
  rw [encode_cons, Nat.add_assoc, List.take_length_add_append]
  simp

/-- The buffer then holds the line as typed. -/
theorem cString_chomp_fgets_encode {n : ℕ} (h : line.bytes.length < n) (buf : List UInt8)
    {s : Stream} (hs : s.rest = encode (line :: lines)) :
    cString (chomp (fgets (n + 1) buf s).1) = line.bytes := by
  have hrest : s.rest ≠ [] := hs ▸ encode_cons_ne_nil line lines
  rw [cString_chomp_fgets (Nat.zero_lt_of_lt h) buf hrest, hs, text_encode]
  exact List.take_of_length_le h.le

end

/-! ### Prompts -/

/-- A prompt takes the line that it accepts, and no more. -/
theorem Accepts.after {prompt : Prompt} {line : Line} (h : Accepts prompt line)
    (lines : List Line) : prompt.after (encode (line :: lines)) = encode lines := by
  cases prompt with
  | line n => rw [Prompt.line_after_of_fits (fits_encode line lines h), afterLine_encode]
  | key =>
    have hempty : line.bytes = [] := h
    rw [encode_cons, hempty]
    rfl

/-- **Bytes and lines stay in step**, where every prompt accepts its line. -/
theorem afterPrompts_encode {prompts : List Prompt} {read : List Line}
    (h : List.Forall₂ Accepts prompts read) (lines : List Line) :
    afterPrompts prompts (encode (read ++ lines)) = encode lines := by
  induction h with
  | nil => rfl
  | cons hline _ ih =>
    rw [afterPrompts_cons, List.cons_append, hline.after]
    exact ih

end LineInput
