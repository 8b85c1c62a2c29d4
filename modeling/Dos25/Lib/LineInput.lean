/-
# Lines read through bounded buffers

A stream of bytes, and what `fgets` and `getchar` take from it. `fgets` stops
after a newline or when its buffer is full, and leaves the buffer alone at the
end of the input. So the next read starts on a line of its own exactly if the
line fits (`fgets_atLineStart_iff`). As a C string, cut at its newline, the
buffer then holds the line up to its first NUL (`cString_chomp_fgets`). What
prompts leave of the input does not depend on their buffers (`afterPrompts`).

Key definitions: `Stream`, `fgets`, `getchar`, `chomp`, `Fits`, `AtLineStart`,
`Prompt`.
-/
import Mathlib.Data.List.Basic
import Mathlib.Data.List.TakeWhile
import Mathlib.Data.Nat.Notation

namespace LineInput

def newline : UInt8 := 0x0a

/-! ### Lines -/

/-- The first line, without its newline. -/
def firstLine (bytes : List UInt8) : List UInt8 := bytes.takeWhile (· ≠ newline)

/-- What comes after the first line and its newline. -/
def afterLine (bytes : List UInt8) : List UInt8 := bytes.drop ((firstLine bytes).length + 1)

/-- The first line fits in `n` bytes: with its newline, or without one at the
end of the input. -/
def Fits (n : ℕ) (bytes : List UInt8) : Prop := newline ∈ bytes.take n ∨ bytes.length ≤ n

instance (n : ℕ) (bytes : List UInt8) : Decidable (Fits n bytes) :=
  inferInstanceAs (Decidable (_ ∨ _))

theorem firstLine_append_afterLine : ∀ {bytes : List UInt8}, newline ∈ bytes →
    firstLine bytes ++ newline :: afterLine bytes = bytes
  | b :: bytes, h => by
    unfold afterLine firstLine
    by_cases hb : b = newline
    · simp [hb]
    · have hrest := firstLine_append_afterLine ((List.mem_cons.mp h).resolve_left (Ne.symm hb))
      rw [List.takeWhile_cons_of_pos (by simpa using hb)]
      exact congrArg (b :: ·) hrest

theorem newline_notMem_firstLine (bytes : List UInt8) : newline ∉ firstLine bytes := by
  intro h
  have hne := List.mem_takeWhile_imp h
  simp at hne

theorem afterLine_of_notMem {bytes : List UInt8} (h : newline ∉ bytes) : afterLine bytes = [] := by
  have hall : firstLine bytes = bytes :=
    List.takeWhile_eq_self_iff.mpr fun b hb => decide_eq_true fun heq => h (heq ▸ hb)
  unfold afterLine
  rw [hall]
  exact List.drop_eq_nil_of_le (Nat.le_succ _)

/-- Where `afterLine` leaves something, it has skipped a line. -/
theorem eq_line_of_afterLine_ne_nil {bytes : List UInt8} (h : afterLine bytes ≠ []) :
    bytes = firstLine bytes ++ newline :: afterLine bytes := by
  have hmem : newline ∈ bytes := by
    by_contra hnone
    exact h (afterLine_of_notMem hnone)
  exact (firstLine_append_afterLine hmem).symm

/-- A line that goes on for more than `n` bytes. -/
theorem not_fits_replicate {n k : ℕ} {b : UInt8} (hb : b ≠ newline) (hk : n < k)
    (bytes : List UInt8) : ¬ Fits n (List.replicate k b ++ bytes) := by
  rintro (hline | hshort)
  · rw [List.take_append_of_le_length (by simpa using hk.le), List.take_replicate] at hline
    exact hb (List.eq_of_mem_replicate hline).symm
  · rw [List.length_append, List.length_replicate] at hshort
    omega

/-! ### C strings -/

/-- The string in a buffer. -/
def cString (buf : List UInt8) : List UInt8 := buf.takeWhile (· ≠ 0)

/-- The text of a line: up to its newline or a NUL. -/
def text (bytes : List UInt8) : List UInt8 := bytes.takeWhile fun b => b ≠ newline && b ≠ 0

/-- `buf[strcspn(buf, "\n")] = 0`. -/
def chomp (buf : List UInt8) : List UInt8 := buf.set (text buf).length 0

theorem cString_chomp : ∀ buf : List UInt8, cString (chomp buf) = text buf
  | [] => rfl
  | b :: buf => by
    have htail := cString_chomp buf
    unfold cString chomp text at *
    by_cases hline : b = newline
    · simp [hline]
    · by_cases hzero : b = 0
      · simp [hzero]
      · simpa [hline, hzero] using htail

/-- As a C string a line is `word` if it is `word`, or if a NUL cuts it there. -/
theorem text_eq_iff : ∀ {word bytes : List UInt8}, (∀ b ∈ word, b ≠ newline ∧ b ≠ 0) →
    (text bytes = word ↔ firstLine bytes = word ∨ word ++ [0] <+: bytes)
  | word, [], _ => by simp [text, firstLine]
  | [], b :: bytes, _ => by
    unfold text firstLine
    by_cases hline : b = newline
    · simp [hline]
    · by_cases hzero : b = 0
      · simp [hzero]
      · simp [hline, hzero, Ne.symm hzero]
  | w :: word, b :: bytes, hword => by
    obtain ⟨hline, hzero⟩ := hword w List.mem_cons_self
    by_cases hb : b = w
    · have htail : text bytes = word ↔ firstLine bytes = word ∨ word ++ [0] <+: bytes :=
        text_eq_iff fun c hc => hword c (List.mem_cons_of_mem w hc)
      unfold text firstLine at *
      simpa [hb, hline, hzero] using htail
    · have hhead : ∀ p : UInt8 → Bool, (b :: bytes).takeWhile p ≠ w :: word := by
        intro p heq
        have hprefix := heq ▸ List.takeWhile_prefix p (l := b :: bytes)
        exact hb (List.cons_prefix_cons.mp hprefix).1.symm
      refine iff_of_false (hhead _) ?_
      rintro (heq | hprefix)
      · exact hhead _ heq
      · exact hb (List.cons_prefix_cons.mp hprefix).1.symm

/-! ### Reading -/

/-- An input stream: what was read, and what is left. -/
structure Stream where
  read : List UInt8
  rest : List UInt8
  deriving DecidableEq, Repr

/-- All that the stream held at first. -/
def Stream.bytes (s : Stream) : List UInt8 := s.read ++ s.rest

/-- The stream after its next `n` bytes. -/
def Stream.advance (s : Stream) (n : ℕ) : Stream := ⟨s.read ++ s.rest.take n, s.rest.drop n⟩

/-- The next byte starts a line. -/
def AtLineStart (s : Stream) : Prop := s.read = [] ∨ s.read.getLast? = some newline

instance (s : Stream) : Decidable (AtLineStart s) := inferInstanceAs (Decidable (_ ∨ _))

/-- What `fgets` takes for a buffer with room for `n` bytes. -/
def taken : ℕ → List UInt8 → List UInt8
  | 0, _ => []
  | _, [] => []
  | n + 1, b :: bytes => if b = newline then [b] else b :: taken n bytes

/-- `fgets(buf, size, stdin)`: the buffer and the stream afterwards. -/
def fgets (size : ℕ) (buf : List UInt8) (s : Stream) : List UInt8 × Stream :=
  let line := taken (size - 1) s.rest
  if line = [] then (buf, s)
  else (line ++ 0 :: buf.drop (line.length + 1), s.advance line.length)

def getchar (s : Stream) : Stream := s.advance 1

@[simp] theorem advance_bytes (s : Stream) (n : ℕ) : (s.advance n).bytes = s.bytes := by
  simp [Stream.advance, Stream.bytes]

/-- `fgets` loses no byte and makes none up. -/
@[simp] theorem fgets_bytes (size : ℕ) (buf : List UInt8) (s : Stream) :
    (fgets size buf s).2.bytes = s.bytes := by
  unfold fgets
  by_cases h : taken (size - 1) s.rest = []
  · rw [if_pos h]
  · rw [if_neg h]
    exact advance_bytes s _

@[simp] theorem getchar_bytes (s : Stream) : (getchar s).bytes = s.bytes := advance_bytes s 1

theorem taken_of_newline : ∀ {n : ℕ} {bytes : List UInt8}, newline ∈ bytes.take n →
    taken n bytes = firstLine bytes ++ [newline]
  | n + 1, b :: bytes, h => by
    unfold taken firstLine
    by_cases hb : b = newline
    · simp [hb]
    · rw [List.take_succ_cons] at h
      have hrest := taken_of_newline ((List.mem_cons.mp h).resolve_left (Ne.symm hb))
      rw [if_neg hb, List.takeWhile_cons_of_pos (by simpa using hb)]
      exact congrArg (b :: ·) hrest

theorem taken_of_no_newline : ∀ {n : ℕ} {bytes : List UInt8}, newline ∉ bytes.take n →
    taken n bytes = bytes.take n
  | 0, _, _ => by simp [taken]
  | _ + 1, [], _ => rfl
  | n + 1, b :: bytes, h => by
    rw [List.take_succ_cons] at h ⊢
    have hb : b ≠ newline := fun heq => h (heq ▸ List.mem_cons_self)
    have hrest := taken_of_no_newline fun hmem => h (List.mem_cons_of_mem b hmem)
    rw [← hrest]
    exact if_neg hb

/-- `fgets` stops at the end of the line. -/
theorem taken_of_newline_drop {n : ℕ} {bytes : List UInt8} (h : newline ∈ bytes.take n) :
    bytes.drop (taken n bytes).length = afterLine bytes := by
  rw [taken_of_newline h, List.length_append]
  rfl

theorem taken_isPrefix : ∀ (n : ℕ) (bytes : List UInt8), taken n bytes <+: bytes
  | 0, bytes => List.nil_prefix
  | _ + 1, [] => List.nil_prefix
  | n + 1, b :: bytes => by
    unfold taken
    by_cases hb : b = newline
    · rw [if_pos hb]
      exact List.cons_prefix_cons.mpr ⟨rfl, List.nil_prefix⟩
    · rw [if_neg hb]
      exact List.cons_prefix_cons.mpr ⟨rfl, taken_isPrefix n bytes⟩

theorem taken_ne_nil {n : ℕ} (hn : 0 < n) {bytes : List UInt8} (h : bytes ≠ []) :
    taken n bytes ≠ [] := by
  obtain ⟨k, rfl⟩ := Nat.exists_eq_succ_of_ne_zero hn.ne'
  obtain ⟨b, tail, rfl⟩ := List.exists_cons_of_ne_nil h
  unfold taken
  by_cases hb : b = newline <;> simp [hb]

/-- At the end of the input `fgets` leaves the buffer as it is. -/
theorem fgets_of_rest_nil (size : ℕ) (buf : List UInt8) {s : Stream} (h : s.rest = []) :
    fgets size buf s = (buf, s) := by
  refine if_pos ?_
  exact List.prefix_nil.mp (h ▸ taken_isPrefix (size - 1) s.rest)

theorem fgets_of_rest {n : ℕ} (hn : 0 < n) (buf : List UInt8) {s : Stream} (h : s.rest ≠ []) :
    fgets (n + 1) buf s = (taken n s.rest ++ 0 :: buf.drop ((taken n s.rest).length + 1),
      s.advance (taken n s.rest).length) := by
  unfold fgets
  exact if_neg (taken_ne_nil hn h)

/-! ### What prompts leave -/

/-- What a prompt reads: a line, but no more than `n` bytes, or one byte. -/
inductive Prompt
  | line (n : ℕ)
  | key

/-- What the prompt leaves. -/
def Prompt.after : Prompt → List UInt8 → List UInt8
  | .line n, bytes => bytes.drop (taken n bytes).length
  | .key, bytes => bytes.drop 1

/-- What prompts leave that ask one after the other. -/
def afterPrompts (prompts : List Prompt) (bytes : List UInt8) : List UInt8 :=
  prompts.foldl (fun bytes prompt => prompt.after bytes) bytes

@[simp] theorem afterPrompts_nil (bytes : List UInt8) : afterPrompts [] bytes = bytes := rfl

@[simp] theorem afterPrompts_cons (prompt : Prompt) (prompts : List Prompt) (bytes : List UInt8) :
    afterPrompts (prompt :: prompts) bytes = afterPrompts prompts (prompt.after bytes) := rfl

theorem Prompt.after_length_le (prompt : Prompt) (bytes : List UInt8) :
    (prompt.after bytes).length ≤ bytes.length := by
  cases prompt <;> simp [Prompt.after]

theorem afterPrompts_length_le (prompts : List Prompt) (bytes : List UInt8) :
    (afterPrompts prompts bytes).length ≤ bytes.length := by
  induction prompts generalizing bytes with
  | nil => exact le_rfl
  | cons prompt prompts ih => exact (ih (prompt.after bytes)).trans (prompt.after_length_le bytes)

/-- Nothing comes of nothing. -/
theorem afterPrompts_of_nil (prompts : List Prompt) : afterPrompts prompts [] = [] :=
  List.length_eq_zero_iff.mp (Nat.le_zero.mp (afterPrompts_length_le prompts []))

/-- A line takes a byte at least, if there is one. -/
theorem Prompt.line_length_lt {n : ℕ} (hn : 0 < n) {bytes : List UInt8} (h : bytes ≠ []) :
    ((Prompt.line n).after bytes).length < bytes.length := by
  have hbytes := List.length_pos_iff.mpr h
  have htaken := List.length_pos_iff.mpr (taken_ne_nil hn h)
  simp only [Prompt.after, List.length_drop]
  omega

theorem fgets_rest {n : ℕ} (hn : 0 < n) (buf : List UInt8) (s : Stream) :
    (fgets (n + 1) buf s).2.rest = (Prompt.line n).after s.rest := by
  by_cases hs : s.rest = []
  · rw [fgets_of_rest_nil _ buf hs, hs]
    exact (afterPrompts_of_nil [.line n]).symm
  · rw [fgets_of_rest hn buf hs]
    rfl

theorem getchar_rest (s : Stream) : (getchar s).rest = Prompt.key.after s.rest := rfl

/-! ### Lines that fit -/

theorem Prompt.line_after_of_fits {n : ℕ} {bytes : List UInt8} (h : Fits n bytes) :
    (Prompt.line n).after bytes = afterLine bytes := by
  show bytes.drop (taken n bytes).length = afterLine bytes
  by_cases hline : newline ∈ bytes.take n
  · exact taken_of_newline_drop hline
  · have hall : bytes.take n = bytes := List.take_of_length_le (h.resolve_left hline)
    rw [taken_of_no_newline hline, hall, List.drop_length, afterLine_of_notMem (hall ▸ hline)]

/-- What is left after a line that fits. -/
theorem fgets_rest_of_fits {n : ℕ} (hn : 0 < n) (buf : List UInt8) {s : Stream} (h : Fits n s.rest) :
    (fgets (n + 1) buf s).2.rest = afterLine s.rest :=
  (fgets_rest hn buf s).trans (Prompt.line_after_of_fits h)

theorem fits_of_atLineStart {n : ℕ} (hn : 0 < n) (buf : List UInt8) {s : Stream}
    (h : (fgets (n + 1) buf s).2.rest ≠ [] → AtLineStart (fgets (n + 1) buf s).2) :
    Fits n s.rest := by
  by_contra hfits
  obtain ⟨hline, hlong⟩ := not_or.mp hfits
  have hlen : n < s.rest.length := Nat.lt_of_not_le hlong
  have hs : s.rest ≠ [] := List.ne_nil_of_length_pos (Nat.zero_lt_of_lt hlen)
  rw [fgets_of_rest hn buf hs, taken_of_no_newline hline, List.length_take_of_le hlen.le] at h
  have hlast : (s.rest.take n).getLast? ≠ some newline := fun h => hline (List.mem_of_getLast? h)
  have htake : s.rest.take n ≠ [] := by simp [hn.ne', hs]
  have hread : (s.advance n).read = s.read ++ s.rest.take n := rfl
  rcases h (by simpa [Stream.advance] using hlen) with hnil | hlast'
  · exact htake (List.append_eq_nil_iff.mp (hread ▸ hnil)).2
  · rw [hread, List.getLast?_append_of_ne_nil _ htake] at hlast'
    exact hlast hlast'

theorem atLineStart_of_fits {n : ℕ} (hn : 0 < n) (buf : List UInt8) {s : Stream}
    (hfits : Fits n s.rest) (hrest : (fgets (n + 1) buf s).2.rest ≠ []) :
    AtLineStart (fgets (n + 1) buf s).2 := by
  by_cases hline : newline ∈ s.rest.take n
  · have hs : s.rest ≠ [] := List.ne_nil_of_mem (List.mem_of_mem_take hline)
    rw [fgets_of_rest hn buf hs]
    have htaken : s.rest.take (taken n s.rest).length = firstLine s.rest ++ [newline] :=
      (List.prefix_iff_eq_take.mp (taken_isPrefix n s.rest)).symm.trans (taken_of_newline hline)
    refine .inr ?_
    show (s.read ++ s.rest.take _).getLast? = some newline
    rw [htaken, ← List.append_assoc, List.getLast?_concat]
  · rw [fgets_rest_of_fits hn buf hfits] at hrest
    have hall : s.rest.take n = s.rest := List.take_of_length_le (hfits.resolve_left hline)
    exact absurd (afterLine_of_notMem (hall ▸ hline)) hrest

/-- **The next read starts on a line of its own** exactly if the line fits. -/
theorem fgets_atLineStart_iff {n : ℕ} (hn : 0 < n) (buf : List UInt8) (s : Stream) :
    ((fgets (n + 1) buf s).2.rest ≠ [] → AtLineStart (fgets (n + 1) buf s).2) ↔ Fits n s.rest :=
  ⟨fits_of_atLineStart hn buf, atLineStart_of_fits hn buf⟩

/-! ### What is read -/

theorem text_taken : ∀ (n : ℕ) (bytes : List UInt8), text (taken n bytes) = (text bytes).take n
  | 0, _ => by simp [taken, text]
  | _ + 1, [] => rfl
  | n + 1, b :: bytes => by
    have htail := text_taken n bytes
    unfold taken
    by_cases hline : b = newline
    · simp [hline, text]
    · rw [if_neg hline]
      unfold text at *
      by_cases hzero : b = 0
      · simp [hzero]
      · simpa [hline, hzero] using htail

theorem text_append_zero (bytes tail : List UInt8) : text (bytes ++ 0 :: tail) = text bytes := by
  induction bytes with
  | nil => simp [text]
  | cons b bytes ih =>
    unfold text at *
    rw [List.cons_append, List.takeWhile_cons, List.takeWhile_cons, ih]

/-- The string read, cut at its newline. -/
theorem cString_chomp_fgets {n : ℕ} (hn : 0 < n) (buf : List UInt8) {s : Stream} (h : s.rest ≠ []) :
    cString (chomp (fgets (n + 1) buf s).1) = (text s.rest).take n := by
  rw [cString_chomp, fgets_of_rest hn buf h]
  exact (text_append_zero _ _).trans (text_taken n s.rest)

/-- The first byte of the buffer. -/
theorem fgets_headD {n : ℕ} (hn : 0 < n) (buf : List UInt8) (s : Stream) :
    (fgets (n + 1) buf s).1.headD 0 = s.rest.headD (buf.headD 0) := by
  cases hs : s.rest with
  | nil =>
    rw [fgets_of_rest_nil _ buf hs]
    rfl
  | cons b bytes =>
    obtain ⟨k, rfl⟩ := Nat.exists_eq_succ_of_ne_zero hn.ne'
    rw [fgets_of_rest hn buf (by simp [hs]), hs]
    unfold taken
    by_cases hb : b = newline <;> simp [hb]

end LineInput
