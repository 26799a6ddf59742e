import PowerManager.Client.Basic
import PowerManager.DecimalText
import Mathlib.Data.List.DropRight

/-!
# The process id in a file

Thunder writes its process id to a file. The monitor reads the first line of the file into a buffer
of 64 bytes, and takes the number at its beginning, unless that is zero or no `long`.

`readPID_decimal` says that a process id is read back, with anything after its last digit, and
`readPID_eq` what is read from any file. `long` has 32 bits or more.
-/

namespace PowerManager.Client.PIDFileMonitor

open CString

/-- What there is at the path of the file. -/
inductive PidFile
  /-- The file cannot be opened. -/
  | notOpened
  /-- `fgets` fails before the end of the file. -/
  | readError
  | content (bytes : List UInt8)
  deriving DecidableEq, Repr

/-- `fgets` into a buffer of the given size: the first line with its newline, cut off. -/
def fgets (size : ℕ) (content : List UInt8) : List UInt8 :=
  let line := content.takeWhile (· ≠ 10)
  (content.take (line.length + 1)).take (size - 1)

/-- `trim`. -/
def trim (s : List UInt8) : List UInt8 := (s.dropWhile isSpace).rdropWhile isSpace

/-- `strtol` with base 10, or none if it sets `errno`. -/
def strtol? (longBits : ℕ) (s : List UInt8) : Option ℤ :=
  if -2 ^ (longBits - 1) ≤ number s ∧ number s < 2 ^ (longBits - 1) then some (number s) else none

/-- `parsePID`. The `long` is converted to an `int`. -/
def parsePID (longBits : ℕ) (buf : List UInt8) : ℤ :=
  if buf = [] then invalidPid
  else
    match strtol? longBits (trim buf) with
    | none => invalidPid
    | some pid => if pid = 0 then invalidPid else (Int32.ofInt pid).toInt

/-- `readPID`. Without a byte in the file, the buffer stays empty. -/
def readPID (longBits : ℕ) : PidFile → ℤ
  | .notOpened | .readError => invalidPid
  | .content bytes => parsePID longBits (ofBytes (fgets 64 bytes))

example : readPID 64 (.content [32, 52, 50, 10, 55]) = 42 := by decide

/-! ## What is read -/

variable {spaces digits rest s : List UInt8} {longBits p : ℕ}

/-- Dropping bytes at the end stops at the last one that stays. -/
theorem exists_rdropWhile (hdigits : ∀ b ∈ digits, isSpace b = false) (rest : List UInt8) :
    ∃ t, t <+: rest ∧ (digits ++ rest).rdropWhile isSpace = digits ++ t := by
  induction rest using List.reverseRecOn with
  | nil =>
    refine ⟨[], List.prefix_rfl, ?_⟩
    rw [List.append_nil, List.rdropWhile_eq_self_iff]
    intro hne hspace
    rw [hdigits _ (List.getLast_mem hne)] at hspace
    cases hspace
  | append_singleton rest b ih =>
    rw [← List.append_assoc]
    by_cases hb : isSpace b = true
    · rw [List.rdropWhile_concat_pos isSpace _ _ hb]
      obtain ⟨t, ht, heq⟩ := ih
      exact ⟨t, ht.trans (List.prefix_append ..), heq⟩
    · rw [List.rdropWhile_concat_neg isSpace _ _ hb]
      exact ⟨rest ++ [b], List.prefix_rfl, List.append_assoc ..⟩

/-- The beginning of something that has no digit at its head has none. -/
theorem head_of_shorter {t : List UInt8} (ht : t <+: rest)
    (hrest : ∀ b ∈ rest.head?, isDigit b = false) : ∀ b ∈ t.head?, isDigit b = false := by
  obtain ⟨u, rfl⟩ := ht
  cases t with
  | nil => exact fun b hb => absurd hb (by simp)
  | cons c t => exact hrest

/-- `fgets` cuts a file off behind a beginning without a newline that fits in the buffer. -/
theorem exists_fgets {size : ℕ} (hs : 10 ∉ s) (hlen : s.length < size) (rest : List UInt8) :
    ∃ t, t <+: rest ∧ fgets size (s ++ rest) = s ++ t := by
  have hall : ∀ b ∈ s, decide (b ≠ 10) = true := by
    intro b hb
    rw [decide_eq_true_eq]
    rintro rfl
    exact hs hb
  refine ⟨(rest.take ((rest.takeWhile (· ≠ 10)).length + 1)).take (size - 1 - s.length),
    (List.take_prefix ..).trans (List.take_prefix ..), ?_⟩
  simp only [fgets, List.takeWhile_append_of_pos hall, List.length_append]
  rw [Nat.add_assoc, List.take_length_add_append, List.take_append,
    List.take_of_length_le (by omega)]

/-- The string at the beginning of bytes without a NUL goes on behind them. -/
theorem ofBytes_append_shorter (hs : 0 ∉ s) (rest : List UInt8) :
    ∃ t, t <+: rest ∧ ofBytes (s ++ rest) = s ++ t := by
  have hall : ∀ b ∈ s, decide (b ≠ 0) = true := by
    intro b hb
    rw [decide_eq_true_eq]
    rintro rfl
    exact hs hb
  exact ⟨_, List.takeWhile_prefix _, List.takeWhile_append_of_pos hall⟩

/-- A byte that is white space or a digit is no NUL. -/
theorem not_mem_zero (hspaces : ∀ b ∈ spaces, isSpace b = true)
    (hdigits : ∀ b ∈ digits, isDigit b = true) : 0 ∉ spaces ++ digits := by
  intro hmem
  rcases List.mem_append.mp hmem with hmem | hmem
  · exact absurd (hspaces 0 hmem) (by decide)
  · exact absurd (hdigits 0 hmem) (by decide)

/-- White space around a number does not matter. -/
theorem number_trim (hspaces : ∀ b ∈ spaces, isSpace b = true) (hne : digits ≠ [])
    (hdigits : ∀ b ∈ digits, isDigit b = true) (hrest : ∀ b ∈ rest.head?, isDigit b = false) :
    number (trim (spaces ++ (digits ++ rest))) = value digits := by
  obtain ⟨t, ht, heq⟩ := exists_rdropWhile (fun b hb => (not_sign_of_isDigit (hdigits b hb)).1) rest
  rw [trim, dropWhile_isSpace hspaces hne hdigits, heq]
  exact (IsDecimal.intro (List.forall_mem_nil _) hne hdigits (head_of_shorter ht hrest)).number_eq

/-- What is left of a file that begins with white space other than a newline and the text of a
number, if these fit in the buffer. -/
theorem exists_string (hspaces : ∀ b ∈ spaces, isSpace b = true) (hline : 10 ∉ spaces)
    (hfits : (spaces ++ decimal p).length < 64) (hrest : ∀ b ∈ rest.head?, isDigit b = false) :
    ∃ t, (∀ b ∈ t.head?, isDigit b = false) ∧
      ofBytes (fgets 64 (spaces ++ (decimal p ++ rest))) = spaces ++ (decimal p ++ t) := by
  have hdigits : ∀ b ∈ decimal p, isDigit b = true := fun _ hb => isDigit_decimal hb
  have hline' : 10 ∉ spaces ++ decimal p := by
    intro hmem
    rcases List.mem_append.mp hmem with hmem | hmem
    · exact hline hmem
    · exact absurd (hdigits 10 hmem) (by decide)
  obtain ⟨t, ht, hread⟩ := exists_fgets hline' hfits rest
  obtain ⟨t', ht', hstring⟩ := ofBytes_append_shorter (not_mem_zero hspaces hdigits) t
  refine ⟨t', head_of_shorter (ht'.trans ht) hrest, ?_⟩
  rw [← List.append_assoc, hread, hstring, List.append_assoc]

/-- What is read from such a file: zero, and a number that is no `long`, are no process id. -/
theorem readPID_eq (hspaces : ∀ b ∈ spaces, isSpace b = true) (hline : 10 ∉ spaces)
    (hfits : (spaces ++ decimal p).length < 64) (hrest : ∀ b ∈ rest.head?, isDigit b = false) :
    readPID longBits (.content (spaces ++ (decimal p ++ rest))) =
      if p = 0 ∨ 2 ^ (longBits - 1) ≤ p then invalidPid else (Int32.ofInt p).toInt := by
  obtain ⟨t, ht, hstring⟩ := exists_string hspaces hline hfits hrest
  have hne : spaces ++ (decimal p ++ t) ≠ [] := by
    simp [decimal_ne_nil]
  have hnumber := number_trim hspaces (decimal_ne_nil p) (fun _ hb => isDigit_decimal hb) ht
  rw [value_decimal] at hnumber
  have hpow : ((2 : ℤ) ^ (longBits - 1)) = ((2 ^ (longBits - 1) : ℕ) : ℤ) := by push_cast; rfl
  rw [readPID, hstring, parsePID, if_neg hne, strtol?, hnumber, hpow]
  by_cases hlong : p < 2 ^ (longBits - 1)
  · rw [if_pos ⟨by omega, by omega⟩]
    by_cases hzero : p = 0
    · simp [hzero]
    · rw [if_neg (by omega : ¬(p = 0 ∨ 2 ^ (longBits - 1) ≤ p))]
      exact if_neg (by omega)
  · rw [if_neg (by omega), if_pos (.inr (by omega))]

/-- A process id is read back. -/
theorem readPID_decimal (hpos : 0 < p) (hp : p < 2 ^ 31) (hbits : 32 ≤ longBits)
    (hspaces : ∀ b ∈ spaces, isSpace b = true) (hline : 10 ∉ spaces)
    (hfits : (spaces ++ decimal p).length < 64) (hrest : ∀ b ∈ rest.head?, isDigit b = false) :
    readPID longBits (.content (spaces ++ (decimal p ++ rest))) = p := by
  have hpow : 2 ^ 31 ≤ 2 ^ (longBits - 1) := Nat.pow_le_pow_right (by decide) (by omega)
  rw [readPID_eq hspaces hline hfits hrest, if_neg (by omega)]
  exact Int32.toInt_ofInt_of_le (by omega) (by omega)

theorem readPID_decimal_forty_two :
    readPID 32 (.content ([32] ++ (decimal 42 ++ [10, 55]))) = (42 : ℕ) :=
  readPID_decimal (by decide) (by decide) le_rfl (by simp [isSpace]) (by decide) (by decide)
    (by simp [isDigit])

end PowerManager.Client.PIDFileMonitor
