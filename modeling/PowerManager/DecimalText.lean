import PowerManager.CString
import Mathlib.Data.Nat.Digits.Defs

/-!
# Decimal numbers in text files

What `fprintf` writes for a number that is not negative, and what repeated conversions of `fscanf`
find in a file that holds several numbers.

The module introduces:

* `CString.decimal` — the text of a number, which is read back (`IsDecimal.ofNat`);
* `CString.scanMany` — a loop of conversions that stops at the first one that finds no number;
* `CString.IsDecimals` — a file with decimal numbers, in which the loop finds them
  (`IsDecimals.scanMany_eq`).
-/

namespace CString

/-- The text of a number, as `%u` writes it. -/
def decimal (n : ℕ) : List UInt8 :=
  if n = 0 then [48] else (Nat.digits 10 n).reverse.map fun d => .ofNat (48 + d)

/-- What one conversion of a number leaves of a file. -/
def scanRest (file : List UInt8) : List UInt8 :=
  match file.dropWhile isSpace with
  | 45 :: s => s.dropWhile isDigit
  | 43 :: s => s.dropWhile isDigit
  | s => s.dropWhile isDigit

/-- The numbers that a loop of at most `count` conversions finds. -/
def scanMany : ℕ → List UInt8 → List ℤ
  | 0, _ => []
  | count + 1, file =>
    match scan file with
    | .number n => n :: scanMany count (scanRest file)
    | _ => []

/-- A file with decimal numbers: each of them comes after white space, and ends where no digit
follows. -/
inductive IsDecimals : List UInt8 → List ℕ → Prop
  | nil {spaces : List UInt8} (hspaces : ∀ b ∈ spaces, isSpace b = true) : IsDecimals spaces []
  | cons {spaces digits rest : List UInt8} {ns : List ℕ} (hspaces : ∀ b ∈ spaces, isSpace b = true)
      (hne : digits ≠ []) (hdigits : ∀ b ∈ digits, isDigit b = true)
      (hrest : ∀ b ∈ rest.head?, isDigit b = false) (h : IsDecimals rest ns) :
      IsDecimals (spaces ++ (digits ++ rest)) (value digits :: ns)

example : scanMany 32 [49, 50, 32, 55, 10] = [12, 7] := by decide

/-! ## The text of a number -/

variable {file spaces digits rest : List UInt8} {m n count : ℕ} {ns : List ℕ}

/-- The value of a text with one digit more. -/
theorem value_concat (digits : List UInt8) (b : UInt8) :
    value (digits ++ [b]) = 10 * value digits + (b.toNat - 48) := by
  rw [value, List.foldl_append]
  rfl

/-- The character of a digit. -/
theorem toNat_digit {d : ℕ} (hd : d < 10) : (UInt8.ofNat (48 + d)).toNat = 48 + d := by
  rw [UInt8.toNat_ofNat']
  omega

/-- The value of the characters of some digits, the last one of which comes first. -/
theorem value_map_reverse {ds : List ℕ} (hds : ∀ d ∈ ds, d < 10) :
    value (ds.reverse.map fun d => .ofNat (48 + d)) = Nat.ofDigits 10 ds := by
  induction ds with
  | nil => rfl
  | cons d ds ih =>
    obtain ⟨hd, hds⟩ := List.forall_mem_cons.mp hds
    rw [List.reverse_cons, List.map_append, List.map_singleton, value_concat, ih hds,
      toNat_digit hd, Nat.ofDigits_cons]
    omega

/-- The text of a number has its value. -/
@[simp]
theorem value_decimal (n : ℕ) : value (decimal n) = n := by
  rw [decimal]
  split
  · rename_i hn
    rw [hn]
    rfl
  · rw [value_map_reverse fun d hd => Nat.digits_lt_base (by decide) hd, Nat.ofDigits_digits]

/-- The text of a number is made of digits. -/
theorem isDigit_decimal {b : UInt8} (h : b ∈ decimal n) : isDigit b = true := by
  rw [decimal] at h
  split at h
  · obtain rfl : b = 48 := by simpa using h
    rfl
  · obtain ⟨d, hd, rfl⟩ := List.mem_map.mp h
    have hlt : d < 10 := Nat.digits_lt_base (by decide) (List.mem_reverse.mp hd)
    simp only [isDigit, Bool.and_eq_true, decide_eq_true_eq, UInt8.le_iff_toNat_le, toNat_digit hlt]
    change 48 ≤ _ ∧ _ ≤ 57
    omega

/-- The text of a number is not empty. -/
theorem decimal_ne_nil (n : ℕ) : decimal n ≠ [] := by
  rw [decimal]
  split
  · exact List.cons_ne_nil _ _
  · rename_i hn
    simpa [Nat.digits_eq_nil_iff_eq_zero] using hn

/-- A digit is neither white space nor a sign. -/
theorem not_sign_of_isDigit {b : UInt8} (h : isDigit b = true) :
    isSpace b = false ∧ b ≠ 45 ∧ b ≠ 43 := by
  refine ⟨?_, ?_, ?_⟩
  · simp only [isDigit, Bool.and_eq_true, decide_eq_true_eq] at h
    simp only [isSpace, Bool.or_eq_false_iff, Bool.and_eq_false_iff, decide_eq_false_iff_not]
    grind
  · rintro rfl
    cases h
  · rintro rfl
    cases h

/-- White space before a digit is skipped. -/
theorem dropWhile_isSpace (hspaces : ∀ b ∈ spaces, isSpace b = true) (hne : digits ≠ [])
    (hdigits : ∀ b ∈ digits, isDigit b = true) :
    (spaces ++ (digits ++ rest)).dropWhile isSpace = digits ++ rest := by
  obtain ⟨d, ds, rfl⟩ := List.exists_cons_of_ne_nil hne
  obtain ⟨hspace, -, -⟩ := not_sign_of_isDigit (hdigits d (List.mem_cons_self ..))
  rw [List.dropWhile_append_of_pos hspaces, List.cons_append, List.dropWhile_cons, hspace]
  rfl

/-- Digits are taken up to the first byte that is none. -/
theorem takeWhile_isDigit (hdigits : ∀ b ∈ digits, isDigit b = true)
    (hrest : ∀ b ∈ rest.head?, isDigit b = false) :
    (digits ++ rest).takeWhile isDigit = digits := by
  have hstop : rest.takeWhile isDigit = [] := by
    cases rest with
    | nil => rfl
    | cons b bs => simp [hrest b rfl]
  rw [List.takeWhile_append_of_pos hdigits, hstop, List.append_nil]

/-- Digits are dropped up to the first byte that is none. -/
theorem dropWhile_isDigit (hdigits : ∀ b ∈ digits, isDigit b = true)
    (hrest : ∀ b ∈ rest.head?, isDigit b = false) :
    (digits ++ rest).dropWhile isDigit = rest := by
  rw [List.dropWhile_append_of_pos hdigits]
  cases rest with
  | nil => rfl
  | cons b bs => simp [hrest b rfl]

/-- The first character of some text, if that is a digit, selects the branch without a sign. -/
theorem match_of_isDigit {α : Type*} {f g h : List UInt8 → α} (hne : digits ≠ [])
    (hdigits : ∀ b ∈ digits, isDigit b = true) :
    (match digits ++ rest with
      | 45 :: s => f s
      | 43 :: s => g s
      | s => h s) = h (digits ++ rest) := by
  obtain ⟨d, ds, rfl⟩ := List.exists_cons_of_ne_nil hne
  obtain ⟨-, hminus, hplus⟩ := not_sign_of_isDigit (hdigits d (List.mem_cons_self ..))
  split
  · rename_i heq
    exact absurd (List.cons.inj heq).1 hminus
  · rename_i heq
    exact absurd (List.cons.inj heq).1 hplus
  · rfl

/-- The number at the beginning of a string with a decimal number. -/
theorem IsDecimal.number_eq (h : IsDecimal file m) : number file = m := by
  obtain ⟨hspaces, hne, hdigits, hrest⟩ := h
  rw [number, dropWhile_isSpace hspaces hne hdigits]
  refine (match_of_isDigit hne hdigits).trans ?_
  rw [takeWhile_isDigit hdigits hrest]

/-- White space, the text of a number, and something that is no digit. -/
theorem IsDecimal.ofNat (n : ℕ) (hspaces : ∀ b ∈ spaces, isSpace b = true)
    (hrest : ∀ b ∈ rest.head?, isDigit b = false) :
    IsDecimal (spaces ++ (decimal n ++ rest)) n := by
  have h := IsDecimal.intro hspaces (decimal_ne_nil n) (fun _ hb => isDigit_decimal hb) hrest
  rwa [value_decimal] at h

/-! ## Several numbers -/

/-- A conversion ends behind the digits. -/
theorem scanRest_append (hspaces : ∀ b ∈ spaces, isSpace b = true) (hne : digits ≠ [])
    (hdigits : ∀ b ∈ digits, isDigit b = true) (hrest : ∀ b ∈ rest.head?, isDigit b = false) :
    scanRest (spaces ++ (digits ++ rest)) = rest := by
  rw [scanRest, dropWhile_isSpace hspaces hne hdigits]
  exact (match_of_isDigit hne hdigits).trans (dropWhile_isDigit hdigits hrest)

/-- The loop finds the numbers of the file, from the first one on. -/
theorem IsDecimals.scanMany_eq (h : IsDecimals file ns) (count : ℕ) :
    scanMany count file = (ns.take count).map Int.ofNat := by
  induction h generalizing count with
  | nil hspaces =>
    rename_i spaces
    have hdrop : spaces.dropWhile isSpace = [] := List.dropWhile_eq_nil_iff.mpr hspaces
    cases count with
    | zero => rfl
    | succ count => simp [scanMany, scan, hdrop]
  | cons hspaces hne hdigits hrest _ ih =>
    cases count with
    | zero => rfl
    | succ count =>
      have hscan := (IsDecimal.intro hspaces hne hdigits hrest).scan_eq
      rw [scanMany, hscan, scanRest_append hspaces hne hdigits hrest]
      exact congrArg _ (ih count)

/-- A file in which every number is followed by a space. -/
theorem IsDecimals.ofList (ns : List ℕ) :
    IsDecimals (ns.flatMap fun n => decimal n ++ [32]) ns := by
  suffices ∀ spaces : List UInt8, (∀ b ∈ spaces, isSpace b = true) →
      IsDecimals (spaces ++ ns.flatMap fun n => decimal n ++ [32]) ns from
    this [] (List.forall_mem_nil _)
  induction ns with
  | nil => exact fun spaces hspaces => .nil (by simpa using hspaces)
  | cons n ns ih =>
    intro spaces hspaces
    have h := IsDecimals.cons hspaces (decimal_ne_nil n) (fun _ hb => isDigit_decimal hb)
      (by simp [isDigit]) (ih [32] (by simp [isSpace]))
    rw [value_decimal] at h
    simpa [List.append_assoc] using h

end CString
