import Mathlib.Data.List.TakeWhile
import Mathlib.Data.Nat.Notation

/-!
# C strings in buffers

A C string is the bytes of a buffer up to the first NUL. Every access to a buffer is checked here:
the functions of the string library return `none` for an access outside of it.

The module introduces:

* `CString.ofBytes` — the string at the beginning of some bytes, and `CString.strlen?`;
* `CString.Buffer` — a buffer that is written to, `Buffer.store?` and `Buffer.strncpy?`;
* `Buffer.copyString?` — `strncpy`, and a NUL after the copy — with what it leaves in the buffer
  (`exists_copyString?`) and when it leaves the buffer (`copyString?_eq_none`);
* `CString.atoi` — the number at the beginning of a string, which is zero if its `digits` are
  (`number_eq_zero_iff`) — and `CString.scan`, that of a file, with what it finds in a file that
  holds a decimal number (`IsDecimal.scan_eq`).
-/

namespace CString

/-- The string at the beginning of the bytes. -/
def ofBytes (bytes : List UInt8) : List UInt8 := bytes.takeWhile (· ≠ 0)

/-- `strlen`. Without a NUL the search leaves the bytes. -/
def strlen? (bytes : List UInt8) : Option ℕ :=
  if 0 ∈ bytes then some (ofBytes bytes).length else none

/-- A buffer of `n` bytes. -/
structure Buffer (n : ℕ) where
  bytes : List UInt8
  length_bytes : bytes.length = n
  deriving DecidableEq

namespace Buffer

variable {n : ℕ}

attribute [simp] length_bytes

/-- A buffer full of zeros. -/
def zero (n : ℕ) : Buffer n := ⟨List.replicate n 0, List.length_replicate⟩

/-- `buf[i] = b`. -/
def store? (buf : Buffer n) (i : ℕ) (b : UInt8) : Option (Buffer n) :=
  if i < n then some ⟨buf.bytes.set i b, by simp⟩ else none

/-- What `strncpy` writes: the string, cut off after `count` bytes, or filled up with NUL. -/
def copied (src : List UInt8) (count : ℕ) : List UInt8 :=
  (ofBytes src).take count ++ List.replicate (count - (ofBytes src).length) 0

theorem length_copied (src : List UInt8) (count : ℕ) : (copied src count).length = count := by
  rw [copied, List.length_append, List.length_take, List.length_replicate]
  omega

/-- `strncpy (dst, src, count)`. It reads up to the first NUL of the source, or `count` bytes, and
always writes `count` bytes. -/
def strncpy? (dst : Buffer n) (src : List UInt8) (count : ℕ) : Option (Buffer n) :=
  if h : count ≤ n ∧ (0 ∈ src ∨ count ≤ src.length) then
    some ⟨copied src count ++ dst.bytes.drop count, by simp [length_copied, h.1]⟩
  else none

/-- `strncpy (dst, src, count)` and `dst[count] = 0`. -/
def copyString? (dst : Buffer n) (src : List UInt8) (count : ℕ) : Option (Buffer n) :=
  (dst.strncpy? src count).bind fun buf => buf.store? count 0

end Buffer

/-! ## Strings -/

variable {bytes s rest : List UInt8} {n : ℕ}

/-- A string has no NUL. -/
theorem not_mem_ofBytes (bytes : List UInt8) : 0 ∉ ofBytes bytes := by
  intro h
  simpa using List.mem_takeWhile_imp h

/-- The string ends at the first NUL. -/
theorem ofBytes_append (hs : 0 ∉ s) : ofBytes (s ++ 0 :: rest) = s := by
  have hall : ∀ b ∈ s, decide (b ≠ 0) = true := by
    intro b hb
    rw [decide_eq_true_eq]
    rintro rfl
    exact hs hb
  rw [ofBytes, List.takeWhile_append_of_pos hall]
  exact List.append_nil s

/-- A string that nothing but NUL follows. -/
theorem ofBytes_append_replicate (hs : 0 ∉ s) (k : ℕ) : ofBytes (s ++ List.replicate k 0) = s := by
  cases k with
  | zero =>
    rw [List.replicate_zero, List.append_nil, ofBytes, List.takeWhile_eq_self_iff]
    intro b hb
    rw [decide_eq_true_eq]
    rintro rfl
    exact hs hb
  | succ k => exact ofBytes_append hs

/-- The string in the first bytes. -/
theorem ofBytes_take (bytes : List UInt8) (i : ℕ) : ofBytes (bytes.take i) = (ofBytes bytes).take i :=
  (List.take_takeWhile ..).symm

/-- A NUL that is stored cuts the string off. -/
theorem ofBytes_set {i : ℕ} (hi : i < bytes.length) :
    ofBytes (bytes.set i 0) = (ofBytes bytes).take i := by
  induction bytes generalizing i with
  | nil => cases hi
  | cons b bs ih =>
    cases i with
    | zero => rfl
    | succ i =>
      rw [List.set_cons_succ, ofBytes, ofBytes, List.takeWhile_cons, List.takeWhile_cons]
      by_cases hb : b = 0
      · simp [hb]
      · rw [if_pos (by simpa using hb), if_pos (by simpa using hb), List.take_succ_cons]
        exact congrArg _ (ih (Nat.lt_of_succ_lt_succ hi))

/-- Bytes with a NUL are a string, the NUL, and the rest. -/
theorem exists_of_mem (h : 0 ∈ bytes) : ∃ rest, bytes = ofBytes bytes ++ 0 :: rest := by
  induction bytes with
  | nil => cases h
  | cons b bs ih =>
    by_cases hb : b = 0
    · refine ⟨bs, ?_⟩
      rw [hb]
      rfl
    · have hbs : 0 ∈ bs := (List.mem_cons.mp h).resolve_left fun h0 => hb h0.symm
      obtain ⟨rest, hrest⟩ := ih hbs
      refine ⟨rest, ?_⟩
      have hcons : ofBytes (b :: bs) = b :: ofBytes bs := by
        rw [ofBytes, List.takeWhile_cons, if_pos (by simpa using hb)]
        rfl
      rw [hcons, List.cons_append, ← hrest]

/-- A string is shorter than the bytes that it is in. -/
theorem length_ofBytes_lt (h : 0 ∈ bytes) : (ofBytes bytes).length < bytes.length := by
  obtain ⟨rest, hrest⟩ := exists_of_mem h
  have hlen := congrArg List.length hrest
  rw [List.length_append, List.length_cons] at hlen
  omega

/-- The characters of a string are the bytes that it is in. -/
theorem getElem?_of_lt {i : ℕ} (h : 0 ∈ bytes) (hi : i < (ofBytes bytes).length) :
    bytes[i]? = (ofBytes bytes)[i]? := by
  obtain ⟨rest, hrest⟩ := exists_of_mem h
  have happend : (ofBytes bytes ++ 0 :: rest)[i]? = (ofBytes bytes)[i]? :=
    List.getElem?_append_left hi
  rwa [← hrest] at happend

/-- The bytes up to the first NUL, which is the last one of them. -/
theorem getElem?_of_le {i : ℕ} (h : 0 ∈ bytes) (hi : i ≤ (ofBytes bytes).length) :
    bytes[i]? = some ((ofBytes bytes)[i]?.getD 0) := by
  rcases Nat.lt_or_eq_of_le hi with hlt | rfl
  · rw [getElem?_of_lt h hlt, List.getElem?_eq_getElem hlt]
    rfl
  · obtain ⟨rest, hrest⟩ := exists_of_mem h
    have happend : (ofBytes bytes ++ 0 :: rest)[(ofBytes bytes).length]? = some 0 := by
      rw [List.getElem?_append_right (Nat.le_refl _), Nat.sub_self, List.getElem?_cons_zero]
    rw [← hrest] at happend
    rw [happend, List.getElem?_eq_none_iff.mpr (Nat.le_refl _)]
    rfl

/-- The rest of a string is a string. -/
theorem ofBytes_drop {i : ℕ} (h : 0 ∈ bytes) (hi : i ≤ (ofBytes bytes).length) :
    ofBytes (bytes.drop i) = (ofBytes bytes).drop i ∧ 0 ∈ bytes.drop i := by
  obtain ⟨rest, hrest⟩ := exists_of_mem h
  have hdrop : bytes.drop i = (ofBytes bytes).drop i ++ 0 :: rest := by
    have happend : (ofBytes bytes ++ 0 :: rest).drop i = (ofBytes bytes).drop i ++ 0 :: rest :=
      List.drop_append_of_le_length hi
    rwa [← hrest] at happend
  rw [hdrop]
  exact ⟨ofBytes_append fun h0 => not_mem_ofBytes bytes (List.mem_of_mem_drop h0), by simp⟩

/-! ## Copies -/

namespace Buffer

variable {dst : Buffer n} {src : List UInt8} {count : ℕ}

/-- The string in the bytes of a copy. -/
theorem ofBytes_copied (src : List UInt8) (count : ℕ) :
    ofBytes (copied src count) = (ofBytes src).take count :=
  ofBytes_append_replicate (fun h => not_mem_ofBytes src (List.mem_of_mem_take h)) _

/-- A buffer of zeros that a string is copied to holds the string, cut off after `count` bytes. -/
theorem exists_strncpy?_zero (src : List UInt8) (hcount : count ≤ n) (hsrc : 0 ∈ src) :
    ∃ buf, (zero n).strncpy? src count = some buf ∧
      ofBytes buf.bytes = (ofBytes src).take count := by
  rw [strncpy?, dif_pos ⟨hcount, .inl hsrc⟩]
  refine ⟨_, rfl, ?_⟩
  have hno : 0 ∉ (ofBytes src).take count := fun h => not_mem_ofBytes src (List.mem_of_mem_take h)
  -- what `strncpy` fills up with is followed by what the buffer has held before
  change ofBytes (copied src count ++ (List.replicate n 0).drop count) = _
  rw [copied, List.append_assoc, List.drop_replicate, List.replicate_append_replicate,
    ofBytes_append_replicate hno]

/-- A NUL that is stored ends the string in the buffer. -/
theorem exists_store?_zero (buf : Buffer n) {i : ℕ} (hi : i < n) :
    ∃ buf', buf.store? i 0 = some buf' ∧ ofBytes buf'.bytes = (ofBytes buf.bytes).take i ∧
      0 ∈ buf'.bytes := by
  have hlen : i < buf.bytes.length := by rwa [length_bytes]
  rw [store?, if_pos hi]
  exact ⟨_, rfl, ofBytes_set hlen, List.mem_set hlen 0⟩

/-- A copy that fits in the buffer leaves the beginning of the source there as a string. -/
theorem exists_copyString? (dst : Buffer n) (src : List UInt8) (hcount : count < n)
    (hsrc : 0 ∈ src) :
    ∃ buf, dst.copyString? src count = some buf ∧ ofBytes buf.bytes = (ofBytes src).take count ∧
      0 ∈ buf.bytes := by
  have hcopy : count ≤ n ∧ (0 ∈ src ∨ count ≤ src.length) := ⟨by omega, .inl hsrc⟩
  rw [copyString?, strncpy?, dif_pos hcopy, Option.bind_some]
  obtain ⟨buf, hstore, hbuf, hnul⟩ := exists_store?_zero
    ⟨copied src count ++ dst.bytes.drop count, by simp [length_copied, hcopy.1]⟩ hcount
  refine ⟨buf, hstore, ?_, hnul⟩
  -- what the buffer has held before begins behind the NUL
  have htake : (copied src count ++ dst.bytes.drop count).take count = copied src count :=
    List.take_left' (length_copied src count)
  rw [hbuf, ← ofBytes_take, htake, ofBytes_copied]

/-- A copy that leaves no room for the NUL leaves the buffer. -/
theorem copyString?_eq_none (hcount : n ≤ count) : dst.copyString? src count = none := by
  rw [copyString?]
  cases dst.strncpy? src count with
  | none => rfl
  | some buf => rw [Option.bind_some, store?, if_neg (by omega)]

end Buffer

/-! ## Numbers -/

/-- `isspace`, in the C locale. -/
def isSpace (b : UInt8) : Bool := b = 32 || (9 ≤ b && b ≤ 13)

/-- `isdigit`. -/
def isDigit (b : UInt8) : Bool := 48 ≤ b && b ≤ 57

/-- The value of some digits. -/
def value (digits : List UInt8) : ℕ := digits.foldl (fun v b => 10 * v + (b.toNat - 48)) 0

/-- The number at the beginning of a string: after white space and a sign, the digits up to the
first byte that is none. -/
def number (s : List UInt8) : ℤ :=
  match s.dropWhile isSpace with
  | 45 :: s => -(value (s.takeWhile isDigit) : ℤ)
  | 43 :: s => value (s.takeWhile isDigit)
  | s => value (s.takeWhile isDigit)

/-- `atoi`. The result is undefined for a number that is no `int`; `overflow` stands for it. -/
def atoi (overflow : ℤ → ℤ) (s : List UInt8) : ℤ :=
  if -0x80000000 ≤ number s ∧ number s ≤ 0x7fffffff then number s else overflow (number s)

example : atoi id [32, 45, 52, 50, 120] = -42 := by decide

/-- The digits of the number at the beginning of a string. -/
def digits (s : List UInt8) : List UInt8 :=
  match s.dropWhile isSpace with
  | 45 :: s => s.takeWhile isDigit
  | 43 :: s => s.takeWhile isDigit
  | s => s.takeWhile isDigit

/-- The value of some digits is zero if they all are. -/
theorem value_eq_zero_iff {ds : List UInt8} (hds : ∀ b ∈ ds, isDigit b = true) :
    value ds = 0 ↔ ∀ b ∈ ds, b = 48 := by
  have hfold : ∀ v : ℕ, ds.foldl (fun v b => 10 * v + (b.toNat - 48)) v = 0 ↔
      v = 0 ∧ ∀ b ∈ ds, b = 48 := by
    induction ds with
    | nil => simp
    | cons b bs ih =>
      intro v
      have hb : isDigit b = true := hds b (List.mem_cons_self ..)
      have hzero : b.toNat - 48 = 0 ↔ b = 48 := by
        simp only [isDigit, Bool.and_eq_true, decide_eq_true_eq, UInt8.le_iff_toNat_le] at hb
        rw [← UInt8.toNat_inj]
        change 48 ≤ _ ∧ _ at hb
        change _ ↔ _ = 48
        omega
      rw [List.foldl_cons, ih fun b hb => hds b (List.mem_cons_of_mem _ hb), List.forall_mem_cons,
        ← and_assoc, ← hzero]
      refine and_congr_left' ?_
      omega
  rw [value, hfold 0, and_iff_right rfl]

/-- The number at the beginning of a string is zero if its digits are, or if there are none. -/
theorem number_eq_zero_iff (s : List UInt8) : number s = 0 ↔ ∀ b ∈ digits s, b = 48 := by
  have htake : ∀ s : List UInt8, value (s.takeWhile isDigit) = 0 ↔
      ∀ b ∈ s.takeWhile isDigit, b = 48 :=
    fun s => value_eq_zero_iff fun b hb => List.mem_takeWhile_imp hb
  rw [number, digits]
  split
  · rw [Int.neg_eq_zero, Int.natCast_eq_zero, htake]
  · rw [Int.natCast_eq_zero, htake]
  · rw [Int.natCast_eq_zero, htake]

/-- A string that begins with neither white space nor a sign nor a digit has no number at its
beginning. -/
theorem number_cons {b : UInt8} (hspace : isSpace b = false) (hminus : b ≠ 45) (hplus : b ≠ 43)
    (hdigit : isDigit b = false) (s : List UInt8) : number (b :: s) = 0 := by
  rw [number_eq_zero_iff, digits, List.dropWhile_cons, hspace, if_neg Bool.false_ne_true]
  split
  · rename_i heq
    exact absurd (List.cons.inj heq).1 hminus
  · rename_i heq
    exact absurd (List.cons.inj heq).1 hplus
  · rw [List.takeWhile_cons, hdigit]
    intro c hc
    cases hc

/-- `atoi` of a string without a number. -/
theorem atoi_eq_zero {s : List UInt8} (overflow : ℤ → ℤ) (h : number s = 0) :
    atoi overflow s = 0 := by
  rw [atoi, h, if_pos (by decide)]

/-- `atoi` is zero, whatever it makes of a number that is no `int`, if the number is. -/
theorem atoi_eq_zero_iff (s : List UInt8) : (∀ overflow, atoi overflow s = 0) ↔ number s = 0 := by
  refine ⟨fun h => ?_, fun h overflow => atoi_eq_zero overflow h⟩
  have hone := h fun _ => 1
  rw [atoi] at hone
  split at hone
  · exact hone
  · cases hone

/-- What `fscanf` finds in a file for one conversion of an integer. -/
inductive Scan
  /-- The end of the file, before the conversion begins. -/
  | eof
  /-- Something else than a number. -/
  | mismatch
  | number (n : ℤ)
  deriving DecidableEq, Repr

/-- The digits after the sign, of which there must be one. -/
def scanDigits (sign : ℤ) (s : List UInt8) : Scan :=
  if s.takeWhile isDigit = [] then .mismatch else .number (sign * value (s.takeWhile isDigit))

/-- `fscanf` with `%d` or `%u`, up to the store. -/
def scan (file : List UInt8) : Scan :=
  match file.dropWhile isSpace with
  | [] => .eof
  | 45 :: s => scanDigits (-1) s
  | 43 :: s => scanDigits 1 s
  | s => scanDigits 1 s

/-- Digits are read up to the first byte that is none. -/
theorem scanDigits_append {digits rest : List UInt8} (sign : ℤ) (hne : digits ≠ [])
    (hdigits : ∀ b ∈ digits, isDigit b = true) (hrest : ∀ b ∈ rest.head?, isDigit b = false) :
    scanDigits sign (digits ++ rest) = .number (sign * value digits) := by
  have hstop : rest.takeWhile isDigit = [] := by
    cases rest with
    | nil => rfl
    | cons b bs => simp [hrest b rfl]
  have htake : (digits ++ rest).takeWhile isDigit = digits := by
    rw [List.takeWhile_append_of_pos hdigits, hstop, List.append_nil]
  rw [scanDigits, htake, if_neg hne]

/-- A file with a decimal number: white space, the digits, and a rest that begins with none. -/
inductive IsDecimal : List UInt8 → ℕ → Prop
  | intro {spaces digits rest : List UInt8} (hspaces : ∀ b ∈ spaces, isSpace b = true)
      (hne : digits ≠ []) (hdigits : ∀ b ∈ digits, isDigit b = true)
      (hrest : ∀ b ∈ rest.head?, isDigit b = false) :
      IsDecimal (spaces ++ (digits ++ rest)) (value digits)

/-- `fscanf` finds the number. -/
theorem IsDecimal.scan_eq {file : List UInt8} {m : ℕ} (h : IsDecimal file m) :
    scan file = .number m := by
  obtain @⟨spaces, digits, rest, hspaces, hne, hdigits, hrest⟩ := h
  obtain ⟨d, ds, rfl⟩ := List.exists_cons_of_ne_nil hne
  -- the first digit decides the branch of `scan`
  have hd : isDigit d = true := hdigits d (List.mem_cons_self ..)
  -- a digit is neither white space nor a sign
  have hspace : isSpace d = false := by
    simp only [isDigit, Bool.and_eq_true, decide_eq_true_eq] at hd
    simp only [isSpace, Bool.or_eq_false_iff, Bool.and_eq_false_iff, decide_eq_false_iff_not]
    grind
  have hdrop : (spaces ++ (d :: ds ++ rest)).dropWhile isSpace = d :: ds ++ rest := by
    rw [List.dropWhile_append_of_pos hspaces, List.cons_append, List.dropWhile_cons, hspace]
    rfl
  have hscan := scanDigits_append 1 hne hdigits hrest
  rw [Int.one_mul] at hscan
  rw [scan, hdrop]
  split
  · rename_i heq
    cases heq
  · rename_i heq
    cases heq
    cases hd
  · rename_i heq
    cases heq
    cases hd
  · exact hscan

end CString
