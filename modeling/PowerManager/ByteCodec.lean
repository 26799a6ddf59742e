import Mathlib.Data.Nat.Notation

/-!
# Fixed-width byte codecs

A `ByteCodec` writes a value to a fixed number of bytes, and reads it back from any bytes that begin
with these. Codecs of records are built from codecs of their fields, in the order of the fields.

The module introduces:

* `ByteCodec.word` — 32-bit words, in either byte order, `ByteCodec.bool` — one byte, and
  `ByteCodec.padding`;
* `ByteCodec.prod` and `ByteCodec.imap` — the codecs of records;
* `overwrite` — a write at the beginning of a file that does not truncate it — and
  `ByteCodec.decode_overwrite`, by which it can be read back whatever the file was;
* `ByteCodec.torn` — what is read after a write that has been cut short — and
  `ByteCodec.Exact.torn_eq_mix`, by which it is a mixture of the new and the old value.
-/

/-- The order of the bytes of a word. -/
inductive ByteOrder
  | little
  | big
  deriving DecidableEq, Repr

/-- A codec for values of type `α` in `width` bytes. -/
structure ByteCodec (α : Type*) where
  width : ℕ
  encode : α → List UInt8
  /-- Reads a value from the first `width` bytes. -/
  decode : List UInt8 → α
  length_encode : ∀ a, (encode a).length = width
  decode_append : ∀ a rest, decode (encode a ++ rest) = a

namespace ByteCodec

variable {α β : Type*}

/-! ## Words -/

/-- The bytes of a word, the least significant one first. -/
def wordBytes (w : UInt32) : List UInt8 :=
  [w.toUInt8, (w >>> 8).toUInt8, (w >>> 16).toUInt8, (w >>> 24).toUInt8]

/-- The word with the given bytes, the least significant one first. -/
def ofWordBytes (b₀ b₁ b₂ b₃ : UInt8) : UInt32 :=
  .ofNat (b₀.toNat + 0x100 * b₁.toNat + 0x10000 * b₂.toNat + 0x1000000 * b₃.toNat)

/-- A word is the word with its bytes. -/
theorem ofWordBytes_toUInt8 (w : UInt32) :
    ofWordBytes w.toUInt8 (w >>> 8).toUInt8 (w >>> 16).toUInt8 (w >>> 24).toUInt8 = w := by
  apply UInt32.toNat_inj.mp
  have hlt := w.toNat_lt
  have h8 : (8 : UInt32).toNat % 32 = 8 := by decide
  have h16 : (16 : UInt32).toNat % 32 = 16 := by decide
  have h24 : (24 : UInt32).toNat % 32 = 24 := by decide
  simp only [ofWordBytes, UInt32.toNat_ofNat', UInt32.toNat_toUInt8, UInt32.toNat_shiftRight,
    Nat.shiftRight_eq_div_pow, h8, h16, h24]
  omega

/-- 32-bit words. -/
def word (order : ByteOrder) : ByteCodec UInt32 where
  width := 4
  encode w :=
    match order with
    | .little => wordBytes w
    | .big => (wordBytes w).reverse
  decode bytes :=
    match order, bytes with
    | .little, b₀ :: b₁ :: b₂ :: b₃ :: _ => ofWordBytes b₀ b₁ b₂ b₃
    | .big, b₃ :: b₂ :: b₁ :: b₀ :: _ => ofWordBytes b₀ b₁ b₂ b₃
    | _, _ => 0
  length_encode w := by cases order <;> rfl
  decode_append w rest := by
    cases order
    · exact ofWordBytes_toUInt8 w
    · exact ofWordBytes_toUInt8 w

/-! ## Bytes -/

/-- A boolean in one byte: every byte but zero reads as true. -/
def bool : ByteCodec Bool where
  width := 1
  encode b := [if b then 1 else 0]
  decode bytes := bytes.head? ≠ some 0
  length_encode _ := rfl
  decode_append b rest := by cases b <;> rfl

/-- Bytes without a meaning, written as zeros. -/
def padding (n : ℕ) : ByteCodec Unit where
  width := n
  encode _ := List.replicate n 0
  decode _ := ()
  length_encode _ := List.length_replicate
  decode_append _ _ := rfl

/-! ## Records -/

/-- A field of a record followed by the others. -/
def prod (c : ByteCodec α) (d : ByteCodec β) : ByteCodec (α × β) where
  width := c.width + d.width
  encode p := c.encode p.1 ++ d.encode p.2
  decode bytes := (c.decode bytes, d.decode (bytes.drop c.width))
  length_encode p := by rw [List.length_append, c.length_encode, d.length_encode]
  decode_append p rest := by
    have hdrop : (c.encode p.1 ++ d.encode p.2 ++ rest).drop c.width = d.encode p.2 ++ rest := by
      rw [List.append_assoc, ← c.length_encode p.1, List.drop_left]
    rw [hdrop, List.append_assoc, c.decode_append, d.decode_append]

/-- A codec for the values that `f` and `g` identify with those of `c`. -/
def imap (c : ByteCodec α) (f : α → β) (g : β → α) (h : ∀ b, f (g b) = b) : ByteCodec β where
  width := c.width
  encode b := c.encode (g b)
  decode bytes := f (c.decode bytes)
  length_encode b := c.length_encode (g b)
  decode_append b rest := by rw [c.decode_append, h]

@[simp]
theorem width_word (order : ByteOrder) : (word order).width = 4 := rfl

@[simp]
theorem width_prod (c : ByteCodec α) (d : ByteCodec β) : (c.prod d).width = c.width + d.width := rfl

@[simp]
theorem width_imap (c : ByteCodec α) (f : α → β) (g : β → α) (h : ∀ b, f (g b) = b) :
    (c.imap f g h).width = c.width := rfl

end ByteCodec

/-! ## Files -/

/-- A file after bytes have been written to its beginning. What is behind them stays. -/
def overwrite (file bytes : List UInt8) : List UInt8 :=
  bytes ++ file.drop bytes.length

namespace ByteCodec

variable {α : Type*} (c : ByteCodec α) (file : List UInt8) (a : α)

/-- What has been written can be read back, whatever the file was before. -/
theorem decode_overwrite : c.decode (overwrite file (c.encode a)) = a :=
  c.decode_append a _

/-- A file is long enough to be read once it has been written. -/
theorem width_le_length_overwrite : c.width ≤ (overwrite file (c.encode a)).length := by
  rw [overwrite, List.length_append, c.length_encode]
  exact Nat.le_add_right _ _

/-! ## Writes that are cut short -/

/-- What is read after only the first `k` bytes of `a` have been written over a file. -/
def torn (k : ℕ) : α :=
  c.decode (overwrite file ((c.encode a).take k))

/-- If nothing has been written, the old value is read. -/
@[simp]
theorem torn_zero : c.torn file a 0 = c.decode file := rfl

/-- If all of it has been written, the new value is read. -/
theorem torn_of_width_le {k : ℕ} (h : c.width ≤ k) : c.torn file a k = a := by
  rw [torn, List.take_of_length_le (by rwa [c.length_encode])]
  exact c.decode_overwrite file a

@[simp]
theorem torn_imap {β : Type*} (f : α → β) (g : β → α) (h : ∀ b, f (g b) = b) (b : β) (k : ℕ) :
    (c.imap f g h).torn file b k = f (c.torn file (g b) k) := rfl

/-- A write is cut short in one field: those before it are written, those behind it are not. -/
@[simp]
theorem torn_prod {β : Type*} (d : ByteCodec β) (p : α × β) (k : ℕ) :
    (c.prod d).torn file p k =
      (c.torn file p.1 k, d.torn (file.drop c.width) p.2 (k - c.width)) := by
  have hc := c.length_encode p.1
  change (c.decode _, d.decode _) = _
  refine Prod.ext ?_ ?_
  · -- the first field sees the cut if it goes through it, and is complete otherwise
    change c.decode (overwrite file ((c.encode p.1 ++ d.encode p.2).take k)) = _
    rcases Nat.le_total k c.width with hk | hk
    · rw [List.take_append_of_le_length (by omega)]
      rfl
    · rw [c.torn_of_width_le file p.1 hk, List.take_append, List.take_of_length_le (by omega),
        overwrite, List.append_assoc, c.decode_append]
  · -- the second field begins `width` bytes into the file, and the cut is so much nearer to it
    change d.decode ((overwrite file ((c.encode p.1 ++ d.encode p.2).take k)).drop c.width) =
      d.decode (overwrite (file.drop c.width) ((d.encode p.2).take (k - c.width)))
    congr 1
    rw [List.take_append, hc]
    rcases Nat.le_total k c.width with hk | hk
    · have hlen : ((c.encode p.1).take k).length = k := by
        rw [List.length_take]
        omega
      rw [Nat.sub_eq_zero_of_le hk, List.take_zero, List.append_nil, overwrite, hlen,
        List.drop_append, hlen, List.drop_of_length_le (by omega), List.nil_append,
        List.drop_drop]
      simp only [overwrite, List.nil_append, List.length_nil, List.drop_zero]
      congr 1
      omega
    · rw [List.take_of_length_le (by omega), overwrite, List.append_assoc, ← hc, List.drop_left,
        overwrite, List.length_append, List.drop_drop]

/-! ## Codecs without slack -/

/-- Every `width` bytes are the encoding of a value. -/
def Exact : Prop :=
  ∀ bytes, c.width ≤ bytes.length → c.encode (c.decode bytes) = bytes.take c.width

/-- The value whose bytes are the first `k` of `a` and the others of `b`. -/
def mix (k : ℕ) (a b : α) : α :=
  c.decode ((c.encode a).take k ++ (c.encode b).drop k)

variable {c} {a b : α} {k : ℕ}

/-- The bytes of a mixture. -/
theorem Exact.encode_mix (hc : c.Exact) (k : ℕ) (a b : α) :
    c.encode (c.mix k a b) = (c.encode a).take k ++ (c.encode b).drop k := by
  have hlen : ((c.encode a).take k ++ (c.encode b).drop k).length = c.width := by
    rw [List.length_append, List.length_take, List.length_drop, c.length_encode, c.length_encode]
    omega
  rw [mix, hc _ (Nat.le_of_eq hlen.symm), List.take_of_length_le (Nat.le_of_eq hlen)]

theorem encode_injective (h : c.encode a = c.encode b) : a = b := by
  have ha := c.decode_append a []
  rw [h, c.decode_append] at ha
  exact ha.symm

/-- A mixture is the old value if the bytes that are written are those of the old value. -/
theorem Exact.mix_eq_right_iff (hc : c.Exact) :
    c.mix k a b = b ↔ (c.encode a).take k = (c.encode b).take k := by
  -- the bytes behind the cut are those of the old value in any case
  have hb := List.take_append_drop k (c.encode b)
  constructor
  · intro h
    have hmix := hc.encode_mix k a b
    rw [h] at hmix
    exact List.append_cancel_right (hmix.symm.trans hb.symm)
  · intro h
    apply encode_injective
    rw [hc.encode_mix, h, hb]

/-- A mixture is the new value if the bytes that are not written are those of the new value. -/
theorem Exact.mix_eq_left_iff (hc : c.Exact) :
    c.mix k a b = a ↔ (c.encode a).drop k = (c.encode b).drop k := by
  have ha := List.take_append_drop k (c.encode a)
  constructor
  · intro h
    have hmix := hc.encode_mix k a b
    rw [h] at hmix
    exact List.append_cancel_left (ha.trans hmix)
  · intro h
    apply encode_injective
    rw [hc.encode_mix, ← h, ha]

/-- A value that is written over itself stays. -/
theorem Exact.mix_self (hc : c.Exact) : c.mix k a a = a := hc.mix_eq_right_iff.mpr rfl

/-- What is read after a write that has been cut short is a mixture of the new and the old value. -/
theorem Exact.torn_eq_mix (hc : c.Exact) {file : List UInt8} (h : c.width ≤ file.length) (a : α)
    (k : ℕ) : c.torn file a k = c.mix k a (c.decode file) := by
  -- the bytes of the mixture are at the beginning of the file
  have hbytes : overwrite file ((c.encode a).take k) =
      c.encode (c.mix k a (c.decode file)) ++ file.drop c.width := by
    rw [hc.encode_mix, hc _ h, overwrite, List.length_take, c.length_encode, List.append_assoc,
      List.drop_take]
    congr 1
    rcases Nat.le_total k c.width with hk | hk
    · have hdrop := List.take_append_drop (c.width - k) (file.drop k)
      rw [List.drop_drop, Nat.add_sub_cancel' hk] at hdrop
      rw [Nat.min_eq_left hk, hdrop]
    · rw [Nat.min_eq_right hk, Nat.sub_eq_zero_of_le hk, List.take_zero, List.nil_append]
  rw [torn, hbytes, c.decode_append]

/-- The bytes of the word with given bytes. -/
theorem wordBytes_ofWordBytes (b₀ b₁ b₂ b₃ : UInt8) :
    wordBytes (ofWordBytes b₀ b₁ b₂ b₃) = [b₀, b₁, b₂, b₃] := by
  have h₀ := b₀.toNat_lt
  have h₁ := b₁.toNat_lt
  have h₂ := b₂.toNat_lt
  have h₃ := b₃.toNat_lt
  have h8 : (8 : UInt32).toNat % 32 = 8 := by decide
  have h16 : (16 : UInt32).toNat % 32 = 16 := by decide
  have h24 : (24 : UInt32).toNat % 32 = 24 := by decide
  simp only [wordBytes, ofWordBytes, List.cons.injEq, ← UInt8.toNat_inj, UInt32.toNat_toUInt8,
    UInt32.toNat_shiftRight, UInt32.toNat_ofNat', Nat.shiftRight_eq_div_pow, h8, h16, h24,
    and_true]
  omega

/-- All words are used. -/
theorem exact_word (order : ByteOrder) : (word order).Exact := by
  intro bytes h
  match bytes, h with
  | b₀ :: b₁ :: b₂ :: b₃ :: rest, _ =>
    cases order with
    | little => exact wordBytes_ofWordBytes b₀ b₁ b₂ b₃
    | big => exact congrArg List.reverse (wordBytes_ofWordBytes b₃ b₂ b₁ b₀)

end ByteCodec
