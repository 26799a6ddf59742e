import PowerManager.CString
import Mathlib.Algebra.Group.Nat.Defs

/-!
# Reading RFC parameters

`read_ConfigProperty` copies the value of an RFC parameter to a static buffer of 16 bytes, without
the double quotes around it if there are any. The lengths are unsigned: for the value that is one
double quote, which is both the first and the last character, the length of the copy is two below
one, and the copy leaves the buffer. `stripsQuotes_iff` shows that this is the only such value, and
that for all others the result is what it should be.
-/

namespace PowerManager.Thermal

open CString

/-- A double quote. -/
def quote : UInt8 := 34

/-- `param.value`, as `getRFCParameter` leaves it: a string in a buffer that is the member of a
structure. -/
structure ParamValue where
  bytes : List UInt8
  terminated : 0 ∈ bytes
  size_le : bytes.length ≤ 0x100000000

/-- `MAX_THERMAL_RFC`. -/
def maxThermalRfc : UInt32 := 16

/-- `dataLen`: the length of the value, cut off to that of the buffer. -/
def dataLen (len : ℕ) : UInt32 :=
  if UInt32.ofNat len > maxThermalRfc - 1 then maxThermalRfc - 1 else .ofNat len

/-- The test for quotes around the value. The last character is looked at only if the first one is a
quote. -/
def isQuoted? (value : List UInt8) (dataLen : UInt32) : Option Bool := do
  let first ← value[0]?
  if first = quote then
    let last ← value[(dataLen - 1).toNat]?
    some (decide (last = quote))
  else
    some false

/-- The part of `read_ConfigProperty` that follows a successful `getRFCParameter`; `none` stands for
an access outside of `param.value` or `valueBuf`. -/
def copyValue (valueBuf : Buffer maxThermalRfc.toNat) (value : List UInt8) :
    Option (Buffer maxThermalRfc.toNat) := do
  let len ← strlen? value
  let quoted ← isQuoted? value (dataLen len)
  if quoted then
    valueBuf.copyString? (value.drop 1) (dataLen len - 2).toNat
  else
    valueBuf.copyString? value (maxThermalRfc - 1).toNat

/-- `read_ConfigProperty`, with what `getRFCParameter` finds: the static buffer afterwards, and the
string that is returned, unless it is null. -/
def readConfigProperty (valueBuf : Buffer maxThermalRfc.toNat) (param : Option (List UInt8)) :
    Option (Buffer maxThermalRfc.toNat × Option (List UInt8)) := do
  let valueBuf ← valueBuf.store? 0 0
  let valueBuf ←
    match param with
    | some value => copyValue valueBuf value
    | none => some valueBuf
  let first ← valueBuf.bytes[0]?
  some (valueBuf, if first ≠ 0 then some (ofBytes valueBuf.bytes) else none)

/-- The string without the double quotes around it. -/
def unquote (s : List UInt8) : List UInt8 :=
  if 2 ≤ s.length ∧ s.head? = some quote ∧ s.getLast? = some quote then (s.drop 1).dropLast else s

/-- A string, or null if it is empty. -/
def orNull (s : List UInt8) : Option (List UInt8) := if s = [] then none else some s

/-- `read_ConfigProperty` does what it should: it stays in the buffers, leaves a string in the
static one, and returns a value of at most 15 characters without its quotes. -/
def StripsQuotes (valueBuf : Buffer maxThermalRfc.toNat) (param : ParamValue) : Prop :=
  ∃ buf result, readConfigProperty valueBuf (some param.bytes) = some (buf, result) ∧
    0 ∈ buf.bytes ∧
    ((ofBytes param.bytes).length ≤ 15 → result = orNull (unquote (ofBytes param.bytes)))

variable {valueBuf buf : Buffer maxThermalRfc.toNat} {param : ParamValue} {s : List UInt8} {len : ℕ}

/-! ## Quotes -/

/-- The quotes around a string are taken off. -/
theorem unquote_enclosed (between : List UInt8) :
    unquote (quote :: (between ++ [quote])) = between := by
  have henclosed : 2 ≤ (quote :: (between ++ [quote])).length ∧
      (quote :: (between ++ [quote])).head? = some quote ∧
      (quote :: (between ++ [quote])).getLast? = some quote := by
    refine ⟨by simp, rfl, ?_⟩
    rw [← List.cons_append, List.getLast?_concat]
  rw [unquote, if_pos henclosed, List.drop_one, List.tail_cons, List.dropLast_concat]

/-- A string without quotes around it stays as it is. -/
theorem unquote_eq_self (h : ∀ between, s ≠ quote :: (between ++ [quote])) : unquote s = s := by
  rw [unquote, if_neg]
  rintro ⟨hlen, hhead, hlast⟩
  obtain ⟨t, rfl⟩ := List.head?_eq_some_iff.mp hhead
  -- with two characters at least, the last one is not the first one
  obtain ⟨init, hinit⟩ := List.getLast?_eq_some_iff.mp hlast
  cases init with
  | nil =>
    rw [hinit] at hlen
    exact absurd hlen (by decide)
  | cons c between =>
    obtain ⟨rfl, rfl⟩ := List.cons.inj hinit
    exact h between rfl

/-! ## Lengths -/

theorem toNat_dataLen (hlen : len < 0x100000000) : (dataLen len).toNat = min len 15 := by
  have h15 : (maxThermalRfc - 1).toNat = 15 := rfl
  have hnat : (UInt32.ofNat len).toNat = len := UInt32.toNat_ofNat_of_lt' hlen
  rw [dataLen]
  split
  · rename_i h
    rw [gt_iff_lt, UInt32.lt_iff_toNat_lt, h15, hnat] at h
    omega
  · rename_i h
    rw [gt_iff_lt, UInt32.lt_iff_toNat_lt, h15, hnat] at h
    omega

/-- The length less one or two, if the value is that long. -/
theorem toNat_dataLen_sub (k : UInt32) (hlen : len < 0x100000000) (hk : k.toNat ≤ min len 15) :
    (dataLen len - k).toNat = min len 15 - k.toNat := by
  rw [UInt32.toNat_sub_of_le, toNat_dataLen hlen]
  rw [UInt32.le_iff_toNat_le, toNat_dataLen hlen]
  exact hk

/-! ## The copy -/

/-- The static buffer is copied to, and returned unless it holds the empty string. -/
theorem exists_readConfigProperty_eq (valueBuf : Buffer maxThermalRfc.toNat) (value : List UInt8) :
    ∃ valueBuf', readConfigProperty valueBuf (some value) =
      (copyValue valueBuf' value).map fun buf => (buf, orNull (ofBytes buf.bytes)) := by
  refine ⟨⟨valueBuf.bytes.set 0 0, by simp⟩, ?_⟩
  have hstore : valueBuf.store? 0 0 = some ⟨valueBuf.bytes.set 0 0, by simp⟩ :=
    if_pos (by decide)
  rw [readConfigProperty, hstore]
  change (copyValue _ value).bind _ = _
  cases copyValue ⟨valueBuf.bytes.set 0 0, by simp⟩ value with
  | none => rfl
  | some buf =>
    -- the first character decides whether the string is empty
    obtain ⟨b, bs, hbytes⟩ : ∃ b bs, buf.bytes = b :: bs := by
      apply List.exists_cons_of_ne_nil
      intro hnil
      have hlen := buf.length_bytes
      rw [hnil] at hlen
      cases hlen
    have hfirst : (if b ≠ 0 then some (ofBytes buf.bytes) else none) =
        orNull (ofBytes buf.bytes) := by
      rw [hbytes, ofBytes, List.takeWhile_cons]
      by_cases hb : b = 0
      · rw [if_neg (by simp [hb]), if_neg (by simp [hb])]
        rfl
      · rw [if_pos hb, if_pos (by simp [hb])]
        rfl
    have hhead : buf.bytes[0]? = some b := by rw [hbytes, List.getElem?_cons_zero]
    rw [Option.bind_some]
    change (buf.bytes[0]?).bind _ = _
    rw [hhead]
    exact congrArg (fun r => some (buf, r)) hfirst

/-- The copy once the test for quotes is made. -/
theorem copyValue_eq {value : List UInt8} {quoted : Bool} (hvalue : 0 ∈ value)
    (hquoted : isQuoted? value (dataLen (ofBytes value).length) = some quoted) :
    copyValue valueBuf value =
      if quoted then
        valueBuf.copyString? (value.drop 1) (dataLen (ofBytes value).length - 2).toNat
      else valueBuf.copyString? value 15 := by
  rw [copyValue, strlen?, if_pos hvalue]
  change (isQuoted? value (dataLen (ofBytes value).length)).bind _ = _
  rw [hquoted]
  rfl

/-- The test for quotes, if the value has a last character. -/
theorem isQuoted?_eq {value : List UInt8} {dataLen : UInt32} {first : UInt8} (last : UInt8)
    (hfirst : value[0]? = some first)
    (hlast : first = quote → value[(dataLen - 1).toNat]? = some last) :
    isQuoted? value dataLen = some (decide (first = quote ∧ last = quote)) := by
  rw [isQuoted?, hfirst]
  change (if first = quote then _ else _) = _
  by_cases hq : first = quote
  · rw [if_pos hq, hlast hq]
    simp [hq]
  · rw [if_neg hq]
    simp [hq]

/-- A value that is one quote: the first character is the last one, and two less than its length is
a length that no buffer has room for. -/
theorem copyValue_of_single {value : List UInt8} (hvalue : 0 ∈ value)
    (hs : ofBytes value = [quote]) : copyValue valueBuf value = none := by
  obtain ⟨rest, hrest⟩ := exists_of_mem hvalue
  rw [hs] at hrest
  -- the index of the last character is that of the first one
  have hone : (dataLen [quote].length - 1).toNat = 0 := by decide
  have hquoted : isQuoted? value (dataLen (ofBytes value).length) =
      some (decide (quote = quote ∧ quote = quote)) :=
    isQuoted?_eq quote (by rw [hrest]; rfl) fun _ => by rw [hs, hone, hrest]; rfl
  rw [copyValue_eq hvalue hquoted, hs]
  exact Buffer.copyString?_eq_none (by decide)

/-- Without quotes around it the value is copied from its beginning. -/
theorem exists_copyValue_whole (valueBuf : Buffer maxThermalRfc.toNat) {value : List UInt8}
    (hvalue : 0 ∈ value)
    (hquoted : isQuoted? value (dataLen (ofBytes value).length) = some false) :
    ∃ buf, copyValue valueBuf value = some buf ∧ ofBytes buf.bytes = (ofBytes value).take 15 ∧
      0 ∈ buf.bytes := by
  rw [copyValue_eq hvalue hquoted]
  exact valueBuf.exists_copyString? value (by decide) hvalue

/-- With quotes around it the value is copied from its second character on. -/
theorem exists_copyValue_quoted (valueBuf : Buffer maxThermalRfc.toNat) {value t : List UInt8}
    {c : UInt8} (hvalue : 0 ∈ value) (hs : ofBytes value = c :: t) (ht : t ≠ [])
    (hlen : (ofBytes value).length < 0x100000000)
    (hquoted : isQuoted? value (dataLen (ofBytes value).length) = some true) :
    ∃ buf, copyValue valueBuf value = some buf ∧
      ofBytes buf.bytes = t.take (min (ofBytes value).length 15 - 2) ∧ 0 ∈ buf.bytes := by
  have htwo : 2 ≤ (ofBytes value).length := by
    rw [hs, List.length_cons]
    have hpos := List.length_pos_iff.mpr ht
    omega
  have hcount : (dataLen (ofBytes value).length - 2).toNat = min (ofBytes value).length 15 - 2 :=
    toNat_dataLen_sub 2 hlen (by
      change 2 ≤ _
      omega)
  rw [copyValue_eq hvalue hquoted, if_pos rfl, hcount]
  -- with two characters at least, the length of the copy does not wrap around
  have hroom : min (ofBytes value).length 15 - 2 < maxThermalRfc.toNat := by
    change _ < 16
    omega
  obtain ⟨hdrop, hmem⟩ := ofBytes_drop (i := 1) hvalue (by omega)
  have htail : ofBytes (value.drop 1) = t := by
    rw [hdrop, hs]
    rfl
  obtain ⟨buf, hcopy, hbuf, hnul⟩ := valueBuf.exists_copyString? (value.drop 1) hroom hmem
  rw [htail] at hbuf
  exact ⟨buf, hcopy, hbuf, hnul⟩

/-- A value that begins with a quote, and does not end there, is quoted if the last character that is
looked at is a quote. That is the last one of a short value. -/
theorem isQuoted?_of_quote {value t : List UInt8} (hvalue : 0 ∈ value)
    (hlen : (ofBytes value).length < 0x100000000) (hs : ofBytes value = quote :: t) :
    ∃ last, isQuoted? value (dataLen (ofBytes value).length) = some (decide (last = quote)) ∧
      ((ofBytes value).length ≤ 15 → (ofBytes value).getLast? = some last) := by
  obtain ⟨rest, hrest⟩ := exists_of_mem hvalue
  have hfirst : value[0]? = some quote := by rw [hrest, hs]; rfl
  have hpos : 1 ≤ (ofBytes value).length := by
    rw [hs, List.length_cons]
    omega
  have hindex : (dataLen (ofBytes value).length - 1).toNat = min (ofBytes value).length 15 - 1 := by
    refine toNat_dataLen_sub 1 hlen ?_
    change 1 ≤ _
    omega
  have hinside : min (ofBytes value).length 15 - 1 < (ofBytes value).length := by omega
  obtain ⟨last, hlast⟩ : ∃ last, (ofBytes value)[min (ofBytes value).length 15 - 1]? = some last :=
    ⟨_, List.getElem?_eq_getElem hinside⟩
  refine ⟨last, ?_, fun hshort => ?_⟩
  · have hquoted : isQuoted? value (dataLen (ofBytes value).length) =
        some (decide (quote = quote ∧ last = quote)) := by
      refine isQuoted?_eq last hfirst fun _ => ?_
      rw [hindex, getElem?_of_lt hvalue hinside, hlast]
    rw [hquoted]
    simp only [true_and]
  · rw [List.getLast?_eq_getElem?, ← hlast, Nat.min_eq_left hshort]

/-- A value that does not begin with a quote is not quoted. -/
theorem isQuoted?_of_not_quote {value : List UInt8} {first : UInt8} (len : UInt32)
    (hfirst : value[0]? = some first) (hne : first ≠ quote) : isQuoted? value len = some false := by
  rw [isQuoted?_eq 0 hfirst fun h => absurd h hne]
  simp [hne]

/-- Every value but the one quote is copied without the quotes around it. -/
theorem exists_copyValue (valueBuf : Buffer maxThermalRfc.toNat) {value : List UInt8}
    (hvalue : 0 ∈ value) (hsize : value.length ≤ 0x100000000) (hs : ofBytes value ≠ [quote]) :
    ∃ buf, copyValue valueBuf value = some buf ∧ 0 ∈ buf.bytes ∧
      ((ofBytes value).length ≤ 15 → ofBytes buf.bytes = unquote (ofBytes value)) := by
  have hlen : (ofBytes value).length < 0x100000000 :=
    lt_of_lt_of_le (length_ofBytes_lt hvalue) hsize
  obtain ⟨rest, hrest⟩ := exists_of_mem hvalue
  -- a value that is copied as it is has no quotes around it
  have hwhole : isQuoted? value (dataLen (ofBytes value).length) = some false →
      ((ofBytes value).length ≤ 15 → unquote (ofBytes value) = ofBytes value) →
      ∃ buf, copyValue valueBuf value = some buf ∧ 0 ∈ buf.bytes ∧
        ((ofBytes value).length ≤ 15 → ofBytes buf.bytes = unquote (ofBytes value)) := by
    intro hquoted hunquote
    obtain ⟨buf, hcopy, hbuf, hnul⟩ := exists_copyValue_whole valueBuf hvalue hquoted
    refine ⟨buf, hcopy, hnul, fun hshort => ?_⟩
    rw [hbuf, List.take_of_length_le hshort, hunquote hshort]
  cases hcons : ofBytes value with
  | nil =>
    -- the first character of an empty value is the NUL
    rw [← hcons]
    have hfirst : value[0]? = some 0 := by rw [hrest, hcons]; rfl
    exact hwhole (isQuoted?_of_not_quote _ hfirst (by decide)) fun _ => by rw [hcons]; rfl
  | cons c t =>
    rw [← hcons]
    have hfirst : value[0]? = some c := by rw [hrest, hcons]; rfl
    by_cases hc : c = quote
    · subst hc
      have ht : t ≠ [] := by
        rintro rfl
        exact hs hcons
      obtain ⟨last, hquoted, hgetLast⟩ := isQuoted?_of_quote hvalue hlen hcons
      by_cases hlastq : last = quote
      · rw [decide_eq_true hlastq] at hquoted
        obtain ⟨buf, hcopy, hbuf, hnul⟩ :=
          exists_copyValue_quoted valueBuf hvalue hcons ht hlen hquoted
        refine ⟨buf, hcopy, hnul, fun hshort => ?_⟩
        have htwo : 2 ≤ (ofBytes value).length := by
          rw [hcons, List.length_cons]
          have hpos := List.length_pos_iff.mpr ht
          omega
        -- what is copied is the value without its first and its last character
        rw [hbuf, unquote, if_pos ⟨htwo, by rw [hcons]; rfl, by rw [hgetLast hshort, hlastq]⟩,
          List.dropLast_eq_take, Nat.min_eq_left hshort, hcons]
        rfl
      · rw [decide_eq_false hlastq] at hquoted
        refine hwhole hquoted fun hshort => ?_
        rw [unquote, if_neg]
        rintro ⟨-, -, hend⟩
        rw [hgetLast hshort] at hend
        exact hlastq (Option.some.inj hend)
    · refine hwhole (isQuoted?_of_not_quote _ hfirst hc) fun _ => ?_
      rw [unquote, if_neg]
      rw [hcons]
      simp [hc]

/-- What is returned for the value that is one quote. -/
theorem readConfigProperty_of_single (valueBuf : Buffer maxThermalRfc.toNat)
    (hs : ofBytes param.bytes = [quote]) : readConfigProperty valueBuf (some param.bytes) = none := by
  obtain ⟨valueBuf', hread⟩ := exists_readConfigProperty_eq valueBuf param.bytes
  rw [hread, copyValue_of_single param.terminated hs]
  rfl

/-- What is returned for every other value. -/
theorem exists_readConfigProperty (valueBuf : Buffer maxThermalRfc.toNat)
    (hs : ofBytes param.bytes ≠ [quote]) :
    ∃ buf, readConfigProperty valueBuf (some param.bytes) =
        some (buf, orNull (ofBytes buf.bytes)) ∧ 0 ∈ buf.bytes ∧
      ((ofBytes param.bytes).length ≤ 15 →
        ofBytes buf.bytes = unquote (ofBytes param.bytes)) := by
  obtain ⟨valueBuf', hread⟩ := exists_readConfigProperty_eq valueBuf param.bytes
  obtain ⟨buf, hcopy, hnul, hbuf⟩ := exists_copyValue valueBuf' param.terminated param.size_le hs
  refine ⟨buf, ?_, hnul, hbuf⟩
  rw [hread, hcopy]
  rfl

/-! ## The result -/

/-- When `read_ConfigProperty` does what it should: exactly if the value is not a single quote. -/
theorem stripsQuotes_iff (valueBuf : Buffer maxThermalRfc.toNat) (param : ParamValue) :
    StripsQuotes valueBuf param ↔ ofBytes param.bytes ≠ [quote] := by
  constructor
  · rintro ⟨buf, result, h, -⟩ hsingle
    rw [readConfigProperty_of_single valueBuf hsingle] at h
    cases h
  · intro hs
    obtain ⟨buf, hread, hnul, hbuf⟩ := exists_readConfigProperty valueBuf hs
    refine ⟨buf, orNull (ofBytes buf.bytes), hread, hnul, fun hshort => ?_⟩
    rw [hbuf hshort]

/-- The value that is one double quote. -/
def ParamValue.single : ParamValue := ⟨[quote, 0], by decide, by decide⟩

/-- It makes `read_ConfigProperty` write outside of its buffer. -/
theorem not_stripsQuotes_of_single : ¬StripsQuotes (.zero 16) .single := by
  rintro ⟨buf, result, h, -⟩
  have hnone : readConfigProperty (.zero 16) (some ParamValue.single.bytes) = none := by
    decide +kernel
  rw [hnone] at h
  cases h

/-- The value "30", with its quotes, is read as 30. -/
example : (readConfigProperty (.zero 16) (some [quote, 51, 48, quote, 0])).map Prod.snd =
    some (some [51, 48]) := by decide +kernel

end PowerManager.Thermal
