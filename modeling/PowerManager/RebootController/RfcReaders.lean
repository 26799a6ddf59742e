import PowerManager.RebootController

/-!
# Do the two readers of RFC parameters agree?

`read_ConfigProperty` and `fetchRFCValueInt` are two copies of the same logic: they take off the
quotes around a value, and cut it off. The second copy looks for the closing quote one place too far
on, where a value that is not cut off has its NUL, so that it never finds it: the value keeps its
quotes, and `atoi` makes zero of it. `rfcReadersAgree_iff` says for which values the integers are the
same all the same. A zero is no threshold, so that a value in quotes is ignored by the reboot
controller (`heartbeats_of_quoted`).
-/

namespace PowerManager.RebootController

open CString
open Thermal (quote ParamValue maxThermalRfc readConfigProperty unquote orNull)

/-- If `read_ConfigProperty` returns a string for the value, `fetchRFCValueInt` returns what `atoi`
makes of that string, whatever that is for a number that is no `int`. -/
def RfcReadersAgree (valueBuf : Buffer maxThermalRfc.toNat) (param : ParamValue) : Prop :=
  ∀ (overflow : ℤ → ℤ) (buf : Buffer maxThermalRfc.toNat) (s : List UInt8),
    readConfigProperty valueBuf (some param.bytes) = some (buf, some s) →
    fetchRFCValueInt overflow (some param.bytes) = some (atoi overflow s)

variable {valueBuf : Buffer maxThermalRfc.toNat} {param : ParamValue} {s : List UInt8}
  {overflow : ℤ → ℤ}

/-! ## Short values -/

/-- A value of at most fourteen characters is kept as it is, with the quotes around it. -/
theorem kept_of_short (hs : s.length ≤ 14) : kept s = s := by
  have hnone : s[15]? = none := List.getElem?_eq_none_iff.mpr (by omega)
  rw [kept, if_neg fun h => by simp [hnone] at h, List.take_of_length_le hs]

/-- `fetchRFCValueInt` applies `atoi` to the value itself if it is short. -/
theorem fetchRFCValueInt_of_short (overflow : ℤ → ℤ)
    (hshort : (ofBytes param.bytes).length ≤ 14) :
    fetchRFCValueInt overflow (some param.bytes) =
      some (atoi overflow (ofBytes param.bytes)) := by
  rw [fetchRFCValueInt_eq overflow param.terminated (by omega), kept_of_short hshort]

/-- A string that begins with a quote has no number at its beginning. -/
theorem number_quote (s : List UInt8) : number (quote :: s) = 0 :=
  number_cons (by decide) (by decide) (by decide) (by decide) s

/-- What `read_ConfigProperty` returns for a short value, if it returns a string: the value without
the quotes around it. -/
theorem eq_unquote_of_read {buf : Buffer maxThermalRfc.toNat}
    (hshort : (ofBytes param.bytes).length ≤ 15)
    (hread : readConfigProperty valueBuf (some param.bytes) = some (buf, some s)) :
    s = unquote (ofBytes param.bytes) := by
  by_cases hs : ofBytes param.bytes = [quote]
  · rw [Thermal.readConfigProperty_of_single valueBuf hs] at hread
    cases hread
  · obtain ⟨buf', hread', -, hbuf⟩ := Thermal.exists_readConfigProperty valueBuf hs
    rw [hread', Option.some.injEq, Prod.mk.injEq, hbuf hshort, orNull] at hread
    obtain ⟨-, hresult⟩ := hread
    split at hresult
    · cases hresult
    · exact (Option.some.inj hresult).symm

/-- It returns the string between two quotes, unless that is empty. -/
theorem exists_read_of_enclosed (valueBuf : Buffer maxThermalRfc.toNat) {between : List UInt8}
    (hshort : (ofBytes param.bytes).length ≤ 15)
    (hs : ofBytes param.bytes = quote :: (between ++ [quote])) (hne : between ≠ []) :
    ∃ buf, readConfigProperty valueBuf (some param.bytes) = some (buf, some between) := by
  have hsingle : ofBytes param.bytes ≠ [quote] := by
    intro h
    rw [h] at hs
    cases between <;> cases hs
  obtain ⟨buf, hread, -, hbuf⟩ := Thermal.exists_readConfigProperty valueBuf hsingle
  refine ⟨buf, ?_⟩
  rw [hread, hbuf hshort, hs, Thermal.unquote_enclosed, orNull, if_neg hne]

/-! ## The result -/

/-- When the two readers agree on a value of at most fourteen characters: exactly if there are no
quotes around it, or the number at the beginning of what is between them has no digit but zeros. -/
theorem rfcReadersAgree_iff (valueBuf : Buffer maxThermalRfc.toNat)
    (hshort : (ofBytes param.bytes).length ≤ 14) :
    RfcReadersAgree valueBuf param ↔
      ∀ between, ofBytes param.bytes = quote :: (between ++ [quote]) →
        ∀ b ∈ digits between, b = 48 := by
  constructor
  · intro hagree between hs
    rw [← number_eq_zero_iff]
    by_cases hne : between = []
    · rw [hne]
      rfl
    · obtain ⟨buf, hread⟩ := exists_read_of_enclosed valueBuf (by omega) hs hne
      -- one of the readers finds a quote at the beginning, so the other one has to return zero
      rw [← atoi_eq_zero_iff]
      intro overflow
      have hsame := hagree overflow buf between hread
      rw [fetchRFCValueInt_of_short overflow hshort, hs,
        atoi_eq_zero overflow (number_quote _)] at hsame
      exact (Option.some.inj hsame).symm
  · intro hzero overflow buf s hread
    rw [fetchRFCValueInt_of_short overflow hshort, eq_unquote_of_read (by omega) hread]
    by_cases hquoted : ∃ between, ofBytes param.bytes = quote :: (between ++ [quote])
    · obtain ⟨between, hs⟩ := hquoted
      have hbetween := (number_eq_zero_iff between).mpr (hzero between hs)
      rw [hs, Thermal.unquote_enclosed, atoi_eq_zero overflow (number_quote _),
        atoi_eq_zero overflow hbetween]
    · rw [Thermal.unquote_eq_self fun between hs => hquoted ⟨between, hs⟩]

/-- The value 86400, without quotes. -/
def day : ParamValue := ⟨[56, 54, 52, 48, 48, 0], by decide, by decide⟩

/-- Both readers return 86400 for it. -/
theorem rfcReadersAgree_of_day : RfcReadersAgree (.zero 16) day :=
  (rfcReadersAgree_iff (.zero 16) (by decide)).mpr fun between hs => by cases hs

/-- The value 86400, in quotes. -/
def quotedDay : ParamValue :=
  ⟨[quote, 56, 54, 52, 48, 48, quote, 0], by decide, by decide⟩

/-- One of the readers returns 86400 for it, and the other one zero. -/
theorem not_rfcReadersAgree_of_quoted : ¬RfcReadersAgree (.zero 16) quotedDay := by
  intro hagree
  have hread : readConfigProperty (.zero 16) (some quotedDay.bytes) =
      some (⟨[56, 54, 52, 48, 48, 0, 0, 0, 0, 0, 0, 0, 0, 0, 0, 0], by decide⟩,
        some [56, 54, 52, 48, 48]) := by
    decide +kernel
  have hsame := hagree id _ _ hread
  have hfetch : fetchRFCValueInt id (some quotedDay.bytes) = some 0 := by
    decide +kernel
  rw [hfetch] at hsame
  exact absurd hsame (by decide)

/-! ## What it does to the threshold -/

/-- If the first heartbeat finds a short value that begins with a quote, the threshold stays at six
days, and the device is rebooted at the heartbeats at which it has been up for that long. -/
theorem heartbeats_of_quoted {rc : RebootController} {uptime : Int64} {beats : List Beat}
    {os : List Event} (hshort : (ofBytes param.bytes).length ≤ 14)
    (hs : (ofBytes param.bytes).head? = some quote)
    (hrun : (rebootController overflow).Run initial
      (((⟨some param.bytes, uptime⟩ : Beat) :: beats).map .heartbeat) os rc) :
    rc.forcedRebootThreshold = defaultThreshold ∧
      os = (⟨some param.bytes, uptime⟩ :: beats).flatMap (asks defaultThreshold) := by
  obtain ⟨val, hval, hthreshold, hos⟩ := heartbeats_run hrun
  obtain ⟨t, hcons⟩ := List.head?_eq_some_iff.mp hs
  have hzero : val = 0 := by
    rw [fetchRFCValueInt_of_short overflow hshort, hcons,
      atoi_eq_zero overflow (number_quote t)] at hval
    exact (Option.some.inj hval).symm
  rw [hzero, Threshold.setThreshold_of_nonpos _ (Int.le_refl 0)] at hthreshold hos
  exact ⟨hthreshold, hos⟩

end PowerManager.RebootController
