/-
  CallGateway.Proofs.Json.Digits
  ──────────────────────────────
  **INTEGERS ARE READ AS THEY ARE WRITTEN.**

  An integer is written as its decimal digits after a sign.  The reader takes
  just these digits, as long as what follows does not go on with the number
  (`takeLiteral?_renderInt`), and they stand for that integer, at both ends
  of the 64-bit words as well (`ofLiteral?_ofInt`).
-/
import CallGateway.Json.Printer
import CallGateway.Json.Reader

namespace CallGateway.Json

/-! ## §1. Digits. -/

/-- The decimal digits of a number. -/
def decimal (n : Nat) : List Nat := if n < 10 then [n] else decimal (n / 10) ++ [n % 10]

/-- The byte of a decimal digit. -/
def digitByte (d : Nat) : UInt8 := Ascii.zero + d.toUInt8

theorem renderNat_eq (n : Nat) : renderNat n = (decimal n).map digitByte := by
  induction n using Nat.strongRecOn with
  | ind n ih =>
    rw [renderNat, decimal]
    split
    · rfl
    · rw [ih (n / 10) (by omega), List.map_append]
      rfl

theorem decimal_lt (n : Nat) : ∀ d ∈ decimal n, d < 10 := by
  induction n using Nat.strongRecOn with
  | ind n ih =>
    rw [decimal]
    split
    · simpa
    · intro d hd
      rcases List.mem_append.1 hd with hd | hd
      · exact ih (n / 10) (by omega) d hd
      · rw [List.mem_singleton.1 hd]
        omega

/-- Only the number zero begins with the digit zero, and it has no other. -/
theorem decimal_eq_cons (n : Nat) : ∃ d ds, decimal n = d :: ds ∧ (d = 0 → ds = []) := by
  induction n using Nat.strongRecOn with
  | ind n ih =>
    rw [decimal]
    split
    · exact ⟨n, [], rfl, fun _ => rfl⟩
    · rename_i hn
      obtain ⟨d, ds, hd, hzero⟩ := ih (n / 10) (by omega)
      refine ⟨d, ds ++ [n % 10], by rw [hd]; rfl, fun h => ?_⟩
      -- a leading zero would make the number less than ten
      subst h
      rw [hzero rfl] at hd
      have hdiv : n / 10 = 0 := by
        rw [decimal] at hd
        split at hd
        · exact (List.cons.inj hd).1
        · have hlen := congrArg List.length hd
          have hne : decimal (n / 10 / 10) ≠ [] := by
            obtain ⟨d', ds', h', -⟩ := ih (n / 10 / 10) (by omega)
            simp [h']
          simp [List.length_eq_zero_iff, hne] at hlen
      omega

theorem isDigit_digitByte {d : Nat} (h : d < 10) : Ascii.isDigit (digitByte d) = true := by
  revert d
  decide

theorem digit_digitByte {d : Nat} (h : d < 10) : Ascii.digit (digitByte d) = d := by
  revert d
  decide

theorem digitByte_eq_zero_iff {d : Nat} (h : d < 10) : digitByte d = Ascii.zero ↔ d = 0 := by
  revert d
  decide

/-! ## §2. Taking a number. -/

/-- What follows does not go on with a number: no digit, no point and no
exponent. -/
def EndsNumber (rest : Bytes) : Prop :=
  ∀ b bs, rest = b :: bs →
    Ascii.isDigit b = false ∧ b ≠ Ascii.dot ∧ b ≠ Ascii.code 'e' ∧ b ≠ Ascii.code 'E'

theorem takeDigits_map (ds acc : List Nat) {rest : Bytes} (hds : ∀ d ∈ ds, d < 10)
    (hrest : EndsNumber rest) :
    Surface.takeDigits acc (ds.map digitByte ++ rest) = (acc.reverse ++ ds, rest) := by
  induction ds generalizing acc with
  | nil =>
    cases rest with
    | nil => simp [Surface.takeDigits]
    | cons b bs => simp [Surface.takeDigits, (hrest b bs rfl).1]
  | cons d ds ih =>
    have hd := hds d List.mem_cons_self
    rw [List.map_cons, List.cons_append, Surface.takeDigits, if_pos (isDigit_digitByte hd),
      digit_digitByte hd, ih _ fun d' h => hds d' (List.mem_cons_of_mem d h)]
    simp

theorem takeWhole?_renderNat (n : Nat) {rest : Bytes} (hrest : EndsNumber rest) :
    Surface.takeWhole? (renderNat n ++ rest) = some (decimal n, rest) := by
  obtain ⟨d, ds, hds, hzero⟩ := decimal_eq_cons n
  have hlt : ∀ d' ∈ d :: ds, d' < 10 := hds ▸ decimal_lt n
  have hd := hlt d List.mem_cons_self
  rw [renderNat_eq, hds, List.map_cons, List.cons_append, Surface.takeWhole?]
  by_cases h : d = 0
  · rw [if_pos ((digitByte_eq_zero_iff hd).2 h), hzero h, h]
    rfl
  · rw [if_neg (mt (digitByte_eq_zero_iff hd).1 h), if_pos (isDigit_digitByte hd), digit_digitByte hd,
      takeDigits_map ds [d] (fun d' h => hlt d' (List.mem_cons_of_mem d h)) hrest]
    rfl

/-- An integer as it is written. -/
def Literal.ofInt (n : Int) : Literal := ⟨n < 0, decimal n.natAbs, none, none⟩

theorem takeUnsigned?_renderNat (negative : Bool) (n : Nat) {rest : Bytes} (hrest : EndsNumber rest) :
    Surface.takeUnsigned? negative (renderNat n ++ rest) = some (⟨negative, decimal n, none, none⟩, rest) := by
  have hfraction : Surface.takeFraction? rest = some (none, rest) := by
    unfold Surface.takeFraction?
    split
    · exact absurd rfl (hrest _ _ rfl).2.1
    · rfl
  have hexponent : Surface.takeExponent? rest = some (none, rest) := by
    unfold Surface.takeExponent?
    cases rest with
    | nil => rfl
    | cons b bs =>
      obtain ⟨-, -, he, hE⟩ := hrest b bs rfl
      simp [he, hE]
  simp [Surface.takeUnsigned?, takeWhole?_renderNat n hrest, hfraction, hexponent]

/-- The first byte of an integer: a minus or a digit. -/
theorem renderInt_eq_cons (n : Int) :
    ∃ b bs, renderInt n = b :: bs ∧ (b = Ascii.minus ∨ ∃ d < 10, b = digitByte d) := by
  cases n with
  | ofNat n =>
    obtain ⟨d, ds, hds, -⟩ := decimal_eq_cons n
    refine ⟨digitByte d, ds.map digitByte, ?_, .inr ⟨d, decimal_lt n d (hds ▸ List.mem_cons_self), rfl⟩⟩
    show renderNat n = _
    rw [renderNat_eq, hds, List.map_cons]
  | negSucc n => exact ⟨Ascii.minus, renderNat (n + 1), rfl, .inl rfl⟩

theorem digitByte_ne_minus {d : Nat} (h : d < 10) : digitByte d ≠ Ascii.minus := by
  revert d
  decide

/-- The reader takes an integer as it is written, and no more. -/
theorem takeLiteral?_renderInt (n : Int) {rest : Bytes} (hrest : EndsNumber rest) :
    Surface.takeLiteral? (renderInt n ++ rest) = some (Literal.ofInt n, rest) := by
  cases n with
  | ofNat n =>
    have hsign : decide (Int.ofNat n < 0) = false := decide_eq_false (by simp)
    rw [Literal.ofInt, hsign]
    show Surface.takeLiteral? (renderNat n ++ rest) = _
    unfold Surface.takeLiteral?
    split
    · rename_i tail hcons
      obtain ⟨d, ds, hds, -⟩ := decimal_eq_cons n
      rw [renderNat_eq, hds] at hcons
      exact absurd (List.cons.inj hcons).1 (digitByte_ne_minus (decimal_lt n d (hds ▸ List.mem_cons_self)))
    · exact takeUnsigned?_renderNat false n hrest
  | negSucc n =>
    have hsign : decide (Int.negSucc n < 0) = true := decide_eq_true (Int.negSucc_lt_zero n)
    rw [Literal.ofInt, hsign]
    show Surface.takeUnsigned? true (renderNat (n + 1) ++ rest) = _
    exact takeUnsigned?_renderNat true (n + 1) hrest

/-! ## §3. What the digits stand for. -/

theorem appendDigits_append {bound n m : Nat} {ds : List Nat} (h : appendDigits bound n ds = (m, []))
    (es : List Nat) : appendDigits bound n (ds ++ es) = appendDigits bound m es := by
  induction ds generalizing n with
  | nil =>
    cases h
    rfl
  | cons d ds ih =>
    rw [appendDigits] at h
    rw [List.cons_append, appendDigits]
    split at h
    · rename_i hlt
      rw [if_pos hlt]
      exact ih h
    · cases h

/-- The digits of a number below the bound give the number. -/
theorem appendDigits_decimal {bound n : Nat} (h : n < bound) :
    appendDigits bound 0 (decimal n) = (n, []) := by
  induction n using Nat.strongRecOn with
  | ind n ih =>
    rw [decimal]
    split
    · rw [appendDigits, if_pos (by omega), appendDigits]
      simp
    · rw [appendDigits_append (ih (n / 10) (by omega) (by omega)), appendDigits,
        if_pos (by omega), appendDigits]
      exact Prod.ext (Nat.div_add_mod' n 10) rfl

/-- A written integer of 64 bits stands for itself. -/
theorem ofLiteral?_ofInt (n : Integer) : Number.ofLiteral? (Literal.ofInt n.val) = some (.integer n) := by
  obtain ⟨val, lower, upper⟩ := n
  have habs : val.natAbs < UInt64.size := by
    unfold UInt64.size
    omega
  have hsigned : (if decide (val < 0) = true then -(val.natAbs : Int) else val.natAbs) = val := by
    split
    · rename_i h
      have := of_decide_eq_true h
      omega
    · rename_i h
      have : ¬val < 0 := fun hlt => h (decide_eq_true hlt)
      omega
  have hzero : (decide (val < 0) && decide (val.natAbs = 0)) = false := by
    by_cases h : val.natAbs = 0
    · simp [Int.natAbs_eq_zero.1 h]
    · simp [h]
  simp only [Number.ofLiteral?, Literal.ofInt, appendDigits_decimal habs]
  simp only [Option.isNone_none, List.isEmpty_nil, Bool.and_self, if_true, Number.ofWhole, hsigned, hzero,
    Integer.ofInt?, dif_pos (And.intro lower upper)]
  rfl

/-- Words read back. -/
theorem toUInt64?_ofUInt64 (n : UInt64) : (Integer.ofUInt64 n).toUInt64? = some n := by
  simp [Integer.ofUInt64, Integer.toUInt64?]

theorem toInt64?_ofInt64 (n : Int64) : (Integer.ofInt64 n).toInt64? = some n := by
  have hlt : (Integer.ofInt64 n).val < 0x8000000000000000 := n.toInt_lt
  rw [Integer.toInt64?, if_pos hlt, Integer.ofInt64, Int64.ofInt_toInt]

end CallGateway.Json
