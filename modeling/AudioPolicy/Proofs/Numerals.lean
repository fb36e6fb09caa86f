-- SUMMARY: The decimal spellings of an integer, and written integers that read back as themselves.
import AudioPolicy.Spelling
import AudioPolicy.Symbol
import Mathlib.Data.List.Basic

/-! # Numerals

A number has many decimal spellings: any zeros may be in front of its digits, and a plus in
front of these. Reading accepts exactly the spellings, and gives back the integer if that is
within the range. The written form of an integer is one of them, with a minus or no sign,
no further zeros and no blanks. -/

namespace AudioPolicy

namespace Numeral

/-! ## Digits -/

theorem digit?_of_isDigit {c : Char} (h : c.isDigit = true) :
    digit? c = some (c.toNat - '0'.toNat) := by
  have hrange : '0' ≤ c ∧ c ≤ '9' := by
    simp only [Char.isDigit_iff_toNat] at h
    exact h
  simp [digit?, hrange]

/-- A run of digits reads as the number that they are the digits of. -/
theorem digitsFrom_eq_ofDigitChars {cs : List Char} (h : ∀ c ∈ cs, c.isDigit = true)
    (value : Nat) : digitsFrom value cs = some (Nat.ofDigitChars 10 cs value) := by
  induction cs generalizing value with
  | nil => rfl
  | cons c cs ih =>
    simp only [List.forall_mem_cons] at h
    simp [digitsFrom, digit?_of_isDigit h.1, ih h.2, Nat.ofDigitChars_cons]

theorem isDigit_of_mem_toDigits {n : Nat} {c : Char} (h : c ∈ Nat.toDigits 10 n) :
    c.isDigit = true :=
  Nat.isDigit_of_mem_toDigits (by decide) (by decide) h

theorem digit?_eq_some {c : Char} {d : Nat} (h : digit? c = some d) :
    d < 10 ∧ c = Nat.digitChar d := by
  unfold digit? at h
  split at h
  next hrange =>
    have hlow : 48 ≤ c.toNat := hrange.1
    have hhigh : c.toNat ≤ 57 := hrange.2
    obtain rfl : c.toNat - 48 = d := by simpa using h
    have hd : c.toNat - 48 < 10 := by omega
    refine ⟨hd, Char.toNat_inj.1 ?_⟩
    rw [Nat.toNat_digitChar_of_lt_ten hd]
    omega
  next => cases h

/-- Behind digits that stand for more than zero the others are read as they are written. -/
theorem toDigits_append_of_digitsFrom {cs : List Char} {value n : Nat} (hvalue : 0 < value)
    (h : digitsFrom value cs = some n) : Nat.toDigits 10 value ++ cs = Nat.toDigits 10 n := by
  induction cs generalizing value with
  | nil =>
    obtain rfl : value = n := by simpa [digitsFrom] using h
    exact List.append_nil _
  | cons c cs ih =>
    rw [digitsFrom] at h
    split at h
    next d hdigit =>
      obtain ⟨hd, rfl⟩ := digit?_eq_some hdigit
      have hfirst := Nat.toDigits_append_toDigits (b := 10) (by decide) hvalue hd
      rw [Nat.toDigits_of_lt_base hd] at hfirst
      rw [← ih (by omega) h, ← hfirst, List.append_assoc, List.singleton_append]
    next => cases h

/-! ## Digits behind zeros -/

/-- The digits of a number behind some zeros. -/
def padded (zeros n : Nat) : List Char := List.replicate zeros '0' ++ Nat.toDigits 10 n

theorem digitsFrom_padded (zeros n : Nat) : digitsFrom 0 (padded zeros n) = some n := by
  induction zeros with
  | zero =>
    have hdigits : ∀ c ∈ padded 0 n, c.isDigit = true := fun c => isDigit_of_mem_toDigits
    rw [digitsFrom_eq_ofDigitChars hdigits]
    exact congrArg some Nat.ofDigitChars_ten_toDigits
  | succ zeros ih => exact ih

theorem exists_padded_of_digitsFrom {c : Char} {cs : List Char} {n : Nat}
    (h : digitsFrom 0 (c :: cs) = some n) : ∃ zeros, c :: cs = padded zeros n := by
  induction cs generalizing c with
  | nil =>
    rw [digitsFrom] at h
    split at h
    next d hdigit =>
      obtain ⟨hd, rfl⟩ := digit?_eq_some hdigit
      obtain rfl : d = n := by simpa [digitsFrom] using h
      exact ⟨0, (Nat.toDigits_of_lt_base hd).symm⟩
    next => cases h
  | cons second cs ih =>
    rw [digitsFrom] at h
    split at h
    next d hdigit =>
      obtain ⟨hd, rfl⟩ := digit?_eq_some hdigit
      rw [Nat.mul_zero, Nat.zero_add] at h
      rcases Nat.eq_zero_or_pos d with rfl | hpos
      · obtain ⟨zeros, hzeros⟩ := ih h
        exact ⟨zeros + 1, congrArg ('0' :: ·) hzeros⟩
      · have hdigits := toDigits_append_of_digitsFrom hpos h
        rw [Nat.toDigits_of_lt_base hd] at hdigits
        exact ⟨0, hdigits⟩
    next => cases h

theorem padded_ne_nil (zeros n : Nat) : padded zeros n ≠ [] := by
  simp [padded, Nat.toDigits_ne_nil]

theorem isDigit_of_mem_padded {zeros n : Nat} {c : Char} (h : c ∈ padded zeros n) :
    c.isDigit = true := by
  rcases List.mem_append.1 h with h | h
  · obtain rfl : c = '0' := List.eq_of_mem_replicate h
    rfl
  · exact isDigit_of_mem_toDigits h

theorem natural?_eq_some_iff {cs : List Char} {n : Nat} :
    natural? cs = some n ↔ ∃ zeros, cs = padded zeros n := by
  constructor
  · intro h
    cases cs with
    | nil => cases h
    | cons c cs => exact exists_padded_of_digitsFrom h
  · rintro ⟨zeros, rfl⟩
    have hread := digitsFrom_padded zeros n
    cases hcs : padded zeros n with
    | nil => exact absurd hcs (padded_ne_nil zeros n)
    | cons c cs =>
      rw [hcs] at hread
      exact hread

theorem natural?_padded (zeros n : Nat) : natural? (padded zeros n) = some n :=
  natural?_eq_some_iff.2 ⟨zeros, rfl⟩

/-- Digits have no sign in front of them. -/
theorem padded_ne_cons {zeros n : Nat} {sign : Char} (h : sign.isDigit = false) (cs : List Char) :
    padded zeros n ≠ sign :: cs := by
  intro hcs
  have hmem : sign ∈ padded zeros n := hcs ▸ List.mem_cons_self
  rw [isDigit_of_mem_padded hmem] at h
  cases h

/-! ## Integers -/

/-- The decimal spellings of an integer. -/
inductive IsDecimal : List Char → Int → Prop
  | plain (zeros n : Nat) : IsDecimal (padded zeros n) n
  | plus (zeros n : Nat) : IsDecimal ('+' :: padded zeros n) n
  | minus (zeros n : Nat) : IsDecimal ('-' :: padded zeros n) (-n)

/-- Exactly the decimal spellings of an integer are read as it. -/
theorem integer?_eq_some_iff {cs : List Char} {n : Int} :
    integer? cs = some n ↔ IsDecimal cs n := by
  constructor
  · intro h
    unfold integer? at h
    split at h
    all_goals
      simp only [Option.map_eq_some_iff, Option.bind_eq_bind, Option.bind_eq_some_iff,
        Option.pure_def, Option.some.injEq] at h
      obtain ⟨_, ⟨m, hm, rfl⟩, rfl⟩ := h
      obtain ⟨zeros, rfl⟩ := natural?_eq_some_iff.1 hm
    · exact .minus zeros m
    · exact .plus zeros m
    · exact .plain zeros m
  · intro h
    cases h with
    | plain zeros n =>
      unfold integer?
      split
      next cs hcs => exact absurd hcs (padded_ne_cons rfl cs)
      next cs hcs => exact absurd hcs (padded_ne_cons rfl cs)
      next => simp only [natural?_padded]; rfl
    | plus zeros n => simp only [integer?, natural?_padded]; rfl
    | minus zeros n => simp only [integer?, natural?_padded]; rfl

/-- A written integer is a run of digits, behind a minus if it is negative. -/
theorem toList_toString (n : Int) :
    (toString n).toList =
      if 0 ≤ n then Nat.toDigits 10 n.natAbs else '-' :: Nat.toDigits 10 n.natAbs := by
  cases n <;> simp [Int.repr]

/-- The written form of an integer is one of its spellings. -/
theorem isDecimal_toString (n : Int) : IsDecimal (toString n).toList n := by
  rw [toList_toString]
  split
  next hpos =>
    have hdecimal := IsDecimal.plain 0 n.natAbs
    rwa [Int.natAbs_of_nonneg hpos] at hdecimal
  next hneg =>
    have habs : -(n.natAbs : Int) = n := by omega
    have hdecimal := IsDecimal.minus 0 n.natAbs
    rwa [habs] at hdecimal

theorem integer?_toString (n : Int) : integer? (toString n).toList = some n :=
  integer?_eq_some_iff.2 (isDecimal_toString n)

theorem toString_integer_inj {m n : Int} : toString m = toString n ↔ m = n := by
  refine ⟨fun h => ?_, congrArg toString⟩
  have hread := integer?_toString m
  rw [h, integer?_toString, Option.some.injEq] at hread
  exact hread.symm

theorem int64?_toString {n : Int} (h : fits64 n = true) : int64? (toString n) = some n := by
  simp only [int64?, integer?_toString, Option.filter, h, if_true]

theorem fits16_toInt (n : Int16) : fits16 n.toInt = true := by
  have hlow := n.le_toInt
  have hhigh := n.toInt_lt
  simp [fits16]
  omega

theorem toInt_ofInt_of_fits16 {n : Int} (h : fits16 n = true) : (Int16.ofInt n).toInt = n := by
  simp [fits16] at h
  exact Int16.toInt_ofInt_of_le h.1 (by omega)

theorem int16?_text16 (n : Int16) : int16? (text16 n) = some n := by
  simp only [int16?, text16, integer?_toString, Option.bind_some, narrow16?, fits16_toInt, if_true,
    Int16.ofInt_toInt]

theorem text16_inj {m n : Int16} : text16 m = text16 n ↔ m = n := by
  refine ⟨fun h => ?_, congrArg text16⟩
  have hread := int16?_text16 m
  rw [h, int16?_text16, Option.some.injEq] at hread
  exact hread.symm

theorem isBlank_of_isDigit {c : Char} (h : c.isDigit = true) : Text.isBlank c = false := by
  have hrange : 48 ≤ c.toNat ∧ c.toNat ≤ 57 := by
    simp only [Char.isDigit_iff_toNat] at h
    exact h
  simp [Text.isBlank]
  omega

theorem IsDecimal.unblank {cs : List Char} {n : Int} (h : IsDecimal cs n) :
    ∀ c ∈ cs, Text.isBlank c = false := by
  have hdigits (zeros n : Nat) : ∀ c ∈ padded zeros n, Text.isBlank c = false := fun c hc =>
    isBlank_of_isDigit (isDigit_of_mem_padded hc)
  cases h with
  | plain zeros n => exact hdigits zeros n
  | plus zeros n => exact List.forall_mem_cons.2 ⟨rfl, hdigits zeros n⟩
  | minus zeros n => exact List.forall_mem_cons.2 ⟨rfl, hdigits zeros n⟩

end Numeral

theorem Text.trim_eq_self {text : String} (h : ∀ c ∈ text.toList, isBlank c = false) :
    trim text = text := by
  have hdrop (cs : List Char) (hcs : ∀ c ∈ cs, isBlank c = false) : cs.dropWhile isBlank = cs := by
    cases cs with
    | nil => rfl
    | cons c cs =>
      simp only [List.forall_mem_cons] at hcs
      simp [hcs.1]
  have hreverse : ∀ c ∈ text.toList.reverse, isBlank c = false := by
    simpa using h
  simp [trim, trimChars, trimStart, trimEnd, hdrop _ h, hdrop _ hreverse]

theorem Symbol.number?_toString {n : Int} (h : Numeral.fits64 n = true) :
    number? (toString n) = some n := by
  have htrim : Text.trim (toString n) = toString n :=
    Text.trim_eq_self (Numeral.isDecimal_toString n).unblank
  simp only [number?, htrim, Numeral.int64?_toString h]

/-! ## Canonical texts -/

namespace Numeral

/-- The text denotes a number and is its written form. -/
def Canonical (text : String) : Prop := ∃ n, Symbol.number? text = some n ∧ toString n = text

theorem canonical_toString {n : Int} (h : fits64 n = true) : Canonical (toString n) :=
  ⟨n, Symbol.number?_toString h, rfl⟩

/-- The integers of 64 bits are written in their canonical form. -/
theorem canonical_of_bounds {n : Int} (hlow : -9223372036854775808 ≤ n)
    (hhigh : n < 9223372036854775808) : Canonical (toString n) := by
  apply canonical_toString
  simp only [fits64, Bool.and_eq_true, decide_eq_true_eq]
  omega

@[simp] theorem canonical_text16 (n : Int16) : Canonical (text16 n) :=
  canonical_of_bounds (Int.le_trans (by decide) n.le_toInt) (Int.lt_trans n.toInt_lt (by decide))

@[simp] theorem canonical_text32 (n : Int32) : Canonical (text32 n) :=
  canonical_of_bounds (Int.le_trans (by decide) n.le_toInt) (Int.lt_trans n.toInt_lt (by decide))

@[simp] theorem canonical_int64 (n : Int64) : Canonical (toString n.toInt) :=
  canonical_of_bounds n.le_toInt n.toInt_lt

@[simp] theorem canonical_codeText {α : Type} [Coded α] (a : α) : Canonical (codeText a) :=
  canonical_text16 (Coded.code a)

@[simp] theorem canonical_flag (b : Bool) : Canonical (flag b) := by
  cases b with
  | false => exact canonical_toString (n := 0) rfl
  | true => exact canonical_toString (n := 1) rfl

/-- A count is canonical as long as it fits 64 bits. -/
theorem canonical_natural {n : Nat} (h : fits64 n = true) : Canonical (toString n) := by
  have hinteger : Canonical (toString (n : Int)) := canonical_toString h
  exact hinteger

end Numeral
end AudioPolicy
