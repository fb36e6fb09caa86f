-- SUMMARY: Which texts denote a number, said without the reader.
import AudioPolicy.Proofs.Grammar
import AudioPolicy.Proofs.Numerals

/-! # Denotation

A number has many spellings. Its digits may stand behind zeros and a plus, and the code of a
state has symbols. Blanks may stand around any of them. A text is read as a number if and only
if it is one of its spellings. -/

namespace AudioPolicy

/-! ## Blanks -/

namespace Text

/-- A text in which all characters are blanks. -/
def IsBlanks (text : String) : Prop := ∀ c ∈ text.toList, isBlank c = true

theorem exists_trim_append (text : String) :
    ∃ before behind, IsBlanks before ∧ IsBlanks behind ∧ before ++ trim text ++ behind = text := by
  obtain ⟨blanks, hblanks, hend⟩ := exists_trimEnd_append (trimStart text.toList)
  refine ⟨String.ofList (text.toList.takeWhile isBlank), String.ofList blanks, ?_, ?_, ?_⟩
  · simpa [IsBlanks] using fun c => List.mem_takeWhile_imp
  · simpa [IsBlanks] using hblanks
  · rw [← String.toList_inj]
    simp only [String.toList_append, String.toList_ofList, trim, trimChars, List.append_assoc, hend]
    exact List.takeWhile_append_dropWhile

theorem trimEnd_append {cs behind : List Char} (h : ∀ c ∈ behind, isBlank c = true) :
    trimEnd (cs ++ behind) = trimEnd cs := by
  have hreverse : ∀ c ∈ behind.reverse, isBlank c = true := by simpa using h
  rw [trimEnd, List.reverse_append, List.dropWhile_append_of_pos hreverse, trimEnd]

theorem trim_append {before behind : String} (hbefore : IsBlanks before)
    (hbehind : IsBlanks behind) (text : String) : trim (before ++ text ++ behind) = trim text := by
  simp only [trim, trimChars, trimStart, String.toList_append, List.append_assoc,
    List.dropWhile_append_of_pos hbefore]
  rw [List.dropWhile_append]
  split
  next hempty =>
    have hnone : behind.toList.dropWhile isBlank = [] := List.dropWhile_eq_nil_iff.2 hbehind
    rw [hnone, List.isEmpty_iff.1 hempty]
  next => rw [trimEnd_append hbehind]

end Text

/-! ## All spellings -/

namespace Symbol

/-- The texts that denote a number. -/
inductive Denotes : String → Int → Prop
  | decimal {word : String} {n : Int} : Numeral.IsDecimal word.toList n →
      Numeral.fits64 n = true → Denotes word n
  | symbol {word : String} {n : Int} : (word, n) ∈ table → Denotes word n
  | blanks {before text behind : String} {n : Int} : Text.IsBlanks before →
      Text.IsBlanks behind → Denotes text n → Denotes (before ++ text ++ behind) n

/-- Every symbol is a word that is no decimal, and has one code. -/
theorem table_unambiguous : ∀ entry ∈ table,
    Numeral.int64? entry.1 = none ∧ code? entry.1 = some entry.2 ∧
      Text.IsWord entry.1 ∧ Numeral.fits64 entry.2 = true := by
  decide +kernel

/-- Exactly the spellings of a number are read as it. -/
theorem number?_eq_some_iff {text : String} {n : Int} :
    number? text = some n ↔ Denotes text n := by
  constructor
  · intro h
    obtain ⟨before, behind, hbefore, hbehind, htext⟩ := Text.exists_trim_append text
    rw [← htext]
    apply Denotes.blanks hbefore hbehind
    simp only [number?] at h
    split at h
    next m hread =>
      obtain rfl : m = n := by simpa using h
      obtain ⟨hinteger, hfits⟩ := Option.filter_eq_some_iff.1 hread
      exact .decimal (Numeral.integer?_eq_some_iff.1 hinteger) hfits
    next =>
      obtain ⟨before, behind, htable, -⟩ := List.lookup_eq_some_iff.1 h
      exact .symbol (htable ▸ List.mem_append_right _ List.mem_cons_self)
  · intro h
    induction h with
    | decimal hdecimal hfits =>
      have hread : Numeral.int64? _ = some _ :=
        Option.filter_eq_some_iff.2 ⟨Numeral.integer?_eq_some_iff.2 hdecimal, hfits⟩
      simp only [number?, Text.trim_eq_self hdecimal.unblank, hread]
    | symbol hmem =>
      obtain ⟨hread, hcode, hword, -⟩ := table_unambiguous _ hmem
      simp only [number?, Text.trim_eq_self hword.unblank, hread, hcode]
    | blanks hbefore hbehind _ ih => simpa only [number?, Text.trim_append hbefore hbehind] using ih

/-- A number that is denoted fits 64 bits. -/
theorem Denotes.fits64 {text : String} {n : Int} (h : Denotes text n) :
    Numeral.fits64 n = true := by
  induction h with
  | decimal _ hfits => exact hfits
  | symbol hmem => exact (table_unambiguous _ hmem).2.2.2
  | blanks _ _ _ ih => exact ih

end Symbol
end AudioPolicy
