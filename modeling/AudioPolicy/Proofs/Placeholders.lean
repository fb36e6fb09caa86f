-- SUMMARY: The parts of a text spell it, and placeholders are replaced as whole words only.
import AudioPolicy.Placeholder
import Mathlib.Data.List.Basic

/-! # Substituting placeholders

A text is cut into characters and placeholders, and nothing gets lost. A placeholder counts
only where no word character stands beside it. So a substitution that results in a single
word either changed nothing, or the text was a placeholder and the word is its value. -/

namespace AudioPolicy.Placeholder

/-! ## Spelling -/

theorem chars_begin_and_go_on (p : Placeholder) :
    p.chars.head? = some 'R' ∧ p.chars.all Text.isWordChar = true := by
  cases p <;> exact ⟨rfl, rfl⟩

theorem head?_chars (p : Placeholder) : p.chars.head? = some 'R' := (chars_begin_and_go_on p).1

theorem isWordChar_of_mem_chars {p : Placeholder} {c : Char} (h : c ∈ p.chars) :
    Text.isWordChar c = true :=
  List.all_eq_true.1 (chars_begin_and_go_on p).2 c h

theorem length_chars_pos (p : Placeholder) : 0 < p.chars.length := by
  have hhead := head?_chars p
  cases hchars : p.chars with
  | nil => simp [hchars] at hhead
  | cons c cs => exact Nat.succ_pos _

theorem extends?_getLast?_chars (p : Placeholder) : extends? p.chars.getLast? = true := by
  cases hlast : p.chars.getLast? with
  | none =>
    have hpos := length_chars_pos p
    simp [List.getLast?_eq_none_iff.1 hlast] at hpos
  | some c => exact isWordChar_of_mem_chars (List.mem_of_getLast? hlast)

/-! ## Searching -/

/-- What a search for the longest finds was among the candidates. -/
theorem mem_of_foldl_longer {ps : List Placeholder} {best : Option Placeholder}
    {p : Placeholder}
    (h : ps.foldl (fun best p => some ((best.map (longer · p)).getD p)) best = some p) :
    best = some p ∨ p ∈ ps := by
  induction ps generalizing best with
  | nil => exact Or.inl h
  | cons first ps ih =>
    rw [List.foldl_cons] at h
    rcases ih h with hbest | hmem
    · rw [Option.some.injEq] at hbest
      cases best with
      | none => exact Or.inr (List.mem_cons.2 (Or.inl hbest.symm))
      | some q =>
        rw [Option.map_some, Option.getD_some, longer] at hbest
        split at hbest
        · exact Or.inr (List.mem_cons.2 (Or.inl hbest.symm))
        · exact Or.inl (congrArg some hbest)
    · exact Or.inr (List.mem_cons_of_mem _ hmem)

theorem chars_prefix_of_longestAt? {cs : List Char} {p : Placeholder}
    (h : longestAt? cs = some p) : p.chars <+: cs := by
  rcases mem_of_foldl_longer h with hnone | hmem
  · cases hnone
  · exact List.isPrefixOf_iff_prefix.1 (List.mem_filter.1 hmem).2

theorem longestAt?_eq_none {c : Char} (hc : Text.isWordChar c = false) (cs : List Char) :
    longestAt? (c :: cs) = none := by
  cases h : longestAt? (c :: cs) with
  | none => rfl
  | some p =>
    have hmem : c ∈ p.chars := by
      obtain ⟨rest, hrest⟩ := chars_prefix_of_longestAt? h
      have hhead := head?_chars p
      cases hchars : p.chars with
      | nil => simp [hchars] at hhead
      | cons d ds =>
        rw [hchars, List.cons_append, List.cons.injEq] at hrest
        exact hrest.1 ▸ List.mem_cons_self
    rw [isWordChar_of_mem_chars hmem] at hc
    cases hc

theorem longestAt?_chars (p : Placeholder) : longestAt? p.chars = some p := by
  cases p <;> cbv

/-! ## Parts -/

/-- The characters that a part stands on. -/
def Part.chars : Part → List Char
  | .plain c => [c]
  | .word p => p.chars

theorem flatMap_chars_map_plain (cs : List Char) :
    (cs.map Part.plain).flatMap Part.chars = cs := by
  induction cs with
  | nil => rfl
  | cons c cs ih => simp [Part.chars, ih]

theorem flatMap_replace_map_plain (t : Trigger) (cs : List Char) :
    (cs.map Part.plain).flatMap (Part.replace t) = cs := by
  induction cs with
  | nil => rfl
  | cons c cs ih => simp [Part.replace, ih]

/-- A placeholder that a text begins with, and what stands behind it. -/
theorem chars_append_behind {c : Char} {rest : List Char} {p : Placeholder}
    (h : longestAt? (c :: rest) = some p) :
    p.chars ++ rest.drop (p.chars.length - 1) = c :: rest := by
  obtain ⟨behind, hbehind⟩ := chars_prefix_of_longestAt? h
  have hdrop : (c :: rest).drop p.chars.length = behind := by
    rw [← hbehind, List.drop_left]
  rw [← Nat.sub_add_cancel (length_chars_pos p), List.drop_succ_cons] at hdrop
  rw [hdrop, hbehind]

/-- The parts of a text spell the text. -/
theorem flatMap_chars_partsAfter (before : Option Char) (cs : List Char) :
    (partsAfter before cs).flatMap Part.chars = cs := by
  fun_induction partsAfter before cs with
  | case1 => rfl
  | case2 before c rest hnone ih => simp [Part.chars, ih]
  | case3 before c rest p hp behind hinside ih =>
    rw [List.flatMap_append, flatMap_chars_map_plain, ih]
    exact chars_append_behind hp
  | case4 before c rest p hp behind hword ih =>
    rw [List.flatMap_cons, ih]
    exact chars_append_behind hp

theorem parts_word (p : Placeholder) : parts (Spelled.word p) = [.word p] := by
  have hlongest := longestAt?_chars p
  change partsAfter none p.chars = [.word p]
  cases hchars : p.chars with
  | nil =>
    have hpos := length_chars_pos p
    simp [hchars] at hpos
  | cons c rest =>
    have hbehind : rest.drop (p.chars.length - 1) = [] := by simp [hchars]
    rw [hchars] at hlongest
    rw [partsAfter, hlongest]
    simp [hbehind, extends?, partsAfter]

/-- A text that becomes a word is plain or a single placeholder, and behind a word character
    it is plain. -/
theorem partsAfter_cases {t : Trigger} {before : Option Char} {cs : List Char}
    (hword : ∀ c ∈ (partsAfter before cs).flatMap (Part.replace t), Text.isWordChar c = true) :
    partsAfter before cs = cs.map .plain ∨
      extends? before = false ∧ ∃ p, partsAfter before cs = [.word p] := by
  fun_induction partsAfter before cs with
  | case1 => exact Or.inl rfl
  | case2 before c rest hnone ih =>
    rw [List.flatMap_cons, List.forall_mem_append] at hword
    have hc : extends? (some c) = true := hword.1 c (List.mem_singleton_self c)
    rcases ih hword.2 with hplain | ⟨hnot, -⟩
    · exact Or.inl (by rw [hplain, List.map_cons])
    · rw [hc] at hnot
      cases hnot
  | case3 before c rest p hp behind hinside ih =>
    rw [List.flatMap_append, List.forall_mem_append] at hword
    rcases ih hword.2 with hplain | ⟨hnot, -⟩
    · refine Or.inl ?_
      rw [hplain, ← List.map_append]
      exact congrArg _ (chars_append_behind hp)
    · rw [extends?_getLast?_chars p] at hnot
      cases hnot
  | case4 before c rest p hp behind halone ih =>
    rw [Bool.or_eq_true, not_or, Bool.not_eq_true, Bool.not_eq_true] at halone
    rw [List.flatMap_cons, List.forall_mem_append] at hword
    cases hbehind : behind with
    | nil => exact Or.inr ⟨halone.1, p, by rw [partsAfter]⟩
    | cons d ds =>
      -- The character behind the placeholder would be part of the word.
      have hd : Text.isWordChar d = false := by simpa [hbehind, extends?] using halone.2
      have hparts : partsAfter p.chars.getLast? behind = .plain d :: partsAfter (some d) ds := by
        rw [hbehind, partsAfter, longestAt?_eq_none hd]
      have hmem : d ∈ (partsAfter p.chars.getLast? behind).flatMap (Part.replace t) := by
        rw [hparts, List.flatMap_cons]
        exact List.mem_append_left _ (List.mem_singleton_self d)
      rw [hword.2 d hmem] at hd
      cases hd

/-! ## Substitution -/

/-- A text that is a placeholder becomes its value. -/
theorem substitute_word {t : Trigger} {p : Placeholder} {value : String}
    (h : p.value? t = some value) : substitute t (Spelled.word p) = value := by
  have hmentioned : mentioned (Spelled.word p) = true := by cases p <;> rfl
  rw [substitute, if_pos hmentioned, parts_word]
  simp [Part.replace, h]

/-- A text that becomes a word is that word, or it is a placeholder with the word as its
    value. -/
theorem eq_or_value_of_substitute_eq {t : Trigger} {text word : String}
    (hword : ∀ c ∈ word.toList, Text.isWordChar c = true) (h : substitute t text = word) :
    text = word ∨ ∃ p : Placeholder, text = Spelled.word p ∧ p.value? t = some word := by
  unfold substitute at h
  split at h
  next =>
    have hchars : (parts text).flatMap (Part.replace t) = word.toList := by
      rw [← h, String.toList_ofList]
    have hspelled : (parts text).flatMap Part.chars = text.toList := flatMap_chars_partsAfter none _
    have hchars_word : ∀ c ∈ (partsAfter none text.toList).flatMap (Part.replace t),
        Text.isWordChar c = true := by
      intro c hc
      exact hword c (hchars ▸ hc)
    rcases partsAfter_cases hchars_word with hplain | ⟨-, p, hp⟩
    · rw [parts, hplain, flatMap_replace_map_plain] at hchars
      exact Or.inl (String.toList_inj.1 hchars)
    · have htext : text = Spelled.word p := by
        rw [parts, hp] at hspelled
        exact String.toList_inj.1 (by simpa [Part.chars, Placeholder.chars] using hspelled.symm)
      rw [parts, hp] at hchars
      have hvalue : (p.value? t).getD (Spelled.word p) = word :=
        String.toList_inj.1 (by simpa [Part.replace] using hchars)
      cases hv : p.value? t with
      | none =>
        rw [hv, Option.getD_none] at hvalue
        exact Or.inl (htext.trans hvalue)
      | some value =>
        rw [hv, Option.getD_some] at hvalue
        exact Or.inr ⟨p, htext, hvalue ▸ hv⟩
  next => exact Or.inl h

end AudioPolicy.Placeholder
