-- SUMMARY: Words survive being joined with spaces and cut apart again, other texts do not.
import AudioPolicy.Text
import Mathlib.Data.List.Basic

/-! # Words

A word is a text that is not empty and has no blank in it. Joining words with spaces and
cutting the result gives the words back. Whatever is cut out of a text is a word, so a name
that is no word is never found in a written list. -/

namespace AudioPolicy.Text

/-- A text that is not empty and has no blank in it. -/
structure IsWord (text : String) : Prop where
  nonempty : text ≠ ""
  unblank : ∀ c ∈ text.toList, isBlank c = false

theorem isWord_iff (text : String) :
    IsWord text ↔ (text != "" && text.toList.all fun c => !isBlank c) = true := by
  rw [Bool.and_eq_true, bne_iff_ne, List.all_eq_true]
  simp only [Bool.not_eq_true']
  exact ⟨fun h => ⟨h.nonempty, h.unblank⟩, fun h => ⟨h.1, h.2⟩⟩

instance (text : String) : Decidable (IsWord text) := decidable_of_iff _ (isWord_iff text).symm

theorem isWordChar_of_isBlank {c : Char} (h : isBlank c = true) : isWordChar c = false := by
  cases hword : isWordChar c with
  | false => rfl
  | true =>
    have hval : c.toNat = c.val.toNat := rfl
    simp only [isBlank, isWordChar, Char.le_def, UInt32.le_iff_toNat_le, Bool.or_eq_true,
      Bool.and_eq_true, decide_eq_true_eq, beq_iff_eq] at h hword
    rcases hword with ((hword | hword) | hword) | rfl
    · simp only [Char.reduceVal, UInt32.reduceToNat] at hword; omega
    · simp only [Char.reduceVal, UInt32.reduceToNat] at hword; omega
    · simp only [Char.reduceVal, UInt32.reduceToNat] at hword; omega
    · simp only [Char.reduceToNat] at h; omega

theorem isBlank_of_isWordChar {c : Char} (h : isWordChar c = true) : isBlank c = false := by
  cases hblank : isBlank c with
  | false => rfl
  | true =>
    rw [isWordChar_of_isBlank hblank] at h
    cases h

theorem isWord_of_isWordChar {text : String} (hnonempty : text ≠ "")
    (h : ∀ c ∈ text.toList, isWordChar c = true) : IsWord text :=
  ⟨hnonempty, fun c hc => isBlank_of_isWordChar (h c hc)⟩

/-! ## Runs -/

section
variable {separates : Char → Bool}

theorem runs_cons_of_separates {c : Char} (hc : separates c = true) (cs : List Char) :
    runs separates (c :: cs) = runs separates cs := by
  rw [runs.eq_def]
  exact if_pos hc

/-- A run ends where the text ends or a separator follows. -/
theorem runs_append {run rest : List Char} (hrun : run ≠ [])
    (hplain : ∀ c ∈ run, separates c = false) (hrest : ∀ c ∈ rest.head?, separates c = true) :
    runs separates (run ++ rest) = run :: runs separates rest := by
  induction run with
  | nil => exact absurd rfl hrun
  | cons c run ih =>
    obtain ⟨hc, hplain⟩ := List.forall_mem_cons.1 hplain
    rw [List.cons_append, runs.eq_def]
    simp only [hc, Bool.false_eq_true, if_false]
    cases run with
    | nil =>
      cases rest with
      | nil => rfl
      | cons d rest =>
        have hd : separates d = true := hrest d rfl
        simp [hd]
    | cons d run =>
      have hd : separates d = false := hplain d List.mem_cons_self
      rw [ih (List.cons_ne_nil _ _) hplain]
      simp [hd]

theorem mem_runs {cs run : List Char} (h : run ∈ runs separates cs) :
    run ≠ [] ∧ ∀ c ∈ run, separates c = false := by
  induction cs generalizing run with
  | nil => exact absurd h List.not_mem_nil
  | cons c cs ih =>
    have hsingle : separates c = false → [c] ≠ [] ∧ ∀ d ∈ [c], separates d = false := by
      intro hc
      exact ⟨List.cons_ne_nil _ _, by simpa using hc⟩
    unfold runs at h
    split at h
    next => exact ih h
    next hc =>
      have hc : separates c = false := by simpa using hc
      cases cs with
      | nil =>
        rw [List.mem_singleton.1 h]
        exact hsingle hc
      | cons d cs =>
        dsimp only at h
        split at h
        next =>
          rcases List.mem_cons.1 h with rfl | h
          · exact hsingle hc
          · exact ih h
        next =>
          split at h
          next =>
            rw [List.mem_singleton.1 h]
            exact hsingle hc
          next first others hruns =>
            rcases List.mem_cons.1 h with rfl | h
            · have hfirst := (ih (hruns ▸ List.mem_cons_self)).2
              exact ⟨List.cons_ne_nil _ _, List.forall_mem_cons.2 ⟨hc, hfirst⟩⟩
            · exact ih (hruns ▸ List.mem_cons_of_mem _ h)

end

/-! ## Joined words -/

theorem isWord_of_mem_words {text name : String} (h : name ∈ words text) : IsWord name := by
  obtain ⟨run, hrun, rfl⟩ := List.mem_map.1 h
  obtain ⟨hnonempty, hplain⟩ := mem_runs hrun
  refine ⟨fun hempty => hnonempty ?_, by simpa using hplain⟩
  simpa using congrArg String.toList hempty

/-- Joined words can be cut apart again. -/
theorem words_unwords {names : List String} (h : ∀ name ∈ names, IsWord name) :
    words (unwords names) = names := by
  induction names with
  | nil => rfl
  | cons name names ih =>
    obtain ⟨hname, hnames⟩ := List.forall_mem_cons.1 h
    have hrun : name.toList ≠ [] := fun hempty =>
      hname.nonempty (String.toList_inj.1 (by simpa using hempty))
    cases names with
    | nil =>
      have hwords : runs isBlank (name.toList ++ []) = [name.toList] :=
        runs_append hrun hname.unblank (by simp)
      rw [List.append_nil] at hwords
      simp [words, unwords, hwords]
    | cons second names =>
      have htext : (unwords (name :: second :: names)).toList =
          name.toList ++ ' ' :: (unwords (second :: names)).toList := by
        simp [unwords]
      have hspace : isBlank ' ' = true := by decide
      have ih : (runs isBlank (unwords (second :: names)).toList).map String.ofList =
          second :: names := ih hnames
      rw [words, htext, runs_append hrun hname.unblank (by simp [hspace]),
        runs_cons_of_separates hspace, List.map_cons, ih, String.ofList_toList]

/-- A word is joined of no other texts than itself. -/
theorem eq_singleton_of_unwords_eq {names : List String} {word : String} (hword : IsWord word)
    (h : unwords names = word) : names = [word] := by
  cases names with
  | nil => exact absurd h.symm hword.nonempty
  | cons name names =>
    cases names with
    | nil => rw [← h, unwords, String.intercalate_singleton]
    | cons second names =>
      have hspace : ' ' ∈ word.toList := by simp [← h, unwords]
      have hblank := hword.unblank ' ' hspace
      simp [isBlank] at hblank

end AudioPolicy.Text
