-- SUMMARY: Expanding a text replaces its words one by one, whatever the search meets.
import AudioPolicy.Evaluation
import AudioPolicy.Proofs.Placeholders
import Mathlib.Data.List.SplitBy
import Mathlib.Data.List.TakeWhile

/-! # Whole words

A text is a sequence of runs of word characters with other characters between them. Expanding
the text is the same as replacing each run that is a placeholder with a value. The search
works differently: it takes the longest placeholder at the leftmost place, drops it if it is
no whole word, and goes on behind it. No run is lost that way. A placeholder consists of word
characters, so what the search takes never reaches beyond the run in which it began, and a
run that is a placeholder is itself the longest one at its beginning. -/

namespace AudioPolicy.Placeholder

/-! ## Word by word -/

/-- Whether two neighbours belong to one run: both are word characters or none is. -/
def sameRun (c d : Char) : Bool := Text.isWordChar c == Text.isWordChar d

/-- A run that is a placeholder with a value becomes this value. -/
def replaceRun (t : Trigger) (run : List Char) : List Char :=
  match (Spelled.ofWord? (String.ofList run)).bind (value? t) with
  | some value => value.toList
  | none => run

/-- The runs of a text, each replaced by itself. -/
def replaceRuns (t : Trigger) (cs : List Char) : List Char :=
  (cs.splitBy sameRun).flatMap (replaceRun t)

/-- The text with each word replaced that is a placeholder with a value. -/
def wordwise (t : Trigger) (text : String) : String := String.ofList (replaceRuns t text.toList)

/-- The runs of a text that stands behind `before`. Word characters at its beginning may only
    be the end of a run. -/
def replaceAfter (t : Trigger) (before : Option Char) (cs : List Char) : List Char :=
  if extends? before then
    cs.takeWhile Text.isWordChar ++ replaceRuns t (cs.dropWhile Text.isWordChar)
  else replaceRuns t cs

section
variable {t : Trigger} {before : Option Char} {c : Char} {cs run rest : List Char}
  {p : Placeholder}

/-! ## Runs -/

theorem ofWord?_eq_some_iff {text : String} :
    Spelled.ofWord? text = some p ↔ Spelled.word p = text := by
  constructor
  · intro h
    simpa using List.find?_some h
  · rintro rfl
    cases p <;> rfl

theorem replaceRun_chars (t : Trigger) (p : Placeholder) :
    replaceRun t p.chars = Part.replace t (.word p) := by
  have hword : Spelled.ofWord? (String.ofList p.chars) = some p :=
    ofWord?_eq_some_iff.2 String.ofList_toList.symm
  simp only [replaceRun, hword, Option.bind_some, Part.replace]
  cases p.value? t <;> rfl

theorem replaceRun_eq_self (h : ∀ p : Placeholder, p.chars ≠ run) : replaceRun t run = run := by
  unfold replaceRun
  cases hword : Spelled.ofWord? (α := Placeholder) (String.ofList run) with
  | none => rfl
  | some p =>
    have hchars : p.chars = run := by
      rw [chars, ofWord?_eq_some_iff.1 hword, String.toList_ofList]
    exact absurd hchars (h p)

/-- The first run ends where the class of the characters changes. -/
theorem splitBy_sameRun_append {word : Bool} (hne : run ≠ [])
    (hrun : ∀ c ∈ run, Text.isWordChar c = word)
    (hrest : ∀ c ∈ rest.head?, Text.isWordChar c = !word) :
    (run ++ rest).splitBy sameRun = run :: rest.splitBy sameRun := by
  have hsame : run.IsChain fun c d => sameRun c d := by
    refine List.Pairwise.isChain (List.pairwise_of_forall_mem_list ?_)
    intro c hc d hd
    simp [sameRun, hrun c hc, hrun d hd]
  have hchange : ∀ c ∈ run.getLast?, ∀ d ∈ rest.head?, sameRun c d = false := by
    intro c hc d hd
    simp [sameRun, hrun c (List.mem_of_getLast? hc), hrest d hd]
  rw [List.splitBy_append hchange, List.splitBy_of_isChain hne hsame]
  rfl

theorem replaceRuns_append {word : Bool} (hrun : ∀ c ∈ run, Text.isWordChar c = word)
    (hrest : ∀ c ∈ rest.head?, Text.isWordChar c = !word) :
    replaceRuns t (run ++ rest) = replaceRun t run ++ replaceRuns t rest := by
  cases run with
  | nil =>
    have hnil : replaceRun t [] = [] :=
      replaceRun_eq_self fun p => List.ne_nil_of_length_pos (length_chars_pos p)
    rw [hnil]
    rfl
  | cons c run =>
    unfold replaceRuns
    rw [splitBy_sameRun_append (List.cons_ne_nil c run) hrun hrest, List.flatMap_cons]

theorem not_of_mem_head?_dropWhile {passes : Char → Bool}
    (h : c ∈ (cs.dropWhile passes).head?) : passes c = false := by
  have hnot := List.head?_dropWhile_not passes cs
  rw [Option.mem_def.1 h] at hnot
  simpa using hnot

theorem takeWhile_isWordChar_eq_nil_iff :
    cs.takeWhile Text.isWordChar = [] ↔ extends? cs.head? = false := by
  cases cs with
  | nil => simp [extends?]
  | cons c cs => simp [extends?]

/-- The word characters at the beginning of a text are in one run with a word before them. -/
theorem replaceRuns_word_append (hrun : ∀ c ∈ run, Text.isWordChar c = true) :
    replaceRuns t (run ++ rest) =
      replaceRun t (run ++ rest.takeWhile Text.isWordChar) ++
        replaceRuns t (rest.dropWhile Text.isWordChar) := by
  have hword : ∀ c ∈ run ++ rest.takeWhile Text.isWordChar, Text.isWordChar c = true :=
    List.forall_mem_append.2 ⟨hrun, fun c hc => List.mem_takeWhile_imp hc⟩
  rw [← replaceRuns_append hword fun c hc => not_of_mem_head?_dropWhile hc, List.append_assoc,
    List.takeWhile_append_dropWhile]

/-- Another character stays as it is. -/
theorem replaceRuns_cons_of_not_isWordChar (hc : Text.isWordChar c = false) (cs : List Char) :
    replaceRuns t (c :: cs) = c :: replaceRuns t cs := by
  -- The character is in one run with those of its class behind it, so both texts are cut there.
  let between := cs.takeWhile fun d => !Text.isWordChar d
  let behind := cs.dropWhile fun d => !Text.isWordChar d
  have hcs : between ++ behind = cs := List.takeWhile_append_dropWhile
  have hbetween : ∀ d ∈ between, Text.isWordChar d = false := by
    intro d hd
    simpa using List.mem_takeWhile_imp hd
  have hbehind : ∀ d ∈ behind.head?, Text.isWordChar d = !false := by
    intro d hd
    simpa using not_of_mem_head?_dropWhile hd
  have hkept {run : List Char} (hrun : ∀ d ∈ run, Text.isWordChar d = false) :
      replaceRuns t (run ++ behind) = run ++ replaceRuns t behind := by
    rw [replaceRuns_append hrun hbehind, replaceRun_eq_self]
    rintro p rfl
    obtain ⟨d, hd⟩ := List.exists_mem_of_length_pos (length_chars_pos p)
    simpa [isWordChar_of_mem_chars hd] using hrun d hd
  have hcons : replaceRuns t ((c :: between) ++ behind) = (c :: between) ++ replaceRuns t behind :=
    hkept (List.forall_mem_cons.2 ⟨hc, hbetween⟩)
  rw [← hcs, ← List.cons_append, hcons, hkept hbetween, List.cons_append]

/-! ## Steps of a search -/

/-- A character at which no placeholder begins stays as it is. -/
theorem replaceAfter_cons (h : ∀ p : Placeholder, ¬ p.chars <+: c :: cs) :
    replaceAfter t before (c :: cs) = c :: replaceAfter t (some c) cs := by
  cases hc : Text.isWordChar c with
  | false =>
    simp [replaceAfter, extends?, hc, replaceRuns_cons_of_not_isWordChar hc]
  | true =>
    have hafter : replaceAfter t (some c) cs =
        cs.takeWhile Text.isWordChar ++ replaceRuns t (cs.dropWhile Text.isWordChar) := if_pos hc
    rw [hafter]
    unfold replaceAfter
    split
    · simp [hc]
    · have hself : replaceRun t (c :: cs.takeWhile Text.isWordChar) =
          c :: cs.takeWhile Text.isWordChar := by
        refine replaceRun_eq_self fun p hp => h p ?_
        rw [hp]
        exact List.cons_prefix_cons.2 ⟨rfl, List.takeWhile_prefix _⟩
      have hrun : ∀ d ∈ [c], Text.isWordChar d = true := List.forall_mem_singleton.2 hc
      have hcut : replaceRuns t ([c] ++ cs) =
          replaceRun t (c :: cs.takeWhile Text.isWordChar) ++
            replaceRuns t (cs.dropWhile Text.isWordChar) := replaceRuns_word_append hrun
      rw [← List.singleton_append, hcut, hself, List.cons_append]

/-- A longest placeholder is replaced if no word character stands beside it. -/
theorem replaceAfter_chars_append
    (hlongest : ∀ q : Placeholder, q.chars <+: p.chars ++ rest → q.chars.length ≤ p.chars.length) :
    replaceAfter t before (p.chars ++ rest) =
      (if extends? before || extends? rest.head? then p.chars else Part.replace t (.word p)) ++
        replaceAfter t p.chars.getLast? rest := by
  have hword : ∀ c ∈ p.chars, Text.isWordChar c = true := fun c => isWordChar_of_mem_chars
  have hafter : replaceAfter t p.chars.getLast? rest =
      rest.takeWhile Text.isWordChar ++ replaceRuns t (rest.dropWhile Text.isWordChar) :=
    if_pos (extends?_getLast?_chars p)
  have htake : (p.chars ++ rest).takeWhile Text.isWordChar =
      p.chars ++ rest.takeWhile Text.isWordChar := List.takeWhile_append_of_pos hword
  have hdrop : (p.chars ++ rest).dropWhile Text.isWordChar = rest.dropWhile Text.isWordChar :=
    List.dropWhile_append_of_pos hword
  rw [hafter]
  unfold replaceAfter
  cases hbefore : extends? before with
  | true => simp [htake, hdrop]
  | false =>
    have hcut : replaceRuns t (p.chars ++ rest) =
        replaceRun t (p.chars ++ rest.takeWhile Text.isWordChar) ++
          replaceRuns t (rest.dropWhile Text.isWordChar) := replaceRuns_word_append hword
    cases hgoes : extends? rest.head? with
    | false =>
      have hnone : rest.takeWhile Text.isWordChar = [] := takeWhile_isWordChar_eq_nil_iff.2 hgoes
      simp [hcut, hnone, replaceRun_chars]
    | true =>
      have hmore : rest.takeWhile Text.isWordChar ≠ [] := by
        rw [ne_eq, takeWhile_isWordChar_eq_nil_iff, hgoes]
        exact Bool.noConfusion
      -- The run is longer than the longest placeholder at its beginning.
      have hself : replaceRun t (p.chars ++ rest.takeWhile Text.isWordChar) =
          p.chars ++ rest.takeWhile Text.isWordChar := by
        refine replaceRun_eq_self fun q hq => ?_
        have hbegins : q.chars <+: p.chars ++ rest := by
          rw [hq]
          exact (List.prefix_append_right_inj _).2 (List.takeWhile_prefix _)
        have hle := hlongest q hbegins
        have hpos := List.length_pos_iff.2 hmore
        rw [hq, List.length_append] at hle
        omega
      simp [hcut, hself]

/-! ## The longest placeholder -/

theorem eq_of_chars_eq {q : Placeholder} (h : p.chars = q.chars) : p = q := by
  have hword : Spelled.word p = Spelled.word q := String.toList_inj.1 h
  have hp : Spelled.ofWord? (Spelled.word p) = some p := ofWord?_eq_some_iff.2 rfl
  rw [hword, ofWord?_eq_some_iff.2 rfl] at hp
  exact (Option.some.inj hp).symm

theorem mem_all (p : Placeholder) : p ∈ Spelled.all (α := Placeholder) := by
  cases p <;> decide

/-- What a search for the longest finds is at least as long as each candidate. -/
theorem length_le_of_foldl_longer {ps : List Placeholder} {best : Option Placeholder}
    (h : ps.foldl (fun best p => some ((best.map (longer · p)).getD p)) best = some p) :
    (∀ q ∈ best, q.chars.length ≤ p.chars.length) ∧ ∀ q ∈ ps, q.chars.length ≤ p.chars.length := by
  induction ps generalizing best with
  | nil =>
    rw [List.foldl_nil] at h
    simp [h]
  | cons first ps ih =>
    rw [List.foldl_cons] at h
    obtain ⟨hbest, hps⟩ := ih h
    have hkept := hbest _ rfl
    rw [List.forall_mem_cons]
    cases best with
    | none => exact ⟨by simp, hkept, hps⟩
    | some q =>
      rw [Option.map_some, Option.getD_some, longer] at hkept
      have hboth : q.chars.length ≤ p.chars.length ∧ first.chars.length ≤ p.chars.length := by
        split at hkept <;> omega
      exact ⟨by simpa using hboth.1, hboth.2, hps⟩

theorem eq_nil_of_foldl_longer {ps : List Placeholder} {best : Option Placeholder}
    (h : ps.foldl (fun best p => some ((best.map (longer · p)).getD p)) best = none) :
    best = none ∧ ps = [] := by
  induction ps generalizing best with
  | nil => exact ⟨h, rfl⟩
  | cons first ps ih => exact absurd (ih h).1 (Option.some_ne_none _)

theorem mem_candidates_iff :
    p ∈ (Spelled.all (α := Placeholder)).filter (fun p => p.chars.isPrefixOf cs) ↔
      p.chars <+: cs := by
  simp [mem_all, List.isPrefixOf_iff_prefix]

theorem longestAt?_eq_none_iff : longestAt? cs = none ↔ ∀ p : Placeholder, ¬ p.chars <+: cs := by
  constructor
  · intro h p hp
    have hmem := mem_candidates_iff.2 hp
    simp [(eq_nil_of_foldl_longer h).2] at hmem
  · intro h
    cases hfound : longestAt? cs with
    | none => rfl
    | some p => exact absurd (chars_prefix_of_longestAt? hfound) (h p)

/-- The placeholder that the search takes is the longest one that the text begins with. -/
theorem longestAt?_eq_some_iff :
    longestAt? cs = some p ↔
      p.chars <+: cs ∧ ∀ q : Placeholder, q.chars <+: cs → q.chars.length ≤ p.chars.length := by
  constructor
  · intro h
    refine ⟨chars_prefix_of_longestAt? h, fun q hq => ?_⟩
    exact (length_le_of_foldl_longer h).2 q (mem_candidates_iff.2 hq)
  · rintro ⟨hp, hlongest⟩
    cases hfound : longestAt? cs with
    | none => exact absurd hp (longestAt?_eq_none_iff.1 hfound p)
    | some q =>
      have hq := chars_prefix_of_longestAt? hfound
      have hle := (length_le_of_foldl_longer hfound).2 p (mem_candidates_iff.2 hp)
      have hlength : q.chars.length = p.chars.length := Nat.le_antisymm (hlongest q hq) hle
      rw [eq_of_chars_eq ((List.prefix_of_prefix_length_le hq hp hlength.le).eq_of_length hlength)]

/-- The parts of a text become what its runs become. -/
theorem flatMap_replace_partsAfter (t : Trigger) (before : Option Char) (cs : List Char) :
    (partsAfter before cs).flatMap (Part.replace t) = replaceAfter t before cs := by
  fun_induction partsAfter before cs with
  | case1 before =>
    cases before <;> simp [replaceAfter, replaceRuns]
  | case2 before c rest hnone ih =>
    rw [replaceAfter_cons (longestAt?_eq_none_iff.1 hnone), List.flatMap_cons, ih]
    rfl
  | case3 before c rest p hp behind hinside ih =>
    have hcs := chars_append_behind hp
    have hlongest := (longestAt?_eq_some_iff.1 hp).2
    rw [← hcs] at hlongest ⊢
    rw [replaceAfter_chars_append hlongest, if_pos hinside, List.flatMap_append,
      flatMap_replace_map_plain, ih]
  | case4 before c rest p hp behind halone ih =>
    have hcs := chars_append_behind hp
    have hlongest := (longestAt?_eq_some_iff.1 hp).2
    rw [← hcs] at hlongest ⊢
    rw [replaceAfter_chars_append hlongest, if_neg halone, List.flatMap_cons, ih]

/-! ## What a search reports -/

/-- A placeholder in a text, with what a search passes over before it. -/
structure Occurrence where
  passed : List Char
  placeholder : Placeholder
  deriving DecidableEq, Repr

/-- A search reports the leftmost placeholder of a text, of several at one place the longest,
    and then those behind it. -/
inductive LeftmostLongest : List Char → List Occurrence → Prop
  | done {cs : List Char} (none_left : ∀ p : Placeholder, ¬ p.chars <:+: cs) :
      LeftmostLongest cs []
  | found {passed rest : List Char} {p : Placeholder} {others : List Occurrence}
      (leftmost : ∀ q : Placeholder, ∀ i < passed.length,
        ¬ q.chars <+: (passed ++ (p.chars ++ rest)).drop i)
      (longest : ∀ q : Placeholder, q.chars <+: p.chars ++ rest →
        q.chars.length ≤ p.chars.length)
      (behind : LeftmostLongest rest others) :
      LeftmostLongest (passed ++ (p.chars ++ rest)) (⟨passed, p⟩ :: others)

/-- The parts of a text that stands behind `before`, cut at what a search reports. -/
def partsOf (before : Option Char) (cs : List Char) : List Occurrence → List Part
  | [] => cs.map .plain
  | ⟨passed, p⟩ :: others =>
    let behind := cs.drop (passed.length + p.chars.length)
    let inside := extends? (passed.getLast?.or before) || extends? behind.head?
    passed.map .plain ++ (if inside then p.chars.map .plain else [.word p]) ++
      partsOf p.chars.getLast? behind others

theorem partsAfter_append {passed : List Char}
    (h : ∀ q : Placeholder, ∀ i < passed.length, ¬ q.chars <+: (passed ++ rest).drop i) :
    partsAfter before (passed ++ rest) =
      passed.map .plain ++ partsAfter (passed.getLast?.or before) rest := by
  induction passed generalizing before with
  | nil => simp
  | cons c passed ih =>
    have hnone : longestAt? (c :: (passed ++ rest)) = none :=
      longestAt?_eq_none_iff.2 fun q => h q 0 (Nat.succ_pos _)
    have hbehind : ∀ q : Placeholder, ∀ i < passed.length,
        ¬ q.chars <+: (passed ++ rest).drop i := fun q i hi => h q (i + 1) (Nat.succ_lt_succ hi)
    rw [List.cons_append, partsAfter, hnone, List.map_cons, List.cons_append, ih hbehind,
      List.getLast?_cons]
    cases passed.getLast? <;> rfl

theorem partsAfter_chars_append
    (hlongest : ∀ q : Placeholder, q.chars <+: p.chars ++ rest → q.chars.length ≤ p.chars.length) :
    partsAfter before (p.chars ++ rest) =
      (if extends? before || extends? rest.head? then p.chars.map .plain else [.word p]) ++
        partsAfter p.chars.getLast? rest := by
  have hp : longestAt? (p.chars ++ rest) = some p :=
    longestAt?_eq_some_iff.2 ⟨List.prefix_append _ _, hlongest⟩
  cases hcs : p.chars ++ rest with
  | nil =>
    have hpos := length_chars_pos p
    simp [(List.append_eq_nil_iff.1 hcs).1] at hpos
  | cons c cs =>
    rw [hcs] at hp
    have hbehind : cs.drop (p.chars.length - 1) = rest := by
      have happend := chars_append_behind hp
      rw [← hcs] at happend
      exact List.append_cancel_left happend
    rw [partsAfter, hp]
    simp only [hbehind]
    split <;> rfl

/-- Each leftmost and longest search cuts a text into the same parts. -/
theorem partsAfter_eq_partsOf {found : List Occurrence} (h : LeftmostLongest cs found)
    (before : Option Char) : partsAfter before cs = partsOf before cs found := by
  induction h generalizing before with
  | @done cs none_left =>
    have hpassed : ∀ q : Placeholder, ∀ i < cs.length, ¬ q.chars <+: (cs ++ []).drop i := by
      intro q i _ hbegins
      rw [List.append_nil] at hbegins
      exact none_left q (hbegins.isInfix.trans (List.drop_suffix i cs).isInfix)
    have hparts := @partsAfter_append before [] cs hpassed
    simpa [partsOf, partsAfter] using hparts
  | @found passed rest p others leftmost longest behind ih =>
    have hbehind : (passed ++ (p.chars ++ rest)).drop (passed.length + p.chars.length) = rest := by
      rw [← List.append_assoc, ← List.length_append, List.drop_left]
    rw [partsAfter_append leftmost, partsAfter_chars_append longest, ih]
    simp only [partsOf, hbehind, List.append_assoc]

/-! ## Expanding -/

theorem occurs_iff {wanted : List Char} : occurs wanted cs = true ↔ wanted <:+: cs := by
  induction cs with
  | nil => simp [occurs]
  | cons c cs ih => simp [occurs, ih, List.infix_cons_iff, List.isPrefixOf_iff_prefix]

theorem begin_prefix_chars (p : Placeholder) : "REQ_".toList <+: p.chars := by
  cases p <;> exact List.isPrefixOf_iff_prefix.1 rfl

end

/-- Expanding a text replaces each of its words that is a placeholder with a value and keeps
    everything else. Any search that is leftmost and longest leads to this result. -/
theorem expand_eq_wordwise (t : Trigger) (text : String) :
    (Evaluation.expand t text).value = wordwise t text ∧
      ∀ found, LeftmostLongest text.toList found →
        (Evaluation.expand t text).value =
          String.ofList ((partsOf none text.toList found).flatMap (Part.replace t)) := by
  have hsubstitute : (Evaluation.expand t text).value = substitute t text := rfl
  have hruns : (parts text).flatMap (Part.replace t) = replaceRuns t text.toList :=
    flatMap_replace_partsAfter t none text.toList
  have hwordwise : substitute t text = wordwise t text := by
    unfold substitute wordwise
    split
    next => rw [hruns]
    next hmentioned =>
      have hnone : LeftmostLongest text.toList [] := by
        refine .done fun p hp => hmentioned (occurs_iff.2 ?_)
        exact (begin_prefix_chars p).isInfix.trans hp
      rw [← hruns, parts, partsAfter_eq_partsOf hnone, partsOf, flatMap_replace_map_plain,
        String.ofList_toList]
  refine ⟨hsubstitute.trans hwordwise, fun found hfound => ?_⟩
  rw [hsubstitute, hwordwise, wordwise, ← hruns, parts, partsAfter_eq_partsOf hfound]

/-- A placeholder that is stuck to another one stays, and so does one that a value brings in. -/
theorem expand_eq_wordwise_of_stuck_words :
    let t : Trigger :=
      .systemSinkAvailabilityChanged "REQ_STATUS" { state := .unavailable, reason := 4 } none
    let text := "REQ_SINK_NAMEREQ_SINK_NAME REQ_AVAILABILITY_REASON/REQ_SINK_NAME"
    let found : List Occurrence :=
      [⟨[], .sinkName⟩, ⟨[], .sinkName⟩, ⟨[' '], .availabilityReason⟩, ⟨['/'], .sinkName⟩]
    LeftmostLongest text.toList found ∧
      (Evaluation.expand t text).value = "REQ_SINK_NAMEREQ_SINK_NAME 4/REQ_STATUS" := by
  intro t text found
  have hnone : ∀ p : Placeholder, ¬ p.chars <:+: [] := by
    intro p hp
    exact absurd (List.infix_nil.1 hp) (List.ne_nil_of_length_pos (length_chars_pos p))
  have htext : text.toList = [] ++ (sinkName.chars ++ ([] ++ (sinkName.chars ++
      ([' '] ++ (availabilityReason.chars ++ (['/'] ++ (sinkName.chars ++ []))))))) := by decide
  have hfound : LeftmostLongest text.toList found := by
    rw [htext]
    refine .found (by simp) (by intro q; cases q <;> decide) ?_
    refine .found (by simp) (by intro q; cases q <;> decide) ?_
    refine .found (by intro q; cases q <;> decide) (by intro q; cases q <;> decide) ?_
    exact .found (by intro q; cases q <;> decide) (by intro q; cases q <;> decide) (.done hnone)
  have hparts : String.ofList ((partsOf none text.toList found).flatMap (Part.replace t)) =
      "REQ_SINK_NAMEREQ_SINK_NAME 4/REQ_STATUS" := by decide +kernel
  exact ⟨hfound, ((expand_eq_wordwise t text).2 found hfound).trans hparts⟩

end AudioPolicy.Placeholder
