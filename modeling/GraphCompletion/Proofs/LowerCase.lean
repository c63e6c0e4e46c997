import GraphCompletion.Text.Lower
import Mathlib.Data.List.TakeWhile

/-!
# Texts in lower case

A letter is lower-cased by itself, but for the sigma, whose form depends on what stands around it.
So a text that begins another one also begins it in lower case, unless it breaks off right behind a
sigma. No capital of ASCII is left in lower case, no sign before the letters comes into being, and
what is in lower case already stays as it is.
-/
namespace GraphCompletion.Text

theorem toNat_ofNat_eq_or (n : Nat) : (Char.ofNat n).toNat = n ∨ (Char.ofNat n).toNat = 0 := by
  by_cases valid : n.isValidChar
  · rw [Char.ofNat, dif_pos valid]
    exact .inl rfl
  · rw [Char.ofNat, dif_neg valid]
    exact .inr rfl

/-- The letters of the table stand beyond ASCII, and none of their forms is a capital of ASCII, another
sign before these, or the capital I with a dot. -/
theorem bounds_caseRuns : ∀ run ∈ caseRuns, 128 ≤ run.first ∧ 90 < run.first + run.shift ∧
    (run.last + run.shift < 0x130 ∨ 0x130 < run.first + run.shift) := by decide +kernel

/-- The run has the code point. -/
def CaseRun.Holds (run : CaseRun) (n : Nat) : Prop :=
  run.first ≤ n ∧ n ≤ run.last ∧ (n - run.first) % run.step = 0

/-- A letter is its own lower-case form and no capital of ASCII, or it is such a capital, or in the
table. -/
theorem lowerChar_cases (c : Char) :
    lowerChar c = c ∧ (c.toNat < 65 ∨ 90 < c.toNat) ∨
      65 ≤ c.toNat ∧ c.toNat ≤ 90 ∧ lowerChar c = Char.ofNat (c.toNat + 32) ∨
      ∃ run ∈ caseRuns, run.Holds c.toNat ∧ lowerChar c = Char.ofNat (c.toNat + run.shift).toNat := by
  unfold lowerChar
  simp only
  split
  next ascii =>
    split
    next capital =>
      simp only [Bool.and_eq_true, decide_eq_true_eq] at capital
      exact .inr (.inl ⟨capital.1, capital.2, rfl⟩)
    next other =>
      simp only [Bool.and_eq_true, decide_eq_true_eq] at other
      exact .inl ⟨rfl, by omega⟩
  next beyond =>
    split
    next run found =>
      have within := List.find?_some found
      simp only [Bool.and_eq_true, decide_eq_true_eq, beq_iff_eq] at within
      exact .inr (.inr ⟨run, List.mem_of_find?_eq_some found, ⟨within.1.1, within.1.2, within.2⟩, rfl⟩)
    next => exact .inl ⟨rfl, by omega⟩

/-- A letter that is no capital of ASCII keeps its own form or gets one beyond the capitals. -/
theorem lowerChar_eq_or (c : Char) :
    lowerChar c = c ∧ (c.toNat < 65 ∨ 90 < c.toNat) ∨
      (lowerChar c).toNat = 0 ∨ 90 < (lowerChar c).toNat := by
  rcases lowerChar_cases c with same | ⟨_, _, form⟩ | ⟨run, listed, held, form⟩
  · exact .inl same
  · have code := toNat_ofNat_eq_or (c.toNat + 32)
    rw [← form] at code
    omega
  · have gap := (bounds_caseRuns run listed).2.1
    have first := held.1
    have code := toNat_ofNat_eq_or (c.toNat + run.shift).toNat
    rw [← form] at code
    omega

/-- No other letter is a colon in lower case. -/
theorem eq_colon_of_lowerChar {c : Char} (colon : lowerChar c = ':') : c = ':' := by
  have cases := lowerChar_eq_or c
  rw [colon] at cases
  rcases cases with same | zero | beyond
  · exact same.1.symm
  · cases zero
  · exact absurd beyond (by decide)

theorem count_lowerAfter_le (before t : Text) : (lowerAfter before t).count ':' ≤ t.count ':' := by
  induction t generalizing before with
  | nil => exact Nat.le_refl 0
  | cons c rest ih =>
    have own : (if c = '\u03A3' then
          if startsCased before && !startsCased rest then ['\u03C2'] else ['\u03C3']
        else if c = '\u0130' then ['i', '\u0307']
        else [lowerChar c]).count ':' ≤ [c].count ':' := by
      split
      · split
        · exact Nat.zero_le _
        · exact Nat.zero_le _
      · split
        · exact Nat.zero_le _
        · by_cases colon : lowerChar c = ':'
          · exact Nat.le_of_eq (by rw [colon, eq_colon_of_lowerChar colon])
          · rw [List.count_singleton, beq_false_of_ne colon]
            exact Nat.zero_le _
    calc (lowerAfter before (c :: rest)).count ':'
        = _ + (lowerAfter (c :: before) rest).count ':' := List.count_append
      _ ≤ [c].count ':' + rest.count ':' := Nat.add_le_add own (ih (c :: before))
      _ = (c :: rest).count ':' := List.count_append.symm

/-- No capital of ASCII stands in a text in lower case. -/
theorem not_capital_of_mem_lowerAfter {before t : Text} {c : Char} (member : c ∈ lowerAfter before t) :
    c.toNat < 65 ∨ 90 < c.toNat := by
  induction t generalizing before with
  | nil => simp [lowerAfter] at member
  | cons d rest ih =>
    rcases List.mem_append.1 member with own | later
    · split at own
      · split at own
        · exact List.mem_singleton.1 own ▸ .inr (by decide)
        · exact List.mem_singleton.1 own ▸ .inr (by decide)
      · split at own
        · simp only [List.mem_cons, List.not_mem_nil, or_false] at own
          rcases own with rfl | rfl <;> exact .inr (by decide)
        · rw [List.mem_singleton.1 own]
          have cases := lowerChar_eq_or d
          rcases cases with ⟨same, other⟩ | zero | beyond
          · rwa [same]
          · omega
          · exact .inr beyond
    · exact ih later

/-- The run has no code point from `first` to `last`, or, of two that alternate, none of the others. -/
def CaseRun.misses (first last : Nat) (alternate : Bool) (run : CaseRun) : Bool :=
  Nat.blt last run.first || Nat.blt run.last first ||
    (run.step == 2 && alternate && (first - run.first) % 2 == 1)

/-- No lower-case form of the table has a lower-case form in the table. -/
theorem misses_caseRuns :
    (caseRuns.all fun run => caseRuns.all (CaseRun.misses (run.first + run.shift).toNat
      (run.last + run.shift).toNat (run.step == 2 || run.first == run.last))) = true := by
  decide +kernel

theorem CaseRun.not_holds_shifted {run other : CaseRun} {n m : Nat} (member : run ∈ caseRuns)
    (another : other ∈ caseRuns) (held : run.Holds n) (shifted : (m : Int) = n + run.shift) :
    ¬ other.Holds m := by
  intro again
  have apart := List.all_eq_true.1 (List.all_eq_true.1 misses_caseRuns run member) other another
  have positive := (bounds_caseRuns run member).2.1
  obtain ⟨first, last, step⟩ := held
  obtain ⟨first', last', step'⟩ := again
  simp only [misses, Bool.or_eq_true, Bool.and_eq_true, Nat.blt_eq, beq_iff_eq] at apart
  rcases apart with (below | above) | ⟨⟨two, two' | single⟩, odd⟩
  · omega
  · omega
  · rw [two] at step'
    rw [two'] at step
    omega
  · rw [two] at step'
    omega

/-- Lower-casing leaves the letter as it is, wherever it stands. -/
def IsSmall (c : Char) : Prop := lowerChar c = c ∧ c ≠ '\u03A3' ∧ c ≠ '\u0130'

/-- A letter that is no capital of ASCII and not in the table is its own lower-case form. -/
theorem isSmall_of_free {c : Char} (other : c.toNat < 65 ∨ 90 < c.toNat) (noDot : c.toNat ≠ 0x130)
    (free : ∀ run ∈ caseRuns, ¬ run.Holds c.toNat) : IsSmall c := by
  refine ⟨?_, ?_, ?_⟩
  · unfold lowerChar
    simp only
    split
    next ascii =>
      rw [if_neg (by simp; omega)]
    next beyond =>
      split
      next run found =>
        have within := List.find?_some found
        simp only [Bool.and_eq_true, decide_eq_true_eq, beq_iff_eq] at within
        exact absurd ⟨within.1.1, within.1.2, within.2⟩ (free run (List.mem_of_find?_eq_some found))
      next => rfl
  · rintro rfl
    exact free ⟨0x3A3, 0x3AB, 1, 32⟩ (by decide) ⟨by decide, by decide, by decide⟩
  · rintro rfl
    exact noDot rfl

theorem isSmall_of_ascii {c : Char} (ascii : c.toNat < 128) (other : c.toNat < 65 ∨ 90 < c.toNat) :
    IsSmall c := by
  refine isSmall_of_free other (by omega) ?_
  intro run member held
  have beyond := (bounds_caseRuns run member).1
  have first := held.1
  omega

/-- The lower-case form of a letter is small. -/
theorem isSmall_lowerChar {c : Char} (noSigma : c ≠ '\u03A3') (noDot : c ≠ '\u0130') :
    IsSmall (lowerChar c) := by
  rcases lowerChar_cases c with ⟨same, _⟩ | ⟨_, _, form⟩ | ⟨run, listed, held, form⟩
  · rw [same]
    exact ⟨same, noSigma, noDot⟩
  · have code := toNat_ofNat_eq_or (c.toNat + 32)
    rw [← form] at code
    exact isSmall_of_ascii (by omega) (by omega)
  · have bounds := bounds_caseRuns run listed
    have first := held.1
    have last := held.2.1
    have code := toNat_ofNat_eq_or (c.toNat + run.shift).toNat
    rw [← form] at code
    rcases code with code | code
    · have shifted : ((lowerChar c).toNat : Int) = c.toNat + run.shift := by omega
      refine isSmall_of_free (by omega) (by omega) ?_
      intro other another
      exact CaseRun.not_holds_shifted listed another held shifted
    · exact isSmall_of_ascii (by omega) (by omega)

/-- A text in lower case has small letters only. -/
theorem isSmall_of_mem_lowerAfter {before t : Text} {c : Char} (member : c ∈ lowerAfter before t) :
    IsSmall c := by
  have ending : IsSmall '\u03C2' ∧ IsSmall '\u03C3' := by
    unfold IsSmall
    decide
  have dot : IsSmall '\u0307' := by
    unfold IsSmall
    decide
  induction t generalizing before with
  | nil => simp [lowerAfter] at member
  | cons d rest ih =>
    rcases List.mem_append.1 member with own | later
    · split at own
      · split at own
        · exact List.mem_singleton.1 own ▸ ending.1
        · exact List.mem_singleton.1 own ▸ ending.2
      · split at own
        · simp only [List.mem_cons, List.not_mem_nil, or_false] at own
          rcases own with rfl | rfl
          · exact isSmall_of_ascii (by decide) (by decide)
          · exact dot
        · rw [List.mem_singleton.1 own]
          exact isSmall_lowerChar (by assumption) (by assumption)
    · exact ih later

/-- A text of small letters is in lower case. -/
theorem lowerAfter_of_small {before t : Text} (small : ∀ c ∈ t, IsSmall c) : lowerAfter before t = t := by
  induction t generalizing before with
  | nil => rfl
  | cons c rest ih =>
    obtain ⟨same, noSigma, noDot⟩ := small c List.mem_cons_self
    rw [lowerAfter, if_neg noSigma, if_neg noDot, same,
      ih fun d member => small d (List.mem_cons_of_mem _ member)]
    rfl

/-- A small letter of a text is in its lower case too. -/
theorem mem_lowerAfter_of_small {before t : Text} {c : Char} (small : IsSmall c) (member : c ∈ t) :
    c ∈ lowerAfter before t := by
  induction t generalizing before with
  | nil => cases member
  | cons d rest ih =>
    rw [lowerAfter]
    apply List.mem_append.2
    cases List.mem_cons.1 member with
    | inl same =>
      left
      rw [← same, if_neg small.2.1, if_neg small.2.2, small.1]
      exact List.mem_singleton.2 rfl
    | inr later => exact .inr (ih later)

@[simp] theorem lower_lower (t : Text) : lower (lower t) = lower t :=
  lowerAfter_of_small fun _ member => isSmall_of_mem_lowerAfter member

/-- A text of ASCII characters without a capital is in lower case. -/
theorem lowerAfter_eq_self {before t : Text}
    (plain : ∀ c ∈ t, c.toNat < 128 ∧ (c.toNat < 65 ∨ 90 < c.toNat)) : lowerAfter before t = t :=
  lowerAfter_of_small fun c member => isSmall_of_ascii (plain c member).1 (plain c member).2

/-- The last character of the text that counts is a capital sigma behind a cased letter, so that it
gets its final form. -/
def endsInSigma (t : Text) : Bool :=
  match t.reverse.dropWhile isCaseIgnorable with
  | c :: before => c == '\u03A3' && startsCased before
  | [] => false

theorem endsInSigma_append {before after : Text} (ignorable : ∀ c ∈ after, isCaseIgnorable c = true) :
    endsInSigma (before.reverse ++ '\u03A3' :: after) = startsCased before := by
  have counts : isCaseIgnorable '\u03A3' = false := by decide +kernel
  have passed : (before.reverse ++ '\u03A3' :: after).reverse.dropWhile isCaseIgnorable =
      '\u03A3' :: before := by
    rw [List.reverse_append, List.reverse_reverse, List.reverse_cons, List.append_assoc,
      List.dropWhile_append_of_pos (by simpa using ignorable)]
    simp [counts]
  unfold endsInSigma
  rw [passed]
  simp

theorem startsCased_append_of_ignorable {t : Text} (ignorable : ∀ c ∈ t, isCaseIgnorable c = true)
    (rest : Text) : startsCased (t ++ rest) = startsCased rest := by
  unfold startsCased
  rw [List.dropWhile_append_of_pos ignorable]

theorem startsCased_eq_false_of_ignorable {t : Text}
    (ignorable : ∀ c ∈ t, isCaseIgnorable c = true) : startsCased t = false := by
  have passed := startsCased_append_of_ignorable ignorable []
  rw [List.append_nil] at passed
  exact passed

theorem startsCased_append_of_counting {t : Text} (counting : ¬ ∀ c ∈ t, isCaseIgnorable c = true)
    (rest : Text) : startsCased (t ++ rest) = startsCased t := by
  have filled : t.dropWhile isCaseIgnorable ≠ [] := fun none =>
    counting (List.dropWhile_eq_nil_iff.1 none)
  unfold startsCased
  rw [List.dropWhile_append, if_neg (by simpa using filled), List.head?_append,
    Option.or_of_isSome (by simpa [List.isSome_head?] using filled)]

/-- What follows a text shows on a sigma in it only if no letter stands in between. -/
theorem lowerAfter_prefix {before t rest : Text}
    (kept : ¬ (endsInSigma (before.reverse ++ t) = true ∧ startsCased rest = true)) :
    lowerAfter before t <+: lowerAfter before (t ++ rest) := by
  induction t generalizing before with
  | nil => exact List.nil_prefix
  | cons c others ih =>
    have further : ¬ (endsInSigma ((c :: before).reverse ++ others) = true ∧
        startsCased rest = true) := by simpa using kept
    have tail := ih further
    have same (sigma : c = '\u03A3') : (startsCased before && !startsCased (others ++ rest)) =
        (startsCased before && !startsCased others) := by
      by_cases ignorable : ∀ d ∈ others, isCaseIgnorable d = true
      · rw [sigma, endsInSigma_append ignorable] at kept
        rw [startsCased_append_of_ignorable ignorable, startsCased_eq_false_of_ignorable ignorable]
        cases behind : startsCased before with
        | false => rfl
        | true => simpa [behind] using kept
      · rw [startsCased_append_of_counting ignorable]
    simp only [List.cons_append, lowerAfter]
    by_cases sigma : c = '\u03A3'
    · rw [if_pos sigma, if_pos sigma, same sigma]
      exact (List.prefix_append_right_inj _).2 tail
    · rw [if_neg sigma, if_neg sigma]
      exact (List.prefix_append_right_inj _).2 tail

/-- A text begins another one in lower case too, unless it breaks off behind a sigma that the other
one's word goes on from. -/
theorem lower_prefix_append {t rest : Text}
    (kept : ¬ (endsInSigma t = true ∧ startsCased rest = true)) : lower t <+: lower (t ++ rest) :=
  lowerAfter_prefix kept

end GraphCompletion.Text
