import GraphCompletion.Proofs.LowerCase
import GraphCompletion.Proofs.Words

/-!
# Trimmed texts

Stripping leaves a text without white space at its ends, and such a text has none there in lower case
either: a letter in lower case is never white space. So a text that is stripped and put into lower case
stays as it is when that is done again.
-/
namespace GraphCompletion.Text

theorem strip_eq_nil_iff (t : Text) : strip t = [] ↔ isBlank t = true := by
  rw [← stripLeft_eq_nil_iff, ← List.head?_eq_none_iff, head?_strip, List.head?_eq_none_iff]

/-- No white space stands at either end. -/
structure Trimmed (t : Text) : Prop where
  head : ∀ c, t.head? = some c → isBlankChar c = false
  last : ∀ c, t.getLast? = some c → isBlankChar c = false

theorem trimmed_strip (t : Text) : Trimmed (strip t) := by
  constructor
  · intro c first
    rw [head?_strip] at first
    have solid := List.head?_dropWhile_not isBlankChar t
    rw [stripLeft] at first
    rw [first] at solid
    exact solid
  · intro c last
    have solid := List.head?_dropWhile_not isBlankChar (stripLeft t).reverse
    rw [strip, stripRight, List.getLast?_reverse] at last
    rw [last] at solid
    exact solid

theorem Trimmed.strip_eq {t : Text} (trimmed : Trimmed t) : strip t = t := by
  have left : stripLeft t = t := by
    cases t with
    | nil => rfl
    | cons c rest => simp [stripLeft, trimmed.head c rfl]
  rw [strip, left]
  rcases List.eq_nil_or_concat t with rfl | ⟨rest, c, rfl⟩
  · rfl
  · have solid := trimmed.last c (by simp)
    rw [List.concat_eq_append]
    exact stripRight_append_solid rest (by simp) (by simpa using solid)

/-- Stretches of code points among which white space stands. -/
def blankZones : List (Int × Int) :=
  [(9, 0x20), (0x85, 0xA0), (0x1680, 0x1680), (0x2000, 0x205F), (0x3000, 0x3000)]

theorem exists_zone_of_isBlankChar {c : Char} (blank : isBlankChar c = true) :
    ∃ zone ∈ blankZones, zone.1 ≤ c.toNat ∧ (c.toNat : Int) ≤ zone.2 := by
  simp only [isBlankChar, Bool.or_eq_true, Bool.and_eq_true, decide_eq_true_eq, beq_iff_eq] at blank
  simp only [blankZones, List.mem_cons, List.not_mem_nil, or_false, exists_eq_or_imp, exists_eq_left]
  omega

/-- No lower-case form of the table stands among white space. -/
theorem caseRuns_miss_blankZones : ∀ run ∈ caseRuns, ∀ zone ∈ blankZones,
    run.last + run.shift < zone.1 ∨ zone.2 < run.first + run.shift := by decide +kernel

/-- Lower-casing makes no white space. -/
theorem isBlankChar_lowerChar {c : Char} (solid : isBlankChar c = false) :
    isBlankChar (lowerChar c) = false := by
  apply Bool.eq_false_iff.2
  intro blank
  obtain ⟨zone, member, first, last⟩ := exists_zone_of_isBlankChar blank
  have positive : 9 ≤ zone.1 := (by decide : ∀ zone ∈ blankZones, 9 ≤ zone.1) zone member
  rcases lowerChar_cases c with ⟨same, _⟩ | ⟨first', last', form⟩ | ⟨run, listed, ⟨first', last', _⟩, form⟩
  · rw [same, solid] at blank
    cases blank
  · have apart : zone.2 < 97 ∨ 122 < zone.1 :=
      (by decide : ∀ zone ∈ blankZones, zone.2 < 97 ∨ 122 < zone.1) zone member
    have code := toNat_ofNat_eq_or (c.toNat + 32)
    rw [← form] at code
    omega
  · have apart := caseRuns_miss_blankZones run listed zone member
    have code := toNat_ofNat_eq_or (c.toNat + run.shift).toNat
    rw [← form] at code
    omega

/-- What a character gives in lower case is there, and no white space unless the character is. -/
theorem lowerAfter_cons_solid (before : Text) {c : Char} (rest : Text) (solid : isBlankChar c = false) :
    ∃ lowered, lowered ≠ [] ∧ (∀ d ∈ lowered, isBlankChar d = false) ∧
      lowerAfter before (c :: rest) = lowered ++ lowerAfter (c :: before) rest := by
  refine ⟨_, ?_, ?_, rfl⟩
  · split
    · split <;> simp
    · split <;> simp
  · intro d member
    split at member
    · split at member <;> simp_all [isBlankChar]
    · split at member
      · simp only [List.mem_cons, List.not_mem_nil, or_false] at member
        rcases member with rfl | rfl <;> decide
      · rw [List.mem_singleton.1 member]
        exact isBlankChar_lowerChar solid

theorem head?_lowerAfter_solid {before t : Text} (head : ∀ c, t.head? = some c → isBlankChar c = false) :
    ∀ d, (lowerAfter before t).head? = some d → isBlankChar d = false := by
  cases t with
  | nil => simp [lowerAfter]
  | cons c rest =>
    obtain ⟨lowered, filled, solid, same⟩ := lowerAfter_cons_solid before rest (head c rfl)
    intro d first
    rw [same, List.head?_append_of_ne_nil _ filled] at first
    exact solid d (List.mem_of_head? first)

theorem getLast?_lowerAfter_solid {before t : Text}
    (last : ∀ c, t.getLast? = some c → isBlankChar c = false) :
    ∀ d, (lowerAfter before t).getLast? = some d → isBlankChar d = false := by
  induction t generalizing before with
  | nil => simp [lowerAfter]
  | cons c rest ih =>
    cases rest with
    | nil =>
      obtain ⟨lowered, _, solid, same⟩ := lowerAfter_cons_solid before [] (last c rfl)
      intro d found
      rw [same, lowerAfter, List.append_nil] at found
      exact solid d (List.mem_of_getLast? found)
    | cons next others =>
      intro d found
      rw [lowerAfter, List.getLast?_append_of_ne_nil _ (lowerAfter_ne_nil _ next others)] at found
      exact ih (by simpa using last) d found

/-- A text without white space at its ends has none there in lower case. -/
theorem Trimmed.lower {t : Text} (trimmed : Trimmed t) : Trimmed (lower t) :=
  ⟨head?_lowerAfter_solid trimmed.head, getLast?_lowerAfter_solid trimmed.last⟩

theorem trimmed_lower_strip (t : Text) : Trimmed (lower (strip t)) := (trimmed_strip t).lower

/-- Nothing is left of a text exactly if it is blank. -/
theorem lower_strip_eq_nil_iff (t : Text) : lower (strip t) = [] ↔ isBlank t = true := by
  rw [← strip_eq_nil_iff]
  cases strip t with
  | nil => simp
  | cons c rest => exact iff_of_false (lowerAfter_ne_nil [] c rest) (List.cons_ne_nil c rest)

/-- A text that is stripped and in lower case, and not blank. -/
structure Normal (t : Text) : Prop where
  solid : isBlank t = false
  stripped : strip t = t
  small : lower t = t

theorem Normal.lower_strip {t : Text} (normal : Normal t) : lower (strip t) = t := by
  rw [normal.stripped, normal.small]

theorem Normal.ne_nil {t : Text} (normal : Normal t) : t ≠ [] := by
  rintro rfl
  cases normal.solid

theorem normal_lower_strip {t : Text} (solid : isBlank t = false) : Normal (lower (strip t)) := by
  have stripped : strip (lower (strip t)) = lower (strip t) := (trimmed_lower_strip t).strip_eq
  refine ⟨?_, stripped, lower_lower _⟩
  rw [Bool.eq_false_iff, ne_eq, ← lower_strip_eq_nil_iff, stripped, lower_lower, lower_strip_eq_nil_iff,
    solid]
  exact Bool.false_ne_true

end GraphCompletion.Text
