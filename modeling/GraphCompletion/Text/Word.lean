import GraphCompletion.Text.Blank

/-!
# Words of a key

A key is an ASCII identifier: a letter or an underscore, then letters, digits, underscores and
hyphens. The readers here take such words from the front of a text.
-/
namespace GraphCompletion.Text

/-- A character that may begin a key. -/
def isWordStart (c : Char) : Bool := c.isAlpha || c == '_'

/-- A character that may stand in a key. -/
def isWordChar (c : Char) : Bool := c.isAlphanum || c == '_' || c == '-'

/-- The whole text is one key. -/
def isWord : Text → Bool
  | [] => false
  | c :: rest => isWordStart c && rest.all isWordChar

/-- The longest key at the front and what follows it. -/
def takeWord? : Text → Option (Text × Text)
  | [] => none
  | c :: rest =>
    if isWordStart c then some (c :: rest.takeWhile isWordChar, rest.dropWhile isWordChar) else none

/-- What follows a dash at the front and the white space after it; the text itself without a dash. -/
def afterDash : Text → Text
  | '-' :: rest => stripLeft rest
  | t => t

/-- What follows `word` at the front of the text. -/
def after? (word t : Text) : Option Text := word.isPrefixOf? t

theorem all_takeWhile (p : Char → Bool) (t : Text) : (t.takeWhile p).all p = true := by
  induction t with
  | nil => rfl
  | cons c rest ih => cases holds : p c <;> simp_all

theorem isWord_of_takeWord? {t word rest : Text} (read : takeWord? t = some (word, rest)) :
    isWord word = true := by
  unfold takeWord? at read
  split at read
  · simp at read
  · split at read
    · next starts =>
      simp only [Option.some.injEq, Prod.mk.injEq] at read
      obtain ⟨rfl, rfl⟩ := read
      simp only [isWord, starts, Bool.true_and, all_takeWhile]
    · simp at read

end GraphCompletion.Text
