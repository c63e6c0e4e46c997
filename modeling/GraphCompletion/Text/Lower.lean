import GraphCompletion.Text.Lower.Table
import GraphCompletion.Text.Basic

/-!
# Lower case

Full Unicode lower-casing. Two letters have rules of their own: the capital I with a dot above gives
two code points, and a capital sigma at the end of a word gives the final form.
-/
namespace GraphCompletion.Text

/-- The lower-case form of a letter that has one of a single code point, else the letter. -/
def lowerChar (c : Char) : Char :=
  let n := c.toNat
  if n < 128 then if 65 ≤ n && n ≤ 90 then Char.ofNat (n + 32) else c
  else
    match caseRuns.find? fun run => run.first ≤ n && n ≤ run.last && (n - run.first) % run.step == 0 with
    | some run => Char.ofNat (n + run.shift).toNat
    | none => c

/-- A letter in upper, lower or title case. -/
def isCased (c : Char) : Bool :=
  let n := c.toNat
  if n < 128 then (65 ≤ n && n ≤ 90) || (97 ≤ n && n ≤ 122) else inRanges casedRanges n

/-- A character that does not count when the letter beside a sigma is sought. -/
def isCaseIgnorable (c : Char) : Bool := inRanges caseIgnorableRanges c.toNat

/-- The next character that counts is a cased letter. -/
def startsCased (t : Text) : Bool := (t.dropWhile isCaseIgnorable).head?.any isCased

/-- Lower-cases a text that stands after `before`, which is given last character first. -/
def lowerAfter (before : Text) : Text → Text
  | [] => []
  | c :: rest =>
    let lowered : Text :=
      if c = '\u03A3' then
        if startsCased before && !startsCased rest then ['\u03C2'] else ['\u03C3']
      else if c = '\u0130' then ['i', '\u0307']
      else [lowerChar c]
    lowered ++ lowerAfter (c :: before) rest

/-- The text in lower case. -/
def lower (t : Text) : Text := lowerAfter [] t

@[simp] theorem lower_nil : lower [] = [] := rfl

theorem lowerAfter_ne_nil (before : Text) (c : Char) (rest : Text) :
    lowerAfter before (c :: rest) ≠ [] := by
  simp only [lowerAfter]
  split <;> (try split) <;> simp

end GraphCompletion.Text
