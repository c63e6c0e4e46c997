import GraphCompletion.Text.Word

/-!
# Lines

What one line of a graph document shows without its neighbours: how deep it is indented, whether it
is blank, whether it opens an item, and which key it names. A half-typed line is read like any other.
-/
namespace GraphCompletion.Line

/-- How many white-space characters the line begins with. -/
def indent (line : Text) : Nat := Text.leadingBlanks line

/-- Nothing but white space. -/
def isBlank (line : Text) : Bool := Text.isBlank line

/-- The line opens an item: its first character that is not white space is a dash. -/
def isDash (line : Text) : Bool := (Text.strip line).head? == some '-'

/-- The line holds a dash and nothing else. -/
def isLoneDash (line : Text) : Bool := Text.strip line == ['-']

/-- The key the line names, `key:` or `- key:`. -/
def key? (line : Text) : Option Text := do
  let (word, rest) ← Text.takeWord? (Text.afterDash (Text.strip line))
  if (Text.stripLeft rest).head? = some ':' then some word else none

end GraphCompletion.Line
