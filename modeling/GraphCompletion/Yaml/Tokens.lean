import GraphCompletion.Yaml.BlockScalar
import GraphCompletion.Yaml.PlainScalar
import GraphCompletion.Yaml.Property

/-!
# Tokens of a text

The text is read from left to right into tokens. Indentation opens and closes block collections. A
key without an indicator is known only at the colon after it, so places where a key may have begun
are kept beside the tokens, and the indicators that turn out to be missing are put in at the end:
reading on never changes a token that is there.
-/
namespace GraphCompletion.Yaml

/-- A place where a key may have begun. -/
structure KeyPlace where
  /-- How many tokens stand before it. -/
  position : Nat
  /-- The block around it requires a key here. -/
  required : Bool
  index : Nat
  line : Nat
  column : Nat
  deriving DecidableEq, Repr

/-- An indicator to be put in: before which token, and whether a mapping begins there too. -/
structure Splice where
  position : Nat
  opensMapping : Bool
  deriving DecidableEq, Repr

/-- The reading of a text, as far as it has come. -/
structure Scan where
  cursor : Cursor
  tokens : Array Token := #[]
  splices : List Splice := []
  flowLevel : Nat := 0
  indent : Int := -1
  outerIndents : List Int := []
  keyAllowed : Bool := true
  /-- For a flow level, where a key may have begun. -/
  places : List (Nat × KeyPlace) := []

/-- The tokens of a text, and what is wrong after them. -/
structure Tokens where
  tokens : List Token
  fault : Option Fault
  deriving Repr

namespace Scan

/-- A key has to be on one line and within this many characters of its colon. -/
def keyReach : Nat := 1024

def push (token : Token) (s : Scan) : Scan := { s with tokens := s.tokens.push token }

/-- The token added, the cursor moved past so many characters. -/
def pushOver (length : Nat) (token : Token) (s : Scan) : Scan :=
  { s with tokens := s.tokens.push token, cursor := s.cursor.skip length }

def inFlow (s : Scan) : Bool := s.flowLevel != 0

/-- Past spaces, comments and line breaks. In a block a key may begin on a new line. -/
def skipGaps : (fuel : Nat) → Scan → Scan
  | 0, s => s
  | fuel + 1, s =>
    let c := s.cursor.skipSpaces.skipComment
    match c.lineBreak? with
    | some (_, c) => skipGaps fuel { s with cursor := c, keyAllowed := s.keyAllowed || !s.inFlow }
    | none => { s with cursor := c }

/-- Gives up the places that are out of reach; one that requires a key must not be. -/
def dropStalePlaces (s : Scan) : Except Fault Scan :=
  let stale (place : KeyPlace) : Bool :=
    place.line != s.cursor.line || keyReach < s.cursor.index - place.index
  if s.places.any fun entry => stale entry.2 && entry.2.required then .error .token
  else .ok { s with places := s.places.filter fun entry => !stale entry.2 }

/-- Gives up the place at this flow level. -/
def dropPlace (s : Scan) : Except Fault Scan :=
  if s.places.any fun entry => entry.1 == s.flowLevel && entry.2.required then .error .token
  else .ok { s with places := s.places.filter fun entry => entry.1 != s.flowLevel }

/-- Keeps the cursor's place in mind, if a key may begin here. -/
def savePlace (s : Scan) : Except Fault Scan := do
  if s.keyAllowed then
    let s ← s.dropPlace
    let required : Bool := !s.inFlow && s.indent = s.cursor.column
    let place : KeyPlace :=
      ⟨s.tokens.size, required, s.cursor.index, s.cursor.line, s.cursor.column⟩
    pure { s with places := (s.flowLevel, place) :: s.places }
  else pure s

/-- Closes the blocks that are indented more than `column`. -/
def unwind (column : Int) : (outer : List Int) → Scan → Scan
  | [], s => s
  | indent :: outer, s =>
    if column < s.indent then
      unwind column outer { s.push .blockEnd with indent := indent, outerIndents := outer }
    else s

/-- Closes the blocks that are indented more than `column`, outside flow collections. -/
def unwindTo (column : Int) (s : Scan) : Scan :=
  if s.inFlow then s else unwind column s.outerIndents s

/-- A deeper column opens a block. -/
def opens (column : Nat) (s : Scan) : Bool := s.indent < column

def openBlock (column : Nat) (s : Scan) : Scan :=
  { s with indent := column, outerIndents := s.indent :: s.outerIndents }

/-- A block entry or an explicit key, which may open a block. -/
def pushBlockIndicator (start indicator : Token) (s : Scan) : Except Fault Scan := do
  let s ←
    if s.inFlow then pure s
    else if !s.keyAllowed then .error .token
    else if s.opens s.cursor.column then pure ((s.push start).openBlock s.cursor.column)
    else pure s
  let s ← s.dropPlace
  pure (s.pushOver 1 indicator)

/-- A colon: it belongs to the key that began at this level's place, or to an empty one. -/
def pushValue (s : Scan) : Except Fault Scan := do
  match s.places.find? fun entry => entry.1 = s.flowLevel with
  | some (_, place) =>
    let opensMapping := !s.inFlow && s.opens place.column
    let s := { s with
      places := s.places.filter fun entry => entry.1 != s.flowLevel
      splices := ⟨place.position, opensMapping⟩ :: s.splices
      keyAllowed := false }
    let s := if opensMapping then s.openBlock place.column else s
    pure (s.pushOver 1 .value)
  | none =>
    let s ←
      if s.inFlow then pure s
      else if !s.keyAllowed then .error .token
      else if s.opens s.cursor.column then
        pure ((s.push .blockMappingStart).openBlock s.cursor.column)
      else pure s
    let s ← { s with keyAllowed := !s.inFlow }.dropPlace
    pure (s.pushOver 1 .value)

/-- The start of a flow collection. -/
def pushFlowStart (token : Token) (s : Scan) : Except Fault Scan := do
  let s ← s.savePlace
  pure ({ s with flowLevel := s.flowLevel + 1, keyAllowed := true }.pushOver 1 token)

/-- The end of a flow collection. -/
def pushFlowEnd (token : Token) (s : Scan) : Except Fault Scan := do
  let s ← s.dropPlace
  pure ({ s with flowLevel := s.flowLevel - 1, keyAllowed := false }.pushOver 1 token)

/-- Closes all blocks before a directive or a document mark. -/
def closeDocument (s : Scan) : Except Fault Scan := do
  let s ← (s.unwindTo (-1)).dropPlace
  pure { s with keyAllowed := false }

/-- A token that a key may begin with, read by `read`. -/
def pushNode (read : Cursor → Except Fault (Token × Cursor)) (s : Scan) : Except Fault Scan := do
  let s ← s.savePlace
  let (token, c) ← read s.cursor
  pure { s with tokens := s.tokens.push token, cursor := c, keyAllowed := false }

/-- A block scalar; a key may begin after it. -/
def pushBlockScalar (folded : Bool) (s : Scan) : Except Fault Scan := do
  let s ← s.dropPlace
  let (text, c) ← BlockScalar.scan folded s.indent s.cursor
  pure { s with tokens := s.tokens.push (.scalar false text), cursor := c, keyAllowed := true }

/-- A plain scalar; a key may begin after it if it ends with a line break. -/
def pushPlain (s : Scan) : Except Fault Scan := do
  let s ← s.savePlace
  let read := PlainScalar.scan s.inFlow s.indent s.cursor
  pure { s with
    tokens := s.tokens.push (.scalar true read.text), cursor := read.cursor,
    keyAllowed := read.broken }

/-- A document mark. -/
def pushDocumentMark (token : Token) (s : Scan) : Except Fault Scan := do
  pure ((← s.closeDocument).pushOver 3 token)

/-- The next token, where `first` is the character at the cursor and `after` what follows it. -/
def pushNext (first : Char) (after : Text) (s : Scan) : Except Fault Scan :=
  let atMargin := s.cursor.column == 0
  if first = '%' && atMargin then do
    let s ← s.closeDocument
    let (directive, c) ← Property.directive s.cursor
    pure { s with tokens := s.tokens.push (.directive directive), cursor := c }
  else if atMargin && documentMarkNext s.cursor.rest then
    s.pushDocumentMark (if first = '-' then .documentStart else .documentEnd)
  else if first = '[' then s.pushFlowStart .flowSequenceStart
  else if first = '\x7b' then s.pushFlowStart .flowMappingStart
  else if first = ']' then s.pushFlowEnd .flowSequenceEnd
  else if first = '\x7d' then s.pushFlowEnd .flowMappingEnd
  else if first = ',' then do
    let s ← { s with keyAllowed := true }.dropPlace
    pure (s.pushOver 1 .flowEntry)
  else if first = '-' && gapNext after then do
    let s ← s.pushBlockIndicator .blockSequenceStart .blockEntry
    pure { s with keyAllowed := true }
  else if first = '?' && (s.inFlow || gapNext after) then do
    let s ← s.pushBlockIndicator .blockMappingStart .key
    pure { s with keyAllowed := !s.inFlow }
  else if first = ':' && (s.inFlow || gapNext after) then s.pushValue
  else if first = '*' then
    s.pushNode fun c => (Property.anchor c).map fun (name, c) => (.alias name, c)
  else if first = '&' then
    s.pushNode fun c => (Property.anchor c).map fun (name, c) => (.anchor name, c)
  else if first = '!' then s.pushNode Property.tag
  else if (first = '|' || first = '>') && !s.inFlow then s.pushBlockScalar (first = '>')
  else if first = '\x27' || first = '"' then
    s.pushNode fun c => (QuotedScalar.scan c).map fun (text, c) => (.scalar false text, c)
  else if PlainScalar.canStart s.inFlow s.cursor.rest then s.pushPlain
  else .error .token

/-- Reads on to the end of the text or to a fault. -/
def run : (fuel : Nat) → Scan → Scan × Option Fault
  | 0, s => (s, none)
  | fuel + 1, s =>
    let s := s.skipGaps (s.cursor.rest.length + 1)
    match s.dropStalePlaces with
    | .error fault => (s, some fault)
    | .ok s =>
      let s := s.unwindTo s.cursor.column
      match s.cursor.rest with
      | [] =>
        match (s.unwindTo (-1)).dropPlace with
        | .error fault => (s, some fault)
        | .ok s => (s, none)
      | first :: after =>
        match s.pushNext first after with
        | .error fault => (s, some fault)
        | .ok s => run fuel s

/-- The tokens with the indicators that were found late put in. -/
def spliced (s : Scan) : List Token :=
  s.tokens.toList.zipIdx.flatMap fun (token, i) =>
    match s.splices.find? fun splice => splice.position = i with
    | some splice => (if splice.opensMapping then [Token.blockMappingStart] else []) ++ [.key, token]
    | none => [token]

end Scan

namespace Tokens

/-- The tokens of a text. A byte order mark may stand first. -/
def ofText (text : Text) : Tokens :=
  if !text.all isDocumentChar then ⟨[], some .character⟩
  else
    let cursor : Cursor := ⟨text, 0, 0, 0⟩
    let cursor := if text.head? = some '\uFEFF' then cursor.next else cursor
    let (scan, fault) := Scan.run (text.length + 1) { cursor }
    ⟨scan.spliced, fault⟩

end Tokens
end GraphCompletion.Yaml
