import MarkupLowering.Program.Naming
import MarkupLowering.Script.Statement

/-
  This file ties the rules of the grammar together and reads
  whole modules and single expressions.

  Key definitions include:
    * `Script.grammar`
    * `Script.readProgram`
    * `Script.readModule`
    * `Script.readExpression`
-/

namespace MarkupLowering.Script

------------------------------------------------------------
-- Grammar
------------------------------------------------------------

/- One step of a rule, given the readings of the rules inside it. -/
def ruleStep (self : Grammar) : Grammar
  | .expression context => expression self context
  | .assignment context allowsArrowType =>
      assignment self context allowsArrowType
  | .binary context level => binary self context level
  | .unary context => unary self context
  | .leftHand context => leftHand self context
  | .markup context => markup self context
  | .pattern context => pattern self context
  | .typing context allowsConditional =>
      typing self context allowsConditional
  | .statement context place => statement self context place

/- The rules, nested up to a depth. -/
def grammar : (depth : Nat) → Grammar
  | 0 => fun _ => refuse .tooDeep
  | depth + 1 => ruleStep (grammar depth)

/-
  A depth that no text exceeds.  Between two tokens fewer than
  sixteen rules are entered.
-/
def depthFor (source : List Char) : Nat :=
  16 * (source.length + 1)

------------------------------------------------------------
-- Starting
------------------------------------------------------------

/- The cursor in front of the first token. -/
def Cursor.before
    (source : List Char)
    (point : Point) : Cursor :=
  { limit := source.length + 2
    token := .finish
    span := .between point.offset point.offset
    next := point
    afterLineEnd := false
    lastStop := point.offset
    pieces := []
    defaults := [] }

/-
  Read a text from a place on.  A text is refused if its
  offsets do not fit in 32 bits.
-/
def readFrom
    {α : Type}
    (source : List Char)
    (point : Point)
    (reader : Reader α) : Except ReadError α :=
  if Text.byteLength source < UInt32.size then
    reader.run' (Cursor.before source point)
  else
    .error ⟨.tooLong, Span.zero⟩

/- Refuse defaults in object literals that are no targets. -/
def checkDefaults : Reader Unit := do
  match (← get).defaults with
  | [] => return
  | offset :: _ =>
      throw ⟨.unexpectedToken, .between offset (offset + 1)⟩

------------------------------------------------------------
-- Modules
------------------------------------------------------------

/- The first line of a source text, if it tells how to run it. -/
def readHashbang (source : List Char) : Option Span × Point :=
  match source with
  | '#' :: '!' :: _ =>
      let (_, next) :=
        (Point.mk 0 source).spanWhile fun c => !Text.isLineEnd c
      (some (.between 0 next.offset), next)
  | _ => (none, ⟨0, source⟩)

/- The directives at the beginning of a module. -/
def directives (self : Grammar) : Reader (List Span) :=
  repeatFrom [] fun found => do
    match ← token with
    | .text _ =>
        let phrase ← self (.statement .top .inList)
        match phrase.form with
        | .text _ => return .again (phrase.span :: found)
        | _ => return .done found.reverse
    | _ => return .done found.reverse

/- The statements of a module, up to the end of the text. -/
def moduleStatements (self : Grammar) : Reader Unit :=
  repeatFrom () fun _ => do
    if ← isAtFinish then
      return .done ()
    discard <| self (.statement .top .inList)
    return .again ()

/-
  A module of the pieces met.  Two declarations never begin at
  the same token; they are compared so that this is known.
-/
def programOf
    (hashbang : Option Span)
    (directives : List Span)
    (pieces : List (Piece Construct)) : Reader Program :=
  if apart : (startsOf (headsIn pieces)).Nodup then
    return ⟨hashbang, directives, pieces, apart⟩
  else
    refuse .misplaced

/- A module after its first line, if that is a hashbang. -/
def moduleBody
    (self : Grammar)
    (hashbang : Option Span) : Reader Program := do
  advance
  let found ← directives self
  moduleStatements self
  checkDefaults
  programOf hashbang found (← get).pieces.reverse

/- Read a module. -/
def readProgram (source : String) : Except ReadError Program :=
  let source := source.toList
  let (hashbang, point) := readHashbang source
  readFrom source point
    (moduleBody (grammar (depthFor source)) hashbang)

/- Read a module and give names to its declarations. -/
def readModule (source : String) : Except ReadError Outline :=
  (readProgram source).map (·.outline source)

------------------------------------------------------------
-- Expressions
------------------------------------------------------------

/- Read the expression at the beginning of a text. -/
def readExpression (source : String) : Except ReadError Phrase :=
  let source := source.toList
  readFrom source ⟨0, source⟩ do
    advance
    let phrase ← grammar (depthFor source) (.expression .top)
    checkDefaults
    return phrase

end MarkupLowering.Script
