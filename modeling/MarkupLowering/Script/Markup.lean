import MarkupLowering.Script.Typing

/-
  This file reads elements and fragments.  Between the tokens
  of a tag, blanks and comments may stand.  Text and the
  values of attributes between quotes are taken as they are
  written.

  An element is read up to its last angle bracket, which stays
  at hand: what follows it is text inside an element and code
  elsewhere.

  Key definitions include:
    * `Script.tagName`
    * `Script.markupAttributes`
    * `Script.markupChildren`
    * `Script.markup`
-/

namespace MarkupLowering.Script

------------------------------------------------------------
-- Names
------------------------------------------------------------

/- A word of markup: a name in which hyphens may stand. -/
def markupWord : Reader String := do
  match ← token with
  | .name _ spelling =>
      let next := (← get).next
      let more :=
        match next.rest with
        | '-' :: _ =>
            (next.spanWhile fun c => Text.isNamePart c || c == '-').1
        | _ => []
      widen more.length
      advance
      return spelling ++ String.ofList more
  | _ => unexpected

/- A word of markup without hyphens. -/
def plainMarkupWord : Reader String := do
  let word ← markupWord
  if word.toList.contains '-' then
    refuse .misplaced
  return word

/- The name of an element. -/
def tagName : Reader TagName := do
  let first ← markupWord
  if ← eat .colon then
    return .namespaced first (← markupWord)
  if ← isAt .dot then
    if first.toList.contains '-' then
      refuse .misplaced
    let segments ← repeatFrom [first] fun found => do
      if ← eat .dot then
        return .again ((← plainMarkupWord) :: found)
      else
        return .done found.reverse
    return .member segments
  return .identifier first

/- The name of an attribute. -/
def attributeName : Reader String := do
  let first ← markupWord
  if ← eat .colon then
    return first ++ ":" ++ (← markupWord)
  else
    return first

------------------------------------------------------------
-- Embedded Code
------------------------------------------------------------

/- An expression and the pieces in it. -/
def embeddedCode
    (self : Grammar)
    (context : Context) : Reader (Code Construct) := do
  let (phrase, pieces) ← gather (self (.expression context.embedded))
  return .mk phrase.span pieces

/- The element of a phrase. -/
def elementOf (phrase : Phrase) : Reader (Markup Construct) :=
  match phrase.form with
  | .markup element => return element
  | _ => unexpected

------------------------------------------------------------
-- Attributes
------------------------------------------------------------

/- The value of an attribute: quoted text as it is written, or a token. -/
def readAttributeValue (point : Point) : Reading Token :=
  match point.rest with
  | c :: rest =>
      if c = '"' ∨ c.toNat = 0x27 then
        let (value, next) :=
          Point.spanWhile ⟨point.offset + 1, rest⟩ (· != c)
        match next.rest with
        | [] => .error .unterminatedText
        | _ :: rest =>
            .ok
              (.text (String.ofList value), ⟨next.offset + 1, rest⟩)
      else
        readToken point
  | [] => .error .unterminatedText

/- An attribute with a name. -/
def namedAttribute
    (self : Grammar)
    (context : Context) :
    Reader (MarkupAttribute Construct) := do
  let start ← here
  let name ← attributeName
  if ← isAt .equals then
    advanceBy readAttributeValue
    match ← token with
    | .text value =>
        advance
        return .text name value (← spanFrom start)
    | .punct .openBrace =>
        advance
        let code ← embeddedCode self context
        expect .closeBrace
        return .code name code (← spanFrom start)
    | .punct .less =>
        let element ← elementOf (← self (.markup context))
        advance
        return .markup name element (← spanFrom start)
    | _ => unexpected
  else
    return .absent name (← spanFrom start)

/- An attribute that stands for many. -/
def spreadAttribute
    (self : Grammar)
    (context : Context) :
    Reader (MarkupAttribute Construct) := do
  let start ← here
  expect .openBrace
  expect .ellipsis
  let code ← embeddedCode self context
  expect .closeBrace
  return .spread code (← spanFrom start)

/- The attributes of an opening tag. -/
def markupAttributes
    (self : Grammar)
    (context : Context) :
    Reader (List (MarkupAttribute Construct)) :=
  repeatFrom [] fun found => do
    if ← isAtAny [.greater, .slash] then
      return .done found.reverse
    if ← isAt .openBrace then
      return .again ((← spreadAttribute self context) :: found)
    else
      return .again ((← namedAttribute self context) :: found)

------------------------------------------------------------
-- Children
------------------------------------------------------------

/- The character ends text between tags. -/
def endsMarkupText (c : Char) : Bool :=
  c == '<' || c == '>' || c.toNat == 0x7B || c.toNat == 0x7D

/- Stand at a punctuator of one character. -/
def standAt
    (punct : Punct)
    (point : Point) : Reader Unit :=
  modify fun cursor =>
    { cursor with
      token := .punct punct
      span := .between point.offset (point.offset + 1)
      next := point.after 1
      afterLineEnd := false
      lastStop := point.offset }

/-
  The text that follows the token at hand, if any.  The cursor
  moves to the bracket or brace that ends it.
-/
def markupText : Reader (Option (MarkupChild Construct)) := do
  let begin := (← get).next
  let (chars, next) := begin.spanWhile fun c => !endsMarkupText c
  match next.rest with
  | '<' :: _ => standAt .less next
  | c :: _ =>
      if c.toNat = 0x7B then
        standAt .openBrace next
      else
        throw
          ⟨.unexpectedToken,
            .between next.offset (next.offset + 1)⟩
  | [] =>
      throw
        ⟨.unmatchedTag, .between next.offset next.offset⟩
  if chars.isEmpty then
    return none
  else
    let span := Span.between begin.offset next.offset
    return some (.text (String.ofList chars) span)

/- Code between braces as a child.  The last brace stays at hand. -/
def containerChild
    (self : Grammar)
    (context : Context) : Reader (MarkupChild Construct) := do
  let start ← here
  expect .openBrace
  let isSpread ← eat .ellipsis
  if (← isAt .closeBrace) && !isSpread then
    return .empty (.between start (← get).span.stop)
  let code ← embeddedCode self context
  unless ← isAt .closeBrace do
    unexpected
  let span := Span.between start (← get).span.stop
  return if isSpread then .spread span else .code code span

/-
  The children of an element, from the end of its opening tag
  to the slash of its closing tag.
-/
def markupChildren
    (self : Grammar)
    (context : Context) :
    Reader (List (MarkupChild Construct)) :=
  repeatFrom [] fun found => do
    let found := (← markupText).toList ++ found
    if ← isAt .openBrace then
      return .again ((← containerChild self context) :: found)
    let isClosing ← isAhead do
      advance
      isAt .slash
    if isClosing then
      advance
      return .done found.reverse
    else
      let element ← elementOf (← self (.markup context))
      return .again (.markup element :: found)

------------------------------------------------------------
-- Elements
------------------------------------------------------------

/- The last angle bracket of a tag is at hand. -/
def endTag : Reader Unit := do
  unless ← isAt .greater do
    unexpected

/- An element or a fragment, up to its last angle bracket. -/
def markup
    (self : Grammar)
    (context : Context) : Reader Phrase := do
  let start ← here
  let finish
      (element : Span → Markup Construct) : Reader Phrase := do
    endTag
    let span := Span.between start (← get).span.stop
    return ⟨span, .markup (element span)⟩
  expect .less
  if ← isAt .greater then
    let children ← markupChildren self context
    advance
    finish fun span => .mk span .fragment [] (some children)
  else
    let tag ← tagName
    if ← isAt .less then
      typeArguments self context
    let attributes ← markupAttributes self context
    if ← eat .slash then
      finish fun span => .mk span tag attributes none
    else
      endTag
      let children ← markupChildren self context
      advance
      unless (← tagName) = tag do
        refuse .unmatchedTag
      finish fun span => .mk span tag attributes (some children)

end MarkupLowering.Script
