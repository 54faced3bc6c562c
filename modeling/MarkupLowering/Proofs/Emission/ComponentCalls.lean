import MarkupLowering.Proofs.Emission.TemplateCalls
import MarkupLowering.Proofs.Template.TagNames

/-
  This file shows that the use of a component can be read back
  from its text: how it is used, its name, and its properties
  in order, each with its key and the text of its value.

  A key is written bare or between quotes, and its colon is
  the first one behind it, so a colon in a key or in a value is
  no structure.  The text is again one token of code.

  Key definitions include:
    * `WrittenProperty`
    * `WrittenCall`
    * `Property.written`
    * `Emission.readProperty`
    * `Emission.readObject`
    * `Emission.readComponentCall`

  Key theorems include:
    * `Emission.readKey_propertyKey`
    * `Emission.readProperty_property`
    * `Emission.property_delimited`
    * `Emission.readObject_propsObject`
    * `Emission.through_propsObject`
    * `Emission.componentCall_reads_back`
-/

namespace MarkupLowering

------------------------------------------------------------
-- Properties as They Are Written
------------------------------------------------------------

/-
  A property as its text shows it: the key, which stands bare
  or between quotes, and the text of its value.
-/
inductive WrittenProperty where
  | entry (isBare : Bool) (key value : String)
  | spread (argument : String)
deriving DecidableEq, Repr

/- The use of a component as its text shows it. -/
structure WrittenCall where
  style : ComponentStyle
  tag : String
  props : List WrittenProperty
deriving DecidableEq, Repr

/- What is to be seen of a property in its text. -/
def Property.written : Property String → WrittenProperty
  | .entry key (.text value) =>
      .entry (isWord key) key (Text.Quoted.literal value)
  | .entry key .null => .entry (isWord key) key "null"
  | .entry key (.expression token) =>
      .entry (isWord key) key token
  | .spread argument => .spread argument

/- What is to be seen of the use of a component in its text. -/
def ComponentCall.written
    (call : ComponentCall String) : WrittenCall where
  style := call.style
  tag := call.tag
  props := call.props.map Property.written

/- The token that a property carries. -/
def Property.token?
    {T : Type} :
    Property T → Option T
  | .entry _ (.expression token) => some token
  | .entry _ _ => none
  | .spread argument => some argument

namespace Emission

------------------------------------------------------------
-- Reading
------------------------------------------------------------

/- The characters behind the dots of a spread. -/
def dropDots : List Char → Option (List Char)
  | '.' :: '.' :: '.' :: argument => some argument
  | _ => none

/- The characters behind the colon of an entry. -/
def dropColon : List Char → Option (List Char)
  | ':' :: ' ' :: value => some value
  | _ => none

/-
  The key at the front, whether it stands bare, and what
  follows it.
-/
def readKey
    (cs : List Char) : Option (Bool × List Char × List Char) :=
  if cs.head? = some '"' then
    (Text.Quoted.read cs).map fun parts => (false, parts)
  else
    some
      (true, cs.takeWhile (· != ':'), cs.dropWhile (· != ':'))

/- The property of a text. -/
def readProperty
    (cs : List Char) : Option WrittenProperty :=
  match dropDots cs with
  | some argument => some (.spread (String.ofList argument))
  | none => do
      let (isBare, key, rest) ← readKey cs
      let value ← dropColon rest
      return .entry isBare (String.ofList key)
        (String.ofList value)

/-
  The properties of an object.  They stand between spaces and
  are separated by the commas in no further bracket.
-/
def readObject
    (cs : List Char) : Option (List WrittenProperty) := do
  let inside ← Text.unwrap '\x7b' '\x7d' cs
  if inside.isEmpty then
    return []
  else
    let items ← Text.readItems (← Text.unwrap ' ' ' ' inside)
    items.mapM readProperty

/- The call of the method that renders an instance. -/
def renderChars : List Char :=
  ['.', 'r', 'e', 'n', 'd', 'e', 'r', '(', ')']

/- How a component is used, by what stands around its call. -/
def readStyle
    (construct : Bool)
    (behind : List Char) : Option ComponentStyle :=
  if construct = false ∧ behind = [] then
    some .invoke
  else if construct = true ∧ behind = renderChars then
    some .constructAndRender
  else
    none

/-
  The use of a component.  The name stands before the first
  bracket, and its properties between this bracket and the one
  that closes it.
-/
def readComponentCall (text : String) : Option WrittenCall := do
  let cs := text.toList
  let head := readHead (cs.takeWhile (· != '('))
  let (arguments, behind) ←
    Text.readGroup '(' ')' (cs.dropWhile (· != '('))
  let style ← readStyle head.1 behind
  let props ← readObject arguments
  return ⟨style, head.2, props⟩

------------------------------------------------------------
-- Keys
------------------------------------------------------------

/- The characters with a meaning in front of a value. -/
def keySigns : List Char :=
  ['.', '"', ':']

theorem keySigns_all :
    keySigns.all (fun c => !isWordPart c) = true := by
  decide +kernel

/- A word has no character with a meaning for a key. -/
theorem isWord_not_mem
    {text : String}
    (hWord : isWord text = true)
    {c : Char}
    (hChar : c ∈ keySigns) :
    c ∉ text.toList := by
  intro hMem
  have hNone := List.all_eq_true.mp keySigns_all c hChar
  rw [(isWord_parts hWord).2 c hMem] at hNone
  cases hNone

/- A word of code is an identifier. -/
theorem isIdentifier_of_isWord
    {text : String}
    (hWord : isWord text = true) :
    isIdentifier text = true := by
  unfold isWord at hWord
  unfold isIdentifier
  cases hChars : text.toList with
  | nil =>
      rw [hChars] at hWord
      cases hWord
  | cons first rest =>
      rw [hChars, isWordChars, Bool.and_eq_true,
        List.all_eq_true] at hWord
      simp only [Bool.and_eq_true, List.all_eq_true]
      refine ⟨?_, ?_⟩
      · rw [isIdentifierStart, hWord.1, Bool.true_or]
      · intro c hMem
        rw [isIdentifierPart, hWord.2 c hMem, Bool.true_or]

theorem isWord_head
    {text : String}
    (hWord : isWord text = true)
    {c : Char}
    (hChar : c ∈ keySigns)
    (rest : List Char) :
    (text.toList ++ rest).head? ≠ some c := by
  have hNot := isWord_not_mem hWord hChar
  intro hHead
  cases hChars : text.toList with
  | nil => exact (isWord_parts hWord).1 hChars
  | cons first others =>
      rw [hChars, List.cons_append, List.head?_cons,
        Option.some.injEq] at hHead
      rw [hChars, hHead] at hNot
      exact hNot List.mem_cons_self

/- A key is read up to the first colon behind it. -/
theorem readKey_propertyKey
    (key : String)
    (rest : List Char) :
    readKey ((propertyKey key).toList ++ ':' :: rest) =
      some (isWord key, key.toList, ':' :: rest) := by
  by_cases hWord : isWord key = true
  · have hQuote :
        (key.toList ++ ':' :: rest).head? ≠ some '"' :=
      isWord_head hWord (by decide) (':' :: rest)
    have hColon :
        ∀ c ∈ key.toList, (c != ':') = true := by
      intro c hMem
      rw [bne_iff_ne]
      intro hEq
      rw [hEq] at hMem
      exact isWord_not_mem hWord (by decide) hMem
    rw [propertyKey, if_pos hWord, readKey, if_neg hQuote,
      List.takeWhile_append_of_pos hColon,
      List.dropWhile_append_of_pos hColon, hWord]
    simp
  · have hRead :=
      Text.Quoted.read_literalChars key.toList (':' :: rest)
    rw [propertyKey, if_neg hWord, readKey, Text.Quoted.literal,
      String.toList_ofList, hRead]
    rw [Bool.not_eq_true] at hWord
    rw [hWord]
    rfl

/- No key begins with a dot. -/
theorem dropDots_propertyKey
    (key : String)
    (rest : List Char) :
    dropDots ((propertyKey key).toList ++ rest) = none := by
  have hHead :
      ((propertyKey key).toList ++ rest).head? ≠ some '.' := by
    by_cases hWord : isWord key = true
    · rw [propertyKey, if_pos hWord]
      exact isWord_head hWord (by decide) rest
    · rw [propertyKey, if_neg hWord, Text.Quoted.literal,
        String.toList_ofList]
      exact (by decide : some '"' ≠ some '.')
  unfold dropDots
  split
  · rename_i hChars
    rw [hChars] at hHead
    exact absurd rfl hHead
  · rfl

/- A key is whole, bare or between quotes. -/
theorem propertyKey_whole
    (key : String) :
    Text.Scan.outside.isWhole (propertyKey key).toList = true := by
  by_cases hWord : isWord key = true
  · have hPlain :=
      isIdentifier_plain (isIdentifier_of_isWord hWord)
    have hWhole := Text.Scan.isWhole_append_plain hPlain []
    rw [List.append_nil] at hWhole
    rw [propertyKey, if_pos hWord, hWhole]
    rfl
  · rw [propertyKey, if_neg hWord, Text.Quoted.literal,
      String.toList_ofList]
    exact Text.Scan.isWhole_literalChars key.toList

------------------------------------------------------------
-- Properties
------------------------------------------------------------

theorem entry_toList
    (key : String)
    (value : PropertyValue String) :
    (property (.entry key value)).toList =
      (propertyKey key).toList ++
        ':' :: ' ' :: (propertyValue value).toList := by
  simp [property]

theorem spread_toList
    (argument : String) :
    (property (.spread argument)).toList =
      '.' :: '.' :: '.' :: argument.toList := by
  simp [property]

/- A property is read as it is written. -/
theorem readProperty_property
    (prop : Property String) :
    readProperty (property prop).toList = some prop.written := by
  cases prop with
  | spread argument =>
      rw [spread_toList]
      simp [readProperty, dropDots, Property.written]
  | entry key value =>
      have hWritten :
          (Property.entry key value).written =
            .entry (isWord key) key (propertyValue value) := by
        cases value with
        | text value => rfl
        | null => rfl
        | expression token => rfl
      rw [entry_toList, readProperty, dropDots_propertyKey,
        hWritten]
      simp only [readKey_propertyKey, Option.bind_eq_bind,
        Option.bind_some, dropColon, Option.pure_def,
        String.ofList_toList]

/- The text of a value is a delimited token. -/
theorem propertyValue_delimited
    {key : String}
    {value : PropertyValue String}
    (hToken :
      ∀ token ∈ (Property.entry key value).token?,
        Text.isDelimited token = true) :
    Text.isDelimited (propertyValue value) = true := by
  cases value with
  | text value => exact literal_delimited value
  | null => decide
  | expression token => exact hToken token rfl

/- The text of a property is a delimited token. -/
theorem property_delimited
    {prop : Property String}
    (hToken :
      ∀ token ∈ prop.token?, Text.isDelimited token = true) :
    Text.isDelimitedChars (property prop).toList = true := by
  rw [Text.isDelimitedChars_iff]
  cases prop with
  | spread argument =>
      have hArgument := hToken argument rfl
      rw [Text.isDelimited, Text.isDelimitedChars_iff]
        at hArgument
      have hDots :
          ∀ c ∈ ['.', '.', '.'],
            Text.Scan.isPlain c = true :=
        List.all_eq_true.mp (by decide)
      rw [spread_toList]
      refine ⟨List.cons_ne_nil _ _, ?_⟩
      exact
        (Text.Scan.isWhole_append_plain hDots _).trans
          hArgument.2
  | entry key value =>
      have hValue := propertyValue_delimited hToken
      rw [Text.isDelimited, Text.isDelimitedChars_iff] at hValue
      have hColon :
          ∀ c ∈ [':', ' '], Text.Scan.isPlain c = true :=
        List.all_eq_true.mp (by decide)
      rw [entry_toList]
      constructor
      · simp
      · rw [Text.Scan.isWhole_append_of_isWhole
          (propertyKey_whole key)]
        exact
          (Text.Scan.isWhole_append_plain hColon _).trans
            hValue.2

------------------------------------------------------------
-- Objects
------------------------------------------------------------

/- The properties of an object, between commas. -/
def joinedChars (props : List (Property String)) : List Char :=
  [',', ' '].intercalate
    (props.map fun prop => (property prop).toList)

/- The characters between the brackets of an object. -/
def objectChars (props : List (Property String)) : List Char :=
  if props.isEmpty then
    []
  else
    ' ' :: (joinedChars props ++ [' '])

theorem propsObject_toList
    (props : List (Property String)) :
    (propsObject props).toList =
      '\x7b' :: (objectChars props ++ ['\x7d']) := by
  unfold propsObject objectChars joinedChars
  split
  · rfl
  · simp [String.toList_intercalate, Function.comp_def]

variable {props : List (Property String)}

theorem properties_delimited
    (hTokens :
      ∀ prop ∈ props,
        ∀ token ∈ prop.token?, Text.isDelimited token = true) :
    ∀ item ∈ props.map fun prop => (property prop).toList,
      Text.isDelimitedChars item = true := by
  intro item hMem
  rcases List.mem_map.mp hMem with ⟨prop, hProp, rfl⟩
  exact property_delimited (hTokens prop hProp)

theorem mapM_readProperty
    (props : List (Property String)) :
    (props.map fun prop => (property prop).toList).mapM
        readProperty =
      some (props.map Property.written) := by
  induction props with
  | nil => rfl
  | cons prop props ih =>
      rw [List.map_cons, List.mapM_cons, readProperty_property,
        ih]
      rfl

/- The properties of an object are read as they are written. -/
theorem readObject_propsObject
    (hTokens :
      ∀ prop ∈ props,
        ∀ token ∈ prop.token?, Text.isDelimited token = true) :
    readObject (propsObject props).toList =
      some (props.map Property.written) := by
  rw [readObject, propsObject_toList, Text.unwrap_bracketed]
  cases props with
  | nil => rfl
  | cons prop props =>
      have hItems :=
        Text.readItems_intercalate
          (properties_delimited hTokens)
      simp only [objectChars, joinedChars, Option.bind_eq_bind,
        Option.bind_some, List.isEmpty_cons, Bool.false_eq_true,
        if_false, Text.unwrap_bracketed, hItems,
        mapM_readProperty]

/- The inside of an object is scanned through. -/
theorem through_objectChars
    (hTokens :
      ∀ prop ∈ props,
        ∀ token ∈ prop.token?, Text.isDelimited token = true) :
    Text.Scan.outside.through (objectChars props) =
      some Text.Scan.outside := by
  have hWhole :
      ∀ item ∈ props.map fun prop => (property prop).toList,
        Text.Scan.outside.isWhole item = true := by
    intro item hMem
    have hItem := properties_delimited hTokens item hMem
    exact (Text.isDelimitedChars_iff.mp hItem).2
  have hJoined :
      Text.Scan.outside.through (joinedChars props) =
        some Text.Scan.outside :=
    Text.Scan.through_intercalate hWhole
  unfold objectChars
  split
  · rfl
  · calc
      Text.Scan.outside.through (' ' :: (joinedChars props ++ [' '])) =
          Text.Scan.outside.through (joinedChars props ++ [' ']) :=
        rfl
      _ = Text.Scan.outside.through [' '] :=
        Text.Scan.through_append hJoined [' ']
      _ = some Text.Scan.outside := rfl

/- An object is scanned through. -/
theorem through_propsObject
    (hTokens :
      ∀ prop ∈ props,
        ∀ token ∈ prop.token?, Text.isDelimited token = true) :
    Text.Scan.outside.through (propsObject props).toList =
      some Text.Scan.outside := by
  have hWhole :=
    Text.Scan.isWhole_bracketed
      (rfl : Text.closer? '\x7b' = some '\x7d')
      (through_objectChars hTokens)
  rw [propsObject_toList]
  exact Text.Scan.through_of_isWhole hWhole

------------------------------------------------------------
-- Calls
------------------------------------------------------------

/- A component that is constructed. -/
def constructs : ComponentStyle → Bool
  | .invoke => false
  | .constructAndRender => true

/- What stands behind the brackets of a call. -/
def behindChars : ComponentStyle → List Char
  | .invoke => []
  | .constructAndRender => renderChars

/- What stands in front of the brackets of a call. -/
def nameChars (call : ComponentCall String) : List Char :=
  (if constructs call.style then ['n', 'e', 'w', ' '] else []) ++
    call.tag.toList

theorem componentCall_toList
    (call : ComponentCall String) :
    (componentCall call).toList =
      nameChars call ++
        '(' ::
          ((propsObject call.props).toList ++
            ')' :: behindChars call.style) := by
  cases hStyle : call.style with
  | invoke =>
      simp [componentCall, nameChars, behindChars, constructs,
        hStyle]
  | constructAndRender =>
      simp [componentCall, nameChars, behindChars, constructs,
        renderChars, hStyle]

theorem readStyle_behindChars
    (style : ComponentStyle) :
    readStyle (constructs style) (behindChars style) =
      some style := by
  cases style with
  | invoke => simp [readStyle, constructs, behindChars]
  | constructAndRender =>
      simp [readStyle, constructs, behindChars]

variable {call : ComponentCall String}

/- A path of identifiers has plain characters and no space. -/
theorem isPath_plain
    {text : String}
    (hPath : IsPath isIdentifier text) :
    (∀ c ∈ text.toList, Text.Scan.isPlain c = true) ∧
      ' ' ∉ text.toList := by
  constructor
  · intro c hMem
    rcases hPath.mem_or hMem with hDot | ⟨segment, hName, hChar⟩
    · rw [hDot]
      decide
    · exact isIdentifier_plain hName c hChar
  · intro hMem
    rcases hPath.mem_or hMem with hDot | ⟨segment, hName, hChar⟩
    · revert hDot
      decide
    · exact isIdentifier_not_mem hName (by decide) hChar

/- The text of a call is read as the call. -/
theorem readComponentCall_componentCall
    (hTag : IsPath isIdentifier call.tag)
    (hTokens :
      ∀ prop ∈ call.props,
        ∀ token ∈ prop.token?, Text.isDelimited token = true) :
    readComponentCall (componentCall call) =
      some call.written := by
  rcases isPath_plain hTag with ⟨hPlain, hSpace⟩
  have hName :=
    plain_ne_bracket (head_plain (constructs call.style) hPlain)
  have hBracket : ('(' != '(') = false := by decide
  have hHead := readHead_append (constructs call.style) hSpace
  have hGroup :=
    Text.readGroup_bracketed
      (rfl : Text.closer? '(' = some ')')
      (through_propsObject hTokens) (behindChars call.style)
  simp only [readComponentCall, componentCall_toList, nameChars,
    List.takeWhile_append_of_pos hName,
    List.dropWhile_append_of_pos hName, List.takeWhile_cons,
    List.dropWhile_cons, hBracket, Bool.false_eq_true, if_false,
    List.append_nil, hHead, hGroup, readStyle_behindChars,
    readObject_propsObject hTokens, Option.bind_eq_bind,
    Option.bind_some]
  rfl

/- The text of a call is a delimited token. -/
theorem isDelimited_componentCall
    (hTag : IsPath isIdentifier call.tag)
    (hTokens :
      ∀ prop ∈ call.props,
        ∀ token ∈ prop.token?, Text.isDelimited token = true) :
    Text.isDelimited (componentCall call) = true := by
  have hBehind :
      Text.Scan.outside.isWhole (behindChars call.style) =
        true := by
    cases call.style with
    | invoke => rfl
    | constructAndRender => decide
  have hGroup :=
    Text.Scan.isWhole_bracketed
      (rfl : Text.closer? '(' = some ')')
      (through_propsObject hTokens)
  have hName :=
    head_plain (constructs call.style) (isPath_plain hTag).1
  rw [Text.isDelimited, componentCall_toList,
    Text.isDelimitedChars_iff]
  constructor
  · simp
  · have hAll :=
      Text.Scan.isWhole_append_of_isWhole hGroup
        (behindChars call.style)
    rw [nameChars, Text.Scan.isWhole_append_plain hName,
      ← hBehind, ← hAll]
    simp

/-
  The use of a component under a path of identifiers can be
  read back from its text: how it is used, its name, and its
  properties, in order and with duplicates.  Of a property the
  key and the text of its value are read back, or the argument
  of a spread.  The text is again a delimited token.
-/
theorem componentCall_reads_back
    (call : ComponentCall String)
    (hTag : IsPath isIdentifier call.tag)
    (hTokens :
      ∀ prop ∈ call.props,
        ∀ token ∈ prop.token?, Text.isDelimited token = true) :
    readComponentCall (componentCall call) =
        some call.written ∧
      Text.isDelimited (componentCall call) = true := by
  constructor
  · exact readComponentCall_componentCall hTag hTokens
  · exact isDelimited_componentCall hTag hTokens

/-
  A component with a key and a text that look like structure,
  a key that is used twice, and a spread.
-/
def menuCall : ComponentCall String where
  tag := "Ui.Menu"
  props :=
    [.entry "a: \"b\", " (.text "\\\" \x7d, c: "),
      .entry "on" (.expression "f(x, \x7b k: [y] \x7d)"),
      .entry "on" .null,
      .spread "rest[\", \"]"]
  style := .constructAndRender

theorem componentCall_reads_back_menu :
    IsPath isIdentifier menuCall.tag ∧
      componentCall menuCall =
        "new Ui.Menu(\x7b \"a: \\\"b\\\", \": "
          ++ "\"\\\\\\\" \x7d, c: \", "
          ++ "on: f(x, \x7b k: [y] \x7d), on: null, "
          ++ "...rest[\", \"] \x7d).render()" ∧
      readComponentCall (componentCall menuCall) =
        some
          ⟨.constructAndRender, "Ui.Menu",
            [.entry false "a: \"b\", "
                "\"\\\\\\\" \x7d, c: \"",
              .entry true "on" "f(x, \x7b k: [y] \x7d)",
              .entry true "on" "null",
              .spread "rest[\", \"]"]⟩ ∧
      Text.isDelimited (componentCall menuCall) = true := by
  have hTag : IsPath isIdentifier menuCall.tag := by
    refine ⟨["Ui", "Menu"], by decide, ?_, by decide⟩
    exact List.all_eq_true.mp (by decide +kernel)
  have hTokens :
      ∀ prop ∈ menuCall.props,
        ∀ token ∈ prop.token?, Text.isDelimited token = true := by
    have hAll :
        menuCall.props.all (fun prop =>
          prop.token?.all Text.isDelimited) = true := by
      decide +kernel
    intro prop hProp token hToken
    have hProperty := List.all_eq_true.mp hAll prop hProp
    rw [Option.mem_def.mp hToken] at hProperty
    exact hProperty
  have hWritten :
      menuCall.written =
        ⟨.constructAndRender, "Ui.Menu",
          [.entry false "a: \"b\", "
              "\"\\\\\\\" \x7d, c: \"",
            .entry true "on" "f(x, \x7b k: [y] \x7d)",
            .entry true "on" "null",
            .spread "rest[\", \"]"]⟩ := by
    decide +kernel
  rw [← hWritten]
  refine ⟨hTag, by decide +kernel, ?_⟩
  exact componentCall_reads_back menuCall hTag hTokens

end Emission

end MarkupLowering
