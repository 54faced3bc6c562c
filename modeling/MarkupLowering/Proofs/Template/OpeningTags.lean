import MarkupLowering.Proofs.Template.TagNames

/-
  This file shows that an opening tag can be read in one way
  only: templates that are the same come from elements with
  the same name and the same attributes, as far as these are
  rendered.

  A name ends at the first blank or sign of markup.  Behind it
  an attribute begins with a space, and the symbols up to its
  last quote say all there is to know of it, whatever follows.
  No attribute begins the way an opening tag ends.

  Key definitions include:
    * `RenderedAttribute`
    * `Element.rendered`
    * `isAttributeName`
    * `readAttribute`

  Key theorems include:
    * `flatMap_symbols_eq`
    * `RenderedAttribute.readAttribute_symbols`
    * `readAttribute_tagEnd`
    * `rendered_injective`
    * `Element.lower_tells_opening_tags`
-/

namespace MarkupLowering

variable {T : Type}

------------------------------------------------------------
-- Rendered Attributes
------------------------------------------------------------

/-
  An attribute as a tag shows it: with a text between quotes,
  with a token between quotes, or as a token alone.
-/
inductive RenderedAttribute (T : Type) where
  | text (name value : String)
  | slot (name : String) (token : T)
  | spread (argument : T)
deriving DecidableEq, Repr

/- What is rendered for an attribute with a name, if anything. -/
def NamedAttribute.rendered?
    (attr : NamedAttribute T) : Option (RenderedAttribute T) :=
  match attr.value with
  | .absent => none
  | .empty => none
  | .text value =>
      some (.text attr.name (TemplateParts.escapeValue value))
  | .expression token => some (.slot attr.name token)
  | .element token => some (.slot attr.name token)
  | .other _ => none

/- What is rendered for an attribute, if anything. -/
def Attribute.rendered?
    (config : Config T) :
    Attribute T → Option (RenderedAttribute T)
  | .named attr => (config.transformAttribute attr).rendered?
  | .spread argument _ => some (.spread argument)

/- The attributes that are rendered for an element, in order. -/
def Element.rendered
    (config : Config T)
    (element : Element T) : List (RenderedAttribute T) :=
  element.attributes.filterMap (Attribute.rendered? config)

/- A rendered attribute as it stands in an opening tag. -/
def RenderedAttribute.symbols :
    RenderedAttribute T → List (Symbol T)
  | text name value =>
      .char ' ' ::
        (textSymbols name ++
          .char '=' :: .char '"' ::
            (textSymbols value ++ [.char '"']))
  | slot name token =>
      .char ' ' ::
        (textSymbols name ++
          [.char '=', .char '"', .token token, .char '"'])
  | spread argument => [.char ' ', .token argument]

/- Only what is rendered of an attribute is written. -/
theorem Attribute.symbols_eq
    (config : Config T)
    (attr : Attribute T) :
    attr.symbols config =
      (attr.rendered? config).elim []
        RenderedAttribute.symbols := by
  cases attr with
  | spread argument span => rfl
  | named attr =>
      simp only [Attribute.symbols, Attribute.rendered?,
        NamedAttribute.symbols, NamedAttribute.rendered?]
      cases (config.transformAttribute attr).value with
      | absent => rfl
      | empty => rfl
      | other kind => rfl
      | text value =>
          simp [RenderedAttribute.symbols, ← textSymbols_escapeValue,
            textSymbols, charSymbols]
      | expression token =>
          simp [RenderedAttribute.symbols, textSymbols,
            charSymbols]
      | element token =>
          simp [RenderedAttribute.symbols, textSymbols,
            charSymbols]

theorem flatMap_symbols_eq
    (config : Config T)
    (attributes : List (Attribute T)) :
    attributes.flatMap (Attribute.symbols config) =
      (attributes.filterMap
        (Attribute.rendered? config)).flatMap
          RenderedAttribute.symbols := by
  induction attributes with
  | nil => rfl
  | cons attr rest ih =>
      rw [List.flatMap_cons, ih, Attribute.symbols_eq,
        List.filterMap_cons]
      cases attr.rendered? config with
      | none => rfl
      | some rendered => rw [List.flatMap_cons]; rfl

------------------------------------------------------------
-- Names and Values
------------------------------------------------------------

/-
  The text can be told from what follows it in a tag: it is
  not empty and has no blank, equality sign, quote, end of a
  tag or slash.
-/
def isAttributeName (name : String) : Bool :=
  !name.toList.isEmpty &&
    name.toList.all fun c =>
      !(Text.isWhite c || ['=', '"', '>', '/'].contains c)

/- The attribute can be read back: its name and its value end. -/
def RenderedAttribute.isReadable :
    RenderedAttribute T → Bool
  | text name value =>
      isAttributeName name && !value.toList.contains '"'
  | slot name _ => isAttributeName name
  | spread _ => true

theorem isAttributeName_chars
    {name : String}
    (hName : isAttributeName name = true) :
    '=' ∉ name.toList ∧
      ∃ c rest, name.toList = c :: rest ∧ c ≠ '/' := by
  rw [isAttributeName, Bool.and_eq_true, List.all_eq_true]
    at hName
  rcases hName with ⟨hSome, hChars⟩
  constructor
  · intro hMem
    have hEquals := hChars '=' hMem
    simp at hEquals
  · cases hList : name.toList with
    | nil => simp [hList] at hSome
    | cons c rest =>
        refine ⟨c, rest, rfl, ?_⟩
        intro hSlash
        have hFirst := hChars c (by simp [hList])
        simp [hSlash] at hFirst

/- A quote does not stand in a value that is written. -/
theorem quote_not_mem_escapeValue
    (value : String) :
    '"' ∉ (TemplateParts.escapeValue value).toList := by
  rw [TemplateParts.escapeValue, String.toList_ofList]
  intro hMem
  rcases List.mem_flatMap.mp hMem with ⟨c, _, hChar⟩
  by_cases hQuote : c = '"'
  · rw [if_pos hQuote] at hChar
    revert hChar
    decide
  · rw [if_neg hQuote, List.mem_singleton] at hChar
    exact hQuote hChar.symm

/- What is rendered under readable names can be read back. -/
theorem Attribute.isReadable_rendered
    {config : Config T}
    {attr : Attribute T}
    {rendered : RenderedAttribute T}
    (hNames :
      ∀ named,
        attr = .named named →
          isAttributeName
            (config.transformAttribute named).name = true)
    (hRendered : attr.rendered? config = some rendered) :
    rendered.isReadable = true := by
  cases attr with
  | spread argument span =>
      cases hRendered
      rfl
  | named attr =>
      have hName := hNames attr rfl
      simp only [Attribute.rendered?, NamedAttribute.rendered?]
        at hRendered
      cases hValue : (config.transformAttribute attr).value with
      | absent => simp [hValue] at hRendered
      | empty => simp [hValue] at hRendered
      | other kind => simp [hValue] at hRendered
      | text value =>
          simp only [hValue, Option.some.injEq] at hRendered
          rw [← hRendered, RenderedAttribute.isReadable, hName]
          simpa using quote_not_mem_escapeValue value
      | expression token =>
          simp only [hValue, Option.some.injEq] at hRendered
          rw [← hRendered]
          exact hName
      | element token =>
          simp only [hValue, Option.some.injEq] at hRendered
          rw [← hRendered]
          exact hName

------------------------------------------------------------
-- Reading
------------------------------------------------------------

/- The characters up to a stop or a token, and what follows. -/
def readUntil
    (stops : Char → Bool) :
    List (Symbol T) → List Char × List (Symbol T)
  | [] => ([], [])
  | .token token :: rest => ([], .token token :: rest)
  | .char c :: rest =>
      if stops c then
        ([], .char c :: rest)
      else
        (c :: (readUntil stops rest).1, (readUntil stops rest).2)

/- The symbols behind a character that is expected. -/
def dropChar
    (c : Char) : List (Symbol T) → Option (List (Symbol T))
  | .char d :: rest => if d = c then some rest else none
  | _ => none

/- The token at the front, and the symbols behind it. -/
def takeToken :
    List (Symbol T) → Option (T × List (Symbol T))
  | .token token :: rest => some (token, rest)
  | _ => none

/- The value between quotes of an attribute with a name. -/
def readValue
    (name : String)
    (symbols : List (Symbol T)) :
    Option (RenderedAttribute T × List (Symbol T)) :=
  match takeToken symbols with
  | some (token, rest) =>
      (dropChar '"' rest).map fun rest =>
        (.slot name token, rest)
  | none =>
      (dropChar '"' (readUntil (· == '"') symbols).2).map
        fun rest =>
          (.text name
            (String.ofList (readUntil (· == '"') symbols).1),
            rest)

/-
  The attribute at the front, and the symbols behind it.  A
  name does not begin with a slash, which ends a tag.
-/
def readAttribute
    (symbols : List (Symbol T)) :
    Option (RenderedAttribute T × List (Symbol T)) := do
  let symbols ← dropChar ' ' symbols
  match takeToken symbols with
  | some (argument, rest) => return (.spread argument, rest)
  | none =>
      let (name, rest) := readUntil (· == '=') symbols
      if name.head? = some '/' then
        none
      else
        let rest ← dropChar '=' rest
        let rest ← dropChar '"' rest
        readValue (String.ofList name) rest

@[simp] theorem dropChar_self
    (c : Char)
    (rest : List (Symbol T)) :
    dropChar c (.char c :: rest) = some rest := by
  simp [dropChar]

@[simp] theorem takeToken_token
    (token : T)
    (rest : List (Symbol T)) :
    takeToken (.token token :: rest) = some (token, rest) := rfl

@[simp] theorem takeToken_char
    (c : Char)
    (rest : List (Symbol T)) :
    takeToken (.char c :: rest) = none := rfl

/- Characters without a stop are read up to the next stop. -/
theorem readUntil_charSymbols
    {stops : Char → Bool}
    {chars : List Char}
    (hChars : ∀ c ∈ chars, stops c = false)
    {stop : Char}
    (hStop : stops stop = true)
    (rest : List (Symbol T)) :
    readUntil stops (charSymbols chars ++ .char stop :: rest) =
      (chars, .char stop :: rest) := by
  induction chars with
  | nil => simp [charSymbols, readUntil, hStop]
  | cons c chars ih =>
      rcases List.forall_mem_cons.mp hChars with ⟨hFirst, hRest⟩
      have hRead := ih hRest
      rw [charSymbols] at hRead
      simp [charSymbols, readUntil, hFirst, hRead]

/- What has no stop in it is read up to the stop behind it. -/
theorem readUntil_stop
    {stop : Char}
    {chars : List Char}
    (hNone : stop ∉ chars)
    (rest : List (Symbol T)) :
    readUntil (· == stop)
        (charSymbols chars ++ .char stop :: rest) =
      (chars, .char stop :: rest) := by
  apply readUntil_charSymbols
  · intro c hMem
    rw [beq_eq_false_iff_ne]
    intro hStop
    rw [hStop] at hMem
    exact hNone hMem
  · exact beq_self_eq_true stop

/- A text without a quote is read up to the quote behind it. -/
theorem readValue_text
    (name : String)
    {value : String}
    (hValue : '"' ∉ value.toList)
    (rest : List (Symbol T)) :
    readValue name
        (textSymbols value ++ .char '"' :: rest) =
      some (.text name value, rest) := by
  have hNoToken :
      takeToken (textSymbols value ++ .char '"' :: rest) =
        none := by
    unfold textSymbols
    cases value.toList with
    | nil => rfl
    | cons c chars => rfl
  have hRead := readUntil_stop hValue rest
  rw [readValue, hNoToken]
  simp only [textSymbols, hRead, dropChar_self, Option.map_some,
    String.ofList_toList]

theorem readValue_token
    (name : String)
    (token : T)
    (rest : List (Symbol T)) :
    readValue name (.token token :: .char '"' :: rest) =
      some (.slot name token, rest) := by
  simp [readValue]

/- Behind a name its value is read. -/
theorem readAttribute_name
    {name : String}
    (hName : isAttributeName name = true)
    (rest : List (Symbol T)) :
    readAttribute
        (.char ' ' ::
          (textSymbols name ++ .char '=' :: .char '"' :: rest)) =
      readValue name rest := by
  rcases isAttributeName_chars hName with
    ⟨hEquals, first, others, hList, hSlash⟩
  have hRead := readUntil_stop hEquals (.char '"' :: rest)
  have hNoToken :
      takeToken
          (charSymbols name.toList ++
            .char '=' :: .char '"' :: rest) =
        none := by
    rw [hList]
    rfl
  have hHead : name.toList.head? ≠ some '/' := by
    rw [hList]
    simpa using hSlash
  simp only [readAttribute, textSymbols, dropChar_self,
    Option.bind_eq_bind, Option.bind_some, hNoToken, hRead,
    if_neg hHead, String.ofList_toList]

/- An attribute is read back, whatever follows it. -/
theorem RenderedAttribute.readAttribute_symbols
    {attr : RenderedAttribute T}
    (hReadable : attr.isReadable = true)
    (rest : List (Symbol T)) :
    readAttribute (attr.symbols ++ rest) = some (attr, rest) := by
  cases attr with
  | spread argument => rfl
  | slot name token =>
      have hRead :=
        readAttribute_name hReadable
          (.token token :: .char '"' :: rest)
      rw [readValue_token] at hRead
      simpa [symbols] using hRead
  | text name value =>
      rw [isReadable, Bool.and_eq_true, Bool.not_eq_true']
        at hReadable
      rcases hReadable with ⟨hName, hQuote⟩
      have hValue : '"' ∉ value.toList := by
        simpa using hQuote
      have hRead :=
        readAttribute_name hName
          (textSymbols value ++ .char '"' :: rest)
      rw [readValue_text name hValue] at hRead
      simpa [symbols] using hRead

------------------------------------------------------------
-- Ends of Tags
------------------------------------------------------------

/- The two ways in which an opening tag ends. -/
inductive TagEnd : List (Symbol T) → Prop where
  | bracket (rest : List (Symbol T)) :
      TagEnd (.char '>' :: rest)
  | slash (rest : List (Symbol T)) :
      TagEnd (.char ' ' :: .char '/' :: .char '>' :: rest)

/- No attribute begins as a tag ends. -/
theorem readAttribute_tagEnd
    {symbols : List (Symbol T)}
    (hEnd : TagEnd symbols) :
    readAttribute symbols = none := by
  cases hEnd with
  | bracket rest => rfl
  | slash rest => simp [readAttribute, readUntil]

/- Of several attributes the first one is read. -/
theorem readAttribute_cons
    {attr : RenderedAttribute T}
    {attributes : List (RenderedAttribute T)}
    (hReadable :
      ∀ other ∈ attr :: attributes, other.isReadable = true)
    (rest : List (Symbol T)) :
    readAttribute
        ((attr :: attributes).flatMap RenderedAttribute.symbols ++
          rest) =
      some
        (attr,
          attributes.flatMap RenderedAttribute.symbols ++
            rest) := by
  rw [List.flatMap_cons, List.append_assoc]
  exact
    RenderedAttribute.readAttribute_symbols
      (hReadable attr List.mem_cons_self) _

/-
  Attributes in front of the end of a tag can be told from the
  symbols.  The first one is read back and leaves the others.
-/
theorem rendered_injective
    {first second : List (RenderedAttribute T)}
    (hFirst : ∀ attr ∈ first, attr.isReadable = true)
    (hSecond : ∀ attr ∈ second, attr.isReadable = true)
    {rest others : List (Symbol T)}
    (hRest : TagEnd rest)
    (hOthers : TagEnd others)
    (hEq :
      first.flatMap RenderedAttribute.symbols ++ rest =
        second.flatMap RenderedAttribute.symbols ++ others) :
    first = second := by
  have hRead := congrArg readAttribute hEq
  induction first generalizing second with
  | nil =>
      cases second with
      | nil => rfl
      | cons other second =>
          rw [readAttribute_cons hSecond, List.flatMap_nil,
            List.nil_append, readAttribute_tagEnd hRest] at hRead
          cases hRead
  | cons attr first ih =>
      cases second with
      | nil =>
          rw [readAttribute_cons hFirst, List.flatMap_nil,
            List.nil_append, readAttribute_tagEnd hOthers]
            at hRead
          cases hRead
      | cons other second =>
          rw [readAttribute_cons hFirst,
            readAttribute_cons hSecond] at hRead
          simp only [Option.some.injEq, Prod.mk.injEq] at hRead
          rcases hRead with ⟨hAttr, hLater⟩
          have hSame :=
            ih (List.forall_mem_cons.mp hFirst).2
              (List.forall_mem_cons.mp hSecond).2 hLater
              (congrArg readAttribute hLater)
          rw [hAttr, hSame]

------------------------------------------------------------
-- Elements
------------------------------------------------------------

/- A name ends where a blank or a sign of markup begins. -/
theorem names_injective
    {first second : List Char}
    (hFirst : ∀ c ∈ first, isMarkupBreak c = false)
    (hSecond : ∀ c ∈ second, isMarkupBreak c = false)
    {stop other : Char}
    (hStop : isMarkupBreak stop = true)
    (hOther : isMarkupBreak other = true)
    {rest others : List (Symbol T)}
    (hEq :
      charSymbols first ++ .char stop :: rest =
        charSymbols second ++ .char other :: others) :
    first = second ∧
      Symbol.char stop :: rest = .char other :: others := by
  have hRead := congrArg (readUntil isMarkupBreak) hEq
  rw [readUntil_charSymbols hFirst hStop,
    readUntil_charSymbols hSecond hOther] at hRead
  exact Prod.mk.inj hRead

/- Behind the attributes there is the end of a tag. -/
theorem tagEnd_cases
    {symbols : List (Symbol T)}
    (attributes : List (RenderedAttribute T))
    (hEnd : TagEnd symbols) :
    ∃ stop rest,
      attributes.flatMap RenderedAttribute.symbols ++ symbols =
          .char stop :: rest ∧
        isMarkupBreak stop = true := by
  have hSpace : isMarkupBreak ' ' = true := by decide
  have hBracket : isMarkupBreak '>' = true := by decide
  cases attributes with
  | nil =>
      cases hEnd with
      | bracket rest => exact ⟨'>', rest, rfl, hBracket⟩
      | slash rest => exact ⟨' ', _, rfl, hSpace⟩
  | cons attr attributes =>
      cases attr with
      | text name value => exact ⟨' ', _, rfl, hSpace⟩
      | slot name token => exact ⟨' ', _, rfl, hSpace⟩
      | spread argument => exact ⟨' ', _, rfl, hSpace⟩

namespace Element

/- An element that is no fragment, cut around its attributes. -/
theorem symbols_cut
    (config : Config T)
    {element : Element T}
    (hTag : element.tag ≠ .fragment) :
    ∃ rest,
      TagEnd rest ∧
        element.symbols config =
          .char '<' ::
            (charSymbols element.tag.text.toList ++
              ((element.rendered config).flatMap
                  RenderedAttribute.symbols ++
                rest)) := by
  unfold symbols openingSymbols rendered
  rw [if_neg hTag, flatMap_symbols_eq, textSymbols_append]
  by_cases hAlone :
      element.children = [] ∧ element.hasClosingTag = false
  · refine
      ⟨_, .slash
        (element.children.flatMap Child.symbols ++
          element.closingSymbols), ?_⟩
    rw [if_pos hAlone]
    simp [textSymbols, charSymbols]
  · refine
      ⟨_, .bracket
        (element.children.flatMap Child.symbols ++
          element.closingSymbols), ?_⟩
    rw [if_neg hAlone]
    simp [textSymbols, charSymbols]

/- Under readable names all that is rendered is readable. -/
theorem rendered_isReadable
    {config : Config T}
    {element : Element T}
    (hNames :
      ∀ attr,
        .named attr ∈ element.attributes →
          isAttributeName (config.transformAttribute attr).name =
            true) :
    ∀ attr ∈ element.rendered config,
      attr.isReadable = true := by
  intro rendered hMem
  rcases List.mem_filterMap.mp hMem with
    ⟨attr, hAttr, hRendered⟩
  apply Attribute.isReadable_rendered _ hRendered
  intro named hNamed
  rw [hNamed] at hAttr
  exact hNames named hAttr

/-
  Two elements with names that become the same template have
  the same name and the same rendered attributes, in order and
  with duplicates, whatever their children are.  The texts of
  values cannot be taken for the end of a value, since their
  quotes are replaced.
-/
theorem lower_tells_opening_tags
    (config config' : Config T)
    (first second : Element T)
    (scope scope' : Scope)
    (call call' : TemplateCall T)
    (hTag : first.tag ≠ .fragment)
    (hTag' : second.tag ≠ .fragment)
    (hNames :
      ∀ attr,
        .named attr ∈ first.attributes →
          isAttributeName (config.transformAttribute attr).name =
            true)
    (hNames' :
      ∀ attr,
        .named attr ∈ second.attributes →
          isAttributeName
            (config'.transformAttribute attr).name = true)
    (hLower : first.lower config scope = .ok (.template call))
    (hLower' :
      second.lower config' scope' = .ok (.template call'))
    (hStatics : call.form.statics = call'.form.statics)
    (hDynamics : call.form.dynamics = call'.form.dynamics) :
    first.tag = second.tag ∧
      first.rendered config = second.rendered config' := by
  have hFlaw := flaw?_of_lower hLower
  have hFlaw' := flaw?_of_lower hLower'
  have hSymbols :
      first.symbols config = second.symbols config' := by
    rw [← (lower_template hLower).2,
      ← (lower_template hLower').2, hStatics, hDynamics]
  rcases symbols_cut config hTag with ⟨rest, hEnd, hCut⟩
  rcases symbols_cut config' hTag' with ⟨rest', hEnd', hCut'⟩
  rw [hCut, hCut', List.cons.injEq] at hSymbols
  have hRead := hSymbols.2
  rcases tagEnd_cases (first.rendered config) hEnd with
    ⟨stop, behind, hBehind, hStop⟩
  rcases tagEnd_cases (second.rendered config') hEnd' with
    ⟨stop', behind', hBehind', hStop'⟩
  rw [hBehind, hBehind'] at hRead
  rcases names_injective (TagName.text_unbroken hFlaw)
      (TagName.text_unbroken hFlaw') hStop hStop' hRead with
    ⟨hText, hSame⟩
  rw [← hBehind, ← hBehind'] at hSame
  constructor
  · exact
      TagName.text_injective hFlaw hFlaw'
        (String.toList_inj.mp hText)
  · exact
      rendered_injective (rendered_isReadable hNames)
        (rendered_isReadable hNames') hEnd hEnd' hSame

/-
  Another element with the template of `mixed`: it has no
  closing tag, but a text that looks like one.
-/
def twin : Element Nat where
  tag := .identifier "p"
  attributes :=
    [.named ⟨"a", .text "x&quot;y", ⟨0, 1⟩⟩,
      .named ⟨"c", .element 1, ⟨2, 3⟩⟩,
      .spread 2 ⟨3, 4⟩]
  children :=
    [.lowered 3 ⟨4, 5⟩, .lowered 4 ⟨5, 6⟩,
      .text "z</p>" ⟨6, 7⟩]
  hasClosingTag := false
  span := ⟨0, 9⟩

theorem lower_tells_opening_tags_twin :
    mixed.lower ⟨"rt", "T", "T", false, true, none, none⟩
          .unknown =
        twin.lower ⟨"rt", "T", "T", false, true, none, none⟩
          .unknown ∧
      mixed.tag = twin.tag ∧
      mixed.rendered
          ⟨"rt", "T", "T", false, true, none, none⟩ =
        twin.rendered
          ⟨"rt", "T", "T", false, true, none, none⟩ := by
  have hLower :
      mixed.lower ⟨"rt", "T", "T", false, true, none, none⟩
          .unknown =
        .ok (.template ⟨"T", true,
          ⟨["<p a=\"x&quot;y\" c=\"", "\" ", ">", "", "z</p>"],
            [1, 2, 3, 4], []⟩⟩) := rfl
  have hLower' :
      twin.lower ⟨"rt", "T", "T", false, true, none, none⟩
          .unknown =
        .ok (.template ⟨"T", true,
          ⟨["<p a=\"x&quot;y\" c=\"", "\" ", ">", "", "z</p>"],
            [1, 2, 3, 4], []⟩⟩) := rfl
  refine ⟨hLower.trans hLower'.symm, ?_⟩
  apply
    lower_tells_opening_tags _ _ mixed twin .unknown .unknown _ _
      (by decide) (by decide) _ _ hLower hLower' rfl rfl
  · intro attr hMem
    simp only [mixed, List.mem_cons, List.not_mem_nil,
      Attribute.named.injEq, reduceCtorEq, or_false] at hMem
    rcases hMem with rfl | rfl | rfl
    all_goals decide +kernel
  · intro attr hMem
    simp only [twin, List.mem_cons, List.not_mem_nil,
      Attribute.named.injEq, reduceCtorEq, or_false] at hMem
    rcases hMem with rfl | rfl
    all_goals decide +kernel

end Element

end MarkupLowering
