import MarkupLowering.Lowering
import MarkupLowering.Proofs.Template.Balance

/-
  This file shows that the template of an element is the
  element written out.

  The static texts and the dynamic tokens of a template, read
  in turn, make one sequence of symbols.  Each step of the
  accumulator adds to the end of this sequence, whatever the
  flag is.  So the sequence is the markup of the element, with
  a token where code stands, and since there is one static
  text more than there are tokens, it fixes the template.

  Key definitions include:
    * `Symbol`
    * `interleave`
    * `Attribute.symbols`
    * `Child.symbols`
    * `Element.symbols`

  Key theorems include:
    * `TemplateParts.Balanced.pushDynamic_stream`
    * `TemplateParts.Balanced.text_stream`
    * `interleave_injective`
    * `Element.lower_serialises`
-/

namespace MarkupLowering

------------------------------------------------------------
-- Symbols
------------------------------------------------------------

/- A character of markup or an opaque token in it. -/
inductive Symbol (T : Type) where
  | char (c : Char)
  | token (token : T)
deriving DecidableEq, Repr

variable {T : Type}

/- The symbols of characters. -/
def charSymbols (chars : List Char) : List (Symbol T) :=
  chars.map .char

/- The symbols of a text. -/
def textSymbols (text : String) : List (Symbol T) :=
  charSymbols text.toList

@[simp] theorem textSymbols_empty :
    (textSymbols "" : List (Symbol T)) = [] := rfl

@[simp] theorem textSymbols_append
    (first second : String) :
    (textSymbols (first ++ second) : List (Symbol T)) =
      textSymbols first ++ textSymbols second := by
  simp [textSymbols, charSymbols]

/- The static texts and the dynamic tokens, read in turn. -/
def interleave : List String → List T → List (Symbol T)
  | [], dynamics => dynamics.map .token
  | first :: statics, [] =>
      textSymbols first ++ interleave statics []
  | first :: statics, token :: dynamics =>
      textSymbols first ++ .token token :: interleave statics dynamics

------------------------------------------------------------
-- Reading Sequences
------------------------------------------------------------

theorem charSymbols_injective
    {first second : List Char}
    (hEq :
      (charSymbols first : List (Symbol T)) =
        charSymbols second) :
    first = second := by
  apply (List.map_inj_right _).mp hEq
  intro c d hChar
  exact Symbol.char.inj hChar

/- The text before the first token can be told from what follows. -/
theorem charSymbols_token_injective
    {first second : List Char}
    {token other : T}
    {rest others : List (Symbol T)}
    (hEq :
      charSymbols first ++ .token token :: rest =
        charSymbols second ++ .token other :: others) :
    first = second ∧ token = other ∧ rest = others := by
  induction first generalizing second with
  | nil =>
      cases second with
      | nil =>
          simp only [charSymbols, List.map_nil, List.nil_append,
            List.cons.injEq, Symbol.token.injEq] at hEq
          exact ⟨rfl, hEq⟩
      | cons d ds => simp [charSymbols] at hEq
  | cons c cs ih =>
      cases second with
      | nil => simp [charSymbols] at hEq
      | cons d ds =>
          simp only [charSymbols, List.map_cons,
            List.cons_append, List.cons.injEq,
            Symbol.char.injEq] at hEq
          rcases ih hEq.2 with ⟨hChars, hToken, hRest⟩
          exact ⟨by rw [hEq.1, hChars], hToken, hRest⟩

/- A text alone holds no token. -/
theorem charSymbols_ne_token
    {first second : List Char}
    {token : T}
    {rest : List (Symbol T)} :
    charSymbols first ≠
      charSymbols second ++ .token token :: rest := by
  intro hEq
  have hMember :
      Symbol.token token ∈
        (charSymbols first : List (Symbol T)) := by
    rw [hEq]
    simp
  simp [charSymbols] at hMember

/-
  A sequence of symbols comes from one list of texts and one
  list of tokens only, given that there is a text around each
  token.
-/
theorem interleave_injective
    {statics statics' : List String}
    {dynamics dynamics' : List T}
    (hCount : statics.length = dynamics.length + 1)
    (hCount' : statics'.length = dynamics'.length + 1)
    (hEq :
      interleave statics dynamics =
        interleave statics' dynamics') :
    statics = statics' ∧ dynamics = dynamics' := by
  induction dynamics generalizing statics statics' dynamics' with
  | nil =>
      rcases List.length_eq_one_iff.mp hCount with ⟨text, rfl⟩
      simp only [interleave, List.append_nil,
        List.map_nil] at hEq
      cases dynamics' with
      | nil =>
          rcases List.length_eq_one_iff.mp hCount' with
            ⟨text', rfl⟩
          simp only [interleave, List.append_nil,
            List.map_nil] at hEq
          have hText := charSymbols_injective hEq
          exact ⟨by rw [String.toList_inj.mp hText], rfl⟩
      | cons token' dynamics' =>
          cases statics' with
          | nil => simp at hCount'
          | cons text' statics' =>
              exact absurd hEq charSymbols_ne_token
  | cons token dynamics ih =>
      cases statics with
      | nil => simp at hCount
      | cons text statics =>
          cases dynamics' with
          | nil =>
              rcases List.length_eq_one_iff.mp hCount' with
                ⟨text', rfl⟩
              simp only [interleave, List.append_nil,
                List.map_nil] at hEq
              exact absurd hEq.symm charSymbols_ne_token
          | cons token' dynamics' =>
              cases statics' with
              | nil => simp at hCount'
              | cons text' statics' =>
                  simp only [interleave] at hEq
                  rcases charSymbols_token_injective hEq with
                    ⟨hText, hToken, hRest⟩
                  rcases ih (by simpa using hCount)
                      (by simpa using hCount') hRest with
                    ⟨hStatics, hDynamics⟩
                  rw [String.toList_inj.mp hText, hStatics,
                    hToken, hDynamics]
                  exact ⟨rfl, rfl⟩

------------------------------------------------------------
-- Growing Sequences
------------------------------------------------------------

/- Extending the last text adds it to the end. -/
theorem interleave_extendLast
    (more : String)
    (statics : List String)
    (dynamics : List T)
    (hCount : statics.length = dynamics.length + 1) :
    interleave (TemplateParts.extendLast more statics) dynamics =
      interleave statics dynamics ++ textSymbols more := by
  induction dynamics generalizing statics with
  | nil =>
      rcases List.length_eq_one_iff.mp hCount with
        ⟨first, hFirst⟩
      rw [hFirst]
      simp [TemplateParts.extendLast, interleave]
  | cons token dynamics ih =>
      cases statics with
      | nil => simp at hCount
      | cons first rest =>
          have hRest : rest.length = dynamics.length + 1 := by
            simpa using hCount
          cases rest with
          | nil => simp at hRest
          | cons second rest =>
              simp [TemplateParts.extendLast, interleave,
                ih (second :: rest) hRest]

/- A token after the last text comes at the end. -/
theorem interleave_token
    (token : T)
    (statics : List String)
    (dynamics : List T)
    (hCount : statics.length = dynamics.length + 1) :
    interleave statics (dynamics ++ [token]) =
      interleave statics dynamics ++ [.token token] := by
  induction dynamics generalizing statics with
  | nil =>
      rcases List.length_eq_one_iff.mp hCount with
        ⟨first, hFirst⟩
      rw [hFirst]
      simp [interleave]
  | cons other dynamics ih =>
      cases statics with
      | nil => simp at hCount
      | cons first statics =>
          have hRest :
              statics.length = dynamics.length + 1 := by
            simpa using hCount
          simp [interleave, ih statics hRest]

/- A text after the last token comes at the end. -/
theorem interleave_text
    (more : String)
    (statics : List String)
    (dynamics : List T)
    (hCount : statics.length = dynamics.length) :
    interleave (statics ++ [more]) dynamics =
      interleave statics dynamics ++ textSymbols more := by
  induction dynamics generalizing statics with
  | nil =>
      rw [List.length_eq_zero_iff.mp hCount]
      simp [interleave]
  | cons token dynamics ih =>
      cases statics with
      | nil => simp at hCount
      | cons first statics =>
          have hRest : statics.length = dynamics.length := by
            simpa using hCount
          simp [interleave, ih statics hRest]

namespace TemplateParts

/- The sequence that a template in the making stands for. -/
def stream (parts : TemplateParts T) : List (Symbol T) :=
  interleave parts.statics parts.dynamics

namespace Balanced

variable {parts : TemplateParts T}

theorem appendStatic_stream
    (hBalanced : parts.Balanced)
    (hDue : parts.endsDynamic = false)
    (text : String) :
    (parts.appendStatic text).stream =
      parts.stream ++ textSymbols text := by
  have hCount := hBalanced.count
  rw [hDue] at hCount
  have hOdd :
      parts.statics.length = parts.dynamics.length + 1 := by
    simpa using hCount
  exact interleave_extendLast text _ _ hOdd

theorem pushStatic_stream
    (hBalanced : parts.Balanced)
    (hDue : parts.endsDynamic = true)
    (text : String) :
    (parts.pushStatic text).stream =
      parts.stream ++ textSymbols text := by
  have hCount := hBalanced.count
  rw [hDue] at hCount
  have hEven :
      parts.statics.length = parts.dynamics.length := by
    simpa using hCount
  exact interleave_text text _ _ hEven

/- An empty text in front of a second token is not seen. -/
theorem pushDynamic_stream
    (hBalanced : parts.Balanced)
    (token : T) :
    (parts.pushDynamic token).stream =
      parts.stream ++ [.token token] := by
  have hCount := hBalanced.count
  cases hDue : parts.endsDynamic with
  | false =>
      rw [hDue] at hCount
      simp only [stream, TemplateParts.pushDynamic, hDue]
      exact interleave_token token _ _ (by simpa using hCount)
  | true =>
      rw [hDue] at hCount
      have hEven :
          parts.statics.length = parts.dynamics.length := by
        simpa using hCount
      simp only [stream, TemplateParts.pushDynamic, hDue,
        if_true]
      rw [interleave_token token _ _ (by simp [hEven]),
        interleave_text "" _ _ hEven, textSymbols_empty,
        List.append_nil]

theorem text_stream
    (hBalanced : parts.Balanced)
    (value : String) :
    (parts.text value).stream =
      parts.stream ++ textSymbols value := by
  unfold TemplateParts.text
  split
  · rename_i hDue
    exact hBalanced.pushStatic_stream hDue value
  · rename_i hDue
    exact
      hBalanced.appendStatic_stream (by simpa using hDue) value

/- A token between two texts in the middle of a tag. -/
theorem dynamicBetween_stream
    (hBalanced : parts.Balanced)
    (hDue : parts.endsDynamic = false)
    (before after : String)
    (token : T) :
    (((parts.appendStatic before).pushDynamic
      token).pushStatic after).stream =
      parts.stream ++
        (textSymbols before ++ .token token ::
          textSymbols after) := by
  have hBefore := hBalanced.appendStatic before
  rw [(hBefore.pushDynamic token).pushStatic_stream rfl,
    hBefore.pushDynamic_stream,
    hBalanced.appendStatic_stream hDue]
  simp

end Balanced

end TemplateParts

------------------------------------------------------------
-- Elements Written Out
------------------------------------------------------------

/- Characters between double quotes. -/
def quotedSymbols : List Char → List (Symbol T)
  | [] => []
  | c :: cs =>
      if c = '"' then
        textSymbols "&quot;" ++ quotedSymbols cs
      else
        .char c :: quotedSymbols cs

/- An attribute with a name, as it stands in an opening tag. -/
def NamedAttribute.symbols
    (attr : NamedAttribute T) : List (Symbol T) :=
  let opening := textSymbols (" " ++ attr.name ++ "=\"")
  match attr.value with
  | .absent => []
  | .empty => []
  | .text value =>
      opening ++ quotedSymbols value.toList ++ textSymbols "\""
  | .expression token => opening ++ .token token :: textSymbols "\""
  | .element token => opening ++ .token token :: textSymbols "\""
  | .other _ => []

/- An attribute as it stands in an opening tag. -/
def Attribute.symbols
    (config : Config T) :
    Attribute T → List (Symbol T)
  | .named attr => (config.transformAttribute attr).symbols
  | .spread argument _ => [.char ' ', .token argument]

/- A child as it stands between tags. -/
def Child.symbols : Child T → List (Symbol T)
  | .text value _ => textSymbols value
  | .expression value _ => [.token value]
  | .lowered value _ => [.token value]
  | .raw _ _ => []
  | .other _ _ => []

namespace Element

/- The opening tag of an element.  A fragment has none. -/
def openingSymbols
    (config : Config T)
    (element : Element T) : List (Symbol T) :=
  if element.tag = .fragment then
    []
  else
    textSymbols ("<" ++ element.tag.text)
      ++ element.attributes.flatMap (Attribute.symbols config)
      ++ (if element.children = [] ∧ element.hasClosingTag = false then
          textSymbols " />"
        else
          textSymbols ">")

/- The closing tag of an element.  A fragment has none. -/
def closingSymbols (element : Element T) : List (Symbol T) :=
  if element.tag = .fragment ∨ element.hasClosingTag = false then
    []
  else
    textSymbols ("</" ++ element.tag.text ++ ">")

/- An element written out, with a token where code stands. -/
def symbols
    (config : Config T)
    (element : Element T) : List (Symbol T) :=
  element.openingSymbols config
    ++ element.children.flatMap Child.symbols
    ++ element.closingSymbols

end Element

------------------------------------------------------------
-- Steps of the Accumulator
------------------------------------------------------------

theorem textSymbols_escapeValue
    (value : String) :
    (textSymbols (TemplateParts.escapeValue value) :
        List (Symbol T)) =
      quotedSymbols value.toList := by
  simp only [TemplateParts.escapeValue, textSymbols,
    String.toList_ofList]
  induction value.toList with
  | nil => rfl
  | cons c cs ih =>
      rw [List.flatMap_cons, charSymbols, List.map_append]
      by_cases hQuote : c = '"'
      · simp only [quotedSymbols, hQuote, if_true]
        exact congrArg (textSymbols "&quot;" ++ ·) ih
      · simp only [quotedSymbols, hQuote, if_false]
        exact congrArg (Symbol.char c :: ·) ih

namespace TemplateParts

variable {parts next : TemplateParts T}

theorem addAttribute_stream
    (hBalanced : parts.Balanced)
    (hDue : parts.endsDynamic = false)
    (config : Config T)
    (attr : Attribute T)
    (hAdd : parts.addAttribute config attr = (next, none)) :
    next.stream = parts.stream ++ attr.symbols config := by
  cases attr with
  | spread argument span =>
      simp only [addAttribute, Prod.mk.injEq, and_true] at hAdd
      rw [← hAdd,
        hBalanced.dynamicBetween_stream hDue " " "" argument]
      rfl
  | named attr =>
      simp only [addAttribute] at hAdd
      simp only [Attribute.symbols, NamedAttribute.symbols]
      cases hValue : (config.transformAttribute attr).value with
      | absent =>
          simp only [hValue, Prod.mk.injEq, and_true] at hAdd
          rw [← hAdd, List.append_nil]
      | empty =>
          simp only [hValue, Prod.mk.injEq, and_true] at hAdd
          rw [← hAdd, List.append_nil]
      | other kind =>
          simp [hValue] at hAdd
      | text value =>
          simp only [hValue, Prod.mk.injEq, and_true] at hAdd
          rw [← hAdd, hBalanced.appendStatic_stream hDue,
            textSymbols_append, textSymbols_append,
            textSymbols_escapeValue]
      | expression token =>
          simp only [hValue, Prod.mk.injEq, and_true] at hAdd
          rw [← hAdd, hBalanced.dynamicBetween_stream hDue]
      | element token =>
          simp only [hValue, Prod.mk.injEq, and_true] at hAdd
          rw [← hAdd, hBalanced.dynamicBetween_stream hDue]

theorem addAttributes_stream
    (hBalanced : parts.Balanced)
    (hDue : parts.endsDynamic = false)
    (config : Config T)
    (attributes : List (Attribute T))
    (hAdd :
      parts.addAttributes config attributes = (next, none)) :
    next.stream =
      parts.stream ++
        attributes.flatMap (Attribute.symbols config) := by
  induction attributes generalizing parts with
  | nil =>
      simp only [addAttributes, Prod.mk.injEq, and_true] at hAdd
      simp [hAdd]
  | cons attr rest ih =>
      simp only [addAttributes] at hAdd
      split at hAdd
      · cases hAdd
      · rename_i middle hMiddle
        have hBalanced' := hBalanced.addAttribute config attr
        have hDue' := addAttribute_endsDynamic hDue config attr
        rw [hMiddle] at hBalanced' hDue'
        rw [ih hBalanced' hDue' hAdd,
          addAttribute_stream hBalanced hDue config attr hMiddle,
          List.flatMap_cons, List.append_assoc]

theorem addChild_stream
    (hBalanced : parts.Balanced)
    (child : Child T)
    (hAdd : parts.addChild child = (next, none)) :
    next.stream = parts.stream ++ child.symbols := by
  cases child with
  | text value span =>
      simp only [addChild, Prod.mk.injEq, and_true] at hAdd
      rw [← hAdd]
      exact hBalanced.text_stream value
  | expression token span =>
      simp only [addChild, Prod.mk.injEq, and_true] at hAdd
      rw [← hAdd]
      exact hBalanced.pushDynamic_stream token
  | lowered token span =>
      simp only [addChild, Prod.mk.injEq, and_true] at hAdd
      rw [← hAdd]
      exact hBalanced.pushDynamic_stream token
  | raw tag span => simp [addChild] at hAdd
  | other kind span => simp [addChild] at hAdd

theorem addChildren_stream
    (hBalanced : parts.Balanced)
    (children : List (Child T))
    (hAdd : parts.addChildren children = (next, none)) :
    next.stream =
      parts.stream ++ children.flatMap Child.symbols := by
  induction children generalizing parts with
  | nil =>
      simp only [addChildren, Prod.mk.injEq, and_true] at hAdd
      simp [hAdd]
  | cons child rest ih =>
      simp only [addChildren] at hAdd
      split at hAdd
      · cases hAdd
      · rename_i middle hMiddle
        have hBalanced' := hBalanced.addChild child
        rw [hMiddle] at hBalanced'
        rw [ih hBalanced' hAdd,
          addChild_stream hBalanced child hMiddle,
          List.flatMap_cons, List.append_assoc]

end TemplateParts

------------------------------------------------------------
-- Tags
------------------------------------------------------------

namespace Element

variable {config : Config T}
variable {element : Element T}

/- The opening tag is written. -/
theorem openingTag_stream
    {opened : TemplateParts T}
    (hOpen : element.openingTag config = (opened, none)) :
    opened.stream = element.openingSymbols config := by
  unfold openingTag at hOpen
  unfold openingSymbols
  by_cases hFragment : element.tag = .fragment
  · rw [if_pos hFragment] at hOpen ⊢
    cases hOpen
    rfl
  · rw [if_neg hFragment] at hOpen ⊢
    have hSeed :
        (TemplateParts.seeded ("<" ++ element.tag.text) :
          TemplateParts T).Balanced := .seeded _
    have hSeedDue :
        (TemplateParts.seeded ("<" ++ element.tag.text) :
          TemplateParts T).endsDynamic = false := rfl
    have hFirst :
        (TemplateParts.seeded ("<" ++ element.tag.text) :
            TemplateParts T).stream =
          textSymbols ("<" ++ element.tag.text) := by
      simp [TemplateParts.stream, TemplateParts.seeded,
        interleave]
    have hBalanced :=
      hSeed.addAttributes config element.attributes
    have hDue :=
      TemplateParts.addAttributes_endsDynamic hSeedDue config
        element.attributes
    split at hOpen
    · cases hOpen
    · rename_i parts hParts
      have hStream :=
        TemplateParts.addAttributes_stream hSeed hSeedDue config
          element.attributes hParts
      rw [hParts] at hBalanced hDue
      split at hOpen
      · rename_i hEmpty
        cases hOpen
        rw [hBalanced.appendStatic_stream hDue, hStream,
          hFirst, if_pos (by simpa using hEmpty)]
      · rename_i hEmpty
        cases hOpen
        rw [hBalanced.appendStatic_stream hDue, hStream,
          hFirst, if_neg (by simpa using hEmpty)]

/- The closing tag is written, whatever came before it. -/
theorem closingTag_stream
    (element : Element T)
    {parts : TemplateParts T}
    (hBalanced : parts.Balanced) :
    (element.closingTag parts).stream =
      parts.stream ++ element.closingSymbols := by
  unfold closingTag closingSymbols
  by_cases hFragment : element.tag = .fragment
  · rw [if_pos hFragment, if_pos (Or.inl hFragment)]
    exact hBalanced.text_stream ""
  · rw [if_neg hFragment]
    cases hClosing : element.hasClosingTag with
    | false =>
        rw [if_neg Bool.false_ne_true, if_pos (Or.inr rfl)]
        exact (List.append_nil _).symm
    | true =>
        rw [if_pos rfl, if_neg (by simp [hFragment])]
        exact hBalanced.text_stream _

------------------------------------------------------------
-- Templates
------------------------------------------------------------

/- The template of an element, read in turn, is the element. -/
theorem templateForm_stream
    {form : TemplateForm T}
    (hForm : element.templateForm config = .ok form) :
    form.statics.length = form.dynamics.length + 1 ∧
      interleave form.statics form.dynamics =
        element.symbols config := by
  unfold templateForm at hForm
  split at hForm
  · cases hForm
  · rename_i opened hOpened
    rcases openingTag_balanced config element with
      ⟨hOpenBalanced, hOpenDue⟩
    have hOpenStream := openingTag_stream hOpened
    rw [hOpened] at hOpenBalanced hOpenDue
    rw [TemplateParts.resetLast_eq hOpenDue] at hForm
    have hFillBalanced :=
      hOpenBalanced.addChildren element.children
    split at hForm
    · cases hForm
    · rename_i filled hFilled
      rw [hFilled] at hFillBalanced
      have hFillStream :=
        TemplateParts.addChildren_stream hOpenBalanced
          element.children hFilled
      have hBalanced :=
        closingTag_balanced hFillBalanced element
      have hStream := closingTag_stream element hFillBalanced
      rw [hBalanced.finish_eq] at hForm
      split at hForm
      · cases hForm
      · rename_i hDue
        cases hForm
        have hCount := hBalanced.count
        refine ⟨by simpa [hDue] using hCount, ?_⟩
        exact
          hStream.trans (by
            rw [hFillStream, hOpenStream, symbols])

/- An element that is no component becomes its template. -/
theorem lower_eq_template
    {scope : Scope}
    {lowered : Lowered T}
    (hTag : element.tag.isComponent = false)
    (hLower : element.lower config scope = .ok lowered) :
    ∃ form,
      element.templateForm config = .ok form ∧
        lowered =
          .template
            { callee := config.importAs
              construct := config.useConstructorCall
              form :=
                { form with
                  extraArgs := config.extraArgs scope } } := by
  unfold lower at hLower
  split at hLower
  · rename_i result hResult
    cases hLower
    unfold lowerUnplaced at hResult
    split at hResult
    · cases hResult
    · rw [hTag] at hResult
      unfold lowerTemplate at hResult
      cases hForm : element.templateForm config with
      | error error =>
          simp only [hForm] at hResult
          cases hResult
      | ok form =>
          simp only [hForm] at hResult
          cases hResult
          exact ⟨form, rfl, rfl⟩
  · cases hLower

/-
  An element that refers to no component and can be lowered
  becomes a template.  Its static texts and dynamic tokens,
  read in turn, are the element written out, and they are the
  only ones that are.
-/
theorem lower_serialises
    (config : Config T)
    (element : Element T)
    (scope : Scope)
    (lowered : Lowered T)
    (hTag : element.tag.isComponent = false)
    (hLower : element.lower config scope = .ok lowered) :
    ∃ call,
      lowered = .template call ∧
        call.form.statics.length =
          call.form.dynamics.length + 1 ∧
        interleave call.form.statics call.form.dynamics =
          element.symbols config ∧
        ∀ statics dynamics,
          statics.length = dynamics.length + 1 →
          interleave statics dynamics =
              element.symbols config →
            statics = call.form.statics ∧
              dynamics = call.form.dynamics := by
  rcases lower_eq_template hTag hLower with
    ⟨form, hForm, hLowered⟩
  rcases templateForm_stream hForm with ⟨hCount, hStream⟩
  refine ⟨_, hLowered, hCount, hStream, ?_⟩
  intro statics dynamics hOther hRead
  exact
    interleave_injective hOther hCount
      (hRead.trans hStream.symm)

/-
  A quote in a value, a token beside a skipped attribute, a
  spread, and two tokens in a row between the tags.
-/
def mixed : Element Nat where
  tag := .identifier "p"
  attributes :=
    [.named ⟨"a", .text "x\"y", ⟨0, 1⟩⟩,
      .named ⟨"b", .absent, ⟨1, 2⟩⟩,
      .named ⟨"c", .expression 1, ⟨2, 3⟩⟩,
      .spread 2 ⟨3, 4⟩]
  children :=
    [.expression 3 ⟨4, 5⟩, .lowered 4 ⟨5, 6⟩,
      .text "z" ⟨6, 7⟩]
  hasClosingTag := true
  span := ⟨0, 9⟩

theorem lower_serialises_mixed :
    mixed.tag.isComponent = false ∧
      mixed.lower ⟨"rt", "T", "T", false, true, none, none⟩
          .unknown =
        .ok (.template ⟨"T", true,
          ⟨["<p a=\"x&quot;y\" c=\"", "\" ", ">", "", "z</p>"],
            [1, 2, 3, 4], []⟩⟩) ∧
      interleave
          ["<p a=\"x&quot;y\" c=\"", "\" ", ">", "", "z</p>"]
          [1, 2, 3, 4] =
        mixed.symbols
          ⟨"rt", "T", "T", false, true, none, none⟩ := by
  have hTag : mixed.tag.isComponent = false := by
    decide +kernel
  have hLower :
      mixed.lower ⟨"rt", "T", "T", false, true, none, none⟩
          .unknown =
        .ok (.template ⟨"T", true,
          ⟨["<p a=\"x&quot;y\" c=\"", "\" ", ">", "", "z</p>"],
            [1, 2, 3, 4], []⟩⟩) := rfl
  rcases lower_serialises _ mixed .unknown _ hTag hLower with
    ⟨call, hCall, _, hRead, _⟩
  cases hCall
  exact ⟨hTag, hLower, hRead⟩

end Element

end MarkupLowering
