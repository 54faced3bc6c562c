import MarkupLowering.Proofs.Template.Balance

/-
  This file says exactly when an element cannot be lowered,
  and with which error.

  An element is looked at part by part: its name, then its
  attributes, then its children, each from left to right, and
  last whether its template comes to an end.  A component is
  looked at for its place instead of its children.  The first
  part at fault is the one that is reported.

  Key definitions include:
    * `Attribute.fault?`
    * `Child.fault?`
    * `Element.openEnd?`
    * `Element.fault?`

  Key theorems include:
    * `properties_fault`
    * `TemplateParts.addAttributes_fault`
    * `TemplateParts.addChildren_fault`
    * `Element.templateForm_fault`
    * `Element.lower_fails_iff_fault`
-/

namespace MarkupLowering

variable {T : Type}

------------------------------------------------------------
-- Failures
------------------------------------------------------------

/- The error of a step, if it failed. -/
def failure?
    {α : Type} :
    Except LowerError α → Option LowerError
  | .error error => some error
  | .ok _ => none

theorem failure?_eq_some_iff
    {α : Type}
    (result : Except LowerError α)
    (error : LowerError) :
    failure? result = some error ↔ result = .error error := by
  cases result with
  | error cause => simp [failure?]
  | ok value => simp [failure?]

theorem failure?_eq_none_iff
    {α : Type}
    (result : Except LowerError α) :
    failure? result = none ↔ ∃ value, result = .ok value := by
  cases result with
  | error cause => simp [failure?]
  | ok value => simp [failure?]

@[simp] theorem failure?_map
    {α β : Type}
    (result : Except LowerError α)
    (f : α → β) :
    failure? (result.map f) = failure? result := by
  cases result with
  | error cause => rfl
  | ok value => rfl

------------------------------------------------------------
-- Faults of the Parts
------------------------------------------------------------

/- The name of the kind of a value that cannot be lowered. -/
def AttributeValue.unknownKind? :
    AttributeValue T → Option String
  | other kind => some kind
  | _ => none

/- The value is a token. -/
def AttributeValue.isDynamic : AttributeValue T → Bool
  | expression _ => true
  | element _ => true
  | _ => false

/-
  What is wrong with an attribute as it looks after `view`: a
  value of an unknown kind, reported at its place.
-/
def Attribute.fault?
    (cause : String → LowerCause)
    (view : NamedAttribute T → NamedAttribute T) :
    Attribute T → Option LowerError
  | named attr =>
      (view attr).value.unknownKind?.map fun kind =>
        .placed (cause kind) (view attr).span
  | spread _ _ => none

/- An attribute that puts a token into a template. -/
def Attribute.isDynamic
    (view : NamedAttribute T → NamedAttribute T) :
    Attribute T → Bool
  | named attr => (view attr).value.isDynamic
  | spread _ _ => true

/- What is wrong with a child of a template. -/
def Child.fault? : Child T → Option LowerError
  | raw tag span => some (.placed (.notYetLowered tag) span)
  | other kind span =>
      some (.placed (.unexpectedChild kind) span)
  | _ => none

/- A child that puts a token into a template. -/
def Child.isDynamic : Child T → Bool
  | expression _ _ => true
  | lowered _ _ => true
  | _ => false

------------------------------------------------------------
-- Faults of an Element
------------------------------------------------------------

namespace Element

/- The number of tokens in the template of an element. -/
def holeCount
    (view : NamedAttribute T → NamedAttribute T)
    (element : Element T) : Nat :=
  element.attributes.countP (Attribute.isDynamic view)
    + element.children.countP Child.isDynamic

/-
  What is wrong with the end of a template: a last child that
  is a token, and no closing tag to come after it.
-/
def openEnd?
    (view : NamedAttribute T → NamedAttribute T)
    (element : Element T) : Option LowerError :=
  if element.tag ≠ .fragment
      ∧ element.hasClosingTag = false
      ∧ element.children.getLast?.any Child.isDynamic then
    some (.placed
      (.unbalancedTemplate (element.holeCount view)
        (element.holeCount view))
      element.span)
  else
    none

/- The first fault of an element that is a component. -/
def componentFault?
    (scope : Scope)
    (element : Element T) : Option LowerError :=
  (element.attributes.findSome?
      (Attribute.fault? .unsupportedValue id)).or
    (if scope = .unknown then
      some (.placed (.noContext element.tag.text) element.span)
    else
      none)

/- The first fault of an element that is no component. -/
def templateFault?
    (view : NamedAttribute T → NamedAttribute T)
    (element : Element T) : Option LowerError :=
  (if element.tag = .fragment then
      none
    else
      element.attributes.findSome?
        (Attribute.fault? .unhandledValue view)).or
    ((element.children.findSome? Child.fault?).or
      (element.openEnd? view))

/-
  The first fault of an element in a scope, where attributes
  of templates look as `view` makes them.
-/
def fault?
    (view : NamedAttribute T → NamedAttribute T)
    (scope : Scope)
    (element : Element T) : Option LowerError :=
  match element.tag.flaw? with
  | some flaw =>
      some (.placed
        (.malformedTag element.tag.text flaw.message)
        element.span)
  | none =>
      if element.tag.isComponent then
        element.componentFault? scope
      else
        element.templateFault? view

end Element

------------------------------------------------------------
-- Properties
------------------------------------------------------------

theorem Attribute.toProperty_fault
    (attr : Attribute T) :
    failure? attr.toProperty =
      attr.fault? .unsupportedValue id := by
  cases attr with
  | spread argument span => rfl
  | named attr =>
      rcases attr with ⟨name, value, span⟩
      cases value <;> rfl

/- Properties fail at the first attribute of an unknown kind. -/
theorem properties_fault
    (attributes : List (Attribute T)) :
    failure? (properties attributes) =
      attributes.findSome?
        (Attribute.fault? .unsupportedValue id) := by
  induction attributes with
  | nil => rfl
  | cons attr rest ih =>
      have hFirst := attr.toProperty_fault
      rw [List.findSome?_cons, ← hFirst, ← ih, properties]
      cases attr.toProperty with
      | error error => rfl
      | ok property =>
          cases properties rest with
          | error error => rfl
          | ok others => rfl

------------------------------------------------------------
-- Templates
------------------------------------------------------------

namespace TemplateParts

/- An attribute fails as it should, or adds its token. -/
theorem addAttribute_fault
    (config : Config T)
    (parts : TemplateParts T)
    (attr : Attribute T) :
    (parts.addAttribute config attr).2 =
      attr.fault? .unhandledValue config.transformAttribute := by
  cases attr with
  | spread argument span => rfl
  | named attr =>
      simp only [addAttribute, Attribute.fault?]
      cases (config.transformAttribute attr).value <;> rfl

theorem addAttribute_dynamics
    (config : Config T)
    (parts : TemplateParts T)
    (attr : Attribute T) :
    (parts.addAttribute config attr).1.dynamics.length =
      parts.dynamics.length
        + (attr.isDynamic config.transformAttribute).toNat := by
  cases attr with
  | spread argument span =>
      simp [addAttribute, Attribute.isDynamic, pushStatic,
        pushDynamic, appendStatic]
  | named attr =>
      simp only [addAttribute, Attribute.isDynamic]
      cases (config.transformAttribute attr).value <;>
        simp [AttributeValue.isDynamic, pushStatic, pushDynamic,
          appendStatic]

/- Attributes fail at the first one that is at fault. -/
theorem addAttributes_fault
    (config : Config T)
    (parts : TemplateParts T)
    (attributes : List (Attribute T)) :
    (parts.addAttributes config attributes).2 =
      attributes.findSome?
        (Attribute.fault? .unhandledValue
          config.transformAttribute) := by
  induction attributes generalizing parts with
  | nil => rfl
  | cons attr rest ih =>
      have hFirst := addAttribute_fault config parts attr
      rw [List.findSome?_cons, ← hFirst]
      unfold addAttributes
      rcases parts.addAttribute config attr with ⟨next, fault⟩
      cases fault with
      | some error => rfl
      | none => exact ih next

/- Attributes without a fault add their tokens. -/
theorem addAttributes_dynamics
    {config : Config T}
    {parts opened : TemplateParts T}
    {attributes : List (Attribute T)}
    (hOpened :
      parts.addAttributes config attributes = (opened, none)) :
    opened.dynamics.length =
      parts.dynamics.length
        + attributes.countP
          (Attribute.isDynamic config.transformAttribute) := by
  induction attributes generalizing parts with
  | nil =>
      cases hOpened
      rfl
  | cons attr rest ih =>
      have hFirst := addAttribute_dynamics config parts attr
      unfold addAttributes at hOpened
      split at hOpened
      · cases hOpened
      · rename_i next hNext
        rw [hNext] at hFirst
        rw [ih hOpened, hFirst, List.countP_cons, Nat.add_assoc,
          Nat.add_comm (Bool.toNat _)]
        cases attr.isDynamic config.transformAttribute <;> rfl

theorem addChild_fault
    (parts : TemplateParts T)
    (child : Child T) :
    (parts.addChild child).2 = child.fault? := by
  cases child <;> rfl

/- Children fail at the first one that is at fault. -/
theorem addChildren_fault
    (parts : TemplateParts T)
    (children : List (Child T)) :
    (parts.addChildren children).2 =
      children.findSome? Child.fault? := by
  induction children generalizing parts with
  | nil => rfl
  | cons child rest ih =>
      have hFirst := addChild_fault parts child
      rw [List.findSome?_cons, ← hFirst]
      unfold addChildren
      rcases parts.addChild child with ⟨next, fault⟩
      cases fault with
      | some error => rfl
      | none => exact ih next

/-
  A child without a fault adds its token and leaves a text due
  just if it is one.
-/
theorem addChild_dynamics
    {parts next : TemplateParts T}
    {child : Child T}
    (hNext : parts.addChild child = (next, none)) :
    next.endsDynamic = child.isDynamic ∧
      next.dynamics.length =
        parts.dynamics.length + child.isDynamic.toNat := by
  cases child with
  | text value span =>
      cases hNext
      refine ⟨text_endsDynamic parts value, ?_⟩
      unfold text
      split <;> rfl
  | expression token span =>
      cases hNext
      exact ⟨rfl, by simp [pushDynamic, Child.isDynamic]⟩
  | lowered token span =>
      cases hNext
      exact ⟨rfl, by simp [pushDynamic, Child.isDynamic]⟩
  | raw tag span => cases hNext
  | other kind span => cases hNext

/-
  Children without a fault add their tokens.  A text is due
  after the last of them if that is a token.
-/
theorem addChildren_dynamics
    {parts filled : TemplateParts T}
    {children : List (Child T)}
    (hFilled : parts.addChildren children = (filled, none)) :
    filled.endsDynamic =
        (children.getLast?.map Child.isDynamic).getD
          parts.endsDynamic ∧
      filled.dynamics.length =
        parts.dynamics.length
          + children.countP Child.isDynamic := by
  induction children generalizing parts with
  | nil =>
      cases hFilled
      exact ⟨rfl, rfl⟩
  | cons child rest ih =>
      unfold addChildren at hFilled
      split at hFilled
      · cases hFilled
      · rename_i next hNext
        rcases addChild_dynamics hNext with ⟨hEnds, hLength⟩
        rcases ih hFilled with ⟨hRestEnds, hRestLength⟩
        constructor
        · rw [hRestEnds, hEnds]
          cases rest with
          | nil => rfl
          | cons other others =>
              rw [List.getLast?_cons_cons]
              cases hLast : (other :: others).getLast? with
              | none => simp at hLast
              | some last => rfl
        · rw [hRestLength, hLength, List.countP_cons,
            Nat.add_assoc, Nat.add_comm (Bool.toNat _)]
          cases child.isDynamic <;> rfl

end TemplateParts

------------------------------------------------------------
-- Places
------------------------------------------------------------

/- Faults of parts are reported at the parts. -/
theorem orAt_findSome?
    {α : Type}
    {faultOf : α → Option LowerError}
    (hPlaced :
      ∀ item error,
        faultOf item = some error →
          ∃ cause place, error = .placed cause place)
    (items : List α)
    (span : Span) :
    (items.findSome? faultOf).map (LowerError.orAt · span) =
      items.findSome? faultOf := by
  cases hFirst : items.findSome? faultOf with
  | none => rfl
  | some error =>
      rcases List.exists_of_findSome?_eq_some hFirst with
        ⟨item, _, hItem⟩
      rcases hPlaced item error hItem with
        ⟨cause, place, hError⟩
      rw [hError]
      rfl

theorem Attribute.fault?_placed
    {cause : String → LowerCause}
    {view : NamedAttribute T → NamedAttribute T}
    (attr : Attribute T)
    (error : LowerError)
    (hFault : attr.fault? cause view = some error) :
    ∃ cause place, error = .placed cause place := by
  cases attr with
  | spread argument span => cases hFault
  | named attr =>
      rcases Option.map_eq_some_iff.mp hFault with
        ⟨kind, _, hError⟩
      exact ⟨_, _, hError.symm⟩

theorem Child.fault?_placed
    (child : Child T)
    (error : LowerError)
    (hFault : child.fault? = some error) :
    ∃ cause place, error = .placed cause place := by
  cases child with
  | text value span => cases hFault
  | expression token span => cases hFault
  | lowered token span => cases hFault
  | raw tag span =>
      cases hFault
      exact ⟨_, _, rfl⟩
  | other kind span =>
      cases hFault
      exact ⟨_, _, rfl⟩

------------------------------------------------------------
-- Elements
------------------------------------------------------------

namespace Element

variable {config : Config T}
variable {element : Element T}

theorem openingTag_fault
    (config : Config T)
    (element : Element T) :
    (element.openingTag config).2 =
      if element.tag = .fragment then
        none
      else
        element.attributes.findSome?
          (Attribute.fault? .unhandledValue
            config.transformAttribute) := by
  rw [← TemplateParts.addAttributes_fault config
    (.seeded ("<" ++ element.tag.text))]
  unfold openingTag
  split
  · rfl
  · split
    · rename_i parts error hParts
      rw [hParts]
    · rename_i parts hParts
      rw [hParts]
      split <;> rfl

/- The tokens of an opening tag are those of its attributes. -/
theorem openingTag_dynamics
    {opened : TemplateParts T}
    (hTag : element.tag ≠ .fragment)
    (hOpened : element.openingTag config = (opened, none)) :
    opened.dynamics.length =
      element.attributes.countP
        (Attribute.isDynamic config.transformAttribute) := by
  unfold openingTag at hOpened
  rw [if_neg hTag] at hOpened
  split at hOpened
  · cases hOpened
  · rename_i parts hParts
    have hCount := TemplateParts.addAttributes_dynamics hParts
    simp only [TemplateParts.seeded, List.length_nil,
      Nat.zero_add] at hCount
    split at hOpened
    · cases hOpened
      exact hCount
    · cases hOpened
      exact hCount

theorem closingTag_dynamics
    (element : Element T)
    (parts : TemplateParts T) :
    (element.closingTag parts).dynamics = parts.dynamics := by
  unfold closingTag TemplateParts.text
  split
  · split <;> rfl
  · split
    · split <;> rfl
    · rfl

/-
  A text is still due at the end just if the last child is a
  token: fragments and closing tags end with a text.
-/
theorem closingTag_endsDynamic_iff
    {opened filled : TemplateParts T}
    (hDue : opened.endsDynamic = false)
    (hFilled :
      opened.addChildren element.children = (filled, none)) :
    (element.closingTag filled).endsDynamic = true ↔
      element.tag ≠ .fragment ∧
        element.hasClosingTag = false ∧
        element.children.getLast?.any Child.isDynamic := by
  have hEnds := (TemplateParts.addChildren_dynamics hFilled).1
  unfold closingTag
  by_cases hFragment : element.tag = .fragment
  · simp [hFragment, TemplateParts.text_endsDynamic]
  · rw [if_neg hFragment]
    cases hClosing : element.hasClosingTag with
    | true => simp [TemplateParts.text_endsDynamic]
    | false =>
        rw [if_neg Bool.false_ne_true, hEnds, hDue]
        cases element.children.getLast? with
        | none => simp
        | some last => simp [hFragment]

/- A template in the making fails where its end is open. -/
theorem closingTag_fault
    {opened filled : TemplateParts T}
    (hOpened : element.openingTag config = (opened, none))
    (hFilled :
      opened.addChildren element.children = (filled, none)) :
    (failure? (element.closingTag filled).finish).map
        (LowerError.orAt · element.span) =
      element.openEnd? config.transformAttribute := by
  have hOpening := openingTag_balanced config element
  rw [hOpened] at hOpening
  rcases hOpening with ⟨hBalanced, hDue⟩
  have hFilledBalanced := hBalanced.addChildren element.children
  rw [hFilled] at hFilledBalanced
  have hClosed : (element.closingTag filled).Balanced :=
    closingTag_balanced hFilledBalanced element
  have hOpen := closingTag_endsDynamic_iff hDue hFilled
  rw [hClosed.finish_eq]
  unfold openEnd?
  by_cases hEnd : (element.closingTag filled).endsDynamic = true
  · have hCase := hOpen.mp hEnd
    have hHoles :
        (element.closingTag filled).dynamics.length =
          element.holeCount config.transformAttribute := by
      rw [closingTag_dynamics,
        (TemplateParts.addChildren_dynamics hFilled).2,
        openingTag_dynamics hCase.1 hOpened]
      rfl
    have hStatics :
        (element.closingTag filled).statics.length =
          element.holeCount config.transformAttribute := by
      have hCount := hClosed.count
      rw [hEnd, Bool.toNat_true] at hCount
      omega
    rw [if_pos hEnd, if_pos hCase, hStatics, hHoles]
    rfl
  · rw [if_neg hEnd, if_neg (fun hCase => hEnd (hOpen.mpr hCase))]
    rfl

/- A template fails with its first fault. -/
theorem templateForm_fault
    (config : Config T)
    (element : Element T) :
    (failure? (element.templateForm config)).map
        (LowerError.orAt · element.span) =
      element.templateFault? config.transformAttribute := by
  have hDue := (openingTag_balanced config element).2
  have hAttributes := openingTag_fault config element
  have hPlaces :
      (element.openingTag config).2.map
          (LowerError.orAt · element.span) =
        (element.openingTag config).2 := by
    rw [hAttributes]
    split
    · rfl
    · exact orAt_findSome? Attribute.fault?_placed _ _
  unfold templateFault? templateForm
  rw [← hAttributes]
  rcases hOpened : element.openingTag config with
    ⟨opened, fault⟩
  rw [hOpened] at hDue hPlaces
  cases fault with
  | some error => exact hPlaces
  | none =>
      have hChildren :=
        TemplateParts.addChildren_fault opened element.children
      rw [Option.none_or, ← hChildren]
      simp only [TemplateParts.resetLast_eq hDue]
      rcases hFilled : opened.addChildren element.children with
        ⟨filled, fault⟩
      cases fault with
      | some error =>
          rw [hFilled] at hChildren
          have hChildPlaces :=
            orAt_findSome? Child.fault?_placed element.children
              element.span
          rw [← hChildren] at hChildPlaces
          exact hChildPlaces
      | none => exact closingTag_fault hOpened hFilled

/- A component fails with its first fault. -/
theorem lowerComponent_fault
    (element : Element T)
    (scope : Scope) :
    (failure? (element.lowerComponent scope)).map
        (LowerError.orAt · element.span) =
      element.componentFault? scope := by
  have hProps := properties_fault element.attributes
  have hPlaces :
      (element.attributes.findSome?
          (Attribute.fault? .unsupportedValue id)).map
          (LowerError.orAt · element.span) =
        element.attributes.findSome?
          (Attribute.fault? .unsupportedValue id) :=
    orAt_findSome? Attribute.fault?_placed _ _
  unfold componentFault? lowerComponent
  rw [← hProps] at hPlaces ⊢
  cases hResult : properties element.attributes with
  | error error =>
      rw [hResult] at hPlaces
      exact hPlaces
  | ok props =>
      cases scope with
      | unknown => rfl
      | within enclosure => cases enclosure <;> rfl

/- An element fails with its first fault. -/
theorem lower_fault
    (config : Config T)
    (element : Element T)
    (scope : Scope) :
    failure? (element.lower config scope) =
      element.fault? config.transformAttribute scope := by
  have hPlaced :
      failure? (element.lower config scope) =
        (failure? (element.lowerUnplaced config scope)).map
          (LowerError.orAt · element.span) := by
    unfold lower
    cases element.lowerUnplaced config scope <;> rfl
  rw [hPlaced]
  unfold lowerUnplaced fault?
  cases element.tag.flaw? with
  | some flaw => rfl
  | none =>
      cases element.tag.isComponent with
      | true =>
          simp only [if_true, failure?_map]
          exact lowerComponent_fault element scope
      | false =>
          have hForm :
              failure? (element.lowerTemplate config scope) =
                failure? (element.templateForm config) := by
            unfold lowerTemplate
            cases element.templateForm config <;> rfl
          simp only [Bool.false_eq_true, if_false,
            failure?_map, hForm]
          exact templateForm_fault config element

theorem fault?_of_lower
    {scope : Scope}
    {error : LowerError}
    (hError : element.lower config scope = .error error) :
    element.fault? config.transformAttribute scope =
      some error := by
  rw [← lower_fault, hError]
  rfl

/-
  An element cannot be lowered just if it has a fault, and the
  error is then its first fault, in this order: its name; as a
  component its attributes from left to right and its scope;
  otherwise its transformed attributes, unless it is a
  fragment, then its children, and last an end that is open.
-/
theorem lower_fails_iff_fault
    (config : Config T)
    (element : Element T)
    (scope : Scope) :
    (∀ error,
      element.lower config scope = .error error ↔
        element.fault? config.transformAttribute scope =
          some error) ∧
    ((∃ lowered, element.lower config scope = .ok lowered) ↔
      element.fault? config.transformAttribute scope = none) := by
  have hFault := lower_fault config element scope
  rw [← hFault]
  constructor
  · intro error
    exact (failure?_eq_some_iff _ error).symm
  · exact (failure?_eq_none_iff _).symm

end Element

end MarkupLowering
