import MarkupLowering.Proofs.Template.Faults

/-
  This file lists all that an element can be refused for, each
  with the place that is reported for it.  Nothing is assumed
  of the element: its attributes may be of any kind and its
  children raw.

  Key definitions include:
    * `Config.KeepsSpan`
    * `Element.Refused`

  Key theorems include:
    * `Element.refused_of_lower`
    * `Element.Refused.place`
    * `Element.Refused.of_notYetLowered`
    * `Element.isRaw_of_lower`
-/

namespace MarkupLowering

variable {T : Type}

------------------------------------------------------------
-- Refusals
------------------------------------------------------------

/- Attribute transforms leave attributes where they are. -/
def Config.KeepsSpan (config : Config T) : Prop :=
  ∀ attr : NamedAttribute T,
    (config.transformAttribute attr).span = attr.span

/- What an element is refused for, and where. -/
inductive Element.Refused
    (config : Config T)
    (element : Element T) : LowerError → Prop
  | tag
      (reason : String) :
      Refused config element
        (.placed (.malformedTag element.tag.text reason)
          element.span)
  | property
      {attr : NamedAttribute T}
      {kind : String}
      (hAttr : .named attr ∈ element.attributes)
      (hValue : attr.value = .other kind) :
      Refused config element
        (.placed (.unsupportedValue kind) attr.span)
  | context :
      Refused config element
        (.placed (.noContext element.tag.text) element.span)
  | value
      {attr : NamedAttribute T}
      {kind : String}
      (hAttr : .named attr ∈ element.attributes)
      (hValue :
        (config.transformAttribute attr).value = .other kind) :
      Refused config element
        (.placed (.unhandledValue kind)
          (config.transformAttribute attr).span)
  | raw
      {tag : String}
      {span : Span}
      (hChild : .raw tag span ∈ element.children) :
      Refused config element
        (.placed (.notYetLowered tag) span)
  | child
      {kind : String}
      {span : Span}
      (hChild : .other kind span ∈ element.children) :
      Refused config element
        (.placed (.unexpectedChild kind) span)
  | balance
      (statics dynamics : Nat) :
      Refused config element
        (.placed (.unbalancedTemplate statics dynamics)
          element.span)

------------------------------------------------------------
-- Parts
------------------------------------------------------------

theorem AttributeValue.eq_other_of_unknownKind?
    {value : AttributeValue T}
    {kind : String}
    (hKind : value.unknownKind? = some kind) :
    value = .other kind := by
  cases value with
  | other kind =>
      cases hKind
      rfl
  | absent => cases hKind
  | text value => cases hKind
  | expression token => cases hKind
  | empty => cases hKind
  | element token => cases hKind

/- Attributes are at fault where one is of an unknown kind. -/
theorem Attribute.exists_of_fault?
    {cause : String → LowerCause}
    {view : NamedAttribute T → NamedAttribute T}
    {attributes : List (Attribute T)}
    {error : LowerError}
    (hFault :
      attributes.findSome? (Attribute.fault? cause view) =
        some error) :
    ∃ attr kind,
      .named attr ∈ attributes ∧
        (view attr).value = .other kind ∧
        error = .placed (cause kind) (view attr).span := by
  rcases List.exists_of_findSome?_eq_some hFault with
    ⟨attr, hMember, hAttr⟩
  cases attr with
  | spread argument span => cases hAttr
  | named attr =>
      rcases Option.map_eq_some_iff.mp hAttr with
        ⟨kind, hKind, hError⟩
      exact
        ⟨attr, kind, hMember,
          AttributeValue.eq_other_of_unknownKind? hKind,
          hError.symm⟩

------------------------------------------------------------
-- Elements
------------------------------------------------------------

namespace Element

variable {config : Config T}
variable {element : Element T}
variable {scope : Scope}
variable {error : LowerError}

theorem refused_of_child
    {child : Child T}
    (hMember : child ∈ element.children)
    (hFault : child.fault? = some error) :
    element.Refused config error := by
  cases child with
  | text value span => cases hFault
  | expression token span => cases hFault
  | lowered token span => cases hFault
  | raw tag span =>
      cases hFault
      exact Refused.raw hMember
  | other kind span =>
      cases hFault
      exact Refused.child hMember

theorem refused_of_openEnd?
    {view : NamedAttribute T → NamedAttribute T}
    (hFault : element.openEnd? view = some error) :
    element.Refused config error := by
  rw [openEnd?, Option.ite_none_right_eq_some] at hFault
  rcases hFault with ⟨_, hError⟩
  cases hError
  exact Refused.balance _ _

theorem refused_of_componentFault?
    (hFault : element.componentFault? scope = some error) :
    element.Refused config error := by
  rw [componentFault?, Option.or_eq_some_iff] at hFault
  rcases hFault with hAttributes | ⟨_, hScope⟩
  · rcases Attribute.exists_of_fault? hAttributes with
      ⟨attr, kind, hMember, hValue, hError⟩
    rw [hError]
    exact Refused.property hMember hValue
  · rw [Option.ite_none_right_eq_some] at hScope
    rcases hScope with ⟨_, hError⟩
    cases hError
    exact Refused.context

theorem refused_of_templateFault?
    (hFault :
      element.templateFault? config.transformAttribute =
        some error) :
    element.Refused config error := by
  rw [templateFault?, Option.or_eq_some_iff,
    Option.or_eq_some_iff, Option.ite_none_left_eq_some]
    at hFault
  rcases hFault with
    ⟨_, hAttributes⟩ | ⟨_, hChildren | ⟨_, hOpen⟩⟩
  · rcases Attribute.exists_of_fault? hAttributes with
      ⟨attr, kind, hMember, hValue, hError⟩
    rw [hError]
    exact Refused.value hMember hValue
  · rcases List.exists_of_findSome?_eq_some hChildren with
      ⟨child, hMember, hChild⟩
    exact refused_of_child hMember hChild
  · exact refused_of_openEnd? hOpen

/- An element that cannot be lowered is refused for a reason. -/
theorem refused_of_lower
    (hError : element.lower config scope = .error error) :
    element.Refused config error := by
  have hFault := fault?_of_lower hError
  unfold fault? at hFault
  split at hFault
  · cases hFault
    exact Refused.tag _
  · split at hFault
    · exact refused_of_componentFault? hFault
    · exact refused_of_templateFault? hFault

/-
  A refusal is reported at the element, at one of its
  attributes or at one of its children.
-/
theorem Refused.place
    (hRefused : element.Refused config error)
    (hKeeps : config.KeepsSpan) :
    ∃ span,
      error.span = some span ∧
        (span = element.span ∨
          (∃ attr ∈ element.attributes, span = attr.span) ∨
          ∃ child ∈ element.children, span = child.span) := by
  cases hRefused with
  | tag reason => exact ⟨_, rfl, Or.inl rfl⟩
  | property hAttr hValue =>
      exact ⟨_, rfl, Or.inr (Or.inl ⟨_, hAttr, rfl⟩)⟩
  | context => exact ⟨_, rfl, Or.inl rfl⟩
  | value hAttr hValue =>
      exact
        ⟨_, rfl, Or.inr (Or.inl ⟨_, hAttr, hKeeps _⟩)⟩
  | raw hChild =>
      exact ⟨_, rfl, Or.inr (Or.inr ⟨_, hChild, rfl⟩)⟩
  | child hChild =>
      exact ⟨_, rfl, Or.inr (Or.inr ⟨_, hChild, rfl⟩)⟩
  | balance statics dynamics => exact ⟨_, rfl, Or.inl rfl⟩

/- Only a raw child is reported as not yet lowered. -/
theorem Refused.of_notYetLowered
    {tag : String}
    (hRefused : element.Refused config error)
    (hCause : error.cause = .notYetLowered tag) :
    ∃ span, .raw tag span ∈ element.children := by
  cases hRefused with
  | raw hChild =>
      cases hCause
      exact ⟨_, hChild⟩
  | tag reason => cases hCause
  | property hAttr hValue => cases hCause
  | context => cases hCause
  | value hAttr hValue => cases hCause
  | child hChild => cases hCause
  | balance statics dynamics => cases hCause

/- A template has no room for raw children. -/
theorem isRaw_of_lower
    {lowered : Lowered T}
    (hTag : element.tag.isComponent = false)
    (hLower : element.lower config scope = .ok lowered) :
    ∀ child ∈ element.children, child.isRaw = false := by
  have hFault := lower_fault config element scope
  rw [hLower, failure?, fault?, hTag] at hFault
  split at hFault
  · cases hFault
  · rw [if_neg Bool.false_ne_true, templateFault?] at hFault
    have hChildren :=
      (Option.or_eq_none_iff.mp
        (Option.or_eq_none_iff.mp hFault.symm).2).1
    intro child hMember
    have hChild :=
      List.findSome?_eq_none_iff.mp hChildren child hMember
    cases child with
    | raw tag span => cases hChild
    | text value span => rfl
    | expression token span => rfl
    | lowered token span => rfl
    | other kind span => rfl

end Element

end MarkupLowering
