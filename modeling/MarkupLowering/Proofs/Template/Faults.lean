import MarkupLowering.Proofs.Template.FirstFault

/-
  This file shows why an element cannot be lowered.  An
  element that could have been read from markup, with all its
  descendants lowered, fails only for its name, its place or a
  child that templates have no room for.

  Key definitions include:
    * `Attribute.isKnown`
    * `Config.KeepsKnown`
    * `Element.Sound`
    * `LowerCause.isOfSource`

  Key theorems include:
    * `Attribute.fault?_eq_none`
    * `Element.Sound.openEnd?_eq_none`
    * `Element.Sound.lower_error`
-/

namespace MarkupLowering

variable {T : Type}

------------------------------------------------------------
-- Elements Read from Markup
------------------------------------------------------------

/- The value is of a kind that can be lowered. -/
def AttributeValue.isKnown : AttributeValue T → Bool
  | other _ => false
  | _ => true

/- The attribute can be lowered. -/
def Attribute.isKnown : Attribute T → Bool
  | named attr => attr.value.isKnown
  | spread _ _ => true

/- The child is an element that has not been lowered. -/
def Child.isRaw : Child T → Bool
  | raw _ _ => true
  | _ => false

/- Attribute transforms make no value that cannot be lowered. -/
def Config.KeepsKnown (config : Config T) : Prop :=
  ∀ attr : NamedAttribute T,
    attr.value.isKnown = true →
      (config.transformAttribute attr).value.isKnown = true

/-
  An element as it comes from markup, with its descendants
  lowered.  Children stand between two tags.
-/
structure Element.Sound (element : Element T) : Prop where
  known : ∀ attr ∈ element.attributes, attr.isKnown = true
  lowered : ∀ child ∈ element.children, child.isRaw = false
  closed : element.hasClosingTag = false → element.children = []

/- The cause is a fault of the source text. -/
def LowerCause.isOfSource : LowerCause → Bool
  | malformedTag _ _ => true
  | noContext _ => true
  | unexpectedChild _ => true
  | _ => false

------------------------------------------------------------
-- Parts
------------------------------------------------------------

theorem AttributeValue.unknownKind?_eq_none
    {value : AttributeValue T}
    (hKnown : value.isKnown = true) :
    value.unknownKind? = none := by
  cases value with
  | other kind => cases hKnown
  | absent => rfl
  | text value => rfl
  | expression token => rfl
  | empty => rfl
  | element token => rfl

/- Known attributes have no fault in a view that keeps them so. -/
theorem Attribute.fault?_eq_none
    {cause : String → LowerCause}
    {view : NamedAttribute T → NamedAttribute T}
    (hView :
      ∀ attr : NamedAttribute T,
        attr.value.isKnown = true →
          (view attr).value.isKnown = true)
    {attr : Attribute T}
    (hKnown : attr.isKnown = true) :
    attr.fault? cause view = none := by
  cases attr with
  | spread argument span => rfl
  | named attr =>
      have hValue := hView attr hKnown
      rw [fault?, AttributeValue.unknownKind?_eq_none hValue,
        Option.map_none]

theorem Child.isOfSource_of_fault?
    {child : Child T}
    {error : LowerError}
    (hLowered : child.isRaw = false)
    (hFault : child.fault? = some error) :
    error.cause.isOfSource = true := by
  cases child with
  | text value span => cases hFault
  | expression token span => cases hFault
  | lowered token span => cases hFault
  | raw tag span => cases hLowered
  | other kind span =>
      cases hFault
      rfl

------------------------------------------------------------
-- Elements
------------------------------------------------------------

namespace Element.Sound

variable {config : Config T}
variable {element : Element T}
variable {scope : Scope}
variable {error : LowerError}

theorem attributes_fault
    (hSound : element.Sound)
    (cause : String → LowerCause)
    {view : NamedAttribute T → NamedAttribute T}
    (hView :
      ∀ attr : NamedAttribute T,
        attr.value.isKnown = true →
          (view attr).value.isKnown = true) :
    element.attributes.findSome? (Attribute.fault? cause view) =
      none := by
  rw [List.findSome?_eq_none_iff]
  intro attr hMember
  exact Attribute.fault?_eq_none hView (hSound.known attr hMember)

/- Without a closing tag there is no last child. -/
theorem openEnd?_eq_none
    (hSound : element.Sound)
    (view : NamedAttribute T → NamedAttribute T) :
    element.openEnd? view = none := by
  apply if_neg
  rintro ⟨_, hClosing, hLast⟩
  rw [hSound.closed hClosing] at hLast
  cases hLast

/- A component fails only outside all declarations. -/
theorem componentFault?_isOfSource
    (hSound : element.Sound)
    (hFault : element.componentFault? scope = some error) :
    error.cause.isOfSource = true := by
  have hAttributes :
      element.attributes.findSome?
          (Attribute.fault? .unsupportedValue id) =
        none :=
    hSound.attributes_fault _ fun _ hKnown => hKnown
  rw [componentFault?, hAttributes, Option.none_or,
    Option.ite_none_right_eq_some] at hFault
  rcases hFault with ⟨_, hError⟩
  cases hError
  rfl

/- A template fails only for one of its children. -/
theorem templateFault?_isOfSource
    (hSound : element.Sound)
    (hKeeps : config.KeepsKnown)
    (hFault :
      element.templateFault? config.transformAttribute =
        some error) :
    error.cause.isOfSource = true := by
  rw [templateFault?,
    hSound.attributes_fault .unhandledValue hKeeps, ite_self,
    hSound.openEnd?_eq_none, Option.none_or,
    Option.or_none] at hFault
  rcases List.exists_of_findSome?_eq_some hFault with
    ⟨child, hMember, hChild⟩
  exact
    Child.isOfSource_of_fault? (hSound.lowered child hMember)
      hChild

/- An element from markup fails for its source text only. -/
theorem lower_error
    (hSound : element.Sound)
    (hKeeps : config.KeepsKnown)
    (hError : element.lower config scope = .error error) :
    error.cause.isOfSource = true := by
  have hFault := fault?_of_lower hError
  unfold fault? at hFault
  split at hFault
  · cases hFault
    rfl
  · split at hFault
    · exact hSound.componentFault?_isOfSource hFault
    · exact hSound.templateFault?_isOfSource hKeeps hFault

end Element.Sound

end MarkupLowering
