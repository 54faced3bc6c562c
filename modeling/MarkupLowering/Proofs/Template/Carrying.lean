import MarkupLowering.Lowering

/-
  This file shows that tokens are carried and never looked at.
  A function on tokens can be applied to an element before it
  is lowered or to the call that it becomes; both give the same
  call, or the same error.

  The steps of a template in the making are followed by two
  accumulators that differ in their tokens only.  What hooks
  do to tokens is up to them, so the law holds for hooks that
  respect the function, and for configurations without hooks.

  Key definitions include:
    * `Element.mapTokens`
    * `Lowered.mapTokens`
    * `Config.Respects`

  Key theorems include:
    * `properties_mapTokens`
    * `TemplateParts.addAttributes_mapTokens`
    * `TemplateParts.addChildren_mapTokens`
    * `Config.Respects.lower_mapTokens`
    * `Element.lower_carries_tokens`
-/

namespace MarkupLowering

variable {T U : Type}

------------------------------------------------------------
-- Functions on Tokens
------------------------------------------------------------

/- Apply a function to the token of a value. -/
def AttributeValue.mapTokens
    (f : T → U) :
    AttributeValue T → AttributeValue U
  | .absent => .absent
  | .text value => .text value
  | .expression token => .expression (f token)
  | .empty => .empty
  | .element token => .element (f token)
  | .other kind => .other kind

/- Apply a function to the token of an attribute with a name. -/
def NamedAttribute.mapTokens
    (f : T → U)
    (attr : NamedAttribute T) : NamedAttribute U :=
  ⟨attr.name, attr.value.mapTokens f, attr.span⟩

/- Apply a function to the token of an attribute. -/
def Attribute.mapTokens
    (f : T → U) :
    Attribute T → Attribute U
  | .named attr => .named (attr.mapTokens f)
  | .spread argument span => .spread (f argument) span

/- Apply a function to the token of a child. -/
def Child.mapTokens
    (f : T → U) :
    Child T → Child U
  | .text value span => .text value span
  | .expression token span => .expression (f token) span
  | .lowered token span => .lowered (f token) span
  | .raw tag span => .raw tag span
  | .other kind span => .other kind span

/- Apply a function to all tokens of an element. -/
def Element.mapTokens
    (f : T → U)
    (element : Element T) : Element U where
  tag := element.tag
  attributes := element.attributes.map (Attribute.mapTokens f)
  children := element.children.map (Child.mapTokens f)
  hasClosingTag := element.hasClosingTag
  span := element.span

/- Apply a function to the token of a property's value. -/
def PropertyValue.mapTokens
    (f : T → U) :
    PropertyValue T → PropertyValue U
  | .text value => .text value
  | .null => .null
  | .expression token => .expression (f token)

/- Apply a function to the token of a property. -/
def Property.mapTokens
    (f : T → U) :
    Property T → Property U
  | .entry key value => .entry key (value.mapTokens f)
  | .spread argument => .spread (f argument)

/- Apply a function to all tokens of a finished template. -/
def TemplateForm.mapTokens
    (f : T → U)
    (form : TemplateForm T) : TemplateForm U :=
  ⟨form.statics, form.dynamics.map f, form.extraArgs.map f⟩

/-
  Apply a function to all tokens of the call that an element
  becomes.  Everything else of the call stays.
-/
def Lowered.mapTokens
    (f : T → U) :
    Lowered T → Lowered U
  | .component call =>
      .component
        ⟨call.tag, call.props.map (Property.mapTokens f),
          call.style⟩
  | .template call =>
      .template
        ⟨call.callee, call.construct, call.form.mapTokens f⟩

/- Apply a function to all tokens of a template in the making. -/
def TemplateParts.mapTokens
    (f : T → U)
    (parts : TemplateParts T) : TemplateParts U :=
  ⟨parts.statics, parts.dynamics.map f, parts.endsDynamic⟩

/- The configuration has no hook. -/
structure Config.IsHookless (config : Config T) : Prop where
  attributeHook : config.attributeHook = none
  extraArgsHook : config.extraArgsHook = none

/-
  The target configuration calls what the other one calls, and
  its hooks give the images of what the hooks of the other give.
-/
structure Config.Respects
    (f : T → U)
    (config : Config T)
    (target : Config U) : Prop where
  importAs : target.importAs = config.importAs
  useConstructorCall :
    target.useConstructorCall = config.useConstructorCall
  transformAttribute :
    ∀ attr,
      target.transformAttribute (attr.mapTokens f) =
        (config.transformAttribute attr).mapTokens f
  extraArgs :
    ∀ scope,
      target.extraArgs scope = (config.extraArgs scope).map f

------------------------------------------------------------
-- Properties
------------------------------------------------------------

theorem Attribute.toProperty_mapTokens
    (f : T → U)
    (attr : Attribute T) :
    (attr.mapTokens f).toProperty =
      attr.toProperty.map (Property.mapTokens f) := by
  cases attr with
  | spread argument span => rfl
  | named attr =>
      simp only [mapTokens, toProperty, NamedAttribute.mapTokens]
      cases attr.value <;> rfl

/- A component receives the images of its properties. -/
theorem properties_mapTokens
    (f : T → U)
    (attributes : List (Attribute T)) :
    properties (attributes.map (Attribute.mapTokens f)) =
      (properties attributes).map
        (List.map (Property.mapTokens f)) := by
  induction attributes with
  | nil => rfl
  | cons attr rest ih =>
      simp only [List.map_cons, properties, ih,
        attr.toProperty_mapTokens f]
      cases attr.toProperty with
      | error error => rfl
      | ok property =>
          cases properties rest <;> rfl

------------------------------------------------------------
-- Templates in the Making
------------------------------------------------------------

namespace TemplateParts

variable {f : T → U}

theorem appendStatic_mapTokens
    (parts : TemplateParts T)
    (text : String) :
    (parts.mapTokens f).appendStatic text =
      (parts.appendStatic text).mapTokens f :=
  rfl

theorem pushStatic_mapTokens
    (parts : TemplateParts T)
    (text : String) :
    (parts.mapTokens f).pushStatic text =
      (parts.pushStatic text).mapTokens f :=
  rfl

theorem pushDynamic_mapTokens
    (parts : TemplateParts T)
    (token : T) :
    (parts.mapTokens f).pushDynamic (f token) =
      (parts.pushDynamic token).mapTokens f := by
  unfold pushDynamic mapTokens
  rw [List.map_append]
  rfl

/- Whether text opens a new static does not depend on tokens. -/
theorem text_mapTokens
    (parts : TemplateParts T)
    (value : String) :
    (parts.mapTokens f).text value =
      (parts.text value).mapTokens f := by
  unfold text
  rw [apply_ite (mapTokens f)]
  rfl

/- The outcome of a step with the tokens of its parts mapped. -/
def mapOutcome
    (f : T → U)
    (outcome : TemplateParts T × Option LowerError) :
    TemplateParts U × Option LowerError :=
  (outcome.1.mapTokens f, outcome.2)

/- A token in the middle of an opening tag. -/
theorem mapOutcome_dynamicBetween
    (parts : TemplateParts T)
    (before after : String)
    (token : T) :
    ((((parts.mapTokens f).appendStatic before).pushDynamic
        (f token)).pushStatic after, none) =
      mapOutcome f
        (((parts.appendStatic before).pushDynamic
          token).pushStatic after, none) := by
  rw [appendStatic_mapTokens, pushDynamic_mapTokens,
    pushStatic_mapTokens]
  rfl

theorem addAttribute_mapTokens
    {config : Config T}
    {target : Config U}
    (hRespects : config.Respects f target)
    (parts : TemplateParts T)
    (attr : Attribute T) :
    (parts.mapTokens f).addAttribute target (attr.mapTokens f) =
      mapOutcome f (parts.addAttribute config attr) := by
  cases attr with
  | spread argument span =>
      exact mapOutcome_dynamicBetween parts " " "" argument
  | named attr =>
      simp only [Attribute.mapTokens, addAttribute,
        hRespects.transformAttribute]
      generalize config.transformAttribute attr = changed
      rcases changed with ⟨name, value, span⟩
      cases value with
      | absent => rfl
      | empty => rfl
      | other kind => rfl
      | text value => rfl
      | expression token =>
          exact mapOutcome_dynamicBetween parts _ "\"" token
      | element token =>
          exact mapOutcome_dynamicBetween parts _ "\"" token

/-
  Both accumulators take the same steps, and stop at the same
  attribute.
-/
theorem addAttributes_mapTokens
    {config : Config T}
    {target : Config U}
    (hRespects : config.Respects f target)
    (parts : TemplateParts T)
    (attributes : List (Attribute T)) :
    (parts.mapTokens f).addAttributes target
        (attributes.map (Attribute.mapTokens f)) =
      mapOutcome f (parts.addAttributes config attributes) := by
  induction attributes generalizing parts with
  | nil => rfl
  | cons attr rest ih =>
      simp only [List.map_cons, addAttributes,
        addAttribute_mapTokens hRespects]
      rcases parts.addAttribute config attr with
        ⟨next, _ | error⟩
      · exact ih next
      · rfl

theorem addChild_mapTokens
    (parts : TemplateParts T)
    (child : Child T) :
    (parts.mapTokens f).addChild (child.mapTokens f) =
      mapOutcome f (parts.addChild child) := by
  cases child with
  | text value span =>
      simp only [Child.mapTokens, addChild, text_mapTokens,
        mapOutcome]
  | expression token span =>
      simp only [Child.mapTokens, addChild,
        pushDynamic_mapTokens, mapOutcome]
  | lowered token span =>
      simp only [Child.mapTokens, addChild,
        pushDynamic_mapTokens, mapOutcome]
  | raw tag span => rfl
  | other kind span => rfl

theorem addChildren_mapTokens
    (parts : TemplateParts T)
    (children : List (Child T)) :
    (parts.mapTokens f).addChildren
        (children.map (Child.mapTokens f)) =
      mapOutcome f (parts.addChildren children) := by
  induction children generalizing parts with
  | nil => rfl
  | cons child rest ih =>
      simp only [List.map_cons, addChildren, addChild_mapTokens]
      rcases parts.addChild child with ⟨next, _ | error⟩
      · exact ih next
      · rfl

theorem finish_mapTokens
    (parts : TemplateParts T) :
    (parts.mapTokens f).finish =
      parts.finish.map (TemplateForm.mapTokens f) := by
  unfold finish
  rw [apply_ite (Except.map (TemplateForm.mapTokens f))]
  simp only [mapTokens, List.length_map]
  rfl

end TemplateParts

------------------------------------------------------------
-- Elements
------------------------------------------------------------

namespace Element

theorem closingTag_mapTokens
    (f : T → U)
    (element : Element T)
    (parts : TemplateParts T) :
    (element.mapTokens f).closingTag (parts.mapTokens f) =
      (element.closingTag parts).mapTokens f := by
  simp only [closingTag, mapTokens,
    TemplateParts.text_mapTokens]
  split
  · rfl
  · split <;> rfl

theorem lowerComponent_mapTokens
    (f : T → U)
    (element : Element T)
    (scope : Scope) :
    ((element.mapTokens f).lowerComponent scope).map
        Lowered.component =
      ((element.lowerComponent scope).map
        Lowered.component).map (Lowered.mapTokens f) := by
  simp only [lowerComponent, mapTokens,
    properties_mapTokens]
  cases properties element.attributes with
  | error error => rfl
  | ok props => cases styleIn scope <;> rfl

end Element

namespace Config.Respects

variable {f : T → U} {config : Config T} {target : Config U}

/- Configurations without hooks respect every function. -/
theorem of_isHookless
    (hConfig : config.IsHookless)
    (hTarget : target.IsHookless)
    (hImport : target.importAs = config.importAs)
    (hCall :
      target.useConstructorCall = config.useConstructorCall) :
    config.Respects f target where
  importAs := hImport
  useConstructorCall := hCall
  transformAttribute attr := by
    simp only [Config.transformAttribute, hConfig.attributeHook,
      hTarget.attributeHook]
  extraArgs scope := by
    simp only [Config.extraArgs, hConfig.extraArgsHook,
      hTarget.extraArgsHook, List.map_nil]

theorem openingTag_mapTokens
    (hRespects : config.Respects f target)
    (element : Element T) :
    (element.mapTokens f).openingTag target =
      TemplateParts.mapOutcome f (element.openingTag config) := by
  have hOpen :=
    TemplateParts.addAttributes_mapTokens hRespects
      (.seeded ("<" ++ element.tag.text)) element.attributes
  simp only [Element.openingTag, Element.mapTokens,
    List.isEmpty_map]
  split
  · rfl
  -- The seed has no token, so it is its own image.
  change
    TemplateParts.addAttributes target (.seeded _) _ = _
      at hOpen
  rw [hOpen]
  rcases (TemplateParts.seeded ("<" ++ element.tag.text)
      ).addAttributes config element.attributes with
    ⟨parts, _ | error⟩
  · simp only [TemplateParts.mapOutcome]
    split <;> rfl
  · rfl

theorem templateForm_mapTokens
    (hRespects : config.Respects f target)
    (element : Element T) :
    (element.mapTokens f).templateForm target =
      (element.templateForm config).map
        (TemplateForm.mapTokens f) := by
  simp only [Element.templateForm,
    hRespects.openingTag_mapTokens]
  rcases element.openingTag config with ⟨opened, _ | error⟩
  · have hFill :
        (opened.mapTokens f).resetLast.addChildren
            (element.mapTokens f).children =
          TemplateParts.mapOutcome f
            (opened.resetLast.addChildren element.children) :=
      TemplateParts.addChildren_mapTokens opened.resetLast
        element.children
    simp only [TemplateParts.mapOutcome, hFill]
    rcases opened.resetLast.addChildren element.children with
      ⟨filled, _ | error⟩
    · simp only [Element.closingTag_mapTokens,
        TemplateParts.finish_mapTokens]
    · rfl
  · rfl

theorem lowerTemplate_mapTokens
    (hRespects : config.Respects f target)
    (element : Element T)
    (scope : Scope) :
    ((element.mapTokens f).lowerTemplate target scope).map
        Lowered.template =
      ((element.lowerTemplate config scope).map
        Lowered.template).map (Lowered.mapTokens f) := by
  simp only [Element.lowerTemplate,
    hRespects.templateForm_mapTokens, hRespects.importAs,
    hRespects.useConstructorCall, hRespects.extraArgs]
  cases element.templateForm config <;> rfl

/-
  An element is lowered to the image of what it was lowered to
  before, wherever hooks respect the function.
-/
theorem lower_mapTokens
    (hRespects : config.Respects f target)
    (element : Element T)
    (scope : Scope) :
    (element.mapTokens f).lower target scope =
      (element.lower config scope).map
        (Lowered.mapTokens f) := by
  have hUnplaced :
      (element.mapTokens f).lowerUnplaced target scope =
        (element.lowerUnplaced config scope).map
          (Lowered.mapTokens f) := by
    unfold Element.lowerUnplaced
    cases hFlaw : element.tag.flaw? with
    | some flaw =>
        simp only [Element.mapTokens, hFlaw]
        rfl
    | none =>
        have hTag : (element.mapTokens f).tag = element.tag := rfl
        simp only [hTag, hFlaw]
        split
        · exact element.lowerComponent_mapTokens f scope
        · exact hRespects.lowerTemplate_mapTokens element scope
  unfold Element.lower
  rw [hUnplaced]
  cases element.lowerUnplaced config scope <;> rfl

end Config.Respects

namespace Element

/-
  Tokens are carried and never looked at.  Without hooks, a
  function on tokens may be applied before an element is
  lowered or after.  Texts, names and the kind of the call stay,
  and an element that fails fails with the same error.

  The function may lead to another type of tokens, so there is
  a configuration for each of the two types.  For one type they
  may be the same.
-/
theorem lower_carries_tokens
    (f : T → U)
    {config : Config T}
    {target : Config U}
    (hConfig : config.IsHookless)
    (hTarget : target.IsHookless)
    (hImport : target.importAs = config.importAs)
    (hCall :
      target.useConstructorCall = config.useConstructorCall)
    (element : Element T)
    (scope : Scope) :
    (element.mapTokens f).lower target scope =
      (element.lower config scope).map
        (Lowered.mapTokens f) := by
  have hRespects : config.Respects f target :=
    .of_isHookless hConfig hTarget hImport hCall
  exact hRespects.lower_mapTokens element scope

/- An element with a token in each place that carries one. -/
def laden : Element Nat where
  tag := .identifier "p"
  attributes :=
    [.named ⟨"id", .expression 1, ⟨3, 7⟩⟩, .spread 2 ⟨8, 14⟩,
      .named ⟨"icon", .element 3, ⟨15, 25⟩⟩]
  children :=
    [.expression 4 ⟨26, 29⟩, .lowered 5 ⟨29, 35⟩,
      .text "." ⟨35, 36⟩]
  hasClosingTag := true
  span := ⟨0, 40⟩

theorem lower_carries_tokens_laden :
    Config.IsHookless
        (⟨"rt", "T", "T", false, true, none, none⟩ :
          Config Nat) ∧
      (laden.mapTokens (· % 2)).lower
          ⟨"rt", "T", "T", false, true, none, none⟩ .unknown =
        .ok (.template
          ⟨"T", true,
            ⟨["<p id=\"", "\" ", " icon=\"", "\">", "",
                ".</p>"],
              [1, 0, 1, 0, 1], []⟩⟩) := by
  have hConfig :
      Config.IsHookless
        (⟨"rt", "T", "T", false, true, none, none⟩ :
          Config Nat) :=
    ⟨rfl, rfl⟩
  refine ⟨hConfig, ?_⟩
  rw [lower_carries_tokens (· % 2) hConfig hConfig rfl rfl]
  rfl

end Element

end MarkupLowering
