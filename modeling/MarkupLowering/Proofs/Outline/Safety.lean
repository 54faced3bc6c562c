import MarkupLowering.Proofs.Outline.Planting
import MarkupLowering.Proofs.Template.Faults
import MarkupLowering.Proofs.Tree.Refinement
import MarkupLowering.Transform

/-
  This file shows that lowering a module fails only for faults
  of its source text.  The guards against elements lowered out
  of order, templates out of balance and attributes of unknown
  kinds never strike.

  Key theorems include:
    * `Config.keepsKnown_of_resolve`
    * `ElementNode.Tidy.sound`
    * `Outline.lowerAll_error`
    * `transform_fails_for_source`
-/

namespace MarkupLowering

variable {T : Type}

------------------------------------------------------------
-- Built-in Transforms
------------------------------------------------------------

theorem Builtin.apply_isKnown
    (builtin : Builtin)
    {attr : NamedAttribute String}
    (hKnown : attr.value.isKnown = true) :
    (builtin.apply attr).value.isKnown = true := by
  cases builtin with
  | classNameToClass =>
      simp only [apply, NamedAttribute.classNameToClass]
      split
      · exact hKnown
      · exact hKnown
  | styleObjectToCss =>
      simp only [apply, NamedAttribute.styleObjectToCss]
      split
      · split
        · split
          · rfl
          · exact hKnown
        · exact hKnown
      · exact hKnown

namespace Config

theorem KeepsKnown.withAttributeTransform
    {config : Config T}
    (hKeeps : config.KeepsKnown)
    {transform : NamedAttribute T → NamedAttribute T}
    (hTransform :
      ∀ attr,
        attr.value.isKnown = true →
          (transform attr).value.isKnown = true) :
    (config.withAttributeTransform transform).KeepsKnown := by
  intro attr hKnown
  have hEarlier := hKeeps attr hKnown
  unfold transformAttribute at hEarlier
  unfold transformAttribute Config.withAttributeTransform
  cases hHook : config.attributeHook with
  | none => exact hTransform attr hKnown
  | some earlier =>
      rw [hHook] at hEarlier
      exact hTransform (earlier attr) hEarlier

theorem KeepsKnown.install
    {config : Config String}
    (hKeeps : config.KeepsKnown)
    (builtins : List Builtin) :
    (config.install builtins).KeepsKnown := by
  unfold Config.install
  induction builtins generalizing config with
  | nil => exact hKeeps
  | cons builtin rest ih =>
      apply ih
      exact
        hKeeps.withAttributeTransform
          (fun _ hKnown => builtin.apply_isKnown hKnown)

/- Options name no transform that makes an unknown value. -/
theorem keepsKnown_of_resolve
    {options : Options}
    {config : Config String}
    (hConfig : Config.resolve options = .ok config) :
    config.KeepsKnown := by
  unfold Config.resolve Config.ofOptions at hConfig
  split at hConfig
  · cases hConfig
  · split at hConfig
    · cases hConfig
    · cases hConfig
      apply KeepsKnown.install
      intro attr hKnown
      exact hKnown

end Config

------------------------------------------------------------
-- Elements with Tokens
------------------------------------------------------------

/- What holds of every item read holds of all that is read. -/
theorem forall_mem_of_mapM
    {α β : Type}
    {P : α → Prop}
    {Q : β → Prop}
    {read : α → Except LowerError β}
    (hRead :
      ∀ item result,
        P item →
        read item = .ok result →
          Q result)
    {items : List α}
    {results : List β}
    (hItems : ∀ item ∈ items, P item)
    (hResults : items.mapM read = .ok results) :
    ∀ result ∈ results, Q result := by
  induction items generalizing results with
  | nil =>
      cases hResults
      intro result hResult
      cases hResult
  | cons item items ih =>
      rcases List.forall_mem_cons.mp hItems with
        ⟨hItem, hRest⟩
      rw [List.mapM_cons] at hResults
      rcases exists_of_bind_eq_ok hResults with
        ⟨first, hFirst, hTail⟩
      rcases exists_of_bind_eq_ok hTail with
        ⟨others, hOthers, hEq⟩
      cases hEq
      exact
        List.forall_mem_cons.mpr
          ⟨hRead item first hItem hFirst, ih hRest hOthers⟩

theorem AttributeNode.withTokens_isKnown
    {tokenOf : NodeId → Except LowerError T}
    {attr : AttributeNode}
    {resolved : Attribute T}
    (hKnown : attr.slot.isOther = false)
    (hResolved : attr.withTokens tokenOf = .ok resolved) :
    resolved.isKnown = true := by
  rcases attr with ⟨name, slot, span⟩
  cases slot with
  | other kind => cases hKnown
  | absent =>
      cases hResolved
      rfl
  | text value =>
      cases hResolved
      rfl
  | empty =>
      cases hResolved
      rfl
  | expression id =>
      rcases exists_of_map_eq_ok hResolved with ⟨token, _, hEq⟩
      cases hEq
      rfl
  | element id =>
      rcases exists_of_map_eq_ok hResolved with ⟨token, _, hEq⟩
      cases hEq
      rfl
  | spread id =>
      rcases exists_of_map_eq_ok hResolved with ⟨token, _, hEq⟩
      cases hEq
      rfl

/- No child with its token is raw. -/
theorem ChildNode.withTokens_isRaw
    {spanOf : NodeId → Span}
    {tokenOf : NodeId → Except LowerError T}
    {child : ChildNode}
    {resolved : Child T}
    (hResolved :
      child.withTokens spanOf tokenOf = .ok resolved) :
    resolved.isRaw = false := by
  cases child with
  | text value span =>
      cases hResolved
      rfl
  | other kind span =>
      cases hResolved
      rfl
  | expression id span =>
      rcases exists_of_map_eq_ok hResolved with ⟨token, _, hEq⟩
      cases hEq
      rfl
  | element id =>
      rcases exists_of_map_eq_ok hResolved with ⟨token, _, hEq⟩
      cases hEq
      rfl

/- A tidy element with all its tokens is sound. -/
theorem ElementNode.Tidy.sound
    {spanOf : NodeId → Span}
    {tokenOf : NodeId → Except LowerError T}
    {span : Span}
    {element : ElementNode}
    {resolved : Element T}
    (hTidy : element.Tidy)
    (hResolved :
      element.withTokens spanOf tokenOf span = .ok resolved) :
    resolved.Sound := by
  unfold ElementNode.withTokens at hResolved
  rcases exists_of_bind_eq_ok hResolved with
    ⟨attributes, hAttributes, hRest⟩
  rcases exists_of_bind_eq_ok hRest with
    ⟨children, hChildren, hEq⟩
  cases hEq
  refine ⟨?_, ?_, ?_⟩
  · exact
      forall_mem_of_mapM
        (fun _ _ hKnown hAttr =>
          AttributeNode.withTokens_isKnown hKnown hAttr)
        hTidy.known hAttributes
  · exact
      forall_mem_of_mapM
        (P := fun _ => True)
        (fun _ _ _ hChild => ChildNode.withTokens_isRaw hChild)
        (fun _ _ => trivial) hChildren
  · intro hClosing
    rw [hTidy.closed hClosing] at hChildren
    cases hChildren
    rfl

------------------------------------------------------------
-- Modules
------------------------------------------------------------

/- The arena of a module fails only for its source text. -/
theorem Outline.lowerAll_error
    (source : String)
    (outline : Outline)
    (host : Host String)
    {config : Config String}
    (hKeeps : config.KeepsKnown)
    {error : LowerError}
    (hError :
      (outline.plant source).lowerAll host config =
        .error error) :
    error.cause.isOfSource = true := by
  rcases
      Tree.lowerAll_progress (plant_wellFormed source outline)
        (plant_rootIsCode source outline) host config with
    ⟨token, hRun, _⟩ | ⟨id, fault, hFault, hRun⟩
  · rw [hRun] at hError
    cases hError
  · rw [hRun] at hError
    cases hError
    rcases hFault.unlowered with
      ⟨node, content, resolved, hNode, hKind, hResolved,
        hLower⟩
    have hTidy := (plant_ordered source outline hNode).2.2.2
    rw [hKind] at hTidy
    have hSound : resolved.Sound :=
      ElementNode.Tidy.sound hTidy hResolved
    exact hSound.lower_error hKeeps hLower

/- Faults of source text are reported under three codes. -/
theorem LowerCause.code_of_isOfSource
    {cause : LowerCause}
    (hSource : cause.isOfSource = true) :
    cause.code ∈
      ["JSX2TTL-ERR-TAG", "JSX2TTL-ERR-CONTEXT",
        "JSX2TTL-ERR-CHILD"] := by
  cases cause with
  | malformedTag tag reason => simp [code]
  | noContext tag => simp [code]
  | unexpectedChild kind => simp [code]
  | unsupportedValue kind => cases hSource
  | unhandledValue kind => cases hSource
  | notYetLowered tag => cases hSource
  | unbalancedTemplate statics dynamics => cases hSource

/-
  A module that can be read is lowered, or refused for the
  name of an element, for a component outside all
  declarations, or for a spread child.  In its arena parents
  come first, references lead forwards, and every piece of
  code and every element but the module is referred to once.
-/
theorem transform_fails_for_source
    (options : Options)
    (config : Config String)
    (file source : String)
    (outline : Outline)
    (hConfig : Config.resolve options = .ok config)
    (hRead : Script.readModule source = .ok outline) :
    ((∃ output, transform config file source = .ok output) ∨
      ∃ diagnostic,
        transform config file source = .error diagnostic ∧
          diagnostic.code ∈
            ["JSX2TTL-ERR-TAG", "JSX2TTL-ERR-CONTEXT",
              "JSX2TTL-ERR-CHILD"]) ∧
    ∀ id node,
      (outline.plant source).get? id = some node →
        (∀ parent, node.parent = some parent → parent < id) ∧
          (id ≠ Tree.root → node.parent ≠ none) ∧
          (∀ target ∈ node.kind.targets, id < target) ∧
          (outline.plant source).targets.count id =
            if id ≠ Tree.root ∧ node.kind.bearsToken = true
            then 1
            else 0 := by
  refine ⟨?_, ?_⟩
  · simp only [transform, hRead, Outline.lower]
    cases hRun :
        (outline.plant source).lowerAll Host.text config with
    | ok lowered => exact Or.inl ⟨_, rfl⟩
    | error error =>
        have hSource :=
          outline.lowerAll_error source Host.text
            (Config.keepsKnown_of_resolve hConfig) hRun
        exact
          Or.inr
            ⟨_, rfl, LowerCause.code_of_isOfSource hSource⟩
  · intro id node hNode
    rcases Outline.plant_ordered source outline hNode with
      ⟨hParent, hPlaced, hTargets, _⟩
    refine ⟨hParent, hPlaced, hTargets, ?_⟩
    have hMember :=
      Outline.mem_plant_targets_iff source outline id
    simp only [Tree.bearsTokenAt, hNode] at hMember
    by_cases hOwned :
        id ≠ Tree.root ∧ node.kind.bearsToken = true
    · rw [if_pos hOwned]
      exact
        List.count_eq_one_of_mem
          (Outline.plant_targets_nodup source outline)
          (hMember.mpr hOwned)
    · rw [if_neg hOwned]
      exact
        List.count_eq_zero.mpr
          (fun hTarget => hOwned (hMember.mp hTarget))

/-
  Elements in the attribute and in the child of an element,
  and a component outside all declarations.
-/
def orphanSource : String :=
  "const f = () => <p id=\x7b<b/>\x7d>\x7b[<i/>]\x7d</p>; <Card/>;"

theorem transform_fails_for_source_orphan :
    ∃ config outline,
      Config.resolve
          ⟨"rt", "T", none, false, true, [.classNameToClass]⟩ =
        .ok config ∧
      Script.readModule orphanSource = .ok outline ∧
      (∃ diagnostic,
        transform config "a.jsx" orphanSource =
            .error diagnostic ∧
          diagnostic.code ∈
            ["JSX2TTL-ERR-TAG", "JSX2TTL-ERR-CONTEXT",
              "JSX2TTL-ERR-CHILD"]) ∧
      (outline.plant orphanSource).targets.count 6 = 1 := by
  have hConfig :
      Config.resolve
          ⟨"rt", "T", none, false, true, [.classNameToClass]⟩ =
        .ok
          (Config.install
            ⟨"rt", "T", "T", false, true, none, none⟩
            [.classNameToClass]) := rfl
  have hBears :
      (Script.readModule orphanSource).toOption.any
          (fun outline =>
            (outline.plant orphanSource).bearsTokenAt 6) =
        true := by
    decide +kernel
  have hFails :
      (transform
          (Config.install
            ⟨"rt", "T", "T", false, true, none, none⟩
            [.classNameToClass])
          "a.jsx" orphanSource).toOption = none := by
    decide +kernel
  cases hRead : Script.readModule orphanSource with
  | error error =>
      rw [hRead] at hBears
      cases hBears
  | ok outline =>
      rw [hRead] at hBears
      rcases (Tree.bearsTokenAt_iff _ _).mp hBears with
        ⟨node, hNode, hNodeBears⟩
      have hResult :=
        transform_fails_for_source _ _ "a.jsx" orphanSource
          outline hConfig hRead
      refine ⟨_, outline, hConfig, rfl, ?_, ?_⟩
      · rcases hResult.1 with ⟨output, hOutput⟩ | hDiagnostic
        · rw [hOutput] at hFails
          cases hFails
        · exact hDiagnostic
      · rw [(hResult.2 6 node hNode).2.2.2,
          if_pos ⟨Nat.succ_ne_zero 5, hNodeBears⟩]

end MarkupLowering
