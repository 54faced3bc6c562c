import MarkupLowering.Proofs.Config.Building

/-
  This file shows that only the set of the built-in transforms
  in the options matters, not their order and not how often
  they are named.

  One transform looks for a name that the other neither makes
  nor takes away, so they can be applied in either order, and
  each one leaves nothing to do for itself.  From there on only
  these two facts are used.  Nothing is asked of how the code of
  a style is read.

  Key definitions include:
    * `Builtin.applyAll`

  Key theorems include:
    * `Builtin.apply_apply`
    * `Builtin.apply_comm`
    * `Builtin.applyAll_congr`
    * `Config.resolved_transforms_by_membership`
-/

namespace MarkupLowering

------------------------------------------------------------
-- Single Transforms
------------------------------------------------------------

namespace NamedAttribute

theorem classNameToClass_of_eq
    {T : Type}
    {attr : NamedAttribute T}
    (hName : attr.name = "className") :
    attr.classNameToClass = { attr with name := "class" } :=
  if_pos hName

theorem classNameToClass_of_ne
    {T : Type}
    {attr : NamedAttribute T}
    (hName : attr.name ≠ "className") :
    attr.classNameToClass = attr :=
  if_neg hName

theorem styleObjectToCss_of_ne
    {attr : NamedAttribute String}
    (hName : attr.name ≠ "style") :
    attr.styleObjectToCss = attr :=
  if_neg hName

/- A style stays as it is, or its value becomes text. -/
theorem styleObjectToCss_cases
    (attr : NamedAttribute String) :
    attr.styleObjectToCss = attr ∨
      ∃ css,
        attr.styleObjectToCss =
          { attr with value := .text css } := by
  unfold styleObjectToCss
  split
  · split
    · split
      · rename_i css _
        exact Or.inr ⟨css, rfl⟩
      · exact Or.inl rfl
    · exact Or.inl rfl
  · exact Or.inl rfl

theorem styleObjectToCss_name
    (attr : NamedAttribute String) :
    attr.styleObjectToCss.name = attr.name := by
  rcases attr.styleObjectToCss_cases with hEq | ⟨css, hEq⟩ <;>
    rw [hEq]

/-
  An attribute called `className` is no style before or after
  it is renamed, and any other keeps its name.
-/
theorem classNameToClass_comm
    (attr : NamedAttribute String) :
    attr.classNameToClass.styleObjectToCss =
      attr.styleObjectToCss.classNameToClass := by
  by_cases hName : attr.name = "className"
  · have hStyle : attr.styleObjectToCss = attr := by
      apply styleObjectToCss_of_ne
      rw [hName]
      decide
    rw [hStyle, classNameToClass_of_eq hName]
    exact
      styleObjectToCss_of_ne
        (show "class" ≠ "style" by decide)
  · rw [classNameToClass_of_ne hName]
    apply Eq.symm
    apply classNameToClass_of_ne
    rw [attr.styleObjectToCss_name]
    exact hName

end NamedAttribute

namespace Builtin

/- A transform has no more to do where it was applied. -/
theorem apply_apply
    (builtin : Builtin)
    (attr : NamedAttribute String) :
    builtin.apply (builtin.apply attr) = builtin.apply attr := by
  cases builtin with
  | classNameToClass =>
      by_cases hName : attr.name = "className"
      · simp only [apply,
          NamedAttribute.classNameToClass_of_eq hName]
        exact
          NamedAttribute.classNameToClass_of_ne
            (show "class" ≠ "className" by decide)
      · simp only [apply,
          NamedAttribute.classNameToClass_of_ne hName]
  | styleObjectToCss =>
      simp only [apply]
      rcases attr.styleObjectToCss_cases with hEq | ⟨css, hEq⟩
      · rw [hEq, hEq]
      -- There is no code left in the value.
      · rw [hEq]
        unfold NamedAttribute.styleObjectToCss
        split <;> rfl

/- Two transforms can be applied in either order. -/
theorem apply_comm
    (first second : Builtin)
    (attr : NamedAttribute String) :
    first.apply (second.apply attr) =
      second.apply (first.apply attr) := by
  cases first <;> cases second
  · rfl
  · exact attr.classNameToClass_comm.symm
  · exact attr.classNameToClass_comm
  · rfl

theorem apply_span
    (builtin : Builtin)
    (attr : NamedAttribute String) :
    (builtin.apply attr).span = attr.span := by
  cases builtin with
  | classNameToClass =>
      simp only [apply, NamedAttribute.classNameToClass]
      split <;> rfl
  | styleObjectToCss =>
      rcases attr.styleObjectToCss_cases with hEq | ⟨css, hEq⟩ <;>
        simp only [apply, hEq]

------------------------------------------------------------
-- Lists of Transforms
------------------------------------------------------------

/- Apply transforms, the first one first. -/
def applyAll
    (builtins : List Builtin)
    (attr : NamedAttribute String) : NamedAttribute String :=
  attr.through (builtins.map apply)

theorem applyAll_cons
    (builtin : Builtin)
    (builtins : List Builtin)
    (attr : NamedAttribute String) :
    applyAll (builtin :: builtins) attr =
      applyAll builtins (builtin.apply attr) :=
  rfl

theorem applyAll_apply
    (builtins : List Builtin)
    (builtin : Builtin)
    (attr : NamedAttribute String) :
    applyAll builtins (builtin.apply attr) =
      builtin.apply (applyAll builtins attr) := by
  induction builtins generalizing attr with
  | nil => rfl
  | cons first rest ih =>
      rw [applyAll_cons, applyAll_cons, first.apply_comm, ih]

theorem applyAll_comm
    (first second : List Builtin)
    (attr : NamedAttribute String) :
    applyAll first (applyAll second attr) =
      applyAll second (applyAll first attr) := by
  induction first generalizing attr with
  | nil => rfl
  | cons builtin rest ih =>
      rw [applyAll_cons, applyAll_cons, ← applyAll_apply, ih]

/- A transform of the list has no more to do after the list. -/
theorem apply_applyAll
    {builtin : Builtin}
    {builtins : List Builtin}
    (hMem : builtin ∈ builtins)
    (attr : NamedAttribute String) :
    builtin.apply (applyAll builtins attr) =
      applyAll builtins attr := by
  induction builtins generalizing attr with
  | nil => cases hMem
  | cons first rest ih =>
      rw [applyAll_cons]
      rcases List.mem_cons.mp hMem with hFirst | hRest
      · rw [hFirst, ← applyAll_apply, first.apply_apply]
      · exact ih hRest (first.apply attr)

theorem applyAll_applyAll
    {part whole : List Builtin}
    (hSubset : part ⊆ whole)
    (attr : NamedAttribute String) :
    applyAll part (applyAll whole attr) = applyAll whole attr := by
  induction part with
  | nil => rfl
  | cons builtin rest ih =>
      rcases List.cons_subset.mp hSubset with ⟨hMem, hRest⟩
      rw [applyAll_cons, apply_applyAll hMem]
      exact ih hRest

/- Lists with the same members do the same. -/
theorem applyAll_congr
    {first second : List Builtin}
    (hSame : ∀ builtin, builtin ∈ first ↔ builtin ∈ second)
    (attr : NamedAttribute String) :
    applyAll first attr = applyAll second attr :=
  calc
    applyAll first attr
      = applyAll second (applyAll first attr) :=
        (applyAll_applyAll
          (fun _ hMem => (hSame _).mpr hMem) attr).symm
    _ = applyAll first (applyAll second attr) :=
        applyAll_comm second first attr
    _ = applyAll second attr :=
        applyAll_applyAll (fun _ hMem => (hSame _).mp hMem) attr

theorem applyAll_span
    (builtins : List Builtin)
    (attr : NamedAttribute String) :
    (applyAll builtins attr).span = attr.span := by
  induction builtins generalizing attr with
  | nil => rfl
  | cons builtin rest ih =>
      rw [applyAll_cons, ih, builtin.apply_span]

/- All transforms that are in the list, each of them once. -/
def present (builtins : List Builtin) : List Builtin :=
  [classNameToClass, styleObjectToCss].filter builtins.contains

theorem mem_present
    (builtins : List Builtin)
    (builtin : Builtin) :
    builtin ∈ present builtins ↔ builtin ∈ builtins := by
  unfold present
  cases builtin <;> simp

end Builtin

------------------------------------------------------------
-- Configurations
------------------------------------------------------------

namespace Config

theorem resolve_transformAttribute
    {options : Options}
    {config : Config String}
    (hConfig : Config.resolve options = .ok config)
    (attr : NamedAttribute String) :
    config.transformAttribute attr =
      Builtin.applyAll options.attributeTransforms attr := by
  rw [resolve_eq_ok hConfig, install_transformAttribute]
  rfl

/- Whether options are accepted is not up to their transforms. -/
theorem resolve_ok_of_transforms
    {options : Options}
    {config : Config String}
    (hConfig : Config.resolve options = .ok config)
    (builtins : List Builtin) :
    ∃ other,
      Config.resolve
          { options with attributeTransforms := builtins } =
        .ok other := by
  unfold Config.resolve Config.ofOptions at hConfig ⊢
  split at hConfig
  · cases hConfig
  split at hConfig
  · cases hConfig
  rename_i hPath hName
  exact ⟨_, by rw [if_neg hPath, if_neg hName]; rfl⟩

/-
  The transform of a configuration depends on which built-in
  transforms its options name.  Each of these is applied once,
  in whatever order and however often the options name them,
  and whatever else they say.  Applying the transform again
  changes nothing, and attributes stay where they are.
-/
theorem resolved_transforms_by_membership
    {options : Options}
    {config : Config String}
    (hConfig : Config.resolve options = .ok config) :
    (∀ attr,
      config.transformAttribute attr =
        attr.through
          ((Builtin.present
            options.attributeTransforms).map Builtin.apply)) ∧
      (∀ others other,
        Config.resolve others = .ok other →
        (∀ builtin,
          builtin ∈ others.attributeTransforms ↔
            builtin ∈ options.attributeTransforms) →
        ∀ attr,
          other.transformAttribute attr =
            config.transformAttribute attr) ∧
      (∀ builtins,
        ∃ other,
          Config.resolve
              { options with attributeTransforms := builtins } =
            .ok other) ∧
      (∀ attr,
        config.transformAttribute
            (config.transformAttribute attr) =
          config.transformAttribute attr) ∧
      ∀ attr, (config.transformAttribute attr).span = attr.span := by
  refine ⟨?_, ?_, resolve_ok_of_transforms hConfig, ?_, ?_⟩
  · intro attr
    rw [resolve_transformAttribute hConfig]
    exact
      (Builtin.applyAll_congr (Builtin.mem_present _) attr).symm
  · intro others other hOther hSame attr
    rw [resolve_transformAttribute hConfig,
      resolve_transformAttribute hOther]
    exact Builtin.applyAll_congr hSame attr
  · intro attr
    simp only [resolve_transformAttribute hConfig]
    exact Builtin.applyAll_applyAll (List.Subset.refl _) attr
  · intro attr
    rw [resolve_transformAttribute hConfig]
    exact Builtin.applyAll_span _ attr

theorem resolved_transforms_by_membership_shuffled :
    ∃ config other,
      Config.resolve
          ⟨"rt", "T", none, false, true,
            [.styleObjectToCss, .classNameToClass]⟩ =
        .ok config ∧
      Config.resolve
          ⟨"lib", "Html", some "html", true, false,
            [.classNameToClass, .styleObjectToCss,
              .classNameToClass]⟩ =
        .ok other ∧
      ∀ attr,
        other.transformAttribute attr =
            config.transformAttribute attr ∧
          config.transformAttribute
              (config.transformAttribute attr) =
            config.transformAttribute attr ∧
          (config.transformAttribute attr).span = attr.span := by
  have hConfig :
      Config.resolve
          ⟨"rt", "T", none, false, true,
            [.styleObjectToCss, .classNameToClass]⟩ =
        .ok
          (Config.install
            ⟨"rt", "T", "T", false, true, none, none⟩
            [.styleObjectToCss, .classNameToClass]) := rfl
  have hOther :
      Config.resolve
          ⟨"lib", "Html", some "html", true, false,
            [.classNameToClass, .styleObjectToCss,
              .classNameToClass]⟩ =
        .ok
          (Config.install
            ⟨"lib", "Html", "html", true, false, none, none⟩
            [.classNameToClass, .styleObjectToCss,
              .classNameToClass]) := rfl
  rcases resolved_transforms_by_membership hConfig with
    ⟨_, hSame, _, hAgain, hSpan⟩
  refine ⟨_, _, hConfig, hOther, ?_⟩
  intro attr
  refine ⟨hSame _ _ hOther ?_ attr, hAgain attr, hSpan attr⟩
  intro builtin
  cases builtin <;> decide

end Config

end MarkupLowering
