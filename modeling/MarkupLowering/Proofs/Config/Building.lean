import MarkupLowering.Style

/-
  This file shows what a configuration does that was built by
  steps in any order.  Attribute transforms add up: the first
  that was installed is applied first, and the built-in ones of
  the options come before all of them.  Of every other kind of
  step the last one counts.

  A step changes one part of a configuration, or leaves it as
  it is.  So each part of what was built is found by going
  through the steps that give something for it.

  Key definitions include:
    * `Config.Step`
    * `Config.build`
    * `NamedAttribute.through`

  Key theorems include:
    * `Config.view_build`
    * `Config.build_transformAttribute`
    * `Config.install_eq_build`
    * `Config.resolve_eq_ok`
    * `Config.Step.apply_comm`
    * `Config.resolved_build`
-/

namespace MarkupLowering

variable {T : Type}

/- An attribute after transforms, the first one first. -/
def NamedAttribute.through
    (attr : NamedAttribute T)
    (transforms :
      List (NamedAttribute T → NamedAttribute T)) :
    NamedAttribute T :=
  transforms.foldl (fun attr transform => transform attr) attr

/-
  The name that options bind the import to: the alias, unless
  it is blank, or else the name.
-/
def Options.localName (options : Options) : String :=
  (options.importAs.filter fun name => !isBlankText name).getD
    options.importName

theorem Options.localName_eq
    (options : Options) :
    options.localName =
      match options.importAs with
      | some name =>
          if isBlankText name then options.importName else name
      | none => options.importName := by
  unfold localName
  cases options.importAs with
  | none => rfl
  | some name =>
      cases hBlank : isBlankText name <;>
        simp [Option.filter, hBlank]

/- Of values that replace each other, the last one stays. -/
theorem foldl_replace
    {α : Type}
    (first : α)
    (values : List α) :
    values.foldl (fun _ value => value) first =
      values.getLast?.getD first := by
  induction values generalizing first with
  | nil => rfl
  | cons value rest ih =>
      rw [List.foldl_cons, ih, List.getLast?_cons,
        Option.getD_some]

namespace Config

------------------------------------------------------------
-- Steps
------------------------------------------------------------

/- A step in which a configuration is built. -/
inductive Step (T : Type) where
  | importAs (name : String)
  | defaultImport (isDefault : Bool)
  | constructorCall (construct : Bool)
  | attributeTransform
      (transform : NamedAttribute T → NamedAttribute T)
  | extraArgs (hook : Scope → List T)

namespace Step

/- The kinds of steps. -/
inductive Kind where
  | importAs
  | defaultImport
  | constructorCall
  | attributeTransform
  | extraArgs
deriving DecidableEq

def kind : Step T → Kind
  | importAs _ => .importAs
  | defaultImport _ => .defaultImport
  | constructorCall _ => .constructorCall
  | attributeTransform _ => .attributeTransform
  | extraArgs _ => .extraArgs

/- Take a step. -/
def apply
    (config : Config T) :
    Step T → Config T
  | importAs name => config.withImportAs name
  | defaultImport isDefault =>
      config.withDefaultImport isDefault
  | constructorCall construct =>
      config.withConstructorCall construct
  | attributeTransform transform =>
      config.withAttributeTransform transform
  | extraArgs hook => config.withExtraArgs hook

/- The name that the import is bound to. -/
def importAs? : Step T → Option String
  | importAs name => some name
  | _ => none

/- The choice of a default import. -/
def defaultImport? : Step T → Option Bool
  | defaultImport isDefault => some isDefault
  | _ => none

/- The choice of a construction. -/
def constructorCall? : Step T → Option Bool
  | constructorCall construct => some construct
  | _ => none

/- The transform that is installed. -/
def attributeTransform? :
    Step T → Option (NamedAttribute T → NamedAttribute T)
  | attributeTransform transform => some transform
  | _ => none

/- The hook that is installed. -/
def extraArgs? : Step T → Option (Scope → List T)
  | extraArgs hook => some hook
  | _ => none

/- Steps of different kinds can be taken in either order. -/
theorem apply_comm
    {first second : Step T}
    (hKind : first.kind ≠ second.kind)
    (config : Config T) :
    apply (apply config first) second =
      apply (apply config second) first := by
  cases first <;> cases second <;>
    simp only [kind, ne_eq, reduceCtorEq, not_true_eq_false,
      not_false_eq_true] at hKind <;>
    rfl

end Step

/- Take steps, one after the other. -/
def build
    (config : Config T)
    (steps : List (Step T)) : Config T :=
  steps.foldl Step.apply config

theorem build_append
    (config : Config T)
    (before after : List (Step T)) :
    config.build (before ++ after) =
      (config.build before).build after :=
  List.foldl_append

------------------------------------------------------------
-- Parts of a Configuration
------------------------------------------------------------

/-
  A view of the configuration that each step either updates by
  what it gives or leaves alone is updated by all that the steps
  give, in order.
-/
theorem view_build
    {α β : Type}
    (view : Config T → α)
    {given : Step T → Option β}
    {update : α → β → α}
    (hStep :
      ∀ config step,
        view (Step.apply config step) =
          (given step).elim (view config)
            (update (view config)))
    (config : Config T)
    (steps : List (Step T)) :
    view (config.build steps) =
      (steps.filterMap given).foldl update (view config) := by
  induction steps generalizing config with
  | nil => rfl
  | cons step rest ih =>
      have hRest := ih (Step.apply config step)
      rw [hStep] at hRest
      cases hGiven : given step with
      | none =>
          rw [List.filterMap_cons_none hGiven]
          rw [hGiven] at hRest
          exact hRest
      | some value =>
          rw [List.filterMap_cons_some hGiven]
          rw [hGiven] at hRest
          exact hRest

/- The last step that replaces a part of it counts. -/
theorem view_build_last
    {α : Type}
    {view : Config T → α}
    {given : Step T → Option α}
    (hStep :
      ∀ config step,
        view (Step.apply config step) =
          (given step).getD (view config))
    (config : Config T)
    (steps : List (Step T)) :
    view (config.build steps) =
      (steps.filterMap given).getLast?.getD (view config) := by
  rw [← foldl_replace]
  apply view_build view
  intro config step
  rw [hStep]
  cases given step <;> rfl

theorem build_importAs
    (config : Config T)
    (steps : List (Step T)) :
    (config.build steps).importAs =
      (steps.filterMap Step.importAs?).getLast?.getD
        config.importAs :=
  view_build_last (fun _ step => by cases step <;> rfl)
    config steps

theorem build_isDefaultImport
    (config : Config T)
    (steps : List (Step T)) :
    (config.build steps).isDefaultImport =
      (steps.filterMap Step.defaultImport?).getLast?.getD
        config.isDefaultImport :=
  view_build_last (fun _ step => by cases step <;> rfl)
    config steps

theorem build_useConstructorCall
    (config : Config T)
    (steps : List (Step T)) :
    (config.build steps).useConstructorCall =
      (steps.filterMap Step.constructorCall?).getLast?.getD
        config.useConstructorCall :=
  view_build_last (fun _ step => by cases step <;> rfl)
    config steps

theorem build_extraArgs
    (config : Config T)
    (steps : List (Step T)) :
    (config.build steps).extraArgs =
      (steps.filterMap Step.extraArgs?).getLast?.getD
        config.extraArgs :=
  view_build_last (fun _ step => by cases step <;> rfl)
    config steps

/- No step changes what is imported. -/
theorem build_import
    (config : Config T)
    (steps : List (Step T)) :
    (config.build steps).importPath = config.importPath ∧
      (config.build steps).importName = config.importName := by
  unfold build
  induction steps generalizing config with
  | nil => exact ⟨rfl, rfl⟩
  | cons step rest ih =>
      have hRest := ih (Step.apply config step)
      cases step <;> exact hRest

/- A new transform is applied to what the earlier ones give. -/
theorem withAttributeTransform_transformAttribute
    (config : Config T)
    (transform : NamedAttribute T → NamedAttribute T)
    (attr : NamedAttribute T) :
    (config.withAttributeTransform
        transform).transformAttribute attr =
      transform (config.transformAttribute attr) := by
  unfold transformAttribute withAttributeTransform
  cases config.attributeHook <;> rfl

/- Transforms are applied in the order of their installation. -/
theorem build_transformAttribute
    (config : Config T)
    (steps : List (Step T))
    (attr : NamedAttribute T) :
    (config.build steps).transformAttribute attr =
      (config.transformAttribute attr).through
        (steps.filterMap Step.attributeTransform?) := by
  apply view_build (fun config => config.transformAttribute attr)
  intro config step
  cases step with
  | attributeTransform transform =>
      exact
        withAttributeTransform_transformAttribute config
          transform attr
  | importAs name => rfl
  | defaultImport isDefault => rfl
  | constructorCall construct => rfl
  | extraArgs hook => rfl

------------------------------------------------------------
-- Configurations of Options
------------------------------------------------------------

/- Built-in transforms are installed by steps like all others. -/
theorem install_eq_build
    (config : Config String)
    (builtins : List Builtin) :
    config.install builtins =
      config.build
        (builtins.map fun builtin =>
          .attributeTransform builtin.apply) := by
  unfold install build
  rw [List.foldl_map]
  rfl

/- Built-in transforms are applied in the order of their list. -/
theorem install_transformAttribute
    (config : Config String)
    (builtins : List Builtin)
    (attr : NamedAttribute String) :
    (config.install builtins).transformAttribute attr =
      (config.transformAttribute attr).through
        (builtins.map Builtin.apply) := by
  rw [install_eq_build, build_transformAttribute,
    List.filterMap_map]
  exact
    congrArg (config.transformAttribute attr).through
      (congrFun List.filterMap_eq_map builtins)

/- Built-in transforms leave the rest of a configuration alone. -/
theorem install_keeps
    (config : Config String)
    (builtins : List Builtin) :
    config.install builtins =
      { config with
        attributeHook :=
          (config.install builtins).attributeHook } := by
  unfold install
  induction builtins generalizing config with
  | nil => rfl
  | cons builtin rest ih =>
      exact ih (config.withAttributeTransform builtin.apply)

/- Options that are accepted are taken over. -/
theorem resolve_eq_ok
    {options : Options}
    {config : Config String}
    (hConfig : Config.resolve options = .ok config) :
    config =
      Config.install
        { importPath := options.importPath
          importName := options.importName
          importAs := options.localName
          isDefaultImport := options.isDefaultImport
          useConstructorCall := options.useConstructorCall
          attributeHook := none
          extraArgsHook := none }
        options.attributeTransforms := by
  unfold Config.resolve Config.ofOptions at hConfig
  split at hConfig
  · cases hConfig
  split at hConfig
  · cases hConfig
  cases hConfig
  exact
    congrArg
      (fun name =>
        Config.install
          ⟨options.importPath, options.importName, name,
            options.isDefaultImport, options.useConstructorCall,
            none, none⟩
          options.attributeTransforms)
      options.localName_eq.symm

/-
  What a configuration does that was made of options and then
  built by steps in any order.  The built-in transforms of the
  options are applied in the order of their list, and after them
  the installed ones in the order of their installation.  Of the
  other kinds the last step counts, or else the options do.
  Nothing changes what is imported, and neighbouring steps of
  different kinds may change places.
-/
theorem resolved_build
    {options : Options}
    {config : Config String}
    (hConfig : Config.resolve options = .ok config)
    (steps : List (Step String)) :
    (∀ attr,
      (config.build steps).transformAttribute attr =
        attr.through
          (options.attributeTransforms.map Builtin.apply ++
            steps.filterMap Step.attributeTransform?)) ∧
      (∀ scope,
        (config.build steps).extraArgs scope =
          (steps.filterMap Step.extraArgs?).getLast?.elim []
            (fun hook => hook scope)) ∧
      (config.build steps).importAs =
        (steps.filterMap Step.importAs?).getLast?.getD
          options.localName ∧
      (config.build steps).isDefaultImport =
        (steps.filterMap Step.defaultImport?).getLast?.getD
          options.isDefaultImport ∧
      (config.build steps).useConstructorCall =
        (steps.filterMap Step.constructorCall?).getLast?.getD
          options.useConstructorCall ∧
      (config.build steps).importPath = options.importPath ∧
      (config.build steps).importName = options.importName ∧
      ∀ before after first second,
        first.kind ≠ second.kind →
          config.build (before ++ first :: second :: after) =
            config.build
              (before ++ second :: first :: after) := by
  have hMade := resolve_eq_ok hConfig
  have hKeeps := hMade.trans (install_keeps _ _)
  refine ⟨?_, ?_, ?_, ?_, ?_, ?_, ?_, ?_⟩
  · intro attr
    rw [build_transformAttribute, hMade,
      install_transformAttribute]
    exact List.foldl_append.symm
  · intro scope
    rw [build_extraArgs, hKeeps]
    cases (steps.filterMap Step.extraArgs?).getLast? <;> rfl
  · rw [build_importAs, hKeeps]
  · rw [build_isDefaultImport, hKeeps]
  · rw [build_useConstructorCall, hKeeps]
  · rw [(config.build_import steps).1, hKeeps]
  · rw [(config.build_import steps).2, hKeeps]
  · intro before after first second hKind
    have hSwap :=
      Step.apply_comm hKind (config.build before)
    rw [build_append, build_append]
    exact congrArg (fun built => built.build after) hSwap

/- Steps of several kinds, some kinds more than once. -/
def mixedSteps : List (Step String) :=
  [.importAs "a",
    .attributeTransform fun attr =>
      { attr with name := attr.name ++ "x" },
    .constructorCall false, .extraArgs fun _ => ["1"],
    .importAs "b",
    .attributeTransform fun attr =>
      { attr with name := "(" ++ attr.name ++ ")" },
    .extraArgs fun _ => ["2", "3"]]

theorem resolved_build_mixed :
    ∃ config,
      Config.resolve
          ⟨"rt", "T", some " ", true, true,
            [.classNameToClass]⟩ =
        .ok config ∧
      ((config.build mixedSteps).transformAttribute
          ⟨"className", .empty, ⟨1, 2⟩⟩).name =
        "(classx)" ∧
      (config.build mixedSteps).extraArgs .unknown =
        ["2", "3"] ∧
      (config.build mixedSteps).importAs = "b" ∧
      (config.build mixedSteps).isDefaultImport = true ∧
      (config.build mixedSteps).useConstructorCall = false ∧
      config.importAs = "T" := by
  have hConfig :
      Config.resolve
          ⟨"rt", "T", some " ", true, true,
            [.classNameToClass]⟩ =
        .ok
          (Config.install
            ⟨"rt", "T", "T", true, true, none, none⟩
            [.classNameToClass]) := rfl
  rcases resolved_build hConfig mixedSteps with
    ⟨hAttr, hArgs, hName, hDefault, hCall, _⟩
  refine ⟨_, hConfig, ?_, ?_, ?_, ?_, ?_, rfl⟩
  · rw [hAttr]
    rfl
  · exact hArgs .unknown
  · exact hName
  · exact hDefault
  · exact hCall

end Config

end MarkupLowering
