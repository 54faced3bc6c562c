import MarkupLowering.Proofs.Config.Building
import MarkupLowering.Proofs.Emission.TemplateCalls
import MarkupLowering.Proofs.Template.TagNames

/-
  This file shows that the import and the calls agree.  What
  an import does can be read back from its text, and the name
  that it binds is the one that every template call calls, in
  whatever steps the configuration was built.

  Key definitions include:
    * `Binding`
    * `Config.binding`
    * `Emission.readImport`

  Key theorems include:
    * `Emission.readName_append`
    * `Emission.readSource_sourceChars`
    * `Emission.readImport_importStatement`
    * `Config.build_binding`
    * `Element.lower_callee`
    * `Emission.import_binds_callee`
-/

namespace MarkupLowering

variable {T : Type}

------------------------------------------------------------
-- Bindings
------------------------------------------------------------

/-
  What an import does: the module that it reads, what it takes
  of it, where nothing stands for the default, and the name that
  it binds.
-/
structure Binding where
  path : String
  exported : Option String
  localName : String
deriving DecidableEq, Repr

/- What the import of a configuration does. -/
def Config.binding (config : Config T) : Binding where
  path := config.importPath
  exported :=
    if config.isDefaultImport then none else some config.importName
  localName := config.importAs

namespace Emission

------------------------------------------------------------
-- Reading an Import
------------------------------------------------------------

/- The characters behind a text that has to stand in front. -/
def dropText : List Char → List Char → Option (List Char)
  | [], cs => some cs
  | c :: text, d :: cs => if c = d then dropText text cs else none
  | _ :: _, [] => none

/- The identifier up to a space, and what follows it. -/
def readName (cs : List Char) : Option (String × List Char) :=
  let name := String.ofList (cs.takeWhile (· != ' '))
  if isIdentifier name then
    some (name, cs.dropWhile (· != ' '))
  else
    none

/- The end of an import: the path, between quotes. -/
def readSource
    (exported : Option String)
    (localName : String)
    (cs : List Char) : Option Binding := do
  let behind ← dropText " from ".toList cs
  match Text.Quoted.read behind with
  | some (path, [';']) =>
      some ⟨String.ofList path, exported, localName⟩
  | _ => none

/- The end of a named import, behind the name in the module. -/
def readAlias
    (exported : String)
    (cs : List Char) : Option Binding :=
  match dropText " as ".toList cs with
  | some behind => do
      let (localName, rest) ← readName behind
      readSource (some exported) localName
        (← dropText " \x7d".toList rest)
  | none => do
      readSource (some exported) exported
        (← dropText " \x7d".toList cs)

/-
  The import of a text.  It has one of three forms: a name for
  the default, a name between braces, or such a name with
  another one that it is bound to.
-/
def readImport (text : String) : Option Binding := do
  let cs ← dropText "import ".toList text.toList
  match dropText "\x7b ".toList cs with
  | some inside => do
      let (exported, rest) ← readName inside
      readAlias exported rest
  | none => do
      let (localName, rest) ← readName cs
      readSource none localName rest

------------------------------------------------------------
-- Parts of an Import
------------------------------------------------------------

theorem dropText_append
    (text rest : List Char) :
    dropText text (text ++ rest) = some rest := by
  induction text with
  | nil => rfl
  | cons c text ih => simpa [dropText] using ih

/- No identifier is taken for an opening brace. -/
theorem dropText_brace
    {name : String}
    (hName : isIdentifier name = true)
    (rest : List Char) :
    dropText "\x7b ".toList (name.toList ++ rest) = none := by
  cases hChars : name.toList with
  | nil =>
      rw [isIdentifier, hChars] at hName
      cases hName
  | cons c cs =>
      have hBrace : '\x7b' ≠ c := by
        intro hEq
        have hMem : '\x7b' ∈ name.toList := by
          rw [hChars, hEq]
          exact List.mem_cons_self
        exact isIdentifier_not_mem hName (by decide) hMem
      exact if_neg hBrace

/- An identifier is read up to the space behind it. -/
theorem readName_append
    {name : String}
    (hName : isIdentifier name = true)
    {rest : List Char}
    (hRest : rest.head? = some ' ') :
    readName (name.toList ++ rest) = some (name, rest) := by
  have hChars : ∀ c ∈ name.toList, (c != ' ') = true := by
    intro c hMem
    rw [bne_iff_ne]
    intro hEq
    rw [hEq] at hMem
    exact isIdentifier_not_mem hName (by decide) hMem
  rcases List.head?_eq_some_iff.mp hRest with ⟨behind, rfl⟩
  rw [readName, List.takeWhile_append_of_pos hChars,
    List.dropWhile_append_of_pos hChars, List.takeWhile_cons,
    List.dropWhile_cons]
  simp [hName]

/- The end of an import. -/
def sourceChars (path : String) : List Char :=
  " from ".toList ++ ((Text.Quoted.literal path).toList ++ [';'])

/- The path is read back, whatever its characters are. -/
theorem readSource_sourceChars
    (exported : Option String)
    (localName path : String) :
    readSource exported localName (sourceChars path) =
      some ⟨path, exported, localName⟩ := by
  unfold readSource sourceChars
  rw [dropText_append, Text.Quoted.literal, String.toList_ofList]
  simp only [Option.bind_eq_bind, Option.bind_some,
    Text.Quoted.read_literalChars, String.ofList_toList]

theorem readAlias_self
    (exported path : String) :
    readAlias exported (" \x7d".toList ++ sourceChars path) =
      some ⟨path, some exported, exported⟩ := by
  have hAs :
      dropText " as ".toList (" \x7d".toList ++ sourceChars path) =
        none := rfl
  rw [readAlias, hAs]
  simp only [Option.bind_eq_bind, dropText_append,
    Option.bind_some, readSource_sourceChars]

theorem readAlias_other
    (exported path : String)
    {localName : String}
    (hName : isIdentifier localName = true) :
    readAlias exported
        (" as ".toList ++
          (localName.toList ++
            (" \x7d".toList ++ sourceChars path))) =
      some ⟨path, some exported, localName⟩ := by
  rw [readAlias, dropText_append]
  simp only [Option.bind_eq_bind]
  rw [readName_append hName rfl, Option.bind_some,
    dropText_append, Option.bind_some, readSource_sourceChars]

------------------------------------------------------------
-- The Import of a Configuration
------------------------------------------------------------

/- What is imported, and the name that it is bound to. -/
def clauseChars (config : Config T) : List Char :=
  if config.isDefaultImport then
    config.importAs.toList
  else if config.importAs = config.importName then
    "\x7b ".toList ++ (config.importName.toList ++ " \x7d".toList)
  else
    "\x7b ".toList ++
      (config.importName.toList ++
        (" as ".toList ++
          (config.importAs.toList ++ " \x7d".toList)))

theorem importStatement_toList
    (config : Config T) :
    (importStatement config).toList =
      "import ".toList ++
        (clauseChars config ++ sourceChars config.importPath) := by
  unfold importStatement clauseChars sourceChars
  split
  · simp [String.toList_append]
  split
  · simp [String.toList_append]
  · simp [String.toList_append]

/- The import of a configuration is read back. -/
theorem readImport_importStatement
    {config : Config T}
    (hName : isIdentifier config.importName = true)
    (hAlias : isIdentifier config.importAs = true) :
    readImport (importStatement config) = some config.binding := by
  rw [readImport, importStatement_toList, dropText_append,
    clauseChars, Config.binding]
  simp only [Option.bind_eq_bind, Option.bind_some]
  by_cases hDefault : config.isDefaultImport = true
  · rw [if_pos hDefault, if_pos hDefault, dropText_brace hAlias]
    change (readName _).bind _ = _
    rw [readName_append hAlias rfl, Option.bind_some,
      readSource_sourceChars]
  rw [if_neg hDefault, if_neg hDefault]
  by_cases hSame : config.importAs = config.importName
  · rw [if_pos hSame, List.append_assoc, dropText_append, hSame]
    simp only [List.append_assoc]
    rw [readName_append hName rfl, Option.bind_some,
      readAlias_self]
  · rw [if_neg hSame, List.append_assoc, dropText_append]
    simp only [List.append_assoc]
    rw [readName_append hName rfl, Option.bind_some,
      readAlias_other _ _ hAlias]

end Emission

------------------------------------------------------------
-- Calls
------------------------------------------------------------

/- What the import does after steps that build a configuration. -/
theorem Config.build_binding
    (config : Config T)
    (steps : List (Config.Step T)) :
    (config.build steps).binding =
      { path := config.importPath
        exported :=
          if (steps.filterMap Step.defaultImport?).getLast?.getD
              config.isDefaultImport then
            none
          else
            some config.importName
        localName :=
          (steps.filterMap Step.importAs?).getLast?.getD
            config.importAs } := by
  rcases config.build_import steps with ⟨hPath, hName⟩
  rw [binding, hPath, hName, build_isDefaultImport,
    build_importAs]

/- Every template is called under the name of the import. -/
theorem Element.lower_callee
    {config : Config T}
    {element : Element T}
    {scope : Scope}
    {call : TemplateCall T}
    (hLower : element.lower config scope = .ok (.template call)) :
    call.callee = config.importAs := by
  have hTag := (lower_template hLower).1
  rcases lower_eq_template hTag hLower with ⟨form, _, hCall⟩
  cases hCall
  rfl

namespace Emission

/-
  The import and the calls agree, in whatever steps a
  configuration was built.  The import is read back from its
  text: the path, the name in the module unless it is the
  default, and the name that it binds.  No step changes the path
  and the name in the module, and of all else the last step
  counts.  Every element that becomes a template calls the name
  that the import binds.
-/
theorem import_binds_callee
    (config : Config T)
    (steps : List (Config.Step T))
    (hName : isIdentifier (config.build steps).importName = true)
    (hAlias : isIdentifier (config.build steps).importAs = true) :
    readImport (importStatement (config.build steps)) =
        some (config.build steps).binding ∧
      (config.build steps).binding =
        { path := config.importPath
          exported :=
            if (steps.filterMap
                  Config.Step.defaultImport?).getLast?.getD
                config.isDefaultImport then
              none
            else
              some config.importName
          localName :=
            (steps.filterMap Config.Step.importAs?).getLast?.getD
              config.importAs } ∧
      ∀ element scope call,
        Element.lower (config.build steps) element scope =
            .ok (.template call) →
          call.callee = (config.build steps).binding.localName := by
  refine
    ⟨readImport_importStatement hName hAlias,
      config.build_binding steps, ?_⟩
  intro element scope call hLower
  exact Element.lower_callee hLower

/- A configuration whose path has quotes and a line feed. -/
def quotedPath : Config String :=
  ⟨"a\" from \"b\n", "Template", "Template", true, true, none, none⟩

/- Steps that change the alias and the kind of the import twice. -/
def aliasSteps : List (Config.Step String) :=
  [.importAs "as", .defaultImport true, .importAs "$from",
    .defaultImport false]

/- An element that becomes a template. -/
def lineBreak : Element String :=
  ⟨.identifier "br", [], [], false, ⟨0, 5⟩⟩

theorem import_binds_callee_renamed :
    importStatement (quotedPath.build aliasSteps) =
        "import \x7b Template as $from \x7d "
          ++ "from \"a\\\" from \\\"b\\n\";" ∧
      readImport (importStatement (quotedPath.build aliasSteps)) =
        some ⟨"a\" from \"b\n", some "Template", "$from"⟩ ∧
      lineBreak.lower (quotedPath.build aliasSteps) .unknown =
        .ok (.template ⟨"$from", true, ⟨["<br />"], [], []⟩⟩) ∧
      "$from" = (quotedPath.build aliasSteps).binding.localName := by
  have hName :
      isIdentifier (quotedPath.build aliasSteps).importName =
        true := by
    decide +kernel
  have hAlias :
      isIdentifier (quotedPath.build aliasSteps).importAs =
        true := by
    decide +kernel
  have hLower :
      lineBreak.lower (quotedPath.build aliasSteps) .unknown =
        .ok (.template ⟨"$from", true, ⟨["<br />"], [], []⟩⟩) := by
    rfl
  rcases import_binds_callee quotedPath aliasSteps hName hAlias with
    ⟨hRead, hBinding, hCalls⟩
  refine ⟨by decide +kernel, ?_, hLower, ?_⟩
  · rw [hRead, hBinding]
    rfl
  · exact hCalls lineBreak .unknown _ hLower

end Emission

end MarkupLowering
