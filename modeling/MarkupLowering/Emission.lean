import MarkupLowering.Lowering
import MarkupLowering.Text.Quoted

/-
  This file writes lowered elements and the import as source
  text.

  Key definitions include:
    * `Emission.propertyKey`
    * `Emission.propsObject`
    * `Emission.componentCall`
    * `Emission.templateCall`
    * `Emission.lowered`
    * `Emission.importStatement`
-/

namespace MarkupLowering.Emission

/- A key is written bare when it is a word, else in quotes. -/
def propertyKey (key : String) : String :=
  if isWord key then
    key
  else
    Text.Quoted.literal key

/- The value of a property. -/
def propertyValue : PropertyValue String → String
  | .text value => Text.Quoted.literal value
  | .null => "null"
  | .expression token => token

/- A property. -/
def property : Property String → String
  | .entry key value => propertyKey key ++ ": " ++ propertyValue value
  | .spread argument => "..." ++ argument

/- The object of all properties. -/
def propsObject (props : List (Property String)) : String :=
  if props.isEmpty then
    "\x7b\x7d"
  else
    "\x7b " ++ ", ".intercalate (props.map property) ++ " \x7d"

/- The use of a component. -/
def componentCall (call : ComponentCall String) : String :=
  match call.style with
  | .invoke => call.tag ++ "(" ++ propsObject call.props ++ ")"
  | .constructAndRender =>
      "new " ++ call.tag ++ "(" ++ propsObject call.props ++ ").render()"

/- A list of items between brackets. -/
def bracketed (items : List String) : String :=
  "[" ++ ", ".intercalate items ++ "]"

/- A call that carries a template. -/
def templateCall (call : TemplateCall String) : String :=
  let arguments :=
    bracketed (call.form.statics.map Text.Quoted.literal)
      :: bracketed call.form.dynamics
      :: call.form.extraArgs
  (if call.construct then "new " else "")
    ++ call.callee ++ "(" ++ ", ".intercalate arguments ++ ")"

/- A lowered element. -/
def lowered : Lowered String → String
  | .component call => componentCall call
  | .template call => templateCall call

/- The import that template calls refer to. -/
def importStatement {T : Type} (config : Config T) : String :=
  let path := Text.Quoted.literal config.importPath
  if config.isDefaultImport then
    "import " ++ config.importAs ++ " from " ++ path ++ ";"
  else if config.importAs = config.importName then
    "import \x7b " ++ config.importName ++ " \x7d from " ++ path ++ ";"
  else
    "import \x7b " ++ config.importName ++ " as " ++ config.importAs
      ++ " \x7d from " ++ path ++ ";"

end MarkupLowering.Emission
