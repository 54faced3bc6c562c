import MarkupLowering.Program
import MarkupLowering.Text.Blank

/-
  This file gives names to the declarations of a module.

  A declaration goes by its own name, or by that of the
  variable whose value it is.  On the way through a module, a
  table tells the names of variables by the offsets at which
  their values begin.  Another one tells which functions are
  methods: these are no scopes, so that a method does not
  stand between an element and its class.

  Key definitions include:
    * `Names`
    * `Names.record`
    * `Names.declaration?`
    * `namePieces`
    * `Program.outline`
-/

namespace MarkupLowering

------------------------------------------------------------
-- Classes
------------------------------------------------------------

/-
  The names of what a class extends: a name, the names in an
  array, or the text of a member.
-/
def Superclass.names
    (source : List Char) : Superclass → List String
  | name text => [text]
  | array elements => elements.filterMap id
  | member span => [String.ofList (span.charsOf source)]
  | other => []

/-
  The name of an interface: its text before the first angle
  bracket, without blanks around it.
-/
def interfaceName (text : List Char) : String :=
  String.ofList
    (Text.trimChars (text.takeWhile (· != '<')))

/- A class with the names of what it extends and implements. -/
def classScope
    (source : List Char)
    (name? : Option String)
    (superclass : Option Superclass)
    (interfaces : List Span) : ClassScope :=
  { name := name?
    superclassNames :=
      (superclass.map (·.names source)).getD []
    interfaceNames :=
      interfaces.map fun span =>
        interfaceName (span.charsOf source) }

------------------------------------------------------------
-- Declarations
------------------------------------------------------------

namespace Construct

/-
  The scope that a construct makes, given the variable whose
  value it is and whether it is a method.  A function or class
  goes by its own name if it has one.
-/
def declaration?
    (source : List Char)
    (bound? : Option String)
    (isMethod : Bool) : Construct → Option Declaration
  | arrow span => some ⟨span, .ofFunction ⟨bound?, true⟩⟩
  | function span name? =>
      if isMethod then
        none
      else
        some ⟨span, .ofFunction ⟨name?.or bound?, false⟩⟩
  | ofClass span name? superclass interfaces =>
      let scope :=
        classScope source (name?.or bound?) superclass
          interfaces
      some ⟨span, .ofClass scope⟩
  | _ => none

/- Where a declaration begins that has no name of its own. -/
def namelessStart? : Construct → Option Nat
  | arrow span => some span.start
  | function span none => some span.start
  | ofClass span none _ _ => some span.start
  | _ => none

/- Where a function begins. -/
def functionStart? : Construct → Option Nat
  | function span _ => some span.start
  | _ => none

end Construct

------------------------------------------------------------
-- Tables
------------------------------------------------------------

section Heads

variable {H : Type}

/- The head of a piece. -/
def Piece.head? : Piece H → Option H
  | .group head _ => some head
  | .markup _ => none

/- The heads of pieces, without what is inside them. -/
def outerHeads (pieces : List (Piece H)) : List H :=
  pieces.filterMap Piece.head?

end Heads

/-
  What is known of declarations by the offsets at which they
  begin: the variables whose values they are, latest first,
  and which of them are methods.
-/
structure Names where
  bindings : List (Nat × String)
  methods : List Nat

namespace Names

/- Nothing is known at first. -/
def empty : Names :=
  ⟨[], []⟩

/- The variable whose value begins at an offset. -/
def nameAt?
    (names : Names)
    (start : Nat) : Option String :=
  names.bindings.lookup start

/- Add the values of a variable. -/
def bind
    (names : Names)
    (name : String)
    (values : List Construct) : Names :=
  let starts := values.filterMap Construct.namelessStart?
  { names with
    bindings := starts.map (·, name) ++ names.bindings }

/- Add functions that are methods. -/
def mark
    (names : Names)
    (values : List Construct) : Names :=
  let starts := values.filterMap Construct.functionStart?
  { names with methods := starts ++ names.methods }

/- Add what a construct tells of the values in it. -/
def record
    (names : Names)
    (head : Construct)
    (values : List Construct) : Names :=
  match head with
  | .binding (some name) => names.bind name values
  | .method => names.mark values
  | .property isMethod kind =>
      if isMethod || kind != .plain then
        names.mark values
      else
        names
  | _ => names

/- The scope that a construct makes, if it makes one. -/
def declaration?
    (names : Names)
    (source : List Char)
    (head : Construct) : Option Declaration :=
  head.declaration? source
    (head.start?.bind names.nameAt?)
    (head.start?.any names.methods.contains)

end Names

------------------------------------------------------------
-- Naming
------------------------------------------------------------

mutual

/-
  Give names to the declarations in pieces.  What makes no
  scope is replaced by what it holds.
-/
def namePieces
    (source : List Char) :
    List (Piece Construct) →
    Names → List (Piece Declaration) × Names
  | [], names => ([], names)
  | piece :: pieces, names =>
      let (first, names) := namePiece source piece names
      let (others, names) := namePieces source pieces names
      (first ++ others, names)

def namePiece
    (source : List Char) :
    Piece Construct →
    Names → List (Piece Declaration) × Names
  | .group head body, names =>
      let (inside, after) :=
        namePieces source body
          (names.record head (outerHeads body))
      match names.declaration? source head with
      | none => (inside, after)
      | some declaration =>
          ([.group declaration inside], after)
  | .markup element, names =>
      let (element, names) := nameMarkup source element names
      ([.markup element], names)

def nameMarkup
    (source : List Char) :
    Markup Construct → Names → Markup Declaration × Names
  | .mk span tag attributes content, names =>
      let (attributes, names) :=
        nameAttributes source attributes names
      let (content, names) := nameContent source content names
      (.mk span tag attributes content, names)

def nameAttributes
    (source : List Char) :
    List (MarkupAttribute Construct) →
    Names → List (MarkupAttribute Declaration) × Names
  | [], names => ([], names)
  | attr :: rest, names =>
      let (attr, names) := nameAttribute source attr names
      let (others, names) := nameAttributes source rest names
      (attr :: others, names)

def nameAttribute
    (source : List Char) :
    MarkupAttribute Construct →
    Names → MarkupAttribute Declaration × Names
  | .absent name span, names => (.absent name span, names)
  | .text name value span, names =>
      (.text name value span, names)
  | .empty name span, names => (.empty name span, names)
  | .code name value span, names =>
      let (value, names) := nameCode source value names
      (.code name value span, names)
  | .markup name value span, names =>
      let (value, names) := nameMarkup source value names
      (.markup name value span, names)
  | .spread argument span, names =>
      let (argument, names) := nameCode source argument names
      (.spread argument span, names)

def nameContent
    (source : List Char) :
    Option (List (MarkupChild Construct)) →
    Names → Option (List (MarkupChild Declaration)) × Names
  | none, names => (none, names)
  | some children, names =>
      let (children, names) := nameChildren source children names
      (some children, names)

def nameChildren
    (source : List Char) :
    List (MarkupChild Construct) →
    Names → List (MarkupChild Declaration) × Names
  | [], names => ([], names)
  | child :: rest, names =>
      let (child, names) := nameChild source child names
      let (others, names) := nameChildren source rest names
      (child :: others, names)

def nameChild
    (source : List Char) :
    MarkupChild Construct →
    Names → MarkupChild Declaration × Names
  | .text value span, names => (.text value span, names)
  | .code value span, names =>
      let (value, names) := nameCode source value names
      (.code value span, names)
  | .empty span, names => (.empty span, names)
  | .markup element, names =>
      let (element, names) := nameMarkup source element names
      (.markup element, names)
  | .spread span, names => (.spread span, names)

def nameCode
    (source : List Char) :
    Code Construct → Names → Code Declaration × Names
  | .mk span pieces, names =>
      let (pieces, names) := namePieces source pieces names
      (.mk span pieces, names)

end

/- The outline of a module, with the names of declarations. -/
def Program.outline
    (program : Program)
    (source : String) : Outline :=
  let (pieces, _) :=
    namePieces source.toList program.pieces Names.empty
  ⟨program.hashbang, program.directives, pieces⟩

end MarkupLowering
