import BeanContainer.Class.Basic
/-!
# Class descriptors from declarations

A type declaration may carry attributes. Those named `bean` describe the class that the type stands
for: options declare roles, and one option replaces the name, which is otherwise the path of the
type. `Declaration.descriptor` reads the attributes in order and stops at the first option that it
cannot accept.
-/

namespace BeanContainer

/-- What is written behind the equals sign of an option. -/
inductive Literal where
  | text (s : String)
  | integer (n : Int)
  /-- A literal of another kind, or no literal at all. -/
  | other
  deriving DecidableEq

/-- One option of an attribute, with or without a value. -/
structure AttributeOption where
  name : String
  value : Option Literal := none
  deriving DecidableEq

/-- What follows the path of an attribute. -/
inductive AttributeForm where
  | bare
  | assigned (value : String)
  /-- Parentheses around options with commas between them. -/
  | options (items : List AttributeOption)
  /-- The same, but where a comma should follow the last of these options, something else does. No
  option beyond it can be told. -/
  | unseparated (front : List AttributeOption) (last : AttributeOption)
  deriving DecidableEq

structure Attribute where
  path : String
  form : AttributeForm
  deriving DecidableEq

structure Declaration where
  ident : String
  /-- The text of its generic parameters with their brackets, empty if there are none. -/
  generics : String := ""
  attributes : List Attribute := []
  deriving DecidableEq

/-- Why a declaration describes no class. -/
inductive DeclarationError where
  | generic
  | missingArguments
  | assignedArguments
  | nameWithoutValue
  | nameNotText
  | emptyName
  /-- What follows an option does not belong to it. -/
  | leftover
  | unknownOption
  deriving DecidableEq, Repr

def DeclarationError.message : DeclarationError → String
  | .generic => "Generic types are not supported"
  | .missingArguments => "expected attribute arguments in parentheses: #[bean(...)]"
  | .assignedArguments => "expected parentheses: #[bean(...)]"
  | .nameWithoutValue => "expected `=`"
  | .nameNotText => "expected string literal"
  | .emptyName => "Bean class name must not be empty"
  | .leftover => "expected `,`"
  | .unknownOption => "Unsupported #[bean] option"

/-- The name of a described class. -/
inductive DescriptorName where
  | given (name : String)
  /-- The path of the module that the type stands in, followed by its identifier. -/
  | pathOf (ident : String)
  deriving DecidableEq

/-- The class name, for a type that stands in the given module. -/
def DescriptorName.resolve (modulePath : String) : DescriptorName → String
  | .given name => name
  | .pathOf ident => modulePath ++ "::" ++ ident

/-- What a declaration says about its class. -/
structure Descriptor where
  name : DescriptorName
  markers : Markers
  deriving DecidableEq

/-- The class of a type that stands in the given module. -/
def Descriptor.reference (modulePath : String) (d : Descriptor) : ClassRef :=
  ⟨⟨d.name.resolve modulePath, .system⟩, d.markers⟩

namespace Declaration

def attributePath : String := "bean"

def nameOption : String := "name"

/-- Whether the generic parameters are more than empty brackets. -/
def isGeneric (d : Declaration) : Bool :=
  d.generics.toList.any fun c => c != '<' && c != '>' && !c.isWhitespace

/-- What the options read so far amount to. -/
structure Options where
  name : Option String := none
  markers : Markers := {}
  deriving DecidableEq

def Options.read (o : Options) (item : AttributeOption) : Except DeclarationError Options :=
  match Role.ofName? item.name with
  | some role =>
    if item.value.isSome then .error .leftover
    else .ok { o with markers := o.markers.declare role }
  | none =>
    if item.name = nameOption then
      match item.value with
      | none => .error .nameWithoutValue
      | some (.text s) => if s.isEmpty then .error .emptyName else .ok { o with name := some s }
      | some _ => .error .nameNotText
    else .error .unknownOption

/-- Take in the options of one attribute; attributes with other paths say nothing. -/
def Options.readAttribute (o : Options) (a : Attribute) : Except DeclarationError Options :=
  if a.path = attributePath then
    match a.form with
    | .bare => .error .missingArguments
    | .assigned _ => .error .assignedArguments
    | .options items => items.foldlM Options.read o
    | .unseparated front last => do
      discard ((front ++ [last]).foldlM Options.read o)
      .error .leftover
  else .ok o

def options (d : Declaration) : Except DeclarationError Options :=
  d.attributes.foldlM Options.readAttribute {}

/-- The class that a declaration describes. -/
def descriptor (d : Declaration) : Except DeclarationError Descriptor :=
  if d.isGeneric then .error .generic
  else
    d.options.map fun o =>
      ⟨match o.name with
        | some name => .given name
        | none => .pathOf d.ident, o.markers⟩

end Declaration

end BeanContainer
