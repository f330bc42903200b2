import BeanContainer.Annotation.Basic
import BeanContainer.Class.Basic
/-!
# Synthetic beans

A bean that the caller describes instead of having it discovered. `BeanDefinition` is what is said
about it, built up by `BeanEdit`s; a `Bean` is a definition with an identity, so that two beans stay
apart even when everything said about them agrees.
-/

namespace BeanContainer

/-- Production logic: what its runs yield, counted from one. -/
structure Producer where
  run : Nat → Except String Json

namespace Producer

def constant (v : Json) : Producer := ⟨fun _ => .ok v⟩

def failing (text : String) : Producer := ⟨fun _ => .error text⟩

def counting : Producer := ⟨fun n => .ok (.integer n)⟩

end Producer

/-! ### Definitions -/

/-- The scope of a bean that is given none. -/
def defaultScope : String := "dependent"

/-- What is said about a bean. Whatever it is, the bean can be selected by its own class. -/
@[ext] structure BeanDefinition where
  implementation : ClassRef
  scope : String := defaultScope
  name : Option String := none
  qualifiers : List Annotation := []
  /-- The classes by which the bean can be selected, its own class first. -/
  types : List ClassRef
  alternative : Bool := false
  producer : Option Producer := none
  implementation_mem : implementation ∈ types

/-- One more thing said about a bean. -/
inductive BeanEdit where
  | scope (scope : String)
  | name (name : String)
  | qualifier (added : Annotation)
  | addType (type : ClassRef)
  | alternative (flag : Bool)
  | produceWith (producer : Producer)

namespace BeanDefinition

/-- A bean of which nothing is known but its class. -/
def ofClass (c : ClassRef) : BeanDefinition :=
  { implementation := c
    types := [c]
    implementation_mem := List.mem_singleton_self c }

instance : Inhabited BeanDefinition := ⟨ofClass default⟩

/-- Qualifiers and types accumulate, types without repetition; all else is replaced. -/
def apply (d : BeanDefinition) : BeanEdit → BeanDefinition
  | .scope s => { d with scope := s }
  | .name n => { d with name := some n }
  | .qualifier a => { d with qualifiers := d.qualifiers ++ [a] }
  | .addType c =>
    if d.types.contains c then d
    else
      { d with
        types := d.types ++ [c]
        implementation_mem := List.mem_append_left [c] d.implementation_mem }
  | .alternative b => { d with alternative := b }
  | .produceWith p => { d with producer := some p }

def edit (d : BeanDefinition) (edits : List BeanEdit) : BeanDefinition := edits.foldl apply d

@[simp] theorem edit_nil (d : BeanDefinition) : d.edit [] = d := rfl

@[simp] theorem edit_cons (d : BeanDefinition) (e : BeanEdit) (es : List BeanEdit) :
    d.edit (e :: es) = (d.apply e).edit es := rfl

theorem edit_append (d : BeanDefinition) (es fs : List BeanEdit) :
    d.edit (es ++ fs) = (d.edit es).edit fs := by
  simp [edit, List.foldl_append]

end BeanDefinition

/-! ### Identity -/

/-- What tells beans apart. -/
inductive BeanId where
  /-- A bean made on its own, by its serial number. -/
  | standalone (serial : Nat)
  /-- The bean that a builder makes of one of its entries. -/
  | configured (builder position : Nat)
  deriving DecidableEq, Inhabited, Repr

/-- A definition with an identity. Copies of a bean are the same bean. -/
structure Bean where
  id : BeanId
  definition : BeanDefinition

namespace Bean

def same (a b : Bean) : Bool := a.id == b.id

def implementation (b : Bean) : ClassRef := b.definition.implementation

def name (b : Bean) : Option String := b.definition.name

/-- The classes by which the bean can be selected. -/
def types (b : Bean) : List ClassRef := b.definition.types

def diagnostic (b : Bean) : String :=
  Text.openRecord "SyntheticBean"
    [("class", b.implementation.diagnostic), ("scope", Text.quote b.definition.scope),
     ("name", Text.optional Text.quote b.name),
     ("alternative", Text.truth b.definition.alternative)]

end Bean

end BeanContainer
