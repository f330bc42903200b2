import BeanContainer.Annotation.Basic
import BeanContainer.Keyed
/-!
# Edits of annotations

The annotations of a type and its members (`TypeMetadata`) result from replaying edits. An element
carries at most one annotation of each name: adding one replaces its namesake in place, removing one
leaves the order of the others alone.

An element that has been edited keeps its entry, even when all its annotations have been removed one
by one; only `removeAll` drops the entry. Comparing metadata compares the entries.
-/

namespace BeanContainer

/-- A change to the annotations of one element. -/
inductive Edit where
  | add (target : Target) (added : Annotation)
  | remove (target : Target) (name : String)
  | removeAll (target : Target)
  deriving BEq, Inhabited

namespace Edit

def target : Edit → Target
  | .add t _ => t
  | .remove t _ => t
  | .removeAll t => t

def hasEmptyMember (e : Edit) : Bool := e.target == .member ""

def diagnostic : Edit → String
  | .add t a => Text.record "Add" [("target", t.diagnostic), ("annotation", a.diagnostic)]
  | .remove t n => Text.record "Remove" [("target", t.diagnostic), ("name", Text.quote n)]
  | .removeAll t => Text.record "RemoveAll" [("target", t.diagnostic)]

end Edit

/-- The annotations of a type and its members. -/
structure TypeMetadata where
  entries : Dictionary Target (List Annotation) := ∅
  deriving BEq, Inhabited

namespace TypeMetadata

def annotations (m : TypeMetadata) (t : Target) : List Annotation := (m.entries.get? t).getD []

def has (m : TypeMetadata) (t : Target) (name : String) : Bool :=
  (m.annotations t).any fun a => a.name == name

def apply (m : TypeMetadata) : Edit → TypeMetadata
  | .add t a => ⟨m.entries.insert t (Keyed.put Annotation.name Keyed.last a (m.annotations t))⟩
  | .remove t name =>
    match m.entries.get? t with
    | some as => ⟨m.entries.insert t (as.filter fun a => a.name != name)⟩
    | none => m
  | .removeAll t => ⟨m.entries.erase t⟩

def replay (m : TypeMetadata) (edits : List Edit) : TypeMetadata := edits.foldl apply m

@[simp] theorem replay_nil (m : TypeMetadata) : m.replay [] = m := rfl

@[simp] theorem replay_cons (m : TypeMetadata) (e : Edit) (es : List Edit) :
    m.replay (e :: es) = (m.apply e).replay es := rfl

theorem replay_append (m : TypeMetadata) (es fs : List Edit) :
    m.replay (es ++ fs) = (m.replay es).replay fs := by
  simp [replay, List.foldl_append]

/-! ### What one edit does to one element -/

theorem annotations_apply_add (m : TypeMetadata) (t u : Target) (a : Annotation) :
    (m.apply (.add t a)).annotations u =
      if u = t then Keyed.put Annotation.name Keyed.last a (m.annotations t)
      else m.annotations u := by
  by_cases h : u = t <;> simp [apply, annotations, Dictionary.get?_insert, h]

theorem annotations_apply_remove (m : TypeMetadata) (t u : Target) (name : String) :
    (m.apply (.remove t name)).annotations u =
      if u = t then (m.annotations t).filter fun a => a.name != name else m.annotations u := by
  simp only [apply]
  split
  · next as h => by_cases hu : u = t <;> simp [annotations, Dictionary.get?_insert, h, hu]
  · next h => by_cases hu : u = t <;> simp [annotations, h, hu]

theorem annotations_apply_removeAll (m : TypeMetadata) (t u : Target) :
    (m.apply (.removeAll t)).annotations u = if u = t then [] else m.annotations u := by
  by_cases h : u = t <;> simp [apply, annotations, Dictionary.get?_erase, h]

def diagnostic (m : TypeMetadata) : String :=
  Text.record "TypeMetadata"
    [("annotations", Text.mapping (m.entries.toList.map fun e =>
      (e.1.diagnostic, Text.listing (e.2.map Annotation.diagnostic))))]

end TypeMetadata

end BeanContainer
