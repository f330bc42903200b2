import BeanContainer.Class.Basic
import BeanContainer.Keyed
/-!
# Ordered sets of classes

A `ClassList` lists classes in the order in which they were first inserted, each class once. For
lists of enabled classes this order is their priority. Inserting a class that is there already
changes nothing, so the reference that is kept is the first one.
-/

namespace BeanContainer

/-- Distinct classes in the order of their first insertion. -/
@[ext] structure ClassList where
  toList : List ClassRef
  /-- No class is listed twice. -/
  nodup : (toList.map ClassRef.id).Nodup

namespace ClassList

def empty : ClassList := ⟨[], List.nodup_nil⟩

instance : EmptyCollection ClassList := ⟨empty⟩

instance : Inhabited ClassList := ⟨∅⟩

def contains (l : ClassList) (c : ClassRef) : Bool := l.toList.any (· == c)

def size (l : ClassList) : Nat := l.toList.length

/-- Append a class, unless it is listed already. -/
def insert (l : ClassList) (c : ClassRef) : ClassList :=
  ⟨Keyed.put ClassRef.id Keyed.first c l.toList,
    Keyed.nodup_map_key_put (fun _ _ _ => rfl) c l.nodup⟩

/-- Insert a class and tell whether it was new. -/
def insertNew (l : ClassList) (c : ClassRef) : Bool × ClassList := (!l.contains c, l.insert c)

def extend (l : ClassList) (cs : List ClassRef) : ClassList := cs.foldl insert l

/-- The classes of a list, each at the place of its first occurrence. -/
def ofList (cs : List ClassRef) : ClassList := extend ∅ cs

/-- The same classes in the same order. -/
instance : BEq ClassList := ⟨fun a b => a.toList == b.toList⟩

theorem contains_iff {l : ClassList} {c : ClassRef} :
    l.contains c = true ↔ c.id ∈ l.toList.map ClassRef.id := by
  simp [contains]

theorem insert_of_contains {l : ClassList} {c : ClassRef} (h : l.contains c = true) :
    l.insert c = l :=
  ClassList.ext (Keyed.put_first_of_mem (contains_iff.1 h))

theorem toList_insert_of_not_contains {l : ClassList} {c : ClassRef} (h : ¬ l.contains c = true) :
    (l.insert c).toList = l.toList ++ [c] :=
  Keyed.put_of_not_mem (mt contains_iff.2 h)

@[simp] theorem extend_nil (l : ClassList) : l.extend [] = l := rfl

@[simp] theorem extend_cons (l : ClassList) (c : ClassRef) (cs : List ClassRef) :
    l.extend (c :: cs) = (l.insert c).extend cs := rfl

theorem extend_append (l : ClassList) (cs ds : List ClassRef) :
    l.extend (cs ++ ds) = (l.extend cs).extend ds := by
  simp [extend, List.foldl_append]

/-- The classes are those of a keyed list that keeps first entries. -/
theorem toList_extend (l : ClassList) (cs : List ClassRef) :
    (l.extend cs).toList = Keyed.putAll ClassRef.id Keyed.first l.toList cs := by
  induction cs generalizing l with
  | nil => rfl
  | cons c cs ih => exact ih (l.insert c)

def diagnostic (l : ClassList) : String :=
  let texts := l.toList.map ClassRef.diagnostic
  Text.record "ClassList" [("entries", Text.listing texts), ("members", Text.setOf texts)]

end ClassList

end BeanContainer
