import BeanContainer.Deployment.Call
import Mathlib.Data.List.Basic
import Mathlib.Tactic.Lemma
/-!
# Calls with several elements

A call that takes several classes, extensions, overrides, beans or properties stands for the calls
that take one of them each (`Call.singles`). It has a fault exactly if one of them has
(`Call.fault?_eq_none_iff`), and then none of its elements takes effect; otherwise it does what they
do one after the other (`Deployment.foldl_apply_singles`). So it makes no difference how elements
are distributed among calls, as long as all of these are accepted.
-/

namespace BeanContainer

namespace Call

/-- The calls that say the same, one element at a time. -/
def singles : Call → List Call
  | .addBeanClasses cs => cs.map fun c => .addBeanClasses [c]
  | .addPackages recursive cs => cs.map fun c => .addPackages recursive [c]
  | .enable role cs => cs.map fun c => .enable role [c]
  | .addExtensions xs => xs.map fun x => .addExtensions [x]
  | .mergeProperties p => p.toList.map fun e => .setProperty e.1 (.json e.2)
  | .addOverrides os => os.map fun o => .addOverrides [o]
  | .addBeans bs => bs.map fun b => .addBeans [b]
  | c => [c]

/-- A call with one element cannot be taken apart any further. -/
lemma singles_of_mem_singles {c s : Call} (h : s ∈ c.singles) : s.singles = [s] := by
  have hmap : ∀ {α : Type} {single : α → Call}, (∀ x, (single x).singles = [single x]) →
      ∀ {xs : List α}, s ∈ xs.map single → s.singles = [s] := by
    intro α single hsingle xs hs
    obtain ⟨x, -, rfl⟩ := List.mem_map.1 hs
    exact hsingle x
  cases c with
  | addBeanClasses cs => exact hmap (fun _ => rfl) h
  | addPackages recursive cs => exact hmap (fun _ => rfl) h
  | enable role cs => exact hmap (fun _ => rfl) h
  | addExtensions xs => exact hmap (fun _ => rfl) h
  | mergeProperties p => exact hmap (fun _ => rfl) h
  | addOverrides os => exact hmap (fun _ => rfl) h
  | addBeans bs => exact hmap (fun _ => rfl) h
  | _ =>
    rw [List.mem_singleton.1 h]
    rfl

lemma flatMap_singles_singles (c : Call) : c.singles.flatMap singles = c.singles :=
  calc c.singles.flatMap singles
      = c.singles.flatMap fun s => [s] := List.flatMap_congr fun _ => singles_of_mem_singles
    _ = c.singles := List.flatMap_singleton' _

lemma classFault?_eq_none_iff {cs : List ClassRef} :
    classFault? cs = none ↔ ∀ c ∈ cs, c.name ≠ "" := by
  simp [classFault?]

lemma propertyFault?_json_eq_none_iff {key : String} {v : Json} :
    propertyFault? key (.json v) = none ↔ key ≠ "" := by
  simp [propertyFault?]

lemma contains_eq_false_iff {p : Properties} {key : String} :
    p.contains key = false ↔ ∀ e ∈ p.toList, e.1 ≠ key := by
  rw [← Bool.not_eq_true, ← Dictionary.mem_keys_iff, Dictionary.keys, List.mem_map]
  simp only [not_exists, not_and, ne_eq]

/-- A call has no fault exactly if there is none in any of its elements. -/
lemma fault?_eq_none_iff {c : Call} : c.fault? = none ↔ ∀ s ∈ c.singles, s.fault? = none := by
  have hclasses : ∀ (single : ClassRef → Call),
      (∀ x, (single x).fault? = classFault? [x]) → ∀ cs : List ClassRef,
        (classFault? cs = none ↔ ∀ s ∈ cs.map single, s.fault? = none) := by
    intro single hsingle cs
    simp only [List.forall_mem_map, hsingle, classFault?_eq_none_iff, List.forall_mem_singleton]
  cases c with
  | addBeanClasses cs => exact hclasses _ (fun _ => rfl) cs
  | addPackages recursive cs => exact hclasses _ (fun _ => rfl) cs
  | enable role cs => exact hclasses _ (fun _ => rfl) cs
  | addOverrides os =>
    simp only [singles, List.forall_mem_map, fault?, classFault?_eq_none_iff, List.map_singleton,
      List.forall_mem_singleton]
  | mergeProperties p =>
    simp only [singles, List.forall_mem_map, fault?, propertyFault?_json_eq_none_iff,
      ← contains_eq_false_iff]
    cases p.contains "" <;> simp
  | addExtensions xs => simp [singles, fault?]
  | addBeans bs => simp [singles, fault?]
  | _ => simp [singles]

end Call

namespace Deployment

/-- What takes effect element by element takes effect as a whole. -/
lemma foldl_apply_map {α : Type} (several : List α → Call) (hnil : ∀ d, apply d (several []) = d)
    (hcons : ∀ d x xs, apply d (several (x :: xs)) = (apply d (several [x])).apply (several xs))
    (d : Deployment) (xs : List α) :
    (xs.map fun x => several [x]).foldl apply d = d.apply (several xs) := by
  induction xs generalizing d with
  | nil => exact (hnil d).symm
  | cons x xs ih => rw [List.map_cons, List.foldl_cons, ih, ← hcons]

/-- A call does what its elements do one after the other. -/
lemma foldl_apply_singles (d : Deployment) (c : Call) :
    c.singles.foldl apply d = d.apply c := by
  cases c with
  | addBeanClasses cs => exact foldl_apply_map _ (fun _ => rfl) (fun _ _ _ => rfl) d cs
  | addPackages recursive cs =>
    exact foldl_apply_map (.addPackages recursive) (fun _ => rfl) (fun _ _ _ => rfl) d cs
  | enable role cs =>
    refine foldl_apply_map (.enable role) ?_ ?_ d cs
    · intro d
      cases role <;> rfl
    · intro d x xs
      cases role <;> rfl
  | addExtensions xs => exact foldl_apply_map _ (fun _ => rfl) (fun _ _ _ => rfl) d xs
  | addOverrides os =>
    refine foldl_apply_map .addOverrides ?_ ?_ d os
    · intro d
      simp [apply]
    · intro d o os
      simp [apply]
  | addBeans bs => exact foldl_apply_map _ (fun _ => rfl) (fun _ _ _ => rfl) d bs
  | mergeProperties p =>
    have hinsert : ∀ (es : List (String × Json)) (d : Deployment),
        (es.map fun e => .setProperty e.1 (.json e.2)).foldl apply d =
          { d with properties := d.properties.insertAll es } := by
      intro es
      induction es with
      | nil => exact fun _ => rfl
      | cons e es ih => exact fun d => ih _
    exact hinsert p.toList d
  | _ => rfl

/-- It makes no difference how elements are distributed among calls. -/
lemma foldl_apply_of_flatMap_singles {calls : List Call} {c : Call}
    (h : calls.flatMap Call.singles = c.singles) (d : Deployment) :
    calls.foldl apply d = d.apply c := by
  have hcalls : ∀ (calls : List Call) d,
      (calls.flatMap Call.singles).foldl apply d = calls.foldl apply d := by
    intro calls
    induction calls with
    | nil => exact fun _ => rfl
    | cons c cs ih =>
      intro d
      rw [List.flatMap_cons, List.foldl_append, foldl_apply_singles, ih, List.foldl_cons]
  rw [← hcalls, h, foldl_apply_singles]

end Deployment

/-- The elements of a call without a fault can be distributed among calls without faults only. -/
lemma Call.fault?_eq_none_of_flatMap_singles {calls : List Call} {c : Call}
    (h : calls.flatMap Call.singles = c.singles) (hc : c.fault? = none) :
    ∀ c' ∈ calls, c'.fault? = none := by
  intro c' hc'
  rw [fault?_eq_none_iff] at hc ⊢
  intro s hs
  refine hc s ?_
  rw [← h]
  exact List.mem_flatMap.2 ⟨c', hc', hs⟩

end BeanContainer
