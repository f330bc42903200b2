import BeanContainer.Proofs.Class.Containment
import Mathlib.Data.List.Infix
import Mathlib.Tactic.Lemma
/-!
# Class names as paths

The name of a class is read as text: its package is what stands before the last separator, and a
package lies below another if its name goes on with a separator where the other ends. For names
that are made up of parts this agrees with the paths of the parts (`PackageRef.contains_pathName`):
the package of a class is its path without the last part, and packages lie below each other as
prefixes of their paths do.

The argument goes by closed paths, in which every part is followed by a separator. One closed path
begins with another exactly if its parts begin with those of the other
(`Package.closedPath_prefix_iff`), because no separator can begin inside a part.
-/

namespace BeanContainer

/-- A part of a class name. -/
@[ext] structure NamePart where
  text : String
  ne_empty : text ≠ ""
  /-- No separator begins in a part or ends in it. -/
  colon_not_mem : ':' ∉ text.toList
  deriving DecidableEq

namespace Package

/-- The name that parts make up. The root, which has no parts, has the empty name. -/
def pathName (parts : List NamePart) : String := "::".intercalate (parts.map NamePart.text)

/-! ### The last separator -/

lemma beforeLastSeparator_of_not_mem {cs : List Char} (h : ':' ∉ cs) :
    beforeLastSeparator cs = none := by
  induction cs with
  | nil => rfl
  | cons c cs ih =>
    rw [List.mem_cons, not_or] at h
    have hfirst : separator.isPrefixOf (c :: cs) = false := by
      simp [separator, List.isPrefixOf, h.1]
    rw [beforeLastSeparator, ih h.2, hfirst]
    rfl

/-- No separator comes after one that is followed by no colon. -/
lemma beforeLastSeparator_append {cs : List Char} (h : ':' ∉ cs) (front : List Char) :
    beforeLastSeparator (front ++ separator ++ cs) = some front := by
  induction front with
  | nil =>
    have hsecond : separator.isPrefixOf (':' :: cs) = false := by
      cases cs with
      | nil => rfl
      | cons c cs => simp [separator, List.isPrefixOf, List.ne_of_not_mem_cons h]
    show beforeLastSeparator (':' :: ':' :: cs) = some []
    rw [beforeLastSeparator, beforeLastSeparator, beforeLastSeparator_of_not_mem h, hsecond]
    simp [separator]
  | cons c front ih =>
    show beforeLastSeparator (c :: (front ++ separator ++ cs)) = some (c :: front)
    rw [beforeLastSeparator, ih]

/-- The package of a class has its path without the last part. -/
lemma ofName_pathName (parts : List NamePart) :
    ofName (pathName parts) = pathName parts.dropLast := by
  cases parts using List.reverseRecOn with
  | nil => rfl
  | append_singleton front part =>
    rw [List.dropLast_concat, ofName, pathName, List.map_append, List.map_singleton]
    by_cases hfront : front = []
    · subst hfront
      rw [List.map_nil, List.nil_append, String.intercalate_singleton,
        beforeLastSeparator_of_not_mem part.colon_not_mem]
      rfl
    · rw [String.intercalate_append_of_ne_nil (by simpa using hfront) (by simp),
        String.intercalate_singleton, String.toList_append, String.toList_append]
      show String.ofList ((beforeLastSeparator (_ ++ separator ++ _)).getD []) = _
      rw [beforeLastSeparator_append part.colon_not_mem, Option.getD_some, String.ofList_toList]
      rfl

/-! ### Closed paths -/

/-- The parts of a path, each followed by a separator. -/
def closedPath (parts : List NamePart) : List Char :=
  parts.flatMap fun part => part.text.toList ++ separator

lemma closedPath_cons (part : NamePart) (parts : List NamePart) :
    closedPath (part :: parts) = part.text.toList ++ separator ++ closedPath parts := by
  simp [closedPath]

lemma closedPath_append (parts more : List NamePart) :
    closedPath (parts ++ more) = closedPath parts ++ closedPath more :=
  List.flatMap_append

lemma toList_pathName_append_separator {parts : List NamePart} (h : parts ≠ []) :
    (pathName parts).toList ++ separator = closedPath parts := by
  induction parts with
  | nil => exact absurd rfl h
  | cons part parts ih =>
    by_cases hparts : parts = []
    · subst hparts
      simp [pathName, closedPath]
    · rw [closedPath_cons, ← ih hparts, pathName, List.map_cons,
        String.intercalate_cons_of_ne_nil (by simpa using hparts), String.toList_append,
        String.toList_append]
      show _ ++ separator ++ _ ++ separator = _
      rw [List.append_assoc]
      rfl

/-- Texts without colons that are followed by one end in the same place. -/
lemma append_colon_prefix {xs ys s t : List Char} (hx : ':' ∉ xs) (hy : ':' ∉ ys)
    (h : xs ++ ':' :: s <+: ys ++ ':' :: t) : xs = ys ∧ s <+: t := by
  induction xs generalizing ys with
  | nil =>
    cases ys with
    | nil => exact ⟨rfl, (List.cons_prefix_cons.1 h).2⟩
    | cons y ys =>
      have hcolon : ':' = y := (List.cons_prefix_cons.1 h).1
      exact absurd (hcolon ▸ List.mem_cons_self) hy
  | cons x xs ih =>
    rw [List.mem_cons, not_or] at hx
    cases ys with
    | nil =>
      have hcolon : x = ':' := (List.cons_prefix_cons.1 h).1
      exact absurd hcolon.symm hx.1
    | cons y ys =>
      rw [List.mem_cons, not_or] at hy
      obtain ⟨hxy, hrest⟩ := List.cons_prefix_cons.1 h
      obtain ⟨hxs, hst⟩ := ih hx.2 hy.2 hrest
      exact ⟨by rw [hxy, hxs], hst⟩

/-- Closed paths are prefixes of each other as their parts are. -/
lemma closedPath_prefix_iff {p q : List NamePart} : closedPath p <+: closedPath q ↔ p <+: q := by
  constructor
  · intro h
    induction p generalizing q with
    | nil => exact List.nil_prefix
    | cons x p ih =>
      cases q with
      | nil =>
        have hnil := List.prefix_nil.1 h
        rw [closedPath_cons] at hnil
        simp [separator] at hnil
      | cons y q =>
        rw [closedPath_cons, closedPath_cons, List.append_assoc, List.append_assoc] at h
        obtain ⟨htext, hrest⟩ := append_colon_prefix x.colon_not_mem y.colon_not_mem h
        have hxy : x = y := NamePart.ext (String.toList_inj.1 htext)
        rw [hxy, List.prefix_cons_inj]
        exact ih (List.cons_prefix_cons.1 hrest).2
  · rintro ⟨r, rfl⟩
    rw [closedPath_append]
    exact List.prefix_append _ _

/-! ### Names of packages -/

lemma pathName_eq_empty_iff {parts : List NamePart} : pathName parts = "" ↔ parts = [] := by
  constructor
  · intro h
    cases parts with
    | nil => rfl
    | cons part parts =>
      cases parts with
      | nil => exact absurd (by simpa [pathName] using h) part.ne_empty
      | cons next parts => simp [pathName] at h
  · rintro rfl
    rfl

/-- A path can be told from its name. -/
lemma pathName_injective {p q : List NamePart} (h : pathName p = pathName q) : p = q := by
  by_cases hp : p = []
  · rw [hp, pathName_eq_empty_iff.1 (h.symm.trans (pathName_eq_empty_iff.2 hp))]
  · have hq : q ≠ [] := fun hq =>
      hp (pathName_eq_empty_iff.1 (h.trans (pathName_eq_empty_iff.2 hq)))
    have hclosed : closedPath p = closedPath q := by
      rw [← toList_pathName_append_separator hp, h, toList_pathName_append_separator hq]
    have hpq : p <+: q := closedPath_prefix_iff.1 (hclosed ▸ List.prefix_rfl)
    have hqp : q <+: p := closedPath_prefix_iff.1 (hclosed ▸ List.prefix_rfl)
    exact hpq.eq_of_length_le hqp.length_le

/-- A name goes on with a separator where another ends exactly if its path goes on. -/
lemma pathName_separator_prefix_iff {p q : List NamePart} (hp : p ≠ []) :
    (pathName p).toList ++ separator <+: (pathName q).toList ↔ p <+: q ∧ p ≠ q := by
  rw [toList_pathName_append_separator hp]
  constructor
  · intro h
    by_cases hq : q = []
    · subst hq
      have hnil : closedPath p = [] := List.prefix_nil.1 h
      rw [← toList_pathName_append_separator hp] at hnil
      simp [separator] at hnil
    · have hclosed : closedPath p <+: closedPath q := by
        rw [← toList_pathName_append_separator hq]
        exact h.trans (List.prefix_append _ _)
      refine ⟨closedPath_prefix_iff.1 hclosed, ?_⟩
      rintro rfl
      rw [← toList_pathName_append_separator hp] at h
      exact absurd h.length_le (by simp [separator])
  · rintro ⟨⟨r, rfl⟩, hne⟩
    have hr : r ≠ [] := fun hr => hne (by rw [hr, List.append_nil])
    have hname : (pathName (p ++ r)).toList = closedPath p ++ (pathName r).toList := by
      rw [← toList_pathName_append_separator hp, pathName, List.map_append,
        String.intercalate_append_of_ne_nil (by simpa using hp) (by simpa using hr),
        String.toList_append, String.toList_append]
      rfl
    rw [hname]
    exact List.prefix_append _ _

end Package

namespace PackageRef

open Package

/-- A request that is not recursive covers the package that it names. -/
lemma covers_pathName_false {p q : List NamePart} :
    (⟨pathName p, false⟩ : PackageRef).covers (pathName q) = true ↔ p = q := by
  rw [covers_false_iff]
  exact ⟨fun h => (pathName_injective h).symm, fun h => by rw [h]⟩

/-- A recursive request covers the packages whose paths begin with that of the one it names. -/
lemma covers_pathName_true {p q : List NamePart} :
    (⟨pathName p, true⟩ : PackageRef).covers (pathName q) = true ↔ p <+: q := by
  rw [covers_true_iff, Within, pathName_eq_empty_iff, ← separator_prefix_iff]
  by_cases hp : p = []
  · subst hp
    simp
  · rw [pathName_separator_prefix_iff hp]
    constructor
    · rintro (h | h | h)
      · rw [pathName_injective h]
      · exact absurd h hp
      · exact h.1
    · intro h
      by_cases hpq : p = q
      · exact .inl (by rw [hpq])
      · exact .inr (.inr ⟨h, hpq⟩)

/-- The package of a class that parts name has the path of the class without its last part. A
request for the package of a path contains the class exactly if that path is the one of its package,
or begins it in case the request is recursive. So a request for the root contains the classes at the
root, or all classes; and where two paths part, no request for the one contains what is named by the
other, even if the parts begin with the same text. -/
theorem contains_pathName (p q : List NamePart) (loader : Loader) (markers : Markers) :
    let c : ClassRef := ⟨⟨pathName q, loader⟩, markers⟩
    c.package = pathName q.dropLast ∧
    ((⟨pathName p, false⟩ : PackageRef).contains c = true ↔ p = q.dropLast) ∧
    ((⟨pathName p, true⟩ : PackageRef).contains c = true ↔ p <+: q.dropLast) ∧
    ((⟨"", false⟩ : PackageRef).contains c = true ↔ q.dropLast = []) ∧
    (⟨"", true⟩ : PackageRef).contains c = true ∧
    ∀ front x y rest rest', x ≠ y → p = front ++ x :: rest → q = front ++ y :: rest' →
      ∀ recursive, (⟨pathName p, recursive⟩ : PackageRef).contains c = false := by
  intro c
  have hpackage : c.package = pathName q.dropLast := ofName_pathName q
  have hplain : ∀ p, (⟨pathName p, false⟩ : PackageRef).contains c = true ↔ p = q.dropLast :=
    fun p => by rw [contains, hpackage, covers_pathName_false]
  have hrecursive : ∀ p, (⟨pathName p, true⟩ : PackageRef).contains c = true ↔ p <+: q.dropLast :=
    fun p => by rw [contains, hpackage, covers_pathName_true]
  refine ⟨hpackage, hplain p, hrecursive p, (hplain []).trans eq_comm,
    (hrecursive []).2 List.nil_prefix, ?_⟩
  rintro front x y rest rest' hxy rfl rfl recursive
  -- in either case the path of the request would begin that of the class
  have hnot : ¬ front ++ x :: rest <+: (front ++ y :: rest').dropLast := by
    intro h
    have hq := h.trans (List.dropLast_prefix _)
    rw [List.prefix_append_right_inj] at hq
    exact hxy (List.cons_prefix_cons.1 hq).1
  rw [← Bool.not_eq_true]
  cases recursive with
  | false => exact fun h => hnot ((hplain _).1 h ▸ List.prefix_rfl)
  | true => exact fun h => hnot ((hrecursive _).1 h)

theorem contains_pathName_webhooks :
    ∃ app web webhooks hook : NamePart,
      web ≠ webhooks ∧ pathName [app, web] = "app::web" ∧
      pathName [app, webhooks, hook] = "app::webhooks::Hook" ∧
      ∀ recursive, (⟨"app::web", recursive⟩ : PackageRef).contains
        ⟨⟨"app::webhooks::Hook", .system⟩, {}⟩ = false := by
  have hne : (⟨"web", by decide, by decide⟩ : NamePart) ≠ ⟨"webhooks", by decide, by decide⟩ := by
    decide
  obtain ⟨-, -, -, -, -, happart⟩ :=
    contains_pathName [⟨"app", by decide, by decide⟩, ⟨"web", by decide, by decide⟩]
      [⟨"app", by decide, by decide⟩, ⟨"webhooks", by decide, by decide⟩,
        ⟨"Hook", by decide, by decide⟩] .system {}
  exact ⟨⟨"app", by decide, by decide⟩, _, _, ⟨"Hook", by decide, by decide⟩, hne, rfl, rfl,
    happart [⟨"app", by decide, by decide⟩] _ _ [] _ hne rfl rfl⟩

end PackageRef

end BeanContainer
