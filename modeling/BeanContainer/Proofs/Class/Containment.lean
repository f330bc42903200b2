import BeanContainer.Class.Package
import Mathlib.Order.Defs.Unbundled
import Mathlib.Tactic.Lemma
/-!
# Packages within packages

A package lies within another if it is that package, or if its name goes on with a separator where
the name of the other ends; all packages lie within the root. For names of whatever form, well built
or not, this is a partial order (`Package.Within`), and recursive requests ask for what lies within
the package that they name. So a request covers the package of every class that was given to make
it, and what is covered by way of a package in between is covered at once
(`PackageRef.contains_order`).
-/

namespace BeanContainer

namespace Package

/-- Whether a package is another one or lies below it. -/
def Within (inner outer : String) : Prop :=
  inner = outer ∨ outer = "" ∨ ∃ rest, inner = outer ++ "::" ++ rest

variable {p q r : String}

lemma within_refl (p : String) : Within p p := .inl rfl

lemma Within.trans (hpq : Within p q) (hqr : Within q r) : Within p r := by
  rcases hqr with rfl | hr | ⟨rest, rfl⟩
  · exact hpq
  · exact .inr (.inl hr)
  · rcases hpq with rfl | hempty | ⟨rest', rfl⟩
    · exact .inr (.inr ⟨rest, rfl⟩)
    · -- the name of what lies below another package has a separator
      simp at hempty
    · refine .inr (.inr ⟨rest ++ "::" ++ rest', ?_⟩)
      simp only [String.append_assoc]

/-- A package that lies below another has the longer name. -/
lemma Within.eq_or_length_lt (h : Within p q) : p = q ∨ q = "" ∨ q.length < p.length := by
  rcases h with h | h | ⟨rest, rfl⟩
  · exact .inl h
  · exact .inr (.inl h)
  · refine .inr (.inr ?_)
    simp only [String.length_append]
    have hseparator : "::".length = 2 := rfl
    omega

lemma Within.antisymm (hpq : Within p q) (hqp : Within q p) : p = q := by
  rcases hpq.eq_or_length_lt with h | rfl | hlt
  · exact h
  · rcases hqp with h | h | ⟨rest, hrest⟩
    · exact h.symm
    · exact h
    · simp at hrest
  · rcases hqp.eq_or_length_lt with h | rfl | hlt'
    · exact h.symm
    · simp at hlt
    · omega

instance : IsPartialOrder String Within where
  refl := within_refl
  trans _ _ _ := Within.trans
  antisymm _ _ := Within.antisymm

/-- A name begins with that of a package and a separator if it goes on so. -/
lemma separator_prefix_iff :
    q.toList ++ separator <+: p.toList ↔ ∃ rest, p = q ++ "::" ++ rest := by
  constructor
  · rintro ⟨rest, hrest⟩
    refine ⟨String.ofList rest, String.toList_inj.1 ?_⟩
    simp [← hrest, separator]
  · rintro ⟨rest, rfl⟩
    exact ⟨rest.toList, by simp [separator]⟩

end Package

namespace PackageRef

variable {p q : String}

/-- A request that is not recursive covers one package. -/
lemma covers_false_iff : (⟨p, false⟩ : PackageRef).covers q = true ↔ q = p := by
  simp [covers]

/-- A recursive request covers what lies within its package. -/
lemma covers_true_iff : (⟨p, true⟩ : PackageRef).covers q = true ↔ Package.Within q p := by
  simp only [covers, Bool.true_and, Bool.or_eq_true, beq_iff_eq, String.isEmpty_iff,
    List.isPrefixOf_iff_prefix, Package.separator_prefix_iff, Package.Within]

/-- Whatever a request covers lies within its package. -/
lemma within_of_covers {recursive : Bool}
    (h : (⟨p, recursive⟩ : PackageRef).covers q = true) : Package.Within q p := by
  cases recursive with
  | false => exact .inl (covers_false_iff.1 h)
  | true => exact covers_true_iff.1 h

/-- A request for the package of a class contains the class. A recursive request contains all that
the other request for its package contains, and with a class all that requests for the package of
that class contain. If recursive requests for the packages of two classes contain each other's
class, the packages are one. All this holds whatever the names of the classes and packages are. -/
theorem contains_order (p : String) (c d : ClassRef) :
    (∀ recursive, (ofClass c recursive).contains c = true) ∧
    ((⟨p, false⟩ : PackageRef).contains c = true → (⟨p, true⟩ : PackageRef).contains c = true) ∧
    (∀ recursive, (⟨p, true⟩ : PackageRef).contains c = true →
      (ofClass c recursive).contains d = true → (⟨p, true⟩ : PackageRef).contains d = true) ∧
    ((ofClass c true).contains d = true → (ofClass d true).contains c = true →
      c.package = d.package) := by
  refine ⟨?_, ?_, ?_, ?_⟩
  · intro recursive
    cases recursive with
    | false => exact covers_false_iff.2 rfl
    | true => exact covers_true_iff.2 (Package.within_refl _)
  · intro h
    exact covers_true_iff.2 (within_of_covers h)
  · intro recursive hc hd
    exact covers_true_iff.2 ((within_of_covers hd).trans (within_of_covers hc))
  · intro hd hc
    exact (covers_true_iff.1 hc).antisymm (covers_true_iff.1 hd)

/-- Stray colons belong to the name before the separator or to the one behind it. -/
theorem contains_order_strayColons :
    let named (name : String) : ClassRef := ⟨⟨name, .system⟩, {}⟩
    let c := named "a:::b::C"
    let d := named "a:::b:::c:::D"
    let e := named "a:::b::"
    (⟨"a", true⟩ : PackageRef).contains c = true ∧ (⟨"a:", true⟩ : PackageRef).contains c = true ∧
    (ofClass c false).contains d = false ∧ (ofClass c true).contains d = true ∧
    (⟨"a:", true⟩ : PackageRef).contains d = true ∧
    (⟨"a:::b", false⟩ : PackageRef).contains c = true ∧
    (⟨"a:::b", true⟩ : PackageRef).contains c = true ∧
    (ofClass c true).contains e = true ∧ (ofClass e true).contains c = true ∧
    c.package = e.package := by
  intro named c d e
  have hc : (⟨"a:", true⟩ : PackageRef).contains c = true := by decide
  have hd : (ofClass c true).contains d = true := by decide
  have hplain : (⟨"a:::b", false⟩ : PackageRef).contains c = true := by decide
  have he : (ofClass c true).contains e = true := by decide
  have he' : (ofClass e true).contains c = true := by decide
  obtain ⟨-, -, htrans, -⟩ := contains_order "a:" c d
  obtain ⟨-, hrecursive, -, hantisymm⟩ := contains_order "a:::b" c e
  exact ⟨by decide, hc, by decide, hd, htrans true hc hd, hplain, hrecursive hplain, he, he',
    hantisymm he he'⟩

end PackageRef

end BeanContainer
