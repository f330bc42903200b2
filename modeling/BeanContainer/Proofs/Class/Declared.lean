import BeanContainer.Class.Declaration
import Mathlib.Data.List.Basic
import Mathlib.Data.List.Induction
import Mathlib.Tactic.Lemma
/-!
# What declarations say

The attributes of a declaration are read option by option, and reading stops at the first one that
cannot be accepted. What is read amounts to the same as a look at all options at once: there is a
descriptor exactly if nothing is wrong with any of them, the error is the first of all that is wrong
(`Declaration.faults`), roles are those that some option declares, and the name is the one that was
given last. So it makes no difference how the options are spread over attributes, and neither their
number nor their order counts as long as the last name stays the last one
(`Declaration.descriptor_of_attributes`).
-/

namespace BeanContainer

/-! ### Checking first -/

section Outcome

variable {ε σ α : Type}

/-- A result, unless there is something wrong. -/
def outcome (fault : Option ε) (result : α) : Except ε α :=
  match fault with
  | some e => .error e
  | none => .ok result

@[simp] lemma outcome_none (result : α) : outcome (none : Option ε) result = .ok result := rfl

@[simp] lemma outcome_some (e : ε) (result : α) : outcome (some e) result = .error e := rfl

lemma outcome_eq_ok_iff {fault : Option ε} {result a : α} :
    outcome fault result = .ok a ↔ fault = none ∧ result = a := by
  cases fault <;> simp

lemma outcome_eq_error_iff {fault : Option ε} {result : α} {e : ε} :
    outcome fault result = .error e ↔ fault = some e := by
  cases fault <;> simp

/-- Where a step fails because of the element alone, a run fails because of the first element that
is at fault, and otherwise has the effects of all elements. -/
lemma foldlM_of_check {step : σ → α → Except ε σ} {check : α → Option ε} {effect : σ → α → σ}
    (hstep : ∀ s x, step s x = outcome (check x) (effect s x)) (s : σ) (xs : List α) :
    xs.foldlM step s = outcome (xs.findSome? check) (xs.foldl effect s) := by
  induction xs generalizing s with
  | nil => rfl
  | cons x xs ih =>
    rw [List.foldlM_cons, hstep, List.findSome?_cons]
    cases check x with
    | some e => rfl
    | none => exact ih (effect s x)

end Outcome

/-! ### Roles -/

namespace Role

lemma mem_all (r : Role) : r ∈ all := by
  cases r <;> decide

lemma ofName?_name (r : Role) : ofName? r.name = some r := by
  cases r <;> rfl

lemma ofName?_eq_some_iff {word : String} {r : Role} : ofName? word = some r ↔ word = r.name := by
  constructor
  · intro h
    rw [ofName?] at h
    have hname := List.find?_some h
    exact (eq_of_beq hname).symm
  · rintro rfl
    exact r.ofName?_name

/-- No role goes by the word that gives a name. -/
lemma name_ne_nameOption (r : Role) : r.name ≠ Declaration.nameOption := by
  cases r <;> decide

end Role

namespace Markers

lemma has_ofRoles (roles : List Role) (r : Role) : (ofRoles roles).has r = roles.contains r := by
  suffices h : ∀ m, (roles.foldl declare m).has r = (m.has r || roles.contains r) by
    rw [ofRoles, h]
    cases r <;> rfl
  induction roles with
  | nil => simp
  | cons s roles ih =>
    intro m
    rw [List.foldl_cons, ih, has_declare, List.contains_cons]
    have hcomm : (s == r) = (r == s) := by rw [Bool.eq_iff_iff, beq_iff_eq, beq_iff_eq, eq_comm]
    rw [hcomm, Bool.or_comm (r == s), Bool.or_assoc]

/-- Markers are known by the roles that they declare. -/
lemma ext_has {m m' : Markers} (h : ∀ r, m.has r = m'.has r) : m = m' := by
  obtain ⟨i, d, a, s⟩ := m
  obtain ⟨i', d', a', s'⟩ := m'
  have hi : i = i' := h .interceptor
  have hd : d = d' := h .decorator
  have ha : a = a' := h .alternative
  have hs : s = s' := h .stereotype
  rw [hi, hd, ha, hs]

end Markers

/-! ### Options -/

namespace AttributeOption

open Declaration (nameOption)

/-- A role without a value, or a name that is a text. -/
def IsAccepted (item : AttributeOption) : Prop :=
  (∃ role : Role, item = ⟨role.name, none⟩) ∨ ∃ s, s ≠ "" ∧ item = ⟨nameOption, some (.text s)⟩

/-- What is wrong with an option. -/
def fault? (item : AttributeOption) : Option DeclarationError :=
  if ∃ role ∈ Role.all, item.name = role.name then item.value.map fun _ => .leftover
  else if item.name = nameOption then
    match item.value with
    | none => some .nameWithoutValue
    | some (.text s) => if s = "" then some .emptyName else none
    | some _ => some .nameNotText
  else some .unknownOption

/-- The role that an option declares. -/
def role? (item : AttributeOption) : Option Role := Role.ofName? item.name

/-- The name that an option gives. -/
def givenName? (item : AttributeOption) : Option String :=
  match item.value with
  | some (.text s) => if item.name = nameOption then some s else none
  | _ => none

lemma exists_role_iff {item : AttributeOption} :
    (∃ role ∈ Role.all, item.name = role.name) ↔ item.role?.isSome = true := by
  simp only [role?, Option.isSome_iff_exists, Role.ofName?_eq_some_iff, Role.mem_all, true_and]

lemma role?_eq_none_of_nameOption {value : Option Literal} :
    role? ⟨nameOption, value⟩ = none := by
  rw [Option.eq_none_iff_forall_ne_some]
  intro r hr
  exact r.name_ne_nameOption (Role.ofName?_eq_some_iff.1 hr).symm

/-- An option that is a role is at fault if something follows it. -/
lemma fault?_of_role {item : AttributeOption} (h : item.role?.isSome = true) :
    item.fault? = item.value.map fun _ => .leftover :=
  if_pos (exists_role_iff.2 h)

lemma fault?_of_not_role {item : AttributeOption} (h : item.role? = none) :
    item.fault? = if item.name = nameOption then
      match item.value with
      | none => some .nameWithoutValue
      | some (.text s) => if s = "" then some .emptyName else none
      | some _ => some .nameNotText
    else some .unknownOption :=
  if_neg (by rw [exists_role_iff, h]; exact Bool.false_ne_true)

/-- Nothing is wrong with what can be accepted. -/
lemma fault?_eq_none_iff {item : AttributeOption} : item.fault? = none ↔ item.IsAccepted := by
  constructor
  · obtain ⟨name, value⟩ := item
    intro h
    cases hrole : role? ⟨name, value⟩ with
    | some role =>
      rw [fault?_of_role (by rw [hrole]; rfl), Option.map_eq_none_iff] at h
      refine .inl ⟨role, ?_⟩
      rw [← Role.ofName?_eq_some_iff.1 hrole, ← h]
    | none =>
      rw [fault?_of_not_role hrole] at h
      by_cases hname : name = nameOption
      · subst hname
        rw [if_pos rfl] at h
        match value, h with
        | some (.text s), h =>
          by_cases hs : s = ""
          · simp [hs] at h
          · exact .inr ⟨s, hs, rfl⟩
      · rw [if_neg hname] at h
        cases h
  · rintro (⟨role, rfl⟩ | ⟨s, hs, rfl⟩)
    · rw [fault?_of_role (by rw [role?, Role.ofName?_name]; rfl)]
      rfl
    · rw [fault?_of_not_role role?_eq_none_of_nameOption, if_pos rfl]
      exact if_neg hs

end AttributeOption

/-! ### Reading -/

namespace Declaration.Options

/-- What an option adds to what has been read. -/
def take (o : Options) (item : AttributeOption) : Options where
  name := item.givenName?.or o.name
  markers := (item.role?.map o.markers.declare).getD o.markers

/-- An option is taken in, unless something is wrong with it. -/
lemma read_eq (o : Options) (item : AttributeOption) :
    o.read item = outcome item.fault? (o.take item) := by
  obtain ⟨name, value⟩ := item
  cases hrole : AttributeOption.role? ⟨name, value⟩ with
  | some role =>
    have hword : Role.ofName? name = some role := hrole
    rw [AttributeOption.fault?_of_role (by rw [hrole]; rfl), read, hword]
    cases value with
    | none => simp [take, AttributeOption.givenName?, hrole]
    | some v => rfl
  | none =>
    have hword : Role.ofName? name = none := hrole
    rw [AttributeOption.fault?_of_not_role hrole, read, hword]
    by_cases hname : name = nameOption
    · subst hname
      match value with
      | none => rfl
      | some (.text s) =>
        by_cases hs : s = "" <;> simp [hs, take, AttributeOption.givenName?, hrole]
      | some (.integer n) => rfl
      | some .other => rfl
    · simp [hname]

/-- All options together give the last name and declare all roles. -/
lemma foldl_take (o : Options) (items : List AttributeOption) :
    items.foldl take o =
      { name := (items.filterMap AttributeOption.givenName?).getLast?.or o.name
        markers := (items.filterMap AttributeOption.role?).foldl Markers.declare o.markers } := by
  induction items using List.reverseRecOn with
  | nil => rfl
  | append_singleton items item ih =>
    rw [List.foldl_append, ih, List.foldl_cons, List.foldl_nil, take, List.filterMap_append,
      List.filterMap_append, List.getLast?_append, List.foldl_append]
    cases hname : item.givenName? <;> cases hrole : item.role? <;> simp [hname, hrole]

end Declaration.Options

namespace Attribute

open Declaration (attributePath)

/-- The options of an attribute, as far as they can be told apart. -/
def items (a : Attribute) : List AttributeOption :=
  if a.path = attributePath then
    match a.form with
    | .options items => items
    | .unseparated front last => front ++ [last]
    | _ => []
  else []

/-- All that is wrong with an attribute, in order. -/
def faults (a : Attribute) : List DeclarationError :=
  if a.path = attributePath then
    match a.form with
    | .bare => [.missingArguments]
    | .assigned _ => [.assignedArguments]
    | .options items => items.filterMap AttributeOption.fault?
    | .unseparated front last => (front ++ [last]).filterMap AttributeOption.fault? ++ [.leftover]
  else []

/-- Whether an attribute has parentheses, and only options with commas between them there. -/
def IsSeparated (a : Attribute) : Prop :=
  a.path = attributePath → ∃ items, a.form = .options items

end Attribute

namespace Declaration

/-- An attribute is taken in, unless something is wrong with it. -/
lemma Options.readAttribute_eq (o : Options) (a : Attribute) :
    o.readAttribute a = outcome a.faults.head? (a.items.foldl take o) := by
  have hread : ∀ items : List AttributeOption, items.foldlM read o =
      outcome (items.filterMap AttributeOption.fault?).head? (items.foldl take o) := by
    intro items
    rw [foldlM_of_check read_eq, List.head?_filterMap]
  obtain ⟨path, form⟩ := a
  by_cases hpath : path = attributePath
  · subst hpath
    cases form with
    | bare => rfl
    | assigned value => rfl
    | options items => exact hread items
    | unseparated front last =>
      have hfaults : (⟨attributePath, .unseparated front last⟩ : Attribute).faults.head? =
          (((front ++ [last]).filterMap AttributeOption.fault?).head?).or (some .leftover) :=
        List.head?_append
      rw [hfaults]
      show (discard ((front ++ [last]).foldlM read o) >>= fun _ => .error .leftover) = _
      rw [hread]
      cases ((front ++ [last]).filterMap AttributeOption.fault?).head? <;> rfl
  · simp [readAttribute, Attribute.faults, Attribute.items, hpath]

/-- The options of all attributes, in order. -/
def items (d : Declaration) : List AttributeOption := d.attributes.flatMap Attribute.items

/-- All that is wrong with the attributes, in order. -/
def faults (d : Declaration) : List DeclarationError := d.attributes.flatMap Attribute.faults

/-- The name that was given last. -/
def lastName? (d : Declaration) : Option String :=
  (d.items.filterMap AttributeOption.givenName?).getLast?

/-- What a declaration says if nothing is wrong with it. -/
def described (d : Declaration) : Descriptor where
  name := d.lastName?.elim (.pathOf d.ident) .given
  markers := Markers.ofRoles (d.items.filterMap AttributeOption.role?)

/-- To read the attributes one after the other is to look at all of them at once. -/
lemma descriptor_eq {d : Declaration} (h : d.isGeneric = false) :
    d.descriptor = outcome d.faults.head? d.described := by
  have hoptions : d.options = outcome d.faults.head?
      ⟨d.lastName?, Markers.ofRoles (d.items.filterMap AttributeOption.role?)⟩ := by
    rw [options, foldlM_of_check Options.readAttribute_eq, ← List.head?_flatMap]
    have htake : d.attributes.foldl (fun o a => a.items.foldl Options.take o) {} =
        d.items.foldl Options.take {} := List.foldl_flatMap.symm
    rw [htake, Options.foldl_take, Option.or_none]
    rfl
  rw [descriptor, h, hoptions]
  cases d.faults.head? with
  | some e => rfl
  | none => cases hname : d.lastName? <;> simp [described, hname, Except.map]

/-! ### What is accepted -/

end Declaration

lemma Attribute.faults_eq_nil_iff {a : Attribute} :
    a.faults = [] ↔ (a.path = Declaration.attributePath →
      ∃ items, a.form = .options items ∧ ∀ item ∈ items, item.IsAccepted) := by
  obtain ⟨path, form⟩ := a
  by_cases hpath : path = Declaration.attributePath
  · cases form <;> simp [faults, hpath, AttributeOption.fault?_eq_none_iff]
  · simp [faults, hpath]

/-- Of separated options, those that cannot be accepted are all that is wrong. -/
lemma Attribute.IsSeparated.faults_eq {a : Attribute} (h : a.IsSeparated) :
    a.faults = a.items.filterMap AttributeOption.fault? := by
  by_cases hpath : a.path = Declaration.attributePath
  · obtain ⟨items, hitems⟩ := h hpath
    simp [faults, Attribute.items, hpath, hitems]
  · simp [faults, Attribute.items, hpath]

namespace Declaration

variable {d d' : Declaration}

lemma faults_of_isSeparated (h : ∀ a ∈ d.attributes, a.IsSeparated) :
    d.faults = d.items.filterMap AttributeOption.fault? := by
  rw [faults, items, List.filterMap_flatMap]
  exact List.flatMap_congr fun a ha => (h a ha).faults_eq

/-- There is a descriptor exactly if nothing is wrong. -/
lemma descriptor_eq_ok_iff {r : Descriptor} :
    d.descriptor = .ok r ↔ d.isGeneric = false ∧ d.faults = [] ∧ d.described = r := by
  cases hgeneric : d.isGeneric with
  | true => simp [descriptor, hgeneric]
  | false => rw [descriptor_eq hgeneric, outcome_eq_ok_iff, List.head?_eq_none_iff]; simp

lemma isAccepted_of_mem_items (h : d.faults = []) {item : AttributeOption}
    (hitem : item ∈ d.items) : item.IsAccepted := by
  obtain ⟨a, ha, hitem⟩ := List.mem_flatMap.1 hitem
  have hfaults : a.faults = [] := List.flatMap_eq_nil_iff.1 h a ha
  have hseparated : a.IsSeparated := fun hpath =>
    (Attribute.faults_eq_nil_iff.1 hfaults hpath).imp fun _ => And.left
  rw [hseparated.faults_eq, List.filterMap_eq_nil_iff] at hfaults
  exact AttributeOption.fault?_eq_none_iff.1 (hfaults item hitem)

/-- A class is what some option declares it to be. -/
lemma has_described (h : d.faults = []) (role : Role) :
    d.described.markers.has role = true ↔ ⟨role.name, none⟩ ∈ d.items := by
  rw [described, Markers.has_ofRoles, List.contains_iff_mem, List.mem_filterMap]
  constructor
  · rintro ⟨item, hitem, hrole⟩
    have hname := Role.ofName?_eq_some_iff.1 hrole
    rcases isAccepted_of_mem_items h hitem with ⟨role', rfl⟩ | ⟨s, -, rfl⟩
    · rwa [← hname]
    · exact absurd hname.symm role.name_ne_nameOption
  · intro hitem
    exact ⟨_, hitem, role.ofName?_name⟩

/-- What is said and what is wrong decide about the descriptor. -/
lemma descriptor_congr (hident : d'.ident = d.ident) (hgeneric : d'.isGeneric = d.isGeneric)
    (hitems : d'.items = d.items) (hfaults : d'.faults = d.faults) :
    d'.descriptor = d.descriptor := by
  cases h : d.isGeneric with
  | true => rw [descriptor, descriptor, hgeneric, h, if_pos rfl, if_pos rfl]
  | false =>
    rw [descriptor_eq h, descriptor_eq (hgeneric.trans h), hfaults, described, described, lastName?,
      lastName?, hitems, hident]

/-- What an attribute with another path could add is nothing. -/
lemma flatMap_filter_attributePath {α : Type} {f : Attribute → List α}
    (hf : ∀ a, a.path ≠ attributePath → f a = []) (as : List Attribute) :
    (as.filter (·.path = attributePath)).flatMap f = as.flatMap f := by
  induction as with
  | nil => rfl
  | cons a as ih =>
    by_cases ha : a.path = attributePath
    · simp [ha, ih]
    · simp [ha, ih, hf a ha]

/-- A declaration with generic parameters describes no class. Any other does exactly if every
attribute for descriptions puts options in parentheses, separated by commas, and each of them is a
role without a value or a name that is a text and not empty; if it describes none, the error is that
of the first attribute or option at fault, whatever comes after it. The class is owned by the system
loader, it is what some option declares it to be, and it has the last name that is given, or else
the path of the type. Attributes with other paths make no difference. Nor does it make one how the
options are spread over attributes; and if no error is made, options can be repeated and permuted as
long as the last name stays the last. -/
theorem descriptor_of_attributes (d : Declaration) :
    (d.isGeneric = true → d.descriptor = .error .generic) ∧
    (d.isGeneric = false →
      ((∃ r, d.descriptor = .ok r) ↔ ∀ a ∈ d.attributes, a.path = attributePath →
        ∃ items, a.form = .options items ∧ ∀ item ∈ items, item.IsAccepted) ∧
      ∀ e, d.descriptor = .error e ↔ d.faults.head? = some e) ∧
    (∀ r, d.descriptor = .ok r → ∀ modulePath,
      (r.reference modulePath).name = d.lastName?.getD (modulePath ++ "::" ++ d.ident) ∧
      (r.reference modulePath).loader = .system ∧
      ∀ role, (r.reference modulePath).markers.has role = true ↔ ⟨role.name, none⟩ ∈ d.items) ∧
    (⟨d.ident, d.generics, d.attributes.filter (·.path = attributePath)⟩ : Declaration).descriptor =
      d.descriptor ∧
    ∀ d' : Declaration, d'.ident = d.ident → d'.isGeneric = d.isGeneric →
      (∀ a ∈ d.attributes, a.IsSeparated) → (∀ a ∈ d'.attributes, a.IsSeparated) →
      (d'.items = d.items → d'.descriptor = d.descriptor) ∧
      ((∀ item, item ∈ d'.items ↔ item ∈ d.items) → d'.lastName? = d.lastName? →
        ∀ r, d'.descriptor = .ok r ↔ d.descriptor = .ok r) := by
  refine ⟨?_, ?_, ?_, ?_, ?_⟩
  · intro hgeneric
    rw [descriptor, if_pos hgeneric]
  · intro hgeneric
    constructor
    · simp only [descriptor_eq_ok_iff, hgeneric, true_and, exists_and_left, exists_eq', and_true,
        faults, List.flatMap_eq_nil_iff, Attribute.faults_eq_nil_iff]
    · intro e
      rw [descriptor_eq hgeneric, outcome_eq_error_iff]
  · intro r hr modulePath
    obtain ⟨-, hfaults, rfl⟩ := descriptor_eq_ok_iff.1 hr
    refine ⟨?_, rfl, has_described hfaults⟩
    show (d.lastName?.elim (DescriptorName.pathOf d.ident) .given).resolve modulePath = _
    cases d.lastName? <;> rfl
  · refine descriptor_congr rfl rfl ?_ ?_
    · exact flatMap_filter_attributePath (fun a ha => if_neg ha) d.attributes
    · exact flatMap_filter_attributePath (fun a ha => if_neg ha) d.attributes
  · intro d' hident hgeneric hd hd'
    have hfaults := faults_of_isSeparated hd
    have hfaults' := faults_of_isSeparated hd'
    constructor
    · intro hitems
      exact descriptor_congr hident hgeneric hitems (by rw [hfaults', hitems, hfaults])
    · intro hitems hlast r
      have hiff : d'.faults = [] ↔ d.faults = [] := by
        simp only [hfaults', hfaults, List.filterMap_eq_nil_iff, hitems]
      rw [descriptor_eq_ok_iff, descriptor_eq_ok_iff, hgeneric, hiff]
      refine and_congr_right fun _ => and_congr_right fun hnone => ?_
      have hmarkers : d'.described.markers = d.described.markers := Markers.ext_has fun role => by
        rw [Bool.eq_iff_iff, has_described (hiff.2 hnone), has_described hnone, hitems]
      have hname : d'.described.name = d.described.name := by
        rw [described, described, hlast, hident]
      have hdescribed : d'.described = d.described := congrArg₂ Descriptor.mk hname hmarkers
      rw [hdescribed]

/-- A ledger that is described by one attribute, by several, and with repetitions. -/
theorem descriptor_of_attributes_ledger :
    let decorator : AttributeOption := ⟨"decorator", none⟩
    let stereotype : AttributeOption := ⟨"stereotype", none⟩
    let named (s : String) : AttributeOption := ⟨"name", some (.text s)⟩
    let bean (items : List AttributeOption) : Attribute := ⟨"bean", .options items⟩
    let ledger (attributes : List Attribute) : Declaration := ⟨"Ledger", "", attributes⟩
    let single := ledger [bean [decorator, named "Draft", stereotype, named "app::Ledger"]]
    let spread := ledger [bean [decorator, named "Draft"], ⟨"doc", .bare⟩, bean [],
      bean [stereotype, named "app::Ledger"]]
    let mixed := ledger [bean [stereotype, named "app::Ledger", named "Draft", decorator],
      bean [decorator, named "app::Ledger"]]
    let faulty := ledger [bean [decorator, named "", ⟨"scope", none⟩], ⟨"bean", .bare⟩]
    let generic : Declaration := ⟨"Ledger", "<T>", [⟨"bean", .bare⟩]⟩
    generic.isGeneric = true ∧ generic.descriptor = .error .generic ∧
    faulty.isGeneric = false ∧ faulty.descriptor = .error .emptyName ∧
    (∃ r, single.descriptor = .ok r ∧ (r.reference "app::books").name = "app::Ledger" ∧
      (r.reference "app::books").markers.has .stereotype = true) ∧
    spread.items = single.items ∧ spread.descriptor = single.descriptor ∧
    (∀ item, item ∈ mixed.items ↔ item ∈ single.items) ∧
    ∃ r, mixed.descriptor = .ok r ∧ single.descriptor = .ok r := by
  intro decorator stereotype named bean ledger single spread mixed faulty generic
  have hbean (items : List AttributeOption) : (bean items).IsSeparated := fun _ => ⟨items, rfl⟩
  have hdoc : (⟨"doc", .bare⟩ : Attribute).IsSeparated := fun h => absurd h (by decide)
  have hsingle : ∀ a ∈ single.attributes, a.IsSeparated := by
    simp [single, ledger, hbean]
  have hspread : ∀ a ∈ spread.attributes, a.IsSeparated := by
    simp [spread, ledger, hbean, hdoc]
  have hmixed : ∀ a ∈ mixed.attributes, a.IsSeparated := by
    simp [mixed, ledger, hbean]
  have hitems : ∀ item, item ∈ mixed.items ↔ item ∈ single.items := by
    have hsubset : mixed.items ⊆ single.items := by decide
    have hsuperset : single.items ⊆ mixed.items := by decide
    exact fun _ => ⟨@hsubset _, @hsuperset _⟩
  obtain ⟨hgeneric, -⟩ := descriptor_of_attributes generic
  obtain ⟨-, hfaulty, -⟩ := descriptor_of_attributes faulty
  obtain ⟨-, hdescribed, hread, -, hsame⟩ := descriptor_of_attributes single
  have hr : single.descriptor = .ok single.described := rfl
  obtain ⟨hname, -, hmarkers⟩ := hread _ hr "app::books"
  obtain ⟨hspread', -⟩ := hsame spread rfl rfl hsingle hspread
  obtain ⟨-, hmixed'⟩ := hsame mixed rfl rfl hsingle hmixed
  have hparameters : generic.isGeneric = true := by decide +kernel
  have hplain : faulty.isGeneric = false := by decide +kernel
  refine ⟨hparameters, hgeneric hparameters, hplain, ((hfaulty hplain).2 _).2 rfl,
    ⟨_, hr, hname, (hmarkers _).2 (.tail _ (.tail _ (.head _)))⟩, rfl, hspread' rfl, hitems,
    _, (hmixed' hitems rfl _).2 hr, hr⟩

end Declaration

end BeanContainer
