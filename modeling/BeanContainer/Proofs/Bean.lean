import BeanContainer.Bean
import BeanContainer.Proofs.Keyed
/-!
# What is said about a bean

Each thing that is said about a bean concerns one of its traits (`BeanEdit.trait`), and what becomes
of a trait depends on what is said about that one, in order (`BeanEdit.said`). Of a scope, a name, a
flag or a producer the last word counts, qualifiers add up, and types add up without repetition,
after the class of the bean itself (`BeanDefinition.Collects`). So it does not matter how words
about different traits are mixed (`BeanDefinition.edit_congr`).
-/

namespace BeanContainer

/-- A list contains a class if one of its references is to that class. -/
lemma ClassRef.contains_iff {cs : List ClassRef} {c : ClassRef} :
    cs.contains c = true ↔ c.id ∈ cs.map ClassRef.id := by
  simp only [List.contains_eq_any_beq, List.any_eq_true, ClassRef.beq_iff, List.mem_map]
  exact exists_congr fun _ => and_congr_right fun _ => eq_comm

/-! ### Traits -/

/-- What can be said about a bean. -/
inductive Trait where
  | scope
  | name
  | qualifiers
  | types
  | alternative
  | producer
  deriving DecidableEq

/-- What one word about a trait says. -/
abbrev Trait.Word : Trait → Type
  | .scope | .name => String
  | .qualifiers => Annotation
  | .types => ClassRef
  | .alternative => Bool
  | .producer => Producer

/-- What a definition says about a trait. -/
abbrev Trait.Content : Trait → Type
  | .scope => String
  | .name => Option String
  | .qualifiers => List Annotation
  | .types => List ClassRef
  | .alternative => Bool
  | .producer => Option Producer

namespace BeanEdit

/-- The trait that is spoken of. -/
def trait : BeanEdit → Trait
  | .scope _ => .scope
  | .name _ => .name
  | .qualifier _ => .qualifiers
  | .addType _ => .types
  | .alternative _ => .alternative
  | .produceWith _ => .producer

def word : (e : BeanEdit) → e.trait.Word
  | .scope s => s
  | .name n => n
  | .qualifier a => a
  | .addType c => c
  | .alternative flag => flag
  | .produceWith p => p

/-- What is said about a trait, if it is the one that is spoken of. -/
def word? (t : Trait) (e : BeanEdit) : Option t.Word :=
  if h : e.trait = t then some (h ▸ e.word) else none

lemma word?_of_ne {e : BeanEdit} {t : Trait} (h : e.trait ≠ t) : e.word? t = none := dif_neg h

/-- All that is said about a trait, in order. -/
def said (t : Trait) (es : List BeanEdit) : List t.Word := es.filterMap (word? t)

lemma word_mem_said {e : BeanEdit} {es : List BeanEdit} (h : e ∈ es) : e.word ∈ said e.trait es :=
  List.mem_filterMap.2 ⟨e, h, dif_pos rfl⟩

lemma said_concat (t : Trait) (es : List BeanEdit) (e : BeanEdit) :
    said t (es ++ [e]) = said t es ++ (e.word? t).toList := by
  cases h : e.word? t <;> simp [said, h]

/-- Words about different traits can be exchanged. -/
lemma said_swap {e f : BeanEdit} (h : e.trait ≠ f.trait) (pre post : List BeanEdit) (t : Trait) :
    said t (pre ++ f :: e :: post) = said t (pre ++ e :: f :: post) := by
  by_cases he : e.trait = t
  · have hf : f.word? t = none := word?_of_ne fun hf => h (he.trans hf.symm)
    simp [said, List.filterMap_cons, hf]
  · simp [said, List.filterMap_cons, word?_of_ne he]

end BeanEdit

namespace BeanDefinition

def content (d : BeanDefinition) : (t : Trait) → t.Content
  | .scope => d.scope
  | .name => d.name
  | .qualifiers => d.qualifiers
  | .types => d.types
  | .alternative => d.alternative
  | .producer => d.producer

/-! ### One word -/

/-- Types are kept like the classes of a set: one that is there already stays as it is. -/
lemma apply_addType (d : BeanDefinition) (c : ClassRef) :
    d.apply (.addType c) =
      { d with
        types := Keyed.put ClassRef.id Keyed.first c d.types
        implementation_mem := Keyed.subset_put_first c d.types d.implementation_mem } := by
  rw [apply]
  split
  · next h => simp only [Keyed.put_first_of_mem (ClassRef.contains_iff.1 h)]
  · next h => simp only [Keyed.put_of_not_mem (mt ClassRef.contains_iff.2 h)]

/-- A word changes a definition in the trait that it is about. -/
lemma apply_eq (d : BeanDefinition) (e : BeanEdit) :
    d.apply e =
      { implementation := d.implementation
        scope := (e.word? .scope).getD d.scope
        name := (e.word? .name).or d.name
        qualifiers := d.qualifiers ++ (e.word? .qualifiers).toList
        types := Keyed.putAll ClassRef.id Keyed.first d.types (e.word? .types).toList
        alternative := (e.word? .alternative).getD d.alternative
        producer := (e.word? .producer).or d.producer
        implementation_mem := Keyed.subset_putAll_first d.types _ d.implementation_mem } := by
  cases e with
  | addType c => simp [apply_addType, BeanEdit.word?, BeanEdit.trait, BeanEdit.word]
  | _ => simp [apply, BeanEdit.word?, BeanEdit.trait, BeanEdit.word]

/-- What is said about one trait leaves the others as they are. -/
lemma content_apply_of_ne (d : BeanDefinition) {e : BeanEdit} {t : Trait} (h : e.trait ≠ t) :
    (d.apply e).content t = d.content t := by
  rw [apply_eq]
  cases t <;> simp [content, BeanEdit.word?_of_ne h]

/-! ### All that is said -/

/-- What has been said about a bean of a class, put together. -/
structure Collects (d : BeanDefinition) (c : ClassRef) (es : List BeanEdit) : Prop where
  implementation : d.implementation = c
  scope : d.scope = (BeanEdit.said .scope es).getLast?.getD defaultScope
  name : d.name = (BeanEdit.said .name es).getLast?
  qualifiers : d.qualifiers = BeanEdit.said .qualifiers es
  types : d.types = Keyed.firsts ClassRef.id (c :: BeanEdit.said .types es)
  alternative : d.alternative = (BeanEdit.said .alternative es).getLast?.getD false
  producer : d.producer = (BeanEdit.said .producer es).getLast?

lemma collects_ofClass (c : ClassRef) : (ofClass c).Collects c [] :=
  ⟨rfl, rfl, rfl, rfl, rfl, rfl, rfl⟩

/-- Each word is added to what has been said about its trait. -/
lemma Collects.apply {d : BeanDefinition} {c : ClassRef} {es : List BeanEdit}
    (h : d.Collects c es) (e : BeanEdit) : (d.apply e).Collects c (es ++ [e]) := by
  rw [apply_eq]
  constructor
  · exact h.implementation
  · simp only [h.scope, BeanEdit.said_concat, List.getLast?_append]
    cases e.word? .scope <;> simp
  · simp only [h.name, BeanEdit.said_concat, List.getLast?_append]
    cases e.word? .name <;> simp
  · simp only [h.qualifiers, BeanEdit.said_concat]
  · simp only [h.types, BeanEdit.said_concat, ← Keyed.gather_first, Keyed.gather,
      ← List.cons_append, Keyed.putAll_append]
  · simp only [h.alternative, BeanEdit.said_concat, List.getLast?_append]
    cases e.word? .alternative <;> simp
  · simp only [h.producer, BeanEdit.said_concat, List.getLast?_append]
    cases e.word? .producer <;> simp

lemma collects_edit (c : ClassRef) (es : List BeanEdit) : ((ofClass c).edit es).Collects c es := by
  induction es using List.reverseRecOn with
  | nil => exact collects_ofClass c
  | append_singleton es e ih =>
    rw [edit_append, edit_cons, edit_nil]
    exact ih.apply e

/-- A bean offers its own class and every type that has been added to it. -/
lemma contains_types_edit_iff {c t : ClassRef} {es : List BeanEdit} :
    ((ofClass c).edit es).types.contains t = true ↔
      t.id ∈ (c :: BeanEdit.said .types es).map ClassRef.id := by
  rw [(collects_edit c es).types, ClassRef.contains_iff, Keyed.mem_map_firsts]

lemma contains_implementation (d : BeanDefinition) : d.types.contains d.implementation = true :=
  ClassRef.contains_iff.2 (List.mem_map_of_mem d.implementation_mem)

/-- A definition is known by what has been said about each trait. -/
lemma edit_congr (c : ClassRef) {es fs : List BeanEdit}
    (h : ∀ t, BeanEdit.said t es = BeanEdit.said t fs) :
    (ofClass c).edit es = (ofClass c).edit fs := by
  have hes := collects_edit c es
  have hfs := collects_edit c fs
  ext1
  · rw [hes.implementation, hfs.implementation]
  · rw [hes.scope, hfs.scope, h]
  · rw [hes.name, hfs.name, h]
  · rw [hes.qualifiers, hfs.qualifiers, h]
  · rw [hes.types, hfs.types, h]
  · rw [hes.alternative, hfs.alternative, h]
  · rw [hes.producer, hfs.producer, h]

end BeanDefinition

/-- A bean offers its own class and then the types that have been added to it, in order, without
those whose class is on the list already, be it by another reference. It has all qualifiers that
were added, in order, and the scope, the name, the flag and the producer that were given last, or
the default where none was given. Words about different traits can be exchanged, and what is said
about one trait leaves the others as they are. -/
theorem bean_of_edits (c : ClassRef) (es : List BeanEdit) (id : BeanId) :
    let b : Bean := ⟨id, (BeanDefinition.ofClass c).edit es⟩
    b.implementation = c ∧
    b.types = Keyed.firsts ClassRef.id (c :: BeanEdit.said .types es) ∧
    b.types.head? = some c ∧ (b.types.map ClassRef.id).Nodup ∧
    b.definition.qualifiers = BeanEdit.said .qualifiers es ∧
    b.definition.scope = (BeanEdit.said .scope es).getLast?.getD defaultScope ∧
    b.name = (BeanEdit.said .name es).getLast? ∧
    b.definition.alternative = (BeanEdit.said .alternative es).getLast?.getD false ∧
    b.definition.producer = (BeanEdit.said .producer es).getLast? ∧
    (∀ pre e f post, es = pre ++ e :: f :: post → e.trait ≠ f.trait →
      (BeanDefinition.ofClass c).edit (pre ++ f :: e :: post) = b.definition) ∧
    ∀ e t, e.trait ≠ t →
      ((BeanDefinition.ofClass c).edit (es ++ [e])).content t = b.definition.content t := by
  intro b
  have hcollects := BeanDefinition.collects_edit c es
  have htypes : b.types = Keyed.firsts ClassRef.id (c :: BeanEdit.said .types es) := hcollects.types
  refine ⟨hcollects.implementation, htypes, ?_, ?_, hcollects.qualifiers, hcollects.scope,
    hcollects.name, hcollects.alternative, hcollects.producer, ?_, ?_⟩
  · rw [htypes, Keyed.firsts_cons, List.head?_cons]
  · rw [htypes]
    exact Keyed.nodup_map_firsts _
  · rintro pre e f post rfl hne
    exact BeanDefinition.edit_congr c (BeanEdit.said_swap hne pre post)
  · intro e t hne
    rw [BeanDefinition.edit_append, BeanDefinition.edit_cons, BeanDefinition.edit_nil]
    exact BeanDefinition.content_apply_of_ne _ hne

/-- A ledger that is given the type of ledgers once more, by a reference with other markers. -/
theorem bean_of_edits_readdedClass :
    let ledger : ClassRef := ⟨⟨"app::Ledger", .system⟩, {}⟩
    let marked : ClassRef := { ledger with markers := { alternative := true } }
    let port : ClassRef := ⟨⟨"app::Port", .system⟩, {}⟩
    let kept : Annotation := { name := "Kept" }
    let pre : List BeanEdit := [.name "draft", .qualifier kept, .addType port]
    let post : List BeanEdit := [.addType port, .name "ledger"]
    let es := pre ++ .addType marked :: .qualifier kept :: post
    let d := (BeanDefinition.ofClass ledger).edit es
    d.types = [ledger, port] ∧ d.qualifiers = [kept, kept] ∧ d.name = some "ledger" ∧
    (BeanEdit.addType marked).trait ≠ (BeanEdit.qualifier kept).trait ∧
    (BeanDefinition.ofClass ledger).edit (pre ++ .qualifier kept :: .addType marked :: post) = d ∧
    (BeanEdit.scope "request").trait ≠ .types ∧
    ((BeanDefinition.ofClass ledger).edit (es ++ [.scope "request"])).content .types =
      [ledger, port] := by
  intro ledger marked port kept pre post es d
  obtain ⟨-, htypes, -, -, hqualifiers, -, hname, -, -, hswap, hother⟩ :=
    bean_of_edits ledger es (.standalone 0)
  have htypes' : d.types = [ledger, port] := htypes
  exact ⟨htypes', hqualifiers, hname, by decide, hswap pre _ _ post rfl (by decide), by decide,
    (hother (.scope "request") .types (by decide)).trans htypes'⟩

end BeanContainer
