import BeanContainer.Proofs.Lifecycle.Annotated
import BeanContainer.Proofs.Lifecycle.Beans
import BeanContainer.Proofs.Lifecycle.Named
/-!
# What a container finds

In every container each class has one source at most, and classes come before beans
(`Model.IsOrdered`). So selecting by a class yields the class itself, if it is there, and otherwise
the bean that was added first among those that offer it. A bean offers its own class and every type
that was added to it, and no two beans share a name.
-/

namespace BeanContainer

namespace Model

/-! ### Order -/

/-- Each class has one source at most, and classes come before beans. -/
structure IsOrdered (m : Model) : Prop where
  nodup : (m.beanClasses.map ClassRef.id).Nodup
  beansLast : m.sources = m.sources.filter (fun s => s.class?.isSome) ++ m.beans.map .ofBean

variable {m : Model}

/-- Selecting by a class yields the class, then the beans that offer it. -/
lemma IsOrdered.selectAll_eq (h : m.IsOrdered) (c : ClassRef) :
    m.selectAll c = m.sources.filter (Source.isOf c.id) ++
      (m.beans.filter fun x => x.types.contains c).map .ofBean := by
  have hclasses : ∀ s ∈ m.sources.filter (fun s => s.class?.isSome),
      s.isSelectedBy c = s.isOf c.id := by
    intro s hs
    cases s with
    | ofClass c' origin metadata => rfl
    | ofBean x => simp [Source.class?] at hs
  have hbeans : (m.beans.map Source.ofBean).filter (Source.isOf c.id) = [] := by
    refine List.filter_eq_nil_iff.2 fun s hs => ?_
    obtain ⟨x, -, rfl⟩ := List.mem_map.1 hs
    exact Bool.false_ne_true
  rw [selectAll, h.beansLast, List.filter_append, List.filter_append, hbeans, List.append_nil,
    List.filter_congr hclasses, List.filter_map]
  rfl

/-- A class has one source at most. -/
lemma IsOrdered.length_filter_isOf_le (h : m.IsOrdered) (k : ClassId) :
    (m.sources.filter (Source.isOf k)).length ≤ 1 := by
  by_cases hk : k ∈ m.beanClasses.map ClassRef.id
  · obtain ⟨c, origin, metadata, -, hfilter⟩ := Source.exists_filter_isOf h.nodup hk
    rw [hfilter]
    exact Nat.le_refl 1
  · have hnil : m.sources.filter (Source.isOf k) = [] := by
      refine List.filter_eq_nil_iff.2 fun s hs hsk => hk ?_
      obtain ⟨c, hc, heq⟩ := (Option.any_eq_true _ _).1 hsk
      exact of_decide_eq_true heq ▸ List.mem_map_of_mem (List.mem_filterMap.2 ⟨s, hs, hc⟩)
    rw [hnil]
    exact Nat.zero_le 1

/-- What is selected by a class is the first source that can be. -/
lemma IsOrdered.select_eq_head? (h : m.IsOrdered) (c : ClassRef) :
    m.select c = (m.selectAll c).head? := by
  have hle := h.length_filter_isOf_le c.id
  have hof : ∀ s ∈ m.sources.filter (Source.isOf c.id), s.class?.isSome = true := by
    intro s hs
    obtain ⟨c', hc', -⟩ := (Option.any_eq_true _ _).1 (List.mem_filter.1 hs).2
    rw [hc']
    rfl
  rw [select, h.selectAll_eq]
  match hs : m.sources.filter (Source.isOf c.id) with
  | [] =>
    rw [List.nil_append, List.find?_eq_none.2, Option.none_or]
    intro s hs'
    obtain ⟨x, -, rfl⟩ := List.mem_map.1 hs'
    exact Bool.false_ne_true
  | [s] =>
    have hclass : s.class?.isSome = true := hof s (hs ▸ List.mem_singleton_self s)
    simp only [List.singleton_append, List.find?_cons, hclass, Option.some_or, List.head?_cons]
  | s :: s' :: ss =>
    rw [hs] at hle
    simp at hle

lemma IsOrdered.select_eq_none_iff (h : m.IsOrdered) (c : ClassRef) :
    m.select c = none ↔ m.selectAll c = [] := by
  rw [h.select_eq_head?, List.head?_eq_none_iff]

/-- The class itself is selected if it is there, and else the bean that was added first among those
that offer it. -/
lemma IsOrdered.select_eq (h : m.IsOrdered) (c : ClassRef) :
    m.select c = (m.sources.find? (Source.isOf c.id)).or
      ((m.beans.find? fun x => x.types.contains c).map .ofBean) := by
  rw [h.select_eq_head?, h.selectAll_eq, List.head?_append, List.head?_filter, List.head?_map,
    List.head?_filter]

/-- A bean can be selected by the classes that it offers. -/
lemma IsOrdered.mem_selectAll (h : m.IsOrdered) {x : Bean} (hx : x ∈ m.beans) {c : ClassRef}
    (hc : x.types.contains c = true) : .ofBean x ∈ m.selectAll c := by
  rw [h.selectAll_eq]
  exact List.mem_append_right _ (List.mem_map_of_mem (List.mem_filter.2 ⟨hx, hc⟩))

end Model

/-! ### Names -/

namespace Deployment

/-- If no name is ambiguous, then no two beans share one. -/
lemma count_name_le {d : Deployment} (h : d.nameProblems = []) {n : String} (hn : n ≠ "") :
    (d.beans.filterMap fun e => e.definition.name).count n ≤ 1 := by
  have hcount : (d.beans.filterMap fun e => e.definition.name).count n = d.beanNames.count n := by
    rw [beanNames, List.count_filter (by simpa using hn)]
  rw [hcount]
  by_cases hmem : n ∈ d.beanNames
  · have hfirsts : n ∈ (Keyed.firsts id d.beanNames).map id :=
      Keyed.mem_map_firsts.2 (by rwa [List.map_id])
    rw [List.map_id, ← Keyed.gather_first] at hfirsts
    have hnot := List.filter_eq_nil_iff.1 (List.map_eq_nil_iff.1 h) n hfirsts
    simpa using hnot
  · rw [List.count_eq_zero_of_not_mem hmem]
    exact Nat.zero_le 1

lemma map_definition_builtBeans (d : Deployment) (builder : Nat) :
    (d.builtBeans builder).map Bean.definition = d.beans.map BeanEntry.definition := by
  have hdefinition : ∀ position (e : BeanEntry),
      (e.bean builder position).definition = e.definition := by
    intro position e
    cases e <;> rfl
  refine List.ext_getElem (by simp [builtBeans]) fun i _ _ => ?_
  simp only [builtBeans, List.getElem_map, List.getElem_mapIdx, hdefinition]

/-- The sources with a name are as many as the entries with that name. -/
lemma length_filter_beanName? (d : Deployment) (builder : Nat) (found : List ClassRef)
    (n : String) :
    ((d.sources builder found).filter fun s => s.beanName? == some n).length =
      (d.beans.filterMap fun e => e.definition.name).count n := by
  have hnames : (d.sources builder found).filterMap Source.beanName? =
      d.beans.filterMap fun e => e.definition.name :=
    calc (d.sources builder found).filterMap Source.beanName?
        = ((d.sources builder found).filterMap Source.bean?).filterMap Bean.name :=
          List.filterMap_filterMap.symm
      _ = ((d.builtBeans builder).map Bean.definition).filterMap BeanDefinition.name := by
          rw [filterMap_bean?_sources, List.filterMap_map]
          rfl
      _ = d.beans.filterMap fun e => e.definition.name := by
          rw [map_definition_builtBeans, List.filterMap_map]
          rfl
  rw [← hnames, List.count_filterMap, List.countP_eq_length_filter]

end Deployment

/-! ### Starts -/

/-- A start without problems has no ambiguous names. -/
lemma Bootstrap.length_beansNamed_le {s : Bootstrap} {f : Findings} {registry : Registry}
    (h : s.problems f registry = []) (builder : Nat) {n : String} (hn : n ≠ "") :
    ((s.model builder f).beansNamed n).length ≤ 1 := by
  have hown : s.ownProblems f = [] := (List.append_eq_nil_iff.1 h).1
  have hnames : s.deployment.nameProblems = [] := (List.append_eq_nil_iff.1 hown).2
  have hlength := s.deployment.length_filter_beanName? builder f.classes n
  exact Nat.le_trans (Nat.le_of_eq hlength) (Deployment.count_name_le hnames hn)

/-- In the model of a start, classes are distinct and come before beans. -/
lemma Bootstrap.isOrdered_model {s : Bootstrap} {calls : List Call}
    (h : s.deployment.Accumulates calls) (builder : Nat) (f : Findings) :
    (s.model builder f).IsOrdered := by
  constructor
  · show (((s.deployment.sources builder f.classes).filterMap Source.class?).map ClassRef.id).Nodup
    rw [h.sources_eq, Call.filterMap_class?_sources]
    exact Keyed.nodup_map_firsts _
  · show s.deployment.sources builder f.classes =
      (s.deployment.sources builder f.classes).filter (fun s => s.class?.isSome) ++
        ((s.deployment.sources builder f.classes).filterMap Source.bean?).map .ofBean
    rw [Deployment.filter_class?_sources, Deployment.filterMap_bean?_sources]
    rfl

namespace World

variable {w : World} {b : Nat}

/-- A container that is up has been up before, or has just been handed out. -/
lemma container?_step {s : Step} {c : Container} (h : (w.step s).1.container? b = some c) :
    w.container? b = some c ∨
      ∃ params, s = .poll b params ∧ (w.poll b params).2 = .ready (.ok c.model) := by
  rw [container?_eq_some_iff] at h ⊢
  have hrule := StageRule.of_step w b s
  rw [h] at hrule
  generalize ht : Stage.running c = t, hr : (w.step s).2 = r at hrule
  cases hrule with
  | kept => exact .inl rfl
  | launched =>
    obtain rfl := Stage.running.inj ht
    exact .inr ⟨_, rfl, StepResult.polled.inj hr⟩
  | _ => cases ht

/-- A container that is up in a run has been handed out by a poll. -/
lemma exists_poll_of_container? {steps : List Step} {c : Container}
    (h : (({} : World).run steps).1.container? b = some c) :
    ∃ before params rest, steps = before ++ .poll b params :: rest ∧
      ((({} : World).run before).1.poll b params).2 = .ready (.ok c.model) := by
  induction steps using List.reverseRecOn with
  | nil => cases h
  | append_singleton ss s ih =>
    rw [run_append] at h
    rcases container?_step h with h | ⟨params, rfl, hr⟩
    · obtain ⟨before, params, rest, rfl, hr⟩ := ih h
      exact ⟨before, params, rest ++ [s], by simp, hr⟩
    · exact ⟨ss, params, [], rfl, hr⟩

end World

/-- What is found in a container that is up, by any class and any name. Selecting all by a class
yields the source of the class, of which there is one at most, and then the beans that offer the
class, in their order. Selecting one yields the first of these: the class if it is there, otherwise
the first bean that offers it, and nothing only if there is nothing to select. Every bean can be
selected by its own class and by each type that was added to it. And no two beans share a name. -/
theorem lookup_of_container {steps : List Step} {b : Nat} {c : Container}
    (hc : (({} : World).run steps).1.container? b = some c) :
    let m := c.model
    (∀ k, m.selectAll k = m.sources.filter (Source.isOf k.id) ++
      (m.beans.filter fun x => x.types.contains k).map .ofBean) ∧
    (∀ k, (m.sources.filter (Source.isOf k)).length ≤ 1) ∧
    (∀ k, m.select k = none ↔ m.selectAll k = []) ∧
    (∀ k, m.select k = (m.selectAll k).head?) ∧
    (∀ k, m.select k = (m.sources.find? (Source.isOf k.id)).or
      ((m.beans.find? fun x => x.types.contains k).map .ofBean)) ∧
    (∀ x ∈ m.beans, .ofBean x ∈ m.selectAll x.implementation) ∧
    (∀ x ∈ m.beans, ∀ k edits, x.definition = (BeanDefinition.ofClass k).edit edits →
      ∀ t, .addType t ∈ edits → .ofBean x ∈ m.selectAll t) ∧
    (∀ n, n ≠ "" → (m.beansNamed n).length ≤ 1) := by
  intro m
  obtain ⟨before, params, rest, rfl, hr⟩ := World.exists_poll_of_container? hc
  obtain ⟨s, asked, f, hp, hnil, hs⟩ := World.exists_progress?_of_started hr
  have hm : m = s.model b f := hs
  have hacc := World.accumulates_of_progress? (World.isMadeOf_run before b) hp
  have hordered : m.IsOrdered := by
    rw [hm]
    exact Bootstrap.isOrdered_model hacc b f
  refine ⟨hordered.selectAll_eq, hordered.length_filter_isOf_le, hordered.select_eq_none_iff,
    hordered.select_eq_head?, hordered.select_eq, ?_, ?_, ?_⟩
  · intro x hx
    exact hordered.mem_selectAll hx x.definition.contains_implementation
  · intro x hx k edits hd t ht
    refine hordered.mem_selectAll hx ?_
    rw [Bean.types, hd]
    have hsaid : t ∈ BeanEdit.said .types edits := BeanEdit.word_mem_said ht
    exact BeanDefinition.contains_types_edit_iff.2 (.tail _ (List.mem_map_of_mem hsaid))
  · intro n hn
    rw [hm]
    exact Bootstrap.length_beansNamed_le hnil b hn

def storeClass : ClassRef := ⟨⟨"app::Store", .system⟩, {}⟩

def ledgerType : ClassRef := ⟨⟨"app::Ledger", .system⟩, {}⟩

/-- A book that was made beforehand, to be found as a ledger. -/
def book : Bean :=
  ⟨.standalone 1, (BeanDefinition.ofClass ⟨⟨"app::Book", .system⟩, {}⟩).edit [.addType ledgerType]⟩

/-- What is said about a box, to be found as a ledger and as a store. -/
def box : BeanDefinition :=
  (BeanDefinition.ofClass ⟨⟨"app::Box", .system⟩, {}⟩).edit
    [.name "box", .addType ledgerType, .addType storeClass]

/-- A builder with a box, a book, and the class of stores. -/
def shelf : List Step :=
  [.newBuilder, .makeBean book.definition,
    .call 0 (.configureBean ⟨⟨"app::Box", .system⟩, {}⟩
      [.name "box", .addType ledgerType, .addType storeClass]),
    .call 0 (.addBeans [book]), .call 0 (.addBeanClasses [storeClass]), .poll 0 ∅]

theorem lookup_of_container_shelf :
    ∃ c, (({} : World).run shelf).1.container? 0 = some c ∧
      c.model.selectAll storeClass =
        [.ofClass storeClass .synthetic none, .ofBean ⟨.configured 0 0, box⟩] ∧
      c.model.select storeClass = some (.ofClass storeClass .synthetic none) ∧
      c.model.select ledgerType = some (.ofBean ⟨.configured 0 0, box⟩) ∧
      .ofBean book ∈ c.model.selectAll ledgerType ∧
      (c.model.beansNamed "box").length ≤ 1 := by
  obtain ⟨c, hc⟩ : ∃ c, (({} : World).run shelf).1.container? 0 = some c := ⟨_, rfl⟩
  obtain ⟨hall, -, -, -, hselect, -, htypes, hnames⟩ := lookup_of_container hc
  obtain rfl := Option.some.inj hc
  refine ⟨_, rfl, (hall storeClass).trans rfl, (hselect storeClass).trans rfl,
    (hselect ledgerType).trans rfl, ?_, hnames "box" (by decide)⟩
  exact htypes book (.tail _ (.head _)) _ _ rfl ledgerType (.head _)

end BeanContainer
