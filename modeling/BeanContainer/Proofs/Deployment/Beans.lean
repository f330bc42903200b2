import BeanContainer.Deployment.Source
import BeanContainer.Proofs.Deployment.Accumulation
/-!
# Which beans a deployment has

Calls describe beans, and add beans that were made beforehand. Every description stays, however much
it is like another, for each is to become a bean of its own. A bean that was made beforehand stays
where it was added first, however often it is added (`BeanEntry.kept`). So the beans of a deployment
can be told apart, as long as none of those that were added is one that the builder itself makes
(`Deployment.nodup_id_builtBeans`).
-/

namespace BeanContainer

namespace Call

/-- What is said about the bean that a call describes, if it describes one. -/
def described? : Call → Option BeanDefinition
  | .configureBean c edits => some ((BeanDefinition.ofClass c).edit edits)
  | _ => none

/-- The beans, made beforehand, that a call adds. -/
def added : Call → List Bean
  | .addBeans bs => bs
  | _ => []

end Call

namespace BeanEntry

/-! ### Entries that stay -/

def described? : BeanEntry → Option BeanDefinition
  | .configured d => some d
  | .ready _ => none

def ready? : BeanEntry → Option Bean
  | .configured _ => none
  | .ready x => some x

/-- Entries without the beans made beforehand that are known already. -/
def kept (known : List BeanId) : List BeanEntry → List BeanEntry
  | [] => []
  | .configured d :: es => .configured d :: kept known es
  | .ready x :: es =>
    if x.id ∈ known then kept known es else .ready x :: kept (x.id :: known) es

/-- A bean is the same as an entry if its identity is among those of the beans made beforehand. -/
lemma any_same_ready (es : List BeanEntry) (x : Bean) :
    es.any (BeanEntry.ready x).same = true ↔ x.id ∈ (es.filterMap ready?).map Bean.id := by
  simp only [List.any_eq_true, List.mem_map, List.mem_filterMap]
  constructor
  · rintro ⟨e, he, hsame⟩
    cases e with
    | configured d => cases hsame
    | ready y => exact ⟨y, ⟨_, he, rfl⟩, beq_iff_eq.1 hsame⟩
  · rintro ⟨y, ⟨e, he, hy⟩, hid⟩
    cases e with
    | configured d => cases hy
    | ready y' =>
      obtain rfl := Option.some.inj hy
      exact ⟨_, he, beq_iff_eq.2 hid⟩

lemma loop_eraseDupsBy_same (es acc : List BeanEntry) :
    List.eraseDupsBy.loop same es acc =
      acc.reverse ++ kept ((acc.filterMap ready?).map Bean.id) es := by
  induction es generalizing acc with
  | nil => simp [List.eraseDupsBy.loop, kept]
  | cons e es ih =>
    cases e with
    | configured d =>
      have hnew : acc.any (BeanEntry.configured d).same = false := by simp [same]
      simp [List.eraseDupsBy.loop, hnew, ih, kept, List.filterMap_cons, ready?]
    | ready x =>
      by_cases hx : x.id ∈ (acc.filterMap ready?).map Bean.id
      · simp only [List.eraseDupsBy.loop, (any_same_ready acc x).2 hx, ih, kept, if_pos hx]
      · have hnew : acc.any (BeanEntry.ready x).same = false := by
          rwa [← Bool.not_eq_true, any_same_ready]
        simp only [List.eraseDupsBy.loop, hnew, ih, kept, if_neg hx]
        simp [ready?]

/-- The entries that are not the same as an earlier one are those that stay. -/
lemma eraseDupsBy_same (es : List BeanEntry) : es.eraseDupsBy same = kept [] es :=
  loop_eraseDupsBy_same es []

/-- Every description stays. -/
lemma filterMap_described?_kept (known : List BeanId) (es : List BeanEntry) :
    (kept known es).filterMap described? = es.filterMap described? := by
  induction es generalizing known with
  | nil => rfl
  | cons e es ih =>
    cases e with
    | configured d => simp only [kept, List.filterMap_cons, ih]
    | ready x =>
      rw [kept]
      split <;> simp only [List.filterMap_cons, described?, ih]

/-- Of the beans made beforehand, the first with each identity stays, if it is not known yet. -/
lemma filterMap_ready?_kept (known : List BeanId) (es : List BeanEntry) :
    (kept known es).filterMap ready? =
      (Keyed.firsts Bean.id (es.filterMap ready?)).filter fun x => x.id ∉ known := by
  induction es generalizing known with
  | nil => rfl
  | cons e es ih =>
    cases e with
    | configured d => simp only [kept, List.filterMap_cons, ready?, ih]
    | ready x =>
      have hcons : ∀ es', (BeanEntry.ready x :: es').filterMap ready? = x :: es'.filterMap ready? :=
        fun _ => rfl
      rw [kept, hcons, Keyed.firsts_cons]
      by_cases hx : x.id ∈ known
      · rw [if_pos hx, ih, List.filter_cons_of_neg (by simpa using hx), List.filter_filter]
        refine List.filter_congr fun y _ => ?_
        by_cases hy : y.id = x.id <;> simp [hy, hx]
      · rw [if_neg hx, hcons, ih, List.filter_cons_of_pos (by simpa using hx), List.filter_filter]
        simp [Bool.and_comm]

/-- The bean that a builder makes of the entry at a position, if it makes one. -/
def made? (builder position : Nat) (e : BeanEntry) : Option Bean :=
  e.described?.map (⟨.configured builder position, ·⟩)

end BeanEntry

namespace Call

variable (calls : List Call)

lemma filterMap_described?_beans :
    (calls.flatMap beans).filterMap BeanEntry.described? = calls.filterMap described? := by
  have hcall : ∀ c : Call, c.beans.filterMap BeanEntry.described? = c.described?.toList := by
    intro c
    cases c with
    | addBeans bs => simp [beans, described?, BeanEntry.described?, List.filterMap_map]
    | _ => rfl
  rw [List.filterMap_flatMap, List.filterMap_eq_flatMap_toList]
  exact List.flatMap_congr fun c _ => hcall c

lemma filterMap_ready?_beans :
    (calls.flatMap beans).filterMap BeanEntry.ready? = calls.flatMap added := by
  have hcall : ∀ c : Call, c.beans.filterMap BeanEntry.ready? = c.added := by
    intro c
    cases c with
    | addBeans bs => simp [beans, added, BeanEntry.ready?, List.filterMap_map, Function.comp_def]
    | _ => rfl
  rw [List.filterMap_flatMap]
  exact List.flatMap_congr fun c _ => hcall c

end Call

namespace Deployment

/-! ### The beans of a builder -/

/-- The beans that a builder itself makes. -/
def describedBeans (d : Deployment) (builder : Nat) : List Bean :=
  d.beans.zipIdx.filterMap fun e => e.1.made? builder e.2

lemma mem_describedBeans {d : Deployment} {builder : Nat} {x : Bean} :
    x ∈ d.describedBeans builder ↔ ∃ position definition,
      d.beans[position]? = some (.configured definition) ∧
        x = ⟨.configured builder position, definition⟩ := by
  simp only [describedBeans, List.mem_filterMap, Prod.exists, List.mem_zipIdx_iff_getElem?]
  constructor
  · rintro ⟨e, position, he, hx⟩
    cases e with
    | configured definition => exact ⟨position, definition, he, (Option.some.inj hx).symm⟩
    | ready y => cases hx
  · rintro ⟨position, definition, he, rfl⟩
    exact ⟨_, position, he, rfl⟩

/-- A builder makes beans of its own, each at a position of its own. -/
lemma nodup_id_describedBeans (d : Deployment) (builder : Nat) :
    ((d.describedBeans builder).map Bean.id).Nodup := by
  have hpositions : d.beans.zipIdx.Pairwise fun e e' => e.2 ≠ e'.2 := by
    rw [← List.pairwise_map (f := Prod.snd), List.zipIdx_map_snd]
    exact List.nodup_range'
  rw [List.Nodup, List.pairwise_map, describedBeans, List.pairwise_filterMap]
  refine hpositions.imp ?_
  rintro ⟨e, position⟩ ⟨e', position'⟩ hne x hx x' hx' hid
  cases e with
  | ready y => cases hx
  | configured definition =>
    cases e' with
    | ready y => cases hx'
    | configured definition' =>
      obtain rfl := Option.some.inj hx
      obtain rfl := Option.some.inj hx'
      exact hne (BeanId.configured.inj hid).2

/-- A bean of a deployment is one that the builder makes, or one that was made beforehand. -/
lemma mem_builtBeans {d : Deployment} {builder : Nat} {x : Bean} :
    x ∈ d.builtBeans builder ↔ x ∈ d.describedBeans builder ∨ .ready x ∈ d.beans := by
  rw [mem_describedBeans, builtBeans, List.mem_mapIdx]
  constructor
  · rintro ⟨position, hlt, hx⟩
    cases he : d.beans[position] with
    | configured definition =>
      rw [he] at hx
      exact .inl ⟨position, definition, List.getElem?_eq_some_iff.2 ⟨hlt, he⟩, hx.symm⟩
    | ready y =>
      rw [he] at hx
      obtain rfl : y = x := hx
      exact .inr (he ▸ List.getElem_mem hlt)
  · rintro (⟨position, definition, he, rfl⟩ | hx)
    · obtain ⟨hlt, he⟩ := List.getElem?_eq_some_iff.1 he
      exact ⟨position, hlt, by rw [he]; rfl⟩
    · obtain ⟨position, hlt, he⟩ := List.getElem_of_mem hx
      exact ⟨position, hlt, by rw [he]; rfl⟩

/-- The beans of a deployment can be told apart if those made beforehand can, and none of them is
one that the builder makes. -/
theorem nodup_id_builtBeans {d : Deployment} {builder : Nat}
    (hready : ((d.beans.filterMap BeanEntry.ready?).map Bean.id).Nodup)
    (hnew : ∀ x, .ready x ∈ d.beans → ∀ position, x.id ≠ .configured builder position) :
    ((d.builtBeans builder).map Bean.id).Nodup := by
  rw [List.Nodup, List.pairwise_map, List.pairwise_filterMap] at hready
  rw [List.nodup_iff_pairwise_ne, List.pairwise_map, List.pairwise_iff_getElem]
  intro i j hi hj hij hid
  simp only [builtBeans, List.length_mapIdx] at hi hj
  simp only [builtBeans, List.getElem_mapIdx] at hid
  have hpair := List.pairwise_iff_getElem.1 hready i j hi hj hij
  have hmem : ∀ k (hk : k < d.beans.length), d.beans[k] ∈ d.beans := fun k hk =>
    List.getElem_mem hk
  have hei := hmem i hi
  have hej := hmem j hj
  generalize d.beans[i] = e, d.beans[j] = e' at *
  cases e with
  | configured definition =>
    cases e' with
    | configured definition' => exact Nat.ne_of_lt hij (BeanId.configured.inj hid).2
    | ready y => exact hnew y hej i hid.symm
  | ready x =>
    cases e' with
    | configured definition' => exact hnew x hei j hid
    | ready y => exact hpair x rfl y rfl hid

/-! ### Sources -/

lemma bean?_eq_none_of_mem_classSources {d : Deployment} {found : List ClassRef} {s : Source}
    (h : s ∈ d.classSources found) : s.bean? = none := by
  obtain ⟨m, -, rfl⟩ := List.mem_map.1 h
  rfl

lemma filterMap_bean?_sources (d : Deployment) (builder : Nat) (found : List ClassRef) :
    (d.sources builder found).filterMap Source.bean? = d.builtBeans builder := by
  have hclasses : (d.classSources found).filterMap Source.bean? = [] :=
    List.filterMap_eq_nil_iff.2 fun _ hs => bean?_eq_none_of_mem_classSources hs
  rw [sources, List.filterMap_append, hclasses, List.nil_append, List.filterMap_map]
  exact List.filterMap_some

/-! ### Calls -/

namespace Accumulates

variable {d : Deployment} {calls : List Call}

lemma beans_eq_kept (h : d.Accumulates calls) :
    d.beans = BeanEntry.kept [] (calls.flatMap Call.beans) := by
  rw [h.beans, BeanEntry.eraseDupsBy_same]

/-- There is one description for every call that gives one. -/
lemma filterMap_described? (h : d.Accumulates calls) :
    d.beans.filterMap BeanEntry.described? = calls.filterMap Call.described? := by
  rw [h.beans_eq_kept, BeanEntry.filterMap_described?_kept, Call.filterMap_described?_beans]

/-- Of the beans that calls add, the first with each identity stays. -/
lemma filterMap_ready? (h : d.Accumulates calls) :
    d.beans.filterMap BeanEntry.ready? = Keyed.firsts Bean.id (calls.flatMap Call.added) := by
  rw [h.beans_eq_kept, BeanEntry.filterMap_ready?_kept, Call.filterMap_ready?_beans]
  simp

lemma mem_added (h : d.Accumulates calls) {x : Bean} (hx : .ready x ∈ d.beans) :
    x ∈ calls.flatMap Call.added := by
  have hready : x ∈ d.beans.filterMap BeanEntry.ready? := List.mem_filterMap.2 ⟨_, hx, rfl⟩
  rw [h.filterMap_ready?] at hready
  exact Keyed.firsts_subset _ hready

/-- A bean that another builder makes has been added. -/
lemma mem_added_of_id_eq (h : d.Accumulates calls) {builder builder' position : Nat} {x : Bean}
    (hx : x ∈ d.builtBeans builder) (hid : x.id = .configured builder' position)
    (hne : builder ≠ builder') : x ∈ calls.flatMap Call.added := by
  rcases mem_builtBeans.1 hx with hx | hx
  · obtain ⟨position', definition, -, rfl⟩ := mem_describedBeans.1 hx
    exact absurd (BeanId.configured.inj hid).1 hne
  · exact h.mem_added hx

end Accumulates

end Deployment

end BeanContainer
