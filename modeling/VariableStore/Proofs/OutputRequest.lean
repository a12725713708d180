import VariableStore.Output
import VariableStore.Proofs.List
import VariableStore.Proofs.Table
import VariableStore.Proofs.Variable
/-!
Requests that were built from texts. What is listed was read from a text, so variables are told apart by their
texts, and the texts that stand beside the list are those of what is listed.
-/
namespace VariableStore.OutputRequest

/-- The invariant of requests that are built from texts. -/
structure Sound (r : OutputRequest) : Prop where
  read : ∀ v ∈ r.listed, ∃ s, Variable.parse? s = some v
  texts : ∀ text, text ∈ r.texts ↔ ∃ v ∈ r.listed, v.text = text

theorem Sound.insert {r : OutputRequest} (h : r.Sound) {v : Variable} {s : String}
    (read : Variable.parse? s = some v) : (r.insert v).Sound := by
  unfold OutputRequest.insert
  split
  · exact h
  · constructor
    · rw [List.forall_mem_append, List.forall_mem_singleton]
      exact ⟨h.read, s, read⟩
    · intro text
      rw [List.mem_cons, h.texts text]
      constructor
      · rintro (rfl | ⟨w, old, same⟩)
        · exact ⟨v, List.mem_append_right _ List.mem_cons_self, rfl⟩
        · exact ⟨w, List.mem_append_left _ old, same⟩
      · rintro ⟨w, inside, rfl⟩
        rcases List.mem_append.mp inside with old | new
        · exact .inr ⟨w, old, rfl⟩
        · exact .inl (congrArg Variable.text (List.mem_singleton.mp new))

theorem Sound.foldl {vs : List Variable} (read : ∀ v ∈ vs, ∃ s, Variable.parse? s = some v)
    {r : OutputRequest} (h : r.Sound) : (vs.foldl OutputRequest.insert r).Sound := by
  induction vs generalizing r with
  | nil => exact h
  | cons v rest ih =>
    obtain ⟨⟨s, head⟩, tail⟩ := List.forall_mem_cons.mp read
    exact ih tail (h.insert head)

theorem sound_ofTexts (texts : List String) : (ofTexts texts).Sound := by
  apply Sound.foldl
  · intro v hv
    obtain ⟨s, -, read⟩ := List.mem_filterMap.mp hv
    exact ⟨s, read⟩
  · exact ⟨by simp [empty], by simp [empty]⟩

/-- What is found is listed. -/
theorem listed_of_find? {r : OutputRequest} {key : String} {type : VariableType} {v : Variable}
    (found : r.find? key type = some v) : v ∈ r.listed := by
  obtain ⟨place, -, there⟩ := Option.bind_eq_some_iff.mp found
  exact List.mem_of_getElem? there

/-- A variable that was read is asked for exactly if it is listed. -/
theorem Sound.contains_iff {r : OutputRequest} (h : r.Sound) {s : String} {v : Variable}
    (read : Variable.parse? s = some v) : r.contains v = true ↔ v ∈ r.listed := by
  rw [contains, List.contains_iff_mem, h.texts]
  constructor
  · rintro ⟨w, listed, same⟩
    obtain ⟨t, readW⟩ := h.read w listed
    rw [← Variable.eq_of_text_eq readW read same]
    exact listed
  · exact fun listed => ⟨v, listed, rfl⟩

end VariableStore.OutputRequest

/-! ## Looking up

Lookups in requests that were built from texts. The list holds the variables that were read, each at its first place,
and an index leads to the place of the last listed variable of a name. So a lookup by key and type finds what is
entered under their joined text. A key and a type name may both hold the hyphen that joins them, so one text can be
joined in several ways: such variables overlap, and apart from them the lookup is exact.
-/

namespace VariableStore

namespace Variable

/-- The variable has another key, but this key and type, joined, give the same text: what one key has more than
the other one, the other type name has in front. -/
def Overlaps (v : Variable) (key : String) (type : VariableType) : Prop :=
  ∃ x, (key = v.key ++ "-" ++ x ∧ v.type.name = x ++ "-" ++ type.name) ∨
    (v.key = key ++ "-" ++ x ∧ type.name = x ++ "-" ++ v.type.name)

/-- A variable has the joined text of a key and a type if these are its own, or it overlaps with them. -/
theorem index_eq_iff (v : Variable) (key : String) (type : VariableType) :
    v.index = indexOf key type ↔ (v.key = key ∧ v.type.name = type.name) ∨ v.Overlaps key type := by
  constructor
  · intro same
    have joined : v.key.toList ++ '-' :: v.type.name.toList = key.toList ++ '-' :: type.name.toList := by
      simpa [index, indexOf] using congrArg String.toList same
    rcases append_mark_append joined with ⟨sameKey, sameName⟩ | ⟨x, more, front⟩ | ⟨x, more, front⟩
    · exact .inl ⟨String.toList_inj.mp sameKey, String.toList_inj.mp sameName⟩
    · refine .inr ⟨String.ofList x, .inl ⟨?_, ?_⟩⟩ <;> rw [← String.toList_inj] <;> simpa
    · refine .inr ⟨String.ofList x, .inr ⟨?_, ?_⟩⟩ <;> rw [← String.toList_inj] <;> simpa
  · rintro (⟨rfl, same⟩ | ⟨x, ⟨rfl, same⟩ | ⟨more, same⟩⟩)
    · rw [index, indexOf, indexOf, same]
    · simp only [index, indexOf, same, String.append_assoc]
    · simp only [index, indexOf, same, more, String.append_assoc]

theorem Overlaps.key_ne {v : Variable} {key : String} {type : VariableType} (h : v.Overlaps key type) :
    v.key ≠ key := by
  intro same
  obtain ⟨x, ⟨more, -⟩ | ⟨more, -⟩⟩ := h <;>
    · have lengths := congrArg String.length more
      simp only [same, String.length_append] at lengths
      have hyphen : "-".length = 1 := by decide
      omega

/-- Only a hyphen in a type name lets variables overlap. -/
theorem Overlaps.hyphen {v : Variable} {key : String} {type : VariableType} (h : v.Overlaps key type) :
    '-' ∈ v.type.name.toList ∨ '-' ∈ type.name.toList := by
  obtain ⟨x, ⟨-, name⟩ | ⟨-, name⟩⟩ := h
  · exact .inl (by simp [name])
  · exact .inr (by simp [name])

/-- A variable overlaps with a key and a type if it has another key and their joined text. -/
theorem overlaps_iff (v : Variable) (key : String) (type : VariableType) :
    v.Overlaps key type ↔ v.index = indexOf key type ∧ v.key ≠ key := by
  rw [index_eq_iff]
  constructor
  · exact fun h => ⟨.inr h, h.key_ne⟩
  · rintro ⟨⟨same, -⟩ | overlaps, other⟩
    · exact absurd same other
    · exact overlaps

instance (v : Variable) (key : String) (type : VariableType) : Decidable (v.Overlaps key type) :=
  decidable_of_iff _ (v.overlaps_iff key type).symm

/-- The type of a variable that was read is the one that its name stands for. -/
theorem ofName_of_parse? {s : String} {v : Variable} (h : parse? s = some v) :
    VariableType.ofName v.type.name = v.type := by
  obtain ⟨p, -, -, rfl⟩ := (parse?_eq_some_iff s v).mp h
  simp only [Parts.toVariable, VariableType.name_ofName]

/-- A variable that was read, and does not overlap with a key and a type, has their joined text if they are its
own. -/
theorem index_eq_iff_of_apart {s : String} {v : Variable} (read : parse? s = some v) {key : String}
    {type : VariableType} (named : VariableType.ofName type.name = type) (apart : ¬ v.Overlaps key type) :
    v.index = indexOf key type ↔ v.key = key ∧ v.type = type := by
  rw [index_eq_iff, or_iff_left apart]
  refine and_congr_right fun _ => ⟨fun same => ?_, congrArg VariableType.name⟩
  rw [← ofName_of_parse? read, same, named]

end Variable

namespace OutputRequest

/-- An index leads from each name to the place of the last variable of that name. -/
def Leads (nameOf : Variable → String) (index : Table Nat) (vs : List Variable) : Prop :=
  ∀ name, Table.get? name index =
    (vs.zipIdx.filter fun entry => nameOf entry.1 = name).getLast?.map Prod.snd

namespace Leads

variable {nameOf : Variable → String} {index : Table Nat} {vs : List Variable} {name : String}

theorem nil (nameOf : Variable → String) : Leads nameOf [] [] := fun _ => rfl

/-- One more variable: its name leads to it, and other names lead where they led. -/
theorem insert (h : Leads nameOf index vs) (v : Variable) :
    Leads nameOf (Table.insert (nameOf v) vs.length index) (vs ++ [v]) := by
  intro name
  rw [Table.get?_insert, h name, List.zipIdx_append, List.filter_append]
  by_cases same : nameOf v = name <;> simp [same]

/-- A place that an index leads to holds a variable of the name. -/
theorem place (h : Leads nameOf index vs) {place : Nat} (found : Table.get? name index = some place) :
    ∃ v, vs[place]? = some v ∧ nameOf v = name := by
  rw [h name, Option.map_eq_some_iff] at found
  obtain ⟨⟨v, place⟩, last, rfl⟩ := found
  obtain ⟨inside, same⟩ := List.mem_filter.mp (List.mem_of_getLast? last)
  exact ⟨v, List.mem_zipIdx_iff_getElem?.mp inside, of_decide_eq_true same⟩

theorem place_lt (h : Leads nameOf index vs) {place : Nat} (found : Table.get? name index = some place) :
    place < vs.length := by
  obtain ⟨v, there, -⟩ := h.place found
  exact (List.getElem?_eq_some_iff.mp there).1

/-- The variable at the place that an index leads to is the last one of the name. -/
theorem bind_eq (h : Leads nameOf index vs) (name : String) :
    ((Table.get? name index).bind fun place => vs[place]?) = (vs.filter fun v => nameOf v = name).getLast? := by
  have shown : (vs.filter fun v => nameOf v = name) =
      (vs.zipIdx.filter fun entry => nameOf entry.1 = name).map Prod.fst :=
    calc (vs.filter fun v => nameOf v = name)
      _ = (vs.zipIdx.map Prod.fst).filter fun v => nameOf v = name := by rw [List.zipIdx_map_fst]
      _ = (vs.zipIdx.filter fun entry => nameOf entry.1 = name).map Prod.fst := List.filter_map
  rw [shown, List.getLast?_map, h name]
  cases last : (vs.zipIdx.filter fun entry => nameOf entry.1 = name).getLast? with
  | none => rfl
  | some entry =>
    have inside := (List.mem_filter.mp (List.mem_of_getLast? last)).1
    exact List.mem_zipIdx_iff_getElem?.mp inside

/-- The names in an index are those of the variables. -/
theorem contains_iff (h : Leads nameOf index vs) (name : String) :
    Table.contains name index = true ↔ ∃ v ∈ vs, nameOf v = name := by
  constructor
  · intro present
    obtain ⟨place, found⟩ := Option.isSome_iff_exists.mp present
    obtain ⟨v, there, same⟩ := h.place found
    exact ⟨v, List.mem_of_getElem? there, same⟩
  · rintro ⟨v, inside, same⟩
    obtain ⟨place, there⟩ := List.mem_iff_getElem?.mp inside
    have kept : (v, place) ∈ vs.zipIdx.filter fun entry => nameOf entry.1 = name :=
      List.mem_filter.mpr ⟨List.mem_zipIdx_iff_getElem?.mpr there, decide_eq_true same⟩
    rw [Table.contains, h name, Option.isSome_map, List.getLast?_isSome]
    exact List.ne_nil_of_mem kept

end Leads

structure Indexed (r : OutputRequest) : Prop where
  byKey : Leads Variable.key r.byKey r.listed
  byIndex : Leads Variable.index r.byIndex r.listed

theorem Indexed.insert {r : OutputRequest} (h : r.Indexed) (v : Variable) : (r.insert v).Indexed := by
  unfold OutputRequest.insert
  split
  · exact h
  · exact ⟨h.byKey.insert v, h.byIndex.insert v⟩

theorem Indexed.foldl {r : OutputRequest} (h : r.Indexed) (vs : List Variable) :
    (vs.foldl OutputRequest.insert r).Indexed := by
  induction vs generalizing r with
  | nil => exact h
  | cons v rest ih => exact ih (h.insert v)

theorem indexed_ofTexts (texts : List String) : (ofTexts texts).Indexed :=
  Indexed.foldl ⟨.nil _, .nil _⟩ _

/-- What is listed after further variables were entered: these too, each at its first place. -/
theorem Sound.listed_foldl {vs : List Variable} (read : ∀ v ∈ vs, ∃ s, Variable.parse? s = some v)
    {r : OutputRequest} (h : r.Sound) :
    (vs.foldl OutputRequest.insert r).listed = r.listed ++ (vs.removeAll r.listed).eraseDups := by
  rw [← foldl_enter]
  induction vs generalizing r with
  | nil => rfl
  | cons v rest ih =>
    obtain ⟨⟨s, head⟩, tail⟩ := List.forall_mem_cons.mp read
    have entered : (r.insert v).listed = if r.listed.contains v then r.listed else r.listed ++ [v] := by
      have known : r.contains v = r.listed.contains v := by
        rw [Bool.eq_iff_iff, h.contains_iff head, List.contains_iff_mem]
      rw [OutputRequest.insert, known]
      split <;> rfl
    rw [List.foldl_cons, List.foldl_cons, ← entered]
    exact ih tail (h.insert head)

/-- What is listed is what the texts stand for, without repetitions. -/
theorem listed_ofTexts (texts : List String) :
    (ofTexts texts).listed = (texts.filterMap Variable.parse?).eraseDups := by
  have read : ∀ v ∈ texts.filterMap Variable.parse?, ∃ s, Variable.parse? s = some v := fun v inside =>
    let ⟨s, _, read⟩ := List.mem_filterMap.mp inside
    ⟨s, read⟩
  have none : Sound empty := sound_ofTexts []
  rw [ofTexts, none.listed_foldl read]
  have all : (texts.filterMap Variable.parse?).removeAll [] = texts.filterMap Variable.parse? :=
    List.filter_eq_self.mpr fun _ _ => rfl
  rw [show empty.listed = [] from rfl, all, List.nil_append]

theorem find?_ofTexts (texts : List String) (key : String) (type : VariableType) :
    (ofTexts texts).find? key type =
      ((texts.filterMap Variable.parse?).eraseDups.filter fun v => v.index = Variable.indexOf key type).getLast? := by
  rw [find?, (indexed_ofTexts texts).byIndex.bind_eq, listed_ofTexts]

theorem isRequestedAs_ofTexts (texts : List String) (key : String) (type : VariableType) :
    (ofTexts texts).isRequestedAs key type = true ↔
      ∃ v ∈ texts.filterMap Variable.parse?, v.index = Variable.indexOf key type := by
  rw [isRequestedAs, (indexed_ofTexts texts).byIndex.contains_iff, listed_ofTexts]
  simp only [List.mem_eraseDups]

theorem Indexed.isSome_find? {r : OutputRequest} (h : r.Indexed) (key : String) (type : VariableType) :
    (r.find? key type).isSome = r.isRequestedAs key type := by
  rw [find?, isRequestedAs, Table.contains]
  cases found : Table.get? (Variable.indexOf key type) r.byIndex with
  | none => rfl
  | some place =>
    obtain ⟨v, there, -⟩ := h.byIndex.place found
    rw [Option.bind_some, there]
    rfl

/-- A request that is built from texts lists the variables that these stand for, each once and in the order in which they
first came, and all that stands beside the list agrees with it. A variable that is read from a text is asked for exactly if
it is listed. A key is asked for exactly if a listed variable has it, and it leads to the last one of these. The places in
the indexes are places of the list, so a lookup by key and type finds a variable exactly where the index has an entry, and
what it finds is listed. -/
theorem consistent_of_texts (texts : List String) :
    (ofTexts texts).listed = (texts.filterMap Variable.parse?).eraseDups ∧
    let r := ofTexts texts
    (∀ s v, Variable.parse? s = some v → (r.contains v = true ↔ v ∈ r.listed)) ∧
    (∀ key, (r.isRequested key = true ↔ ∃ v ∈ r.listed, v.key = key) ∧
      r.byKey? key = (r.listed.filter fun v => v.key = key).getLast? ∧
      ∀ place, Table.get? key r.byKey = some place → place < r.listed.length) ∧
    ∀ key type, (r.find? key type).isSome = r.isRequestedAs key type ∧
      (∀ v, r.find? key type = some v → v ∈ r.listed) ∧
      ∀ place, Table.get? (Variable.indexOf key type) r.byIndex = some place → place < r.listed.length := by
  refine ⟨listed_ofTexts texts, ?_⟩
  intro r
  have indexed : r.Indexed := indexed_ofTexts texts
  refine ⟨fun s v read => (sound_ofTexts texts).contains_iff read, fun key => ?_, fun key type => ?_⟩
  · exact ⟨indexed.byKey.contains_iff key, indexed.byKey.bind_eq key, fun place => indexed.byKey.place_lt⟩
  · exact ⟨indexed.isSome_find? key type, fun v => listed_of_find?, fun place => indexed.byIndex.place_lt⟩

/-- A variable that comes twice, with white space the first time, and another one of its key, among texts that are none. -/
theorem consistent_of_texts_of_repeated :
    let r := ofTexts [" #App:1:a!String", "", "#App:1:a!Binary", "a", "#App:1:a!String"]
    let first : Variable := ⟨"App", "1", "a", .string⟩
    let second : Variable := ⟨"App", "1", "a", .binary⟩
    r.listed = [first, second] ∧ r.contains first = true ∧ r.byKey? "a" = some second ∧
      r.find? "a" .string = some first ∧ first ∈ r.listed := by
  intro r first second
  obtain ⟨listed, contained, keyed, typed⟩ :=
    consistent_of_texts [" #App:1:a!String", "", "#App:1:a!Binary", "a", "#App:1:a!String"]
  have both : r.listed = [first, second] := listed.trans (by decide +kernel)
  have found : r.find? "a" .string = some first := by decide +kernel
  have inside : first ∈ r.listed := (typed "a" .string).2.1 first found
  refine ⟨both, (contained "#App:1:a!String" first (by decide +kernel)).mpr inside, ?_, found, inside⟩
  rw [(keyed "a").2.1, both]
  decide +kernel

end OutputRequest

end VariableStore
