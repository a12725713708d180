import Mathlib.Data.List.Basic
import VariableStore.Output
import VariableStore.Proofs.OutputRequest
import VariableStore.Proofs.Table
/-!
Gathering outputs. The joined text of a key and a standard type is no other's, so what waits under a key and a type is
what was added under them, whatever was added in between under others: one addition after the other acts on the value
that waits (`Addition.onto`). For a list type that is appended to, these are the items of all additions since the latest
one that replaces. The entries stand in the order in which their keys and types first came.
-/
namespace VariableStore

/-- No standard type has a hyphen in its name. -/
theorem VariableType.hyphen_not_mem {type : VariableType} (standard : type ∈ VariableType.standard) :
    '-' ∉ type.name.toList := by
  have all : ∀ t ∈ VariableType.standard, '-' ∉ t.name.toList := by decide
  exact all type standard

/-- Keys and standard types are told apart by their joined text. -/
theorem Variable.indexOf_eq_iff {key other : String} {type type' : VariableType}
    (standard : type ∈ VariableType.standard) (standard' : type' ∈ VariableType.standard) :
    indexOf key type = indexOf other type' ↔ key = other ∧ type = type' := by
  have own : indexOf key type = index ⟨"", "", key, type⟩ := rfl
  have apart : ¬ Overlaps ⟨"", "", key, type⟩ other type' := fun overlaps =>
    overlaps.hyphen.elim (VariableType.hyphen_not_mem standard) (VariableType.hyphen_not_mem standard')
  rw [own, index_eq_iff, or_iff_left apart]
  refine and_congr_right fun _ => ⟨fun same => ?_, congrArg VariableType.name⟩
  rw [← VariableType.ofName_name standard, ← VariableType.ofName_name standard']
  exact congrArg VariableType.ofName same

/-- The items of null, of a list or JSON array, and of any other value. -/
theorem Payload.items_cases (value : Payload) : (value.isNull = true → value.items = []) ∧
    (∀ elements, value.elements? = some elements → value.items = elements) ∧
    (value.isNull = false → value.elements? = none → value.items = [value]) := by
  refine ⟨fun null => if_pos null, fun elements split => ?_, fun nonnull whole => ?_⟩
  · simp [items, isNull_of_elements? split, split]
  · simp [items, nonnull, whole]

structure Addition where
  key : String
  value : Payload
  type : VariableType
  append : Bool

namespace Addition

def name (a : Addition) : String × VariableType := (a.key, a.type)

/-- What waits after a value was added to what waited before: a list with its items at the end, or the value itself. -/
def onto (a : Addition) (waiting : Option Payload) : Payload :=
  if a.append && a.type.isArray then .list ((waiting.map Payload.items).getD [] ++ a.value.items) else a.value

def outcome (waiting : Option Payload) (as : List Addition) : Option Payload :=
  as.foldl (fun waiting a => some (a.onto waiting)) waiting

def under (key : String) (type : VariableType) (as : List Addition) : List Addition :=
  as.filter fun a => a.name = (key, type)

theorem mem_under {key : String} {type : VariableType} {as : List Addition} {a : Addition} :
    a ∈ under key type as ↔ a ∈ as ∧ a.name = (key, type) := by
  simp [under]

theorem outcome_concat (waiting : Option Payload) (as : List Addition) (a : Addition) :
    outcome waiting (as ++ [a]) = some (a.onto (outcome waiting as)) := by
  rw [outcome, List.foldl_append]
  rfl

theorem outcome_ne_none (waiting : Option Payload) {as : List Addition} (h : as ≠ []) : outcome waiting as ≠ none := by
  rw [← List.dropLast_concat_getLast h, outcome_concat]
  exact Option.some_ne_none _

/-- An addition that does not append replaces what waited. -/
theorem onto_of_replacing {a : Addition} (h : a.append = false ∨ a.type.isArray = false) (waiting : Option Payload) :
    a.onto waiting = a.value := by
  rcases h with h | h <;> simp [onto, h]

theorem items_list (items : List Payload) : (Payload.list items).items = items := rfl

/-- Appending to a list puts the items of all additions behind its own. -/
theorem outcome_of_appending {type : VariableType} (isArray : type.isArray = true) {as : List Addition}
    (typed : ∀ a ∈ as, a.type = type) (appending : ∀ a ∈ as, a.append = true) (nonempty : as ≠ [])
    (waiting : Option Payload) : outcome waiting as =
      some (.list ((waiting.map Payload.items).getD [] ++ as.flatMap fun a => a.value.items)) := by
  induction as generalizing waiting with
  | nil => exact absurd rfl nonempty
  | cons a rest ih =>
    obtain ⟨own, typed⟩ := List.forall_mem_cons.mp typed
    obtain ⟨appends, appending⟩ := List.forall_mem_cons.mp appending
    have first : a.onto waiting = .list ((waiting.map Payload.items).getD [] ++ a.value.items) := by
      simp [onto, own, isArray, appends]
    have step : outcome waiting (a :: rest) = outcome (some (a.onto waiting)) rest := rfl
    rw [step, first]
    by_cases last : rest = []
    · simp [last, outcome]
    · rw [ih typed appending last, Option.map_some, Option.getD_some, items_list, List.flatMap_cons, List.append_assoc]

/-- What waits for a list type after additions of which the last one appends: the items of all of them since the latest
one that replaces, or since the first one. -/
theorem outcome_of_list {type : VariableType} (isArray : type.isArray = true) {before after : List Addition}
    {first : Addition} (typed : ∀ a ∈ before ++ first :: after, a.type = type)
    (replaces : first.append = false ∨ before = []) (appending : ∀ a ∈ after, a.append = true)
    (appends : first.append = true ∨ after ≠ []) :
    outcome none (before ++ first :: after) = some (.list ((first :: after).flatMap fun a => a.value.items)) := by
  have typed : ∀ a ∈ first :: after, a.type = type := fun a inside => typed a (List.mem_append_right _ inside)
  by_cases own : first.append = true
  -- The first one appends to nothing, so nothing stands before it.
  · obtain rfl : before = [] := replaces.resolve_left (by simp [own])
    exact outcome_of_appending isArray typed (List.forall_mem_cons.mpr ⟨own, appending⟩) (List.cons_ne_nil _ _) none
  · have replaced : outcome none (before ++ [first]) = some first.value := by
      rw [outcome_concat, onto_of_replacing (.inl (by simpa using own))]
    have cut : before ++ first :: after = before ++ [first] ++ after := by simp
    rw [cut, outcome, List.foldl_append, ← outcome, ← outcome, replaced]
    exact outcome_of_appending isArray (List.forall_mem_cons.mp typed).2 appending (appends.resolve_left own) _

end Addition

def PendingOutput.name (output : PendingOutput) : String × VariableType := (output.key, output.type)

namespace PendingOutputs

variable {p : PendingOutputs} {key : String} {type : VariableType}

def enter (p : PendingOutputs) (a : Addition) : PendingOutputs := p.add a.key a.value a.type a.append

def enterAll (p : PendingOutputs) (as : List Addition) : PendingOutputs := as.foldl enter p

def names (p : PendingOutputs) : List (String × VariableType) := p.entries.map PendingOutput.name

/-- Each entry stands under the joined text of its own key and type. -/
def Joined (p : PendingOutputs) : Prop := ∀ entry ∈ p, entry.1 = Variable.indexOf entry.2.key entry.2.type

theorem joined_nil : Joined [] := fun _ inside => nomatch inside

theorem Joined.enter (h : Joined p) (a : Addition) : Joined (p.enter a) := by
  intro entry inside
  unfold PendingOutputs.enter add at inside
  split at inside
  · rcases Table.mem_insert inside with rfl | old
    · cases found : Table.get? (Variable.indexOf a.key a.type) p with
      | none => rfl
      | some output => exact h (_, output) (Table.mem_of_get? found)
    · exact h entry old
  · rcases Table.mem_insert inside with rfl | old
    · rfl
    · exact h entry old

theorem Joined.enterAll (h : Joined p) (as : List Addition) : Joined (p.enterAll as) := by
  induction as generalizing p with
  | nil => exact h
  | cons a rest ih => exact ih (h.enter a)

/-- What the entries stand under, in order. -/
theorem Joined.map_entries (h : Joined p) :
    p.entries.map (fun output => Variable.indexOf output.key output.type) = Table.keys p := by
  rw [entries, List.map_map, Table.keys]
  apply List.map_congr_left
  intro entry inside
  exact (h entry inside).symm

/-- One addition: the joined text of its key and type goes to the end, unless something stands under it. -/
theorem keys_enter (p : PendingOutputs) (a : Addition) : Table.keys (p.enter a) =
    if (Table.keys p).contains (Variable.indexOf a.key a.type) then Table.keys p
    else Table.keys p ++ [Variable.indexOf a.key a.type] := by
  have put : ∃ output, p.enter a = Table.insert (Variable.indexOf a.key a.type) output p := by
    unfold PendingOutputs.enter add
    split
    · exact ⟨_, rfl⟩
    · exact ⟨_, rfl⟩
  obtain ⟨output, put⟩ := put
  have known : Table.contains (Variable.indexOf a.key a.type) p =
      (Table.keys p).contains (Variable.indexOf a.key a.type) := by
    rw [Bool.eq_iff_iff, Table.contains_iff_mem_keys, List.contains_iff_mem]
  rw [put, ← known]
  split
  · next present => exact Table.keys_insert_of_contains output present
  · next absent => exact Table.keys_insert_of_not_contains output (by simpa using absent)

/-- After several additions the joined texts stand in the order in which they first came. -/
theorem keys_enterAll (p : PendingOutputs) (as : List Addition) : Table.keys (p.enterAll as) = Table.keys p ++
    ((as.map fun a => Variable.indexOf a.key a.type).removeAll (Table.keys p)).eraseDups := by
  rw [← foldl_enter, List.foldl_map]
  induction as generalizing p with
  | nil => rfl
  | cons a rest ih =>
    rw [List.foldl_cons, ← keys_enter p a]
    exact ih (p.enter a)

/-- Each entry stands under its own key and type, which is a standard one, and no two under the same ones. -/
structure Named (p : PendingOutputs) : Prop where
  index : Joined p
  standard : ∀ entry ∈ p, entry.2.type ∈ VariableType.standard
  distinct : Table.Distinct p

theorem named_nil : Named [] := ⟨joined_nil, by simp, List.nodup_nil⟩

/-- What is found under a key and a type was made under them. -/
theorem Named.name_eq (h : Named p) (standard : type ∈ VariableType.standard) {output : PendingOutput}
    (found : Table.get? (Variable.indexOf key type) p = some output) : output.name = (key, type) := by
  have inside := Table.mem_of_get? found
  have same := (Variable.indexOf_eq_iff standard (h.standard _ inside)).mp (h.index _ inside)
  exact Prod.ext_iff.mpr ⟨same.1.symm, same.2.symm⟩

/-- An addition puts the outcome for its own key and type there. -/
theorem enter_eq (h : Named p) {a : Addition} (standard : a.type ∈ VariableType.standard) :
    p.enter a = Table.insert (Variable.indexOf a.key a.type) ⟨a.key, a.type, a.onto (p.value? a.key a.type)⟩ p := by
  simp only [enter, add, value?, Addition.onto]
  by_cases appends : (a.append && a.type.isArray) = true
  · rw [if_pos appends, if_pos appends]
    cases found : Table.get? (Variable.indexOf a.key a.type) p with
    | none => rfl
    | some output =>
      obtain ⟨own, same⟩ := Prod.mk.inj (h.name_eq standard found)
      simp [own, same]
  · rw [if_neg appends, if_neg appends]

theorem Named.enter (h : Named p) {a : Addition} (standard : a.type ∈ VariableType.standard) : Named (p.enter a) := by
  refine ⟨h.index.enter a, fun entry inside => ?_, ?_⟩
  · rw [enter_eq h standard] at inside
    rcases Table.mem_insert inside with rfl | old
    · exact standard
    · exact h.standard entry old
  · rw [enter_eq h standard]
    exact h.distinct.insert _ _

/-- One addition: under its own key and type the value is the outcome, and elsewhere nothing changes. -/
theorem get?_enter (h : Named p) {a : Addition} (standard : a.type ∈ VariableType.standard)
    (standard' : type ∈ VariableType.standard) : Table.get? (Variable.indexOf key type) (p.enter a) =
      if a.name = (key, type) then some ⟨key, type, a.onto (p.value? key type)⟩
      else Table.get? (Variable.indexOf key type) p := by
  rw [enter_eq h standard, Table.get?_insert]
  by_cases same : a.name = (key, type)
  · obtain ⟨rfl, rfl⟩ := Prod.mk.inj same
    simp [Addition.name]
  · have other : ¬ Variable.indexOf a.key a.type = Variable.indexOf key type := fun joined =>
      same (Prod.ext_iff.mpr ((Variable.indexOf_eq_iff standard standard').mp joined))
    rw [if_neg other, if_neg same]

/-- What waits under a key and a type after several additions: the outcome of those under them, and nothing of others. -/
theorem get?_enterAll (h : Named p) {as : List Addition} (standard : ∀ a ∈ as, a.type ∈ VariableType.standard)
    (standard' : type ∈ VariableType.standard) : Table.get? (Variable.indexOf key type) (p.enterAll as) =
      (Addition.outcome (p.value? key type) (Addition.under key type as)).map (PendingOutput.mk key type) := by
  induction as generalizing p with
  | nil =>
    simp only [enterAll, List.foldl_nil, Addition.under, List.filter_nil, Addition.outcome, value?]
    cases found : Table.get? (Variable.indexOf key type) p with
    | none => rfl
    | some output =>
      obtain ⟨rfl, rfl⟩ := Prod.mk.inj (h.name_eq standard' found)
      rfl
  | cons a rest ih =>
    obtain ⟨first, others⟩ := List.forall_mem_cons.mp standard
    have step : p.enterAll (a :: rest) = (p.enter a).enterAll rest := rfl
    rw [step, ih (h.enter first) others, value?, get?_enter h first standard']
    by_cases same : a.name = (key, type) <;> simp [Addition.under, same, Addition.outcome, value?]

theorem value?_enterAll (h : Named p) {as : List Addition} (standard : ∀ a ∈ as, a.type ∈ VariableType.standard)
    (standard' : type ∈ VariableType.standard) : (p.enterAll as).value? key type =
      Addition.outcome (p.value? key type) (Addition.under key type as) := by
  rw [value?, get?_enterAll h standard standard', Option.map_map]
  exact Option.map_id'

/-- One addition: its key and type go to the end, unless something waits under them. -/
theorem names_enter (h : Named p) {a : Addition} (standard : a.type ∈ VariableType.standard) :
    (p.enter a).names = if p.names.contains a.name then p.names else p.names ++ [a.name] := by
  have shown : ∀ q : PendingOutputs, q.names = q.map fun entry => entry.2.name := fun q => List.map_map
  have present : Table.contains (Variable.indexOf a.key a.type) p = p.names.contains a.name := by
    rw [Bool.eq_iff_iff, Table.contains_iff_mem_keys, List.contains_iff_mem, shown, Table.keys, List.mem_map,
      List.mem_map]
    refine exists_congr fun entry => and_congr_right fun inside => ?_
    rw [h.index entry inside, Variable.indexOf_eq_iff (h.standard entry inside) standard, Addition.name,
      PendingOutput.name, Prod.mk.injEq]
  have same : ∀ entry ∈ p, entry.1 = Variable.indexOf a.key a.type → entry.2.name = a.name := fun entry inside eq =>
    Prod.ext_iff.mpr ((Variable.indexOf_eq_iff (h.standard entry inside) standard).mp
      ((h.index entry inside).symm.trans eq))
  rw [enter_eq h standard, shown, Table.map_insert _ same, present, shown]
  rfl

theorem Named.enterAll (h : Named p) {as : List Addition} (standard : ∀ a ∈ as, a.type ∈ VariableType.standard) :
    Named (p.enterAll as) := by
  induction as generalizing p with
  | nil => exact h
  | cons a rest ih =>
    obtain ⟨first, others⟩ := List.forall_mem_cons.mp standard
    exact ih (h.enter first) others

/-- After several additions the keys and types stand in the order in which they first came. -/
theorem names_enterAll (h : Named p) {as : List Addition} (standard : ∀ a ∈ as, a.type ∈ VariableType.standard) :
    (p.enterAll as).names = p.names ++ ((as.map Addition.name).removeAll p.names).eraseDups := by
  rw [← foldl_enter, List.foldl_map]
  induction as generalizing p with
  | nil => rfl
  | cons a rest ih =>
    obtain ⟨first, others⟩ := List.forall_mem_cons.mp standard
    rw [List.foldl_cons, ← names_enter h first]
    exact ih (h.enter first) others

/-- After additions to nothing the keys and types stand in the order in which they first came. -/
theorem names_enterAll_nil {as : List Addition} (standard : ∀ a ∈ as, a.type ∈ VariableType.standard) :
    (enterAll [] as).names = (as.map Addition.name).eraseDups := by
  have all : (as.map Addition.name).removeAll [] = as.map Addition.name := List.filter_eq_self.mpr fun _ _ => rfl
  rw [names_enterAll named_nil standard]
  exact congrArg List.eraseDups all

/-- The entries are what is found under their keys and types. -/
theorem Named.entries_eq (h : Named p) :
    p.entries = p.names.filterMap fun name => Table.get? (Variable.indexOf name.1 name.2) p := by
  rw [names, entries, List.filterMap_map, List.filterMap_map, ← List.filterMap_eq_map]
  refine List.filterMap_congr fun entry inside => Eq.symm ?_
  have own : Variable.indexOf entry.2.name.1 entry.2.name.2 = entry.1 := (h.index entry inside).symm
  rw [Function.comp_apply, Function.comp_apply, own]
  exact (Table.get?_eq_some_iff h.distinct entry.1 entry.2).mpr inside

/-- The entries after additions to nothing: under each key and type the outcome of what was added under them. -/
theorem entries_enterAll {as : List Addition} (standard : ∀ a ∈ as, a.type ∈ VariableType.standard) :
    (enterAll [] as).entries = (as.map Addition.name).eraseDups.filterMap fun name =>
      (Addition.outcome none (Addition.under name.1 name.2 as)).map (PendingOutput.mk name.1 name.2) := by
  rw [(named_nil.enterAll standard).entries_eq, names_enterAll_nil standard]
  refine List.filterMap_congr fun name inside => ?_
  obtain ⟨a, added, rfl⟩ := List.mem_map.mp (List.mem_eraseDups.mp inside)
  exact get?_enterAll named_nil standard (standard a added)

/-- Whatever is added under standard types, in whatever order: nothing waits under a key and a standard type exactly if
nothing was added under them. If the last value added under them replaces, as it always does for a type that is no list,
it waits unchanged. Else a list waits, of the items of all values added under them since the latest one that replaces, or
since the first one: null has no items, a list or JSON array its elements, and any other value is its own item. What is
added under another key or type changes nothing there. There are as many entries as different keys and types, in the
order in which these first came. -/
theorem content_of_additions {as : List Addition} (standard : ∀ a ∈ as, a.type ∈ VariableType.standard) :
    (∀ key, ∀ type ∈ VariableType.standard,
      ((enterAll [] as).value? key type = none ↔ ∀ a ∈ as, a.name ≠ (key, type)) ∧
      (∀ before last, Addition.under key type as = before ++ [last] →
        last.append = false ∨ type.isArray = false → (enterAll [] as).value? key type = some last.value) ∧
      (∀ before first after, Addition.under key type as = before ++ first :: after → type.isArray = true →
        first.append = false ∨ before = [] → (∀ a ∈ after, a.append = true) → first.append = true ∨ after ≠ [] →
        (enterAll [] as).value? key type = some (.list ((first :: after).flatMap fun a => a.value.items))) ∧
      ∀ other : Addition, other.type ∈ VariableType.standard → other.name ≠ (key, type) →
        (enterAll [] (as ++ [other])).value? key type = (enterAll [] as).value? key type) ∧
    (enterAll [] as).names = (as.map Addition.name).eraseDups ∧
    (enterAll [] as).length = (as.map Addition.name).eraseDups.length ∧
    ∀ value : Payload, (value.isNull = true → value.items = []) ∧
      (∀ elements, value.elements? = some elements → value.items = elements) ∧
      (value.isNull = false → value.elements? = none → value.items = [value]) := by
  have waiting : ∀ key, ∀ type ∈ VariableType.standard,
      (enterAll [] as).value? key type = Addition.outcome none (Addition.under key type as) :=
    fun key type own => value?_enterAll named_nil standard own
  have typed : ∀ key type, ∀ a ∈ Addition.under key type as, a.type = type :=
    fun key type a inside => (Prod.mk.inj (Addition.mem_under.mp inside).2).2
  refine ⟨fun key type own => ⟨?_, ?_, ?_, ?_⟩, names_enterAll_nil standard, ?_, Payload.items_cases⟩
  · have outcome_none : Addition.outcome none (Addition.under key type as) = none ↔ Addition.under key type as = [] := by
      refine ⟨fun none => ?_, fun empty => by rw [empty]; rfl⟩
      by_contra nonempty
      exact Addition.outcome_ne_none _ nonempty none
    rw [waiting key type own, outcome_none, Addition.under, List.filter_eq_nil_iff]
    simp only [decide_eq_true_eq, ne_eq]
  · intro before last cut replaces
    have last_type := typed key type last (by simp [cut])
    rw [waiting key type own, cut, Addition.outcome_concat, Addition.onto_of_replacing (last_type ▸ replaces)]
  · intro before first after cut isArray replaces appending appends
    rw [waiting key type own, cut]
    exact Addition.outcome_of_list isArray (cut ▸ typed key type) replaces appending appends
  · intro other standard' apart
    have step : enterAll [] (as ++ [other]) = (enterAll [] as).enter other := by
      rw [enterAll, List.foldl_append]
      rfl
    rw [step, value?, get?_enter (named_nil.enterAll standard) standard' own, if_neg apart]
    rfl
  · rw [← names_enterAll_nil standard, names, entries, List.length_map, List.length_map]

/-- Values for a list, with one for a string of the same key and one for a key that goes on with a type name between them;
the second value replaces the first, and null adds no item. -/
def mixture : List Addition :=
  [⟨"k", .text "lost", .stringArray, true⟩, ⟨"k", .json (.array [.string "a", .string "b"]), .stringArray, false⟩,
    ⟨"k", .text "single", .string, true⟩, ⟨"k-String", .text "other", .stringArray, true⟩,
    ⟨"k", .null, .stringArray, true⟩, ⟨"k", .text "c", .stringArray, true⟩]

theorem content_of_additions_of_mixture :
    (enterAll [] mixture).value? "k" .stringArray =
        some (.list [.json (.string "a"), .json (.string "b"), .json (.string "c")]) ∧
      (enterAll [] mixture).value? "k" .string = some (.text "single") ∧
      (enterAll [] mixture).names = [("k", .stringArray), ("k", .string), ("k-String", .stringArray)] := by
  have standard : ∀ a ∈ mixture, a.type ∈ VariableType.standard := by decide
  obtain ⟨content, names, -⟩ := content_of_additions standard
  refine ⟨?_, ?_, names.trans (by decide)⟩
  · obtain ⟨-, -, list, -⟩ := content "k" .stringArray (by decide)
    exact list [⟨"k", .text "lost", .stringArray, true⟩]
      ⟨"k", .json (.array [.string "a", .string "b"]), .stringArray, false⟩
      [⟨"k", .null, .stringArray, true⟩, ⟨"k", .text "c", .stringArray, true⟩] rfl rfl (.inl rfl) (by simp)
      (.inr (List.cons_ne_nil _ _))
  · obtain ⟨-, single, -, -⟩ := content "k" .string (by decide)
    exact single [] ⟨"k", .text "single", .string, true⟩ rfl (.inr rfl)

end PendingOutputs

end VariableStore
