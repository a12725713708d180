import Mathlib.Logic.Basic
import VariableStore.Json.Reader
import VariableStore.Proofs.Json.Image
import VariableStore.Proofs.Json.Literals
import VariableStore.Proofs.Json.Scan
import VariableStore.Proofs.Table
import VariableStore.Proofs.Utf8
/-!
Reading what was written. The tokens of a value in front of others take the reader from where a value is due to where the
value is complete, if the value fits under the arrays and objects that are open, and are refused if it does not. With the
scanner this says which texts of values are read: those of values that nest no deeper than the bound.
-/
namespace VariableStore.Json

open Reading

variable {bound : Nat}

theorem run_cons (state : Reading) (t : Token) (rest : List Token) :
    run bound state (t :: rest) = (step bound state t).bind fun next => run bound next rest := by
  rw [run]
  cases step bound state t <;> rfl

/-- Reading the tokens of something that nests `depth` levels deep completes a value where this fits under what is open,
whatever stands behind it, and fails where it does not. -/
def Completes (bound : Nat) (stack : List Frame) (tokens : List Token) (depth : Nat) (j : Json) : Prop :=
  ∀ rest, run bound (stack, .value) (tokens ++ rest) =
    if stack.length + depth ≤ bound then run bound (complete j stack) rest else none

/-- A value does not begin with a closing token, so it may stand where one may. -/
theorem tokens_valueOrClose (j : Json) : ∃ t ts, j.tokens = t :: ts ∧ t ≠ .closeArray := by
  cases j <;> exact ⟨_, _, rfl, by simp⟩

theorem step_valueOrClose (stack : List Frame) {t : Token} (h : t ≠ .closeArray) :
    step bound (stack, .valueOrClose) t = step bound (stack, .value) t := by
  cases t <;> first | rfl | exact absurd rfl h

/-- The items behind the first one, up to the end of the array. -/
theorem run_items (stack : List Frame) (items read : List Json) (rest : List Token)
    (h : ∀ j ∈ items, ∀ read, Completes bound (.items read :: stack) j.tokens j.depth j) :
    run bound (.items read :: stack, .separator)
        ((items.map tokens).flatMap (.comma :: ·) ++ .closeArray :: rest) =
      if ∀ j ∈ items, stack.length + 1 + j.depth ≤ bound then
        run bound (complete (.array (read.reverse ++ items)) stack) rest
      else none := by
  induction items generalizing read with
  | nil => rw [run.eq_def]; simp [step, leave]
  | cons j items ih =>
    obtain ⟨head, tail⟩ := List.forall_mem_cons.mp h
    have comma : ∀ ts, run bound (.items read :: stack, .separator) (.comma :: ts) =
        run bound (.items read :: stack, .value) ts := fun _ => rfl
    have moved : (j :: read).reverse ++ items = read.reverse ++ j :: items := by simp
    rw [List.map_cons, List.flatMap_cons, List.cons_append, List.cons_append, comma, List.append_assoc,
      head read, complete, ih _ tail, moved]
    -- the condition of the first item and that of the others are the one of all items
    simp only [List.forall_mem_cons, ite_and, List.length_cons]

/-- The fields behind the first one, up to the end of the object. -/
theorem run_fields (stack : List Frame) (fields read : Table Json) (rest : List Token)
    (h : ∀ field ∈ fields, ∀ read name,
      Completes bound (.member read name :: stack) field.2.tokens field.2.depth field.2) :
    run bound (.fields read :: stack, .separator)
        ((fields.map fun field => .text field.1 :: .colon :: field.2.tokens).flatMap (.comma :: ·) ++
          .closeObject :: rest) =
      if ∀ field ∈ fields, stack.length + 1 + field.2.depth ≤ bound then
        run bound (complete (.object (Table.insertAll read fields)) stack) rest
      else none := by
  induction fields generalizing read with
  | nil => rw [run.eq_def]; simp [step, leave, Table.insertAll]
  | cons field fields ih =>
    obtain ⟨head, tail⟩ := List.forall_mem_cons.mp h
    have comma : ∀ name ts, run bound (.fields read :: stack, .separator) (.comma :: .text name :: .colon :: ts) =
        run bound (.member read name :: stack, .value) ts := fun _ _ => rfl
    have entered : Table.insertAll (Table.insert field.1 field.2 read) fields = Table.insertAll read (field :: fields) :=
      rfl
    simp only [List.map_cons, List.flatMap_cons, List.cons_append, List.append_assoc]
    rw [comma, head read, complete, ih _ tail, entered]
    simp only [List.forall_mem_cons, ite_and, List.length_cons]

/-- What is inside an array or object that is opened fits under it if the whole fits where it is opened. -/
theorem fits_array {n : Nat} (room : n < bound) (items : List Json) :
    n + (array items).depth ≤ bound ↔ ∀ j ∈ items, n + 1 + j.depth ≤ bound := by
  obtain ⟨d, rfl⟩ := Nat.exists_eq_add_of_lt room
  have whole : n + (array items).depth ≤ n + d + 1 ↔ (array items).depth ≤ d + 1 := by omega
  rw [whole, depth_array_le_iff]
  refine forall₂_congr fun j _ => ?_
  omega

theorem fits_object {n : Nat} (room : n < bound) (fields : List (String × Json)) :
    n + (object fields).depth ≤ bound ↔ ∀ field ∈ fields, n + 1 + field.2.depth ≤ bound := by
  obtain ⟨d, rfl⟩ := Nat.exists_eq_add_of_lt room
  have whole : n + (object fields).depth ≤ n + d + 1 ↔ (object fields).depth ≤ d + 1 := by omega
  rw [whole, depth_object_le_iff]
  refine forall₂_congr fun field _ => ?_
  omega

theorem run_openArray (stack : List Frame) (ts : List Token) : run bound (stack, .value) (.openArray :: ts) =
    if stack.length < bound then run bound (.items [] :: stack, .valueOrClose) ts else none := by
  rw [run_cons, step, begin, enter]
  split <;> rfl

theorem run_openObject (stack : List Frame) (ts : List Token) : run bound (stack, .value) (.openObject :: ts) =
    if stack.length < bound then run bound (.fields [] :: stack, .nameOrClose) ts else none := by
  rw [run_cons, step, begin, enter]
  split <;> rfl

/-- The tokens of an array, given what those of its items do. -/
theorem completes_array {stack : List Frame} {items : List Json}
    (item : stack.length < bound → ∀ j ∈ items, ∀ read, Completes bound (.items read :: stack) j.tokens j.depth j) :
    Completes bound stack (array items).tokens (array items).depth (.array items) := by
  intro rest
  rw [tokens, itemTokens_eq_map, List.cons_append, run_openArray]
  by_cases room : stack.length < bound
  · rw [if_pos room]
    simp only [fits_array room]
    cases items with
    | nil => rfl
    | cons first more =>
      obtain ⟨head, tail⟩ := List.forall_mem_cons.mp (item room)
      have start : ∀ ts, run bound (.items [] :: stack, .valueOrClose) (first.tokens ++ ts) =
          run bound (.items [] :: stack, .value) (first.tokens ++ ts) := by
        intro ts
        obtain ⟨t, later, eq, opener⟩ := tokens_valueOrClose first
        rw [eq, List.cons_append, run_cons, run_cons, step_valueOrClose _ opener]
      rw [List.map_cons, intercalate_cons, List.append_assoc, List.append_assoc, start, head [], complete,
        List.singleton_append, run_items stack more [first] rest tail]
      simp only [List.forall_mem_cons, ite_and, List.length_cons]
      rfl
  · have deep : ¬ stack.length + (array items).depth ≤ bound := by
      rw [depth]
      omega
    rw [if_neg room, if_neg deep]

/-- The tokens of an object, given what those of its values do: a name that comes twice keeps its first place and takes its
last value. -/
theorem completes_object {stack : List Frame} {fields : Table Json}
    (value : stack.length < bound → ∀ field ∈ fields, ∀ read name,
      Completes bound (.member read name :: stack) field.2.tokens field.2.depth field.2) :
    Completes bound stack (object fields).tokens (object fields).depth (.object (Table.insertAll [] fields)) := by
  intro rest
  rw [tokens, fieldTokens_eq_map, List.cons_append, run_openObject]
  by_cases room : stack.length < bound
  · rw [if_pos room]
    simp only [fits_object room]
    cases fields with
    | nil => rfl
    | cons first more =>
      obtain ⟨head, tail⟩ := List.forall_mem_cons.mp (value room)
      have start : ∀ ts, run bound (.fields [] :: stack, .nameOrClose) (.text first.1 :: .colon :: ts) =
          run bound (.member [] first.1 :: stack, .value) ts := fun _ => rfl
      rw [List.map_cons, intercalate_cons, List.append_assoc, List.append_assoc, List.cons_append,
        List.cons_append, start, head [], complete, List.singleton_append, run_fields stack more _ rest tail]
      simp only [List.forall_mem_cons, ite_and, List.length_cons]
      rfl
  · have deep : ¬ stack.length + (object fields).depth ≤ bound := by
      rw [depth]
      omega
    rw [if_neg room, if_neg deep]

/-- The tokens of a value complete that value where it fits under what is open. -/
theorem completes_tokens {j : Json} {stack : List Frame} (names : j.Named) (low : stack.length ≤ bound) :
    Completes bound stack j.tokens j.depth j := by
  induction j using inside_induction generalizing stack with
  | null => exact fun _ => (if_pos low).symm
  | bool b => exact fun _ => (if_pos low).symm
  | number n => exact fun _ => (if_pos low).symm
  | string s => exact fun _ => (if_pos low).symm
  | array items ih =>
    have inner := (named_array_iff items).mp names
    exact completes_array fun room j hj read => ih j hj (inner j hj) room
  | object fields ih =>
    obtain ⟨distinct, inner⟩ := (named_object_iff fields).mp names
    have all : Table.insertAll [] fields = fields := Table.insertAll_of_distinct [] fields distinct
    have completed : Completes bound stack (object fields).tokens (object fields).depth
        (.object (Table.insertAll [] fields)) :=
      completes_object fun room field hf read name => ih field hf (inner field hf) room
    rwa [all] at completed

theorem ofTokens?_of_completes {ts : List Token} {depth : Nat} {j : Json} (h : Completes bound [] ts depth j) :
    ofTokens? bound ts = if depth ≤ bound then some j else none := by
  have all := h []
  rw [List.append_nil, List.length_nil, Nat.zero_add] at all
  rw [ofTokens?, all]
  by_cases fits : depth ≤ bound
  · rw [if_pos fits, if_pos fits]
    rfl
  · rw [if_neg fits, if_neg fits]

/-- The text of a value is read where the value nests no deeper than the bound, with its numbers as they are read back, and
only there. -/
theorem ofCharsWithin?_chars_eq {j : Json} (names : j.Named) (readable : j.Readable) :
    ofCharsWithin? bound j.chars = if j.depth ≤ bound then some j.reread else none := by
  rw [ofCharsWithin?, scan?_chars readable, Option.bind_some,
    ofTokens?_of_completes (completes_tokens names.reread (Nat.zero_le bound)), depth_reread]

theorem ofCharsWithin?_chars {j : Json} (proper : j.Proper bound) (readable : j.Readable) :
    ofCharsWithin? bound j.chars = some j.reread := by
  rw [ofCharsWithin?_chars_eq proper.names readable, if_pos proper.depth_le]

/-- The text of an object that names fields twice is read in the same way: each name stands in its first place and has its
last value. The values that were replaced count for the depth all the same. -/
theorem ofCharsWithin?_object {fields : List (String × Json)} (names : ∀ field ∈ fields, field.2.Named)
    (readable : (object fields).Readable) :
    ofCharsWithin? bound (object fields).chars =
      if (object fields).depth ≤ bound then some (object (Table.insertAll [] fields)).reread else none := by
  have values : ∀ field ∈ fields.map fieldReread, field.2.Named := by
    rw [List.forall_mem_map]
    exact fun field inside => (names field inside).reread
  have completed : Completes bound [] (object fields).reread.tokens (object fields).reread.depth
      (object (Table.insertAll [] fields)).reread := by
    rw [reread_object, reread_object, fieldReread_insertAll]
    exact completes_object fun room field inside read name => completes_tokens (values field inside) room
  rw [ofCharsWithin?, scan?_chars readable, Option.bind_some, ofTokens?_of_completes completed, depth_reread]

/-- A string in quotes stands for the string. -/
theorem ofChars?_quoted (s : String) : ofChars? (quoted s) = some (.string s) :=
  ofCharsWithin?_chars (Proper.string maxDepth s) (by intro n inside; simp at inside)

/-- A word by itself stands for its value. -/
theorem ofChars?_word {word : List Char} {j : Json} (nonempty : word ≠ []) (letters : ∀ c ∈ word, isWordChar c = true)
    (value : ofWord? word = some j) : ofChars? word = some j := by
  have scanned : scanFrom [] .between (word ++ []) = scanFrom [.leaf j] .between [] :=
    scanFrom_word nonempty letters value stops_nil
  rw [List.append_nil] at scanned
  rw [ofChars?, ofCharsWithin?, scan?, scanned]
  rfl

theorem ofBytes?_encode (t : String) : ofBytes? (Utf8.encode t) = ofText? t := by
  rw [ofBytes?, Utf8.encode, Utf8.decodeChars_encodeChars]
  rfl

theorem ofBytes?_eq (j : Json) : ofBytes? j.bytes = ofCharsWithin? maxDepth j.chars := by
  rw [ofBytes?, bytes, Utf8.decodeChars_encodeChars]
  rfl

/-- A value whose numbers are read back as themselves, and that nests no deeper than the bound, is read back. -/
theorem ofBytes?_bytes {j : Json} (proper : j.Proper maxDepth) (legible : j.Legible) :
    ofBytes? j.bytes = some j := by
  rw [ofBytes?_eq, ofCharsWithin?_chars proper legible.readable, legible.reread_eq]

end VariableStore.Json

/-! ## Bytes and texts

Which texts of values are read: those that nest no deeper than the bound, whatever numbers are in them.
-/

namespace VariableStore

namespace Json

/-- Every number is read back as some number. -/
theorem readable (j : Json) : j.Readable := fun n _ => Number.ofWord?_text n

theorem ofBytes?_bytes_eq {j : Json} (names : j.Named) :
    ofBytes? j.bytes = if j.depth ≤ maxDepth then some j.reread else none := by
  rw [ofBytes?_eq, ofCharsWithin?_chars_eq names (readable j)]

theorem ofText?_compact_eq (j : Json) : ofText? j.compact = ofCharsWithin? maxDepth j.chars := by
  rw [ofText?, compact, String.toList_ofList]
  rfl

end Json

def nested : Nat → Json
  | 0 => .null
  | depth + 1 => .array [nested depth]

theorem depth_nested (depth : Nat) : (nested depth).depth = depth := by
  induction depth with
  | zero => rfl
  | succ depth ih => simp [nested, Json.depth, Json.itemDepth, ih]

theorem named_nested (depth : Nat) : (nested depth).Named := by
  induction depth with
  | zero => exact Json.named_null
  | succ depth ih =>
    rw [nested, Json.named_array_iff]
    exact List.forall_mem_singleton.mpr ih

end VariableStore
