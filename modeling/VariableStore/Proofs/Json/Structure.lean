import VariableStore.Json.Basic
import VariableStore.Proofs.Table
/-!
The structure of JSON values: induction over them, the values inside a value, and how deep they nest. `Proper`
is what a value has that was read within a bound: no object in it names a field twice, and no more arrays and
objects lie inside one another than the bound allows.
-/
namespace VariableStore.Json

/-- Induction over a value, with the statement for all items of an array and for all fields of an object. -/
theorem inside_induction {P : Json → Prop} (null : P .null) (bool : ∀ b, P (.bool b))
    (number : ∀ n, P (.number n)) (string : ∀ s, P (.string s))
    (array : ∀ items, (∀ j ∈ items, P j) → P (.array items))
    (object : ∀ fields : List (String × Json), (∀ field ∈ fields, P field.2) → P (.object fields))
    (j : Json) : P j :=
  Json.rec (motive_1 := P) (motive_2 := fun items => ∀ j ∈ items, P j)
    (motive_3 := fun fields => ∀ field ∈ fields, P field.2) (motive_4 := fun field => P field.2)
    null bool number string array object (by simp)
    (fun _ _ head tail => List.forall_mem_cons.mpr ⟨head, tail⟩) (by simp)
    (fun _ _ head tail => List.forall_mem_cons.mpr ⟨head, tail⟩) (fun _ _ value => value) j

theorem itemChars_eq_map (items : List Json) : itemChars items = items.map chars := by
  induction items with
  | nil => rfl
  | cons j rest ih => simp [itemChars, ih]

def fieldText (field : String × Json) : List Char := quoted field.1 ++ ':' :: field.2.chars

theorem fieldChars_eq_map (fields : List (String × Json)) : fieldChars fields = fields.map fieldText := by
  induction fields with
  | nil => rfl
  | cons field rest ih => simp [fieldChars, fieldText, ih]

mutual

/-- A value and all values inside it. -/
def parts : Json → List Json
  | array items => array items :: itemParts items
  | object fields => object fields :: fieldParts fields
  | j => [j]

def itemParts : List Json → List Json
  | [] => []
  | item :: rest => item.parts ++ itemParts rest

def fieldParts : List (String × Json) → List Json
  | [] => []
  | (_, value) :: rest => value.parts ++ fieldParts rest

end

theorem itemParts_eq_flatMap (items : List Json) : itemParts items = items.flatMap parts := by
  induction items with
  | nil => rfl
  | cons j rest ih => simp [itemParts, ih]

theorem fieldParts_eq_flatMap (fields : List (String × Json)) :
    fieldParts fields = fields.flatMap fun field => field.2.parts := by
  induction fields with
  | nil => rfl
  | cons field rest ih => simp [fieldParts, ih]

@[simp] theorem mem_parts_array (k : Json) (items : List Json) :
    k ∈ (array items).parts ↔ k = array items ∨ ∃ j ∈ items, k ∈ j.parts := by
  simp [parts, itemParts_eq_flatMap]

@[simp] theorem mem_parts_object (k : Json) (fields : List (String × Json)) :
    k ∈ (object fields).parts ↔ k = object fields ∨ ∃ field ∈ fields, k ∈ field.2.parts := by
  simp [parts, fieldParts_eq_flatMap]

@[simp] theorem parts_null : null.parts = [null] := rfl
@[simp] theorem parts_bool (b : Bool) : (bool b).parts = [bool b] := rfl
@[simp] theorem parts_number (n : Number) : (number n).parts = [number n] := rfl
@[simp] theorem parts_string (s : String) : (string s).parts = [string s] := rfl

mutual

/-- How many arrays and objects lie inside one another. -/
def depth : Json → Nat
  | array items => itemDepth items + 1
  | object fields => fieldDepth fields + 1
  | _ => 0

def itemDepth : List Json → Nat
  | [] => 0
  | item :: rest => max item.depth (itemDepth rest)

def fieldDepth : List (String × Json) → Nat
  | [] => 0
  | (_, value) :: rest => max value.depth (fieldDepth rest)

end

@[simp] theorem depth_null : null.depth = 0 := rfl
@[simp] theorem depth_bool (b : Bool) : (bool b).depth = 0 := rfl
@[simp] theorem depth_number (n : Number) : (number n).depth = 0 := rfl
@[simp] theorem depth_string (s : String) : (string s).depth = 0 := rfl

theorem itemDepth_le_iff (items : List Json) (d : Nat) : itemDepth items ≤ d ↔ ∀ j ∈ items, j.depth ≤ d := by
  induction items with
  | nil => simp [itemDepth]
  | cons j rest ih => rw [itemDepth, List.forall_mem_cons, ← ih, Nat.max_le]

theorem fieldDepth_le_iff (fields : List (String × Json)) (d : Nat) :
    fieldDepth fields ≤ d ↔ ∀ field ∈ fields, field.2.depth ≤ d := by
  induction fields with
  | nil => simp [fieldDepth]
  | cons field rest ih => rw [fieldDepth, List.forall_mem_cons, ← ih, Nat.max_le]

theorem depth_array_le_iff (items : List Json) (d : Nat) :
    (array items).depth ≤ d + 1 ↔ ∀ j ∈ items, j.depth ≤ d := by
  rw [← itemDepth_le_iff, depth]
  omega

theorem depth_object_le_iff (fields : List (String × Json)) (d : Nat) :
    (object fields).depth ≤ d + 1 ↔ ∀ field ∈ fields, field.2.depth ≤ d := by
  rw [← fieldDepth_le_iff, depth]
  omega

/-- No object in a value names a field twice. -/
def Named (j : Json) : Prop := ∀ fields, object fields ∈ j.parts → Table.Distinct fields

@[simp] theorem named_null : null.Named := by simp [Named]
@[simp] theorem named_bool (b : Bool) : (bool b).Named := by simp [Named]
@[simp] theorem named_number (n : Number) : (number n).Named := by simp [Named]
@[simp] theorem named_string (s : String) : (string s).Named := by simp [Named]

theorem named_array_iff (items : List Json) : (array items).Named ↔ ∀ j ∈ items, j.Named := by
  simp only [Named, mem_parts_array, reduceCtorEq, false_or]
  exact ⟨fun h j hj fields inside => h fields ⟨j, hj, inside⟩, fun h fields ⟨j, hj, inside⟩ => h j hj fields inside⟩

theorem named_object_iff (fields : List (String × Json)) :
    (object fields).Named ↔ Table.Distinct fields ∧ ∀ field ∈ fields, field.2.Named := by
  simp only [Named, mem_parts_object, object.injEq]
  constructor
  · exact fun h => ⟨h fields (.inl rfl), fun field hf inner inside => h inner (.inr ⟨field, hf, inside⟩)⟩
  · rintro ⟨distinct, h⟩ inner (rfl | ⟨field, hf, inside⟩)
    · exact distinct
    · exact h field hf inner inside

/-- No object names a field twice, and at most `d` arrays and objects lie inside one another. -/
structure Proper (d : Nat) (j : Json) : Prop where
  names : ∀ fields, object fields ∈ j.parts → Table.Distinct fields
  depth_le : j.depth ≤ d

theorem Proper.null (d : Nat) : Json.null.Proper d := ⟨named_null, by simp⟩
theorem Proper.bool (d : Nat) (b : Bool) : (Json.bool b).Proper d := ⟨named_bool b, by simp⟩
theorem Proper.number (d : Nat) (n : Number) : (Json.number n).Proper d := ⟨named_number n, by simp⟩
theorem Proper.string (d : Nat) (s : String) : (Json.string s).Proper d := ⟨named_string s, by simp⟩

theorem proper_array_iff (items : List Json) (d : Nat) :
    (array items).Proper (d + 1) ↔ ∀ j ∈ items, j.Proper d := by
  constructor
  · intro h j hj
    refine ⟨fun fields inside => h.names fields ?_, (depth_array_le_iff items d).mp h.depth_le j hj⟩
    exact (mem_parts_array _ _).mpr (.inr ⟨j, hj, inside⟩)
  · intro h
    refine ⟨fun fields inside => ?_, (depth_array_le_iff items d).mpr fun j hj => (h j hj).depth_le⟩
    rcases (mem_parts_array _ _).mp inside with same | ⟨j, hj, inside⟩
    · cases same
    · exact (h j hj).names fields inside

theorem proper_object_iff (fields : List (String × Json)) (d : Nat) :
    (object fields).Proper (d + 1) ↔ Table.Distinct fields ∧ ∀ field ∈ fields, field.2.Proper d := by
  constructor
  · intro h
    refine ⟨h.names fields ((mem_parts_object _ _).mpr (.inl rfl)), fun field hf => ⟨fun inner inside => ?_, ?_⟩⟩
    · exact h.names inner ((mem_parts_object _ _).mpr (.inr ⟨field, hf, inside⟩))
    · exact (depth_object_le_iff fields d).mp h.depth_le field hf
  · rintro ⟨distinct, h⟩
    refine ⟨fun inner inside => ?_, (depth_object_le_iff fields d).mpr fun field hf => (h field hf).depth_le⟩
    rcases (mem_parts_object _ _).mp inside with same | ⟨field, hf, inside⟩
    · cases same
      exact distinct
    · exact (h field hf).names inner inside

/-- Every binary64 number in a value is read back from its text. -/
def FloatsReadBack (j : Json) : Prop :=
  ∀ x, number (.real x) ∈ j.parts → Number.ofWord? (Number.text (.real x)) = some (.real x)

theorem floatsReadBack_array_iff (items : List Json) :
    (array items).FloatsReadBack ↔ ∀ j ∈ items, j.FloatsReadBack := by
  simp only [FloatsReadBack, mem_parts_array, reduceCtorEq, false_or]
  exact ⟨fun h j hj x hx => h x ⟨j, hj, hx⟩, fun h x ⟨j, hj, hx⟩ => h j hj x hx⟩

/-- Every number in a value is read back from its text. -/
def Legible (j : Json) : Prop := ∀ n, number n ∈ j.parts → Number.ofWord? n.text = some n

theorem legible_array_iff (items : List Json) : (array items).Legible ↔ ∀ j ∈ items, j.Legible := by
  simp only [Legible, mem_parts_array, reduceCtorEq, false_or]
  exact ⟨fun h j hj n hn => h n ⟨j, hj, hn⟩, fun h n ⟨j, hj, hn⟩ => h j hj n hn⟩

theorem legible_object_iff (fields : List (String × Json)) :
    (object fields).Legible ↔ ∀ field ∈ fields, field.2.Legible := by
  simp only [Legible, mem_parts_object, reduceCtorEq, false_or]
  exact ⟨fun h field hf n hn => h n ⟨field, hf, hn⟩, fun h n ⟨field, hf, hn⟩ => h field hf n hn⟩

/-! ## Values that are read again

Values as they are read back. Only a number can change on the way through its text: a binary64 number with many digits
may come back as a neighbour. Names, structure and depth stay.
-/

def Number.reread (n : Number) : Number := (ofWord? n.text).getD n

theorem Number.reread_of_ofWord? {n m : Number} (h : ofWord? n.text = some m) : n.reread = m := by
  rw [reread, h, Option.getD_some]

mutual

/-- A value with its numbers as they are read back. -/
def reread : Json → Json
  | number n => number n.reread
  | array items => array (itemsReread items)
  | object fields => object (fieldsReread fields)
  | j => j

def itemsReread : List Json → List Json
  | [] => []
  | item :: rest => item.reread :: itemsReread rest

def fieldsReread : List (String × Json) → List (String × Json)
  | [] => []
  | (name, value) :: rest => (name, value.reread) :: fieldsReread rest

end

def fieldReread (field : String × Json) : String × Json := (field.1, field.2.reread)

theorem itemsReread_eq_map (items : List Json) : itemsReread items = items.map reread := by
  induction items with
  | nil => rfl
  | cons j rest ih => rw [itemsReread, ih, List.map_cons]

theorem fieldsReread_eq_map (fields : List (String × Json)) : fieldsReread fields = fields.map fieldReread := by
  induction fields with
  | nil => rfl
  | cons field rest ih => rw [fieldsReread, ih, List.map_cons, fieldReread]

@[simp] theorem reread_null : null.reread = null := rfl
@[simp] theorem reread_bool (b : Bool) : (bool b).reread = bool b := rfl
@[simp] theorem reread_number (n : Number) : (number n).reread = number n.reread := rfl
@[simp] theorem reread_string (s : String) : (string s).reread = string s := rfl

@[simp] theorem reread_array (items : List Json) : (array items).reread = array (items.map reread) := by
  rw [reread, itemsReread_eq_map]

@[simp] theorem reread_object (fields : List (String × Json)) :
    (object fields).reread = object (fields.map fieldReread) := by
  rw [reread, fieldsReread_eq_map]

theorem keys_fieldsReread (fields : List (String × Json)) :
    Table.keys (fields.map fieldReread) = Table.keys fields := by
  simp [Table.keys, Function.comp_def, fieldReread]

/-- Fields may as well be put into an object as they are read back. -/
theorem fieldReread_insertAll (fields entries : List (String × Json)) :
    (Table.insertAll fields entries).map fieldReread =
      Table.insertAll (fields.map fieldReread) (entries.map fieldReread) :=
  Table.map_insertAll reread fields entries

theorem depth_reread_le (j : Json) (d : Nat) : j.reread.depth ≤ d ↔ j.depth ≤ d := by
  induction j using inside_induction generalizing d with
  | array items ih =>
    cases d with
    | zero => simp [depth]
    | succ d =>
      rw [reread_array, depth_array_le_iff, depth_array_le_iff, List.forall_mem_map]
      exact forall₂_congr fun j hj => ih j hj d
  | object fields ih =>
    cases d with
    | zero => simp [depth]
    | succ d =>
      rw [reread_object, depth_object_le_iff, depth_object_le_iff, List.forall_mem_map]
      exact forall₂_congr fun field hf => ih field hf d
  | _ => exact Iff.rfl

/-- What is read back names no field twice either. -/
theorem Proper.reread {j : Json} {d : Nat} (h : j.Proper d) : j.reread.Proper d := by
  induction j using inside_induction generalizing d with
  | null => exact h
  | bool b => exact h
  | number n => exact .number d _
  | string s => exact h
  | array items ih =>
    cases d with
    | zero => exact absurd h.depth_le (by simp [depth])
    | succ d =>
      rw [reread_array, proper_array_iff, List.forall_mem_map]
      exact fun j hj => ih j hj ((proper_array_iff items d).mp h j hj)
  | object fields ih =>
    cases d with
    | zero => exact absurd h.depth_le (by simp [depth])
    | succ d =>
      obtain ⟨distinct, inner⟩ := (proper_object_iff fields d).mp h
      rw [reread_object, proper_object_iff, List.forall_mem_map]
      refine ⟨?_, fun field hf => ih field hf (inner field hf)⟩
      rw [Table.Distinct, keys_fieldsReread]
      exact distinct

theorem depth_reread (j : Json) : j.reread.depth = j.depth :=
  Nat.le_antisymm ((depth_reread_le j j.depth).mpr (Nat.le_refl _)) ((depth_reread_le j j.reread.depth).mp (Nat.le_refl _))

theorem Named.reread {j : Json} (names : j.Named) : j.reread.Named := by
  have whole : j.Proper j.depth := ⟨names, Nat.le_refl _⟩
  exact whole.reread.names

/-- Every number in a value is read back as some number. -/
def Readable (j : Json) : Prop := ∀ n, number n ∈ j.parts → ∃ m, Number.ofWord? n.text = some m

theorem readable_array_iff (items : List Json) : (array items).Readable ↔ ∀ j ∈ items, j.Readable := by
  simp only [Readable, mem_parts_array, reduceCtorEq, false_or]
  constructor
  · exact fun h j hj n hn => h n ⟨j, hj, hn⟩
  · rintro h n ⟨j, hj, hn⟩
    exact h j hj n hn

theorem readable_object_iff (fields : List (String × Json)) :
    (object fields).Readable ↔ ∀ field ∈ fields, field.2.Readable := by
  simp only [Readable, mem_parts_object, reduceCtorEq, false_or]
  constructor
  · exact fun h field hf n hn => h n ⟨field, hf, hn⟩
  · rintro h n ⟨field, hf, hn⟩
    exact h field hf n hn

theorem Legible.readable {j : Json} (h : j.Legible) : j.Readable := fun n inside => ⟨n, h n inside⟩

/-- A value whose numbers are all read back as themselves is read back as itself. -/
theorem Legible.reread_eq {j : Json} (h : j.Legible) : j.reread = j := by
  induction j using inside_induction with
  | number n => exact congrArg number (Number.reread_of_ofWord? (h n (by simp)))
  | array items ih =>
    rw [reread_array, List.map_congr_left fun j hj => ih j hj ((legible_array_iff items).mp h j hj), List.map_id']
  | object fields ih =>
    have same : ∀ field ∈ fields, fieldReread field = field := fun field hf => by
      rw [fieldReread, ih field hf ((legible_object_iff fields).mp h field hf)]
    rw [reread_object, List.map_congr_left same, List.map_id']
  | _ => rfl

end VariableStore.Json
