import VariableStore.Config
import VariableStore.Json.Shape
import VariableStore.Proofs.Except
import VariableStore.Proofs.Json.Roundtrip
import VariableStore.Proofs.Table
import VariableStore.Proofs.Variable
/-!
Records with known fields. The values of a record are taken one after the other, so a value that sets a part of the
record which no other field touches may as well be set at the end: the rest is read as it would be without it.
-/
namespace VariableStore.Json

namespace Fields

variable {α : Type} {f : Fields α} {g : α → α} {name : String}

def takeField (f : Fields α) (a : α) (entry : String × Json) : Except Mismatch α :=
  match f.fields.lookup entry.1 with
  | some take => take a entry.2
  | none => .ok a

theorem takeObject_cons (a : α) (entry : String × Json) (entries : List (String × Json)) :
    f.takeObject a (entry :: entries) = f.takeField a entry >>= fun a => f.takeObject a entries := rfl

/-- All fields but one take their values alike before and after a change of the record. -/
def Apart (f : Fields α) (name : String) (g : α → α) : Prop :=
  ∀ field ∈ f.fields, field.1 ≠ name → ∀ a j, field.2 (g a) j = (field.2 a j).map g

theorem Apart.takeField (apart : f.Apart name g) {entry : String × Json} (other : entry.1 ≠ name) (a : α) :
    f.takeField (g a) entry = (f.takeField a entry).map g := by
  rw [Fields.takeField, Fields.takeField]
  cases known : f.fields.lookup entry.1 with
  | none => rfl
  | some take => exact apart _ (mem_of_lookup known) other a entry.2

theorem Apart.takeObject (apart : f.Apart name g) {entries : List (String × Json)} (others : name ∉ Table.keys entries)
    (a : α) : f.takeObject (g a) entries = (f.takeObject a entries).map g :=
  foldlM_map (fun _ inside a => apart.takeField (fun same => others (same ▸ List.mem_map_of_mem inside)) a) a

/-- An object with a value that makes the change is read like the object without it, and then changed. -/
theorem Apart.takeObject_eq (apart : f.Apart name g) {j : Json} (change : ∀ a, f.takeField a (name, j) = .ok (g a))
    {entries : List (String × Json)} (distinct : Table.Distinct entries) (given : Table.get? name entries = some j)
    (a : α) : f.takeObject a entries = (f.takeObject a (Table.erase name entries)).map g := by
  induction entries generalizing a with
  | nil => cases given
  | cons entry rest ih =>
    obtain ⟨key, value⟩ := entry
    obtain ⟨absent, distinct⟩ := List.nodup_cons.mp distinct
    by_cases here : key = name
    · subst here
      rw [Table.get?, if_pos rfl] at given
      cases given
      rw [takeObject_cons, change, ok_bind, apart.takeObject absent, Table.erase_cons_self, Table.erase_of_not_mem absent]
    · rw [Table.get?, if_neg here] at given
      rw [Table.erase_cons_of_ne here, takeObject_cons, takeObject_cons, map_bind_eq]
      simp only [ih distinct given]

end Fields

theorem orNull?_of_ok {α : Type} {read : Json → Except Mismatch α} {j : Json} {a : α} (present : j ≠ .null)
    (h : read j = .ok a) : orNull? read j = .ok (some a) := by
  unfold orNull?
  split
  · exact absurd rfl present
  · rw [h]
    rfl

end VariableStore.Json

/-! ## Configurations

The outputs asked for can be given as one text in three ways: to the request itself, in the environment, or in place
of the list in the JSON of a configuration. Whoever cuts the text at its commas, trims the parts and leaves out the
empty ones, the variables that are read from it are the same. And what is written as JSON is read back, with whatever
parts of the configuration are there.
-/

namespace VariableStore

/-- The parts of a text that are trimmed or left out for being empty stand for the same variables. -/
theorem filterMap_commaList (s : String) :
    (Text.commaList s).filterMap Variable.parse? = (Text.splitCommas s).filterMap Variable.parse? := by
  rw [Text.commaList, List.filterMap_filter, List.filterMap_map]
  apply congrArg (List.filterMap · _)
  funext part
  have nothing : Variable.parse? "" = none := by decide
  rw [Function.comp_apply, ← Variable.parse?_trim part]
  by_cases empty : Text.trim part = ""
  · rw [empty, nothing]
    rfl
  · rw [if_pos (decide_eq_true empty)]

open Json (Fields)

/-- A word is read from its number, which lies below the bound of words of its size. -/
theorem word_of_natBelow? {α : Type} {word : α} {bound n : Nat} {ofNat : Nat → α} (same : ofNat n = word) (small : n < bound)
    (expected : String) (fits : n < UInt64.size) :
    (do return ofNat (← (Json.number (.natural n fits)).natBelow? bound expected) : Except Json.Mismatch α) =
      .ok word := by
  rw [Json.natBelow?, if_pos small, ok_bind, same]
  rfl

theorem StoreOptions.read_toJson (exact : Bool) (o : StoreOptions) :
    StoreOptions.fields.read exact {} o.toJson = .ok o := by
  have bound : ∀ a fits, StoreOptions.fields.takeField a
      ("max_embedded_scan_bytes", .number (.natural o.scanBound.toNat fits)) = .ok { a with scanBound := o.scanBound } :=
    fun a fits => bind_eq_ok.mpr ⟨_, word_of_natBelow? UInt64.ofNat_toNat fits "usize" fits, rfl⟩
  rw [toJson, Fields.read]
  simp only [Fields.takeObject_cons, bound]
  rfl

theorem RedisSettings.read_toJson (exact : Bool) (r : RedisSettings) :
    RedisSettings.fields.read exact {} r.toJson = .ok r := by
  have port : ∀ a fits, RedisSettings.fields.takeField a ("port", .number (.natural r.port.toNat fits)) =
      .ok { a with port := r.port } := fun a fits =>
    bind_eq_ok.mpr ⟨_, word_of_natBelow? UInt16.ofNat_toNat r.port.toNat_lt "u16" fits, rfl⟩
  have db : ∀ a fits, RedisSettings.fields.takeField a ("db", .number (.natural r.db.toNat fits)) =
      .ok { a with db := r.db } := fun a fits =>
    bind_eq_ok.mpr ⟨_, word_of_natBelow? UInt32.ofNat_toNat r.db.toNat_lt "u32" fits, rfl⟩
  rw [toJson, Fields.read]
  simp only [Fields.takeObject_cons, port, db]
  rfl

theorem ApiSettings.ofJson?_toJson (exact : Bool) (s : ApiSettings) : ofJson? exact s.toJson = .ok s := by
  have time : ∀ a fits, ApiSettings.fields.takeField a ("timeout_ms", .number (.natural s.timeout.toNat fits)) =
      .ok { a with timeout := s.timeout } := fun a fits =>
    bind_eq_ok.mpr ⟨_, word_of_natBelow? UInt64.ofNat_toNat fits "u64" fits, rfl⟩
  have read : ApiSettings.fields.read exact { baseUrl := "" } s.toJson = .ok s := by
    obtain ⟨baseUrl, space, token, timeout⟩ := s
    rw [toJson, Fields.read]
    cases token <;>
    · simp only [Option.map, Option.toList, List.cons_append, List.nil_append, Fields.takeObject_cons, time]
      rfl
  rw [ofJson?, read]
  rfl

theorem StoreOptions.proper_toJson (o : StoreOptions) : o.toJson.Proper 1 := by
  simp [toJson, Json.proper_object_iff, Table.Distinct, Table.keys, Json.Proper.bool, Json.Proper.number]

theorem ApiSettings.proper_toJson (s : ApiSettings) : s.toJson.Proper 1 := by
  obtain ⟨baseUrl, space, token, timeout⟩ := s
  cases token <;>
    simp [toJson, Json.proper_object_iff, Table.Distinct, Table.keys, Json.Proper.string, Json.Proper.number]

theorem RedisSettings.proper_toJson (r : RedisSettings) : r.toJson.Proper 1 := by
  simp [toJson, Json.proper_object_iff, Table.Distinct, Table.keys, Json.Proper.string, Json.Proper.number]

namespace Config

theorem texts?_map_string (texts : List String) : texts? (texts.map .string) = some texts := by
  induction texts with
  | nil => rfl
  | cons text rest ih => rw [List.map_cons, texts?, ih, Option.map_some]

theorem outputs?_map_string (texts : List String) : outputs? (.array (texts.map .string)) = .ok texts := by
  rw [outputs?, texts?_map_string]

variable {exact : Bool} {c : Config}

theorem takeField_context (s : String) :
    (fields exact).takeField c ("context", .string s) = .ok { c with context := s } := rfl

theorem takeField_outputs {j : Json} {texts : List String} (h : outputs? j = .ok texts) :
    (fields exact).takeField c ("output_variables", j) = .ok { c with outputs := texts } :=
  bind_eq_ok.mpr ⟨_, h, rfl⟩

theorem takeField_store (o : StoreOptions) :
    (fields exact).takeField c ("store", o.toJson) = .ok { c with store := o } :=
  bind_eq_ok.mpr ⟨_, o.read_toJson exact, rfl⟩

theorem takeField_api (a : ApiSettings) :
    (fields exact).takeField c ("api", a.toJson) = .ok { c with api := some a } :=
  bind_eq_ok.mpr ⟨_, Json.orNull?_of_ok nofun (a.ofJson?_toJson exact), rfl⟩

theorem takeField_redis (r : RedisSettings) :
    (fields exact).takeField c ("redis", r.toJson) = .ok { c with redis := some r } :=
  bind_eq_ok.mpr ⟨_, Json.orNull?_of_ok nofun (r.read_toJson exact), rfl⟩

/-- A configuration that is written as JSON is read back. -/
theorem ofJson?_toJson (exact : Bool) (c : Config) : ofJson? exact c.toJson = .ok c := by
  obtain ⟨context, outputs, store, api, redis⟩ := c
  rw [toJson, ofJson?, Fields.read]
  cases api <;> cases redis <;>
  · simp only [Option.map, Option.toList, List.cons_append, List.nil_append, List.append_nil, Fields.takeObject_cons,
      takeField_context, takeField_outputs (outputs?_map_string _), takeField_store, takeField_api, takeField_redis, ok_bind]
    rfl

/-- What is written names no field twice and nests two levels deep. -/
theorem proper_toJson (c : Config) : c.toJson.Proper 2 := by
  obtain ⟨context, outputs, store, api, redis⟩ := c
  have texts : (Json.array (outputs.map .string)).Proper 1 := by
    rw [Json.proper_array_iff, List.forall_mem_map]
    exact fun text _ => .string 0 text
  cases api <;> cases redis <;>
    simp [toJson, Json.proper_object_iff, Table.Distinct, Table.keys, Json.Proper.string, texts,
      StoreOptions.proper_toJson, ApiSettings.proper_toJson, RedisSettings.proper_toJson]

theorem floatsReadBack_toJson (c : Config) : c.toJson.FloatsReadBack := by
  intro x inside
  obtain ⟨context, outputs, store, api, redis⟩ := c
  cases api with
  | none =>
    cases redis <;> simp [toJson, StoreOptions.toJson, RedisSettings.toJson] at inside
  | some a =>
    obtain ⟨baseUrl, space, token, timeout⟩ := a
    cases token <;> cases redis <;>
      simp [toJson, StoreOptions.toJson, ApiSettings.toJson, RedisSettings.toJson] at inside

theorem ofText?_compact_toJson (c : Config) : Json.ofText? c.toJson.compact = some c.toJson := by
  have proper : c.toJson.Proper Json.maxDepth := ⟨c.proper_toJson.names, c.proper_toJson.depth_le.trans (by decide)⟩
  rw [Json.ofText?_compact_eq, Json.ofCharsWithin?_chars proper (Json.readable _),
    c.floatsReadBack_toJson.legible.reread_eq]

/-- A configuration with the outputs of a text asks for what the text asks for. -/
theorem outputRequest_of_commaList {c : Config} {s : String} (h : c.outputs = Text.commaList s) :
    c.outputRequest = .ofCommas s := by
  rw [outputRequest, OutputRequest.ofCommas, OutputRequest.ofTexts, OutputRequest.ofTexts, h, filterMap_commaList]

/-- The settings for a Redis server are read unless there is a port that is none. -/
theorem redis?_ok_iff (host port : Option String) : (∃ r, redis? host port = .ok r) ↔
    ∀ text, port = some text → ∃ n, port? "TC_KVSTORE_PORT" text = .ok n := by
  cases port with
  | none => cases host <;> exact ⟨nofun, fun _ => ⟨_, rfl⟩⟩
  | some text =>
    have step : redis? host (some text) = port? "TC_KVSTORE_PORT" text >>= fun n =>
        .ok (some { host := host.getD "localhost", port := n }) := by
      rw [redis?, Option.isNone_some, Bool.and_false, if_neg (by decide)]
      rfl
    simp [step, bind_eq_ok]

section Environment

variable {setting : String → Option String}

theorem ofEnvironment?_ok_iff : (∃ c, ofEnvironment? setting = .ok c) ↔
    ∀ text, setting "TC_KVSTORE_PORT" = some text → ∃ n, port? "TC_KVSTORE_PORT" text = .ok n := by
  rw [← redis?_ok_iff (setting "TC_KVSTORE_HOST")]
  simp [ofEnvironment?, bind_eq_ok, pure, Except.pure]

theorem outputs_of_ofEnvironment? {s : String} (given : setting "TC_PLAYBOOK_OUT_VARIABLES" = some s) {c : Config}
    (h : ofEnvironment? setting = .ok c) : c.outputs = Text.commaList s := by
  obtain ⟨redis, -, made⟩ := bind_eq_ok.mp h
  cases made
  rw [given]
  rfl

end Environment

def withOutputs (texts : List String) (c : Config) : Config := { c with outputs := texts }

/-- No other field touches the outputs. -/
theorem apart_withOutputs (exact : Bool) (texts : List String) :
    (fields exact).Apart "output_variables" (withOutputs texts) := by
  rw [Fields.Apart, fields]
  simp only [List.forall_mem_cons, ne_eq, not_true_eq_false, false_implies, List.not_mem_nil, implies_true, and_true,
    true_and]
  refine ⟨fun _ c j => ?_, fun _ c j => ?_, fun _ c j => ?_, fun _ c j => ?_⟩
  · cases j.string? <;> rfl
  · cases StoreOptions.fields.read exact {} j <;> rfl
  · cases Json.orNull? (ApiSettings.ofJson? exact) j <;> rfl
  · cases Json.orNull? (RedisSettings.fields.read exact {}) j <;> rfl

/-- An object with a text for the outputs is read like the object without it, and then the outputs are those of the text. -/
theorem ofJson?_object {entries : List (String × Json)} (distinct : Table.Distinct entries) {s : String}
    (given : Table.get? "output_variables" entries = some (.string s)) (exact : Bool) :
    ofJson? exact (.object entries) =
      (ofJson? exact (.object (Table.erase "output_variables" entries))).map (withOutputs (Text.commaList s)) :=
  (apart_withOutputs exact (Text.commaList s)).takeObject_eq (fun _ => takeField_outputs rfl) distinct given {}

/-- A list of values with a text in the place of the outputs. -/
theorem outputs_of_ofJson?_array {exact : Bool} {context : Json} {s : String} {rest : List Json} {c : Config}
    (h : ofJson? exact (.array (context :: .string s :: rest)) = .ok c) : c.outputs = Text.commaList s := by
  obtain ⟨last, taken, bounded⟩ := bind_eq_ok.mp h
  have whole : last = c := by
    split at bounded <;> cases bounded
    rfl
  obtain ⟨first, -, taken⟩ := bind_eq_ok.mp taken
  have later : (((fields exact).fields.drop 2).zip rest).foldlM (fun c (field, j) => field.2 c j)
      (withOutputs (Text.commaList s) first) = .ok last := taken
  rw [foldlM_map] at later
  · obtain ⟨read, -, rfl⟩ := map_eq_ok.mp later
    rw [← whole]
    rfl
  · rintro ⟨field, j⟩ inside c
    have known : field ∈ (fields exact).fields.drop 2 := (List.of_mem_zip inside).1
    have name : field.1 ∈ ["store", "api", "redis"] := List.mem_map_of_mem known
    apply apart_withOutputs exact _ field (List.mem_of_mem_drop known)
    intro same
    rw [same] at name
    exact absurd name (by decide)

/-- One text asks for the same variables, in the same order, wherever it is given: in the environment, which is read unless
its port is none, and in the JSON of a configuration under the name of the list, or in its place among values without
names. Such an object is read if it is read without the text. A configuration that is written as JSON is read back as it
was, from the value and from its text. -/
theorem outputs_agree (s : String) :
    (∀ setting : String → Option String, setting "TC_PLAYBOOK_OUT_VARIABLES" = some s →
      ((∃ c, ofEnvironment? setting = .ok c) ↔
        ∀ text, setting "TC_KVSTORE_PORT" = some text → ∃ n, port? "TC_KVSTORE_PORT" text = .ok n) ∧
      ∀ c, ofEnvironment? setting = .ok c → c.outputRequest = .ofCommas s) ∧
    (∀ exact entries, Table.Distinct entries → Table.get? "output_variables" entries = some (.string s) →
      ((∃ c, ofJson? exact (.object entries) = .ok c) ↔
        ∃ c, ofJson? exact (.object (Table.erase "output_variables" entries)) = .ok c) ∧
      ∀ c, ofJson? exact (.object entries) = .ok c → c.outputRequest = .ofCommas s) ∧
    (∀ exact context rest c, ofJson? exact (.array (context :: .string s :: rest)) = .ok c →
      c.outputRequest = .ofCommas s) ∧
    ∀ exact c, ofJson? exact c.toJson = .ok c ∧
      (Json.ofText? c.toJson.compact).map (ofJson? exact) = some (.ok c) := by
  refine ⟨fun setting given => ⟨ofEnvironment?_ok_iff, fun c read => ?_⟩, fun exact entries distinct given => ⟨?_, ?_⟩,
    fun exact context rest c read => ?_, fun exact c => ⟨ofJson?_toJson exact c, ?_⟩⟩
  · exact outputRequest_of_commaList (outputs_of_ofEnvironment? given read)
  · simp [ofJson?_object distinct given exact, map_eq_ok]
  · intro c read
    rw [ofJson?_object distinct given] at read
    obtain ⟨others, -, rfl⟩ := map_eq_ok.mp read
    exact outputRequest_of_commaList rfl
  · exact outputRequest_of_commaList (outputs_of_ofJson?_array read)
  · rw [ofText?_compact_toJson, Option.map_some, ofJson?_toJson]

/-- A text with white space, with empty parts, with a part that is no variable and with a variable that comes twice. -/
theorem outputs_agree_of_blanks :
    let s := " #App:1:a!String ,, none,\t#App:1:b!Binary\n,#App:1:a!String,"
    let asked : List Variable := [⟨"App", "1", "a", .string⟩, ⟨"App", "1", "b", .binary⟩]
    let setting := fun name => if name = "TC_PLAYBOOK_OUT_VARIABLES" then some s else none
    let entries := [("output_variables", .string s), ("context", .string "c")]
    (OutputRequest.ofCommas s).listed = asked ∧
    (∃ c, ofEnvironment? setting = .ok c ∧ c.outputRequest.listed = asked) ∧
    (∃ c, ofJson? true (.object entries) = .ok c ∧ c.outputRequest.listed = asked) ∧
    ∃ c, ofJson? true (.array [.string "c", .string s]) = .ok c ∧ c.outputRequest.listed = asked := by
  intro s asked setting entries
  obtain ⟨environment, object, array, -⟩ := outputs_agree s
  have listed : (OutputRequest.ofCommas s).listed = asked := by decide +kernel
  obtain ⟨readable, same⟩ := environment setting rfl
  obtain ⟨c, read⟩ := readable.mpr nofun
  have distinct : Table.Distinct entries := by simp [Table.Distinct, Table.keys, entries]
  obtain ⟨others, same'⟩ := object true entries distinct rfl
  obtain ⟨d, read'⟩ := others.mpr ⟨{ context := "c" }, rfl⟩
  refine ⟨listed, ⟨c, read, by rw [same c read, listed]⟩, ⟨d, read', by rw [same' d read', listed]⟩, ?_⟩
  exact ⟨_, rfl, by rw [array true (.string "c") [] _ rfl, listed]⟩

end Config

end VariableStore
