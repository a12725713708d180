import VariableStore.Error
import VariableStore.Json.Shape
import VariableStore.Store
import VariableStore.Text.Utf8
import VariableStore.Toml.Document
/-!
Configurations: the context that a store works in, the outputs asked for, the switches of the store, and how to
reach a backend behind an interface over the network.
-/
namespace VariableStore

/-- How to reach a backend behind an interface of a platform. Times are in milliseconds. -/
structure ApiSettings where
  baseUrl : String
  space : String := "playbooks"
  token : Option String := none
  timeout : UInt64 := 30000
  deriving DecidableEq, Repr

structure RedisSettings where
  host : String := "localhost"
  port : UInt16 := 6379
  db : UInt32 := 0
  deriving DecidableEq, Repr

def RedisSettings.url (r : RedisSettings) : String :=
  "redis://" ++ r.host ++ ":" ++ toString r.port.toNat ++ "/" ++ toString r.db.toNat

structure Config where
  context : String := ""
  outputs : List String := []
  store : StoreOptions := {}
  api : Option ApiSettings := none
  redis : Option RedisSettings := none
  deriving DecidableEq, Repr

def Config.outputRequest (c : Config) : OutputRequest := .ofTexts c.outputs

def Store.ofConfig {σ : Type} (backend : Backend σ) (c : Config) : Store σ where
  backend := backend
  context := c.context
  outputs := c.outputRequest
  options := c.store

end VariableStore

/-! ## From an environment

The settings of an environment are texts under names. A setting that is absent leaves the default, and a part of the
configuration is there if one of its settings is.
-/

namespace VariableStore.Config

def port? (setting text : String) : Except Error UInt16 :=
  match Unsigned.ofChars? UInt16.size text.toList with
  | .ok n => .ok (UInt16.ofNat n)
  | .error fault => .error (.config (.notPort setting fault))

def redis? (host port : Option String) : Except Error (Option RedisSettings) :=
  if host.isNone && port.isNone then .ok none
  else do
    let defaults : RedisSettings := {}
    let settings := { defaults with host := host.getD defaults.host }
    match port with
    | none => return some settings
    | some text => return some { settings with port := ← port? "TC_KVSTORE_PORT" text }

def ofEnvironment? (setting : String → Option String) : Except Error Config := do
  return {
    context := (setting "TC_PLAYBOOK_KVSTORE_CONTEXT").getD ""
    outputs := ((setting "TC_PLAYBOOK_OUT_VARIABLES").map Text.commaList).getD []
    api := (setting "TC_API_PATH").map fun url => { baseUrl := url, token := setting "TC_TOKEN" }
    redis := ← redis? (setting "TC_KVSTORE_HOST") (setting "TC_KVSTORE_PORT") }

end VariableStore.Config

/-! ## As JSON

Writing leaves out what is absent; reading takes what is left out from the defaults. The outputs asked for are written
as a list, and read from a list or from one text with commas in it.
-/

namespace VariableStore

def StoreOptions.toJson (o : StoreOptions) : Json :=
  .object
    [("validate", .bool o.validate),
     ("when_requested", .bool o.gated),
     ("resolve_embedded", .bool o.resolve),
     ("max_embedded_scan_bytes", .number (.natural o.scanBound.toNat o.scanBound.toNat_lt))]

def StoreOptions.fields : Json.Fields StoreOptions where
  name := "struct StoreConfig"
  fields :=
    [("validate", fun o j => return { o with validate := ← j.bool? }),
     ("when_requested", fun o j => return { o with gated := ← j.bool? }),
     ("resolve_embedded", fun o j => return { o with resolve := ← j.bool? }),
     ("max_embedded_scan_bytes", fun o j => return { o with scanBound := ← j.word64? "usize" })]

def ApiSettings.toJson (s : ApiSettings) : Json :=
  .object ([("base_url", .string s.baseUrl), ("namespace", .string s.space)] ++
    (s.token.map fun token => ("token", Json.string token)).toList ++
    [("timeout_ms", .number (.natural s.timeout.toNat s.timeout.toNat_lt))])

def ApiSettings.fields : Json.Fields ApiSettings where
  name := "struct ApiBackendConfig"
  fields :=
    [("base_url", fun s j => return { s with baseUrl := ← j.string? }),
     ("namespace", fun s j => return { s with space := ← j.string? }),
     ("token", fun s j => return { s with token := ← Json.orNull? Json.string? j }),
     ("timeout_ms", fun s j => return { s with timeout := ← j.word64? "u64" })]

/-- Reads the settings. The base URL has no default. -/
def ApiSettings.ofJson? (exact : Bool) (j : Json) : Except Json.Mismatch ApiSettings := do
  let s ← ApiSettings.fields.read exact { baseUrl := "" } j
  match j with
  | .object fields => if Table.contains "base_url" fields then .ok s else .error (.missingField "base_url")
  | .array [] => .error (.tooShort 0 "struct ApiBackendConfig with 4 elements")
  | _ => .ok s

def RedisSettings.toJson (r : RedisSettings) : Json :=
  .object
    [("host", .string r.host),
     ("port", .number (.natural r.port.toNat (Nat.lt_trans r.port.toNat_lt (by decide)))),
     ("db", .number (.natural r.db.toNat (Nat.lt_trans r.db.toNat_lt (by decide))))]

def RedisSettings.fields : Json.Fields RedisSettings where
  name := "struct RedisBackendConfig"
  fields :=
    [("host", fun r j => return { r with host := ← j.string? }),
     ("port", fun r j => return { r with port := ← j.word16? }),
     ("db", fun r j => return { r with db := ← j.word32? })]

namespace Config

def toJson (c : Config) : Json :=
  .object ([("context", .string c.context), ("output_variables", .array (c.outputs.map .string)),
      ("store", c.store.toJson)] ++
    (c.api.map fun api => ("api", api.toJson)).toList ++
    (c.redis.map fun redis => ("redis", redis.toJson)).toList)

/-- The texts of a list, if it holds nothing else. -/
def texts? : List Json → Option (List String)
  | [] => some []
  | .string s :: rest => (texts? rest).map (s :: ·)
  | _ :: _ => none

def outputs? : Json → Except Json.Mismatch (List String)
  | .string s => .ok (Text.commaList s)
  | .array items =>
    match texts? items with
    | some texts => .ok texts
    | none => .error (.noForm "StringOrList")
  | _ => .error (.noForm "StringOrList")

def fields (exact : Bool) : Json.Fields Config where
  name := "struct PlaybookConfig"
  fields :=
    [("context", fun c j => return { c with context := ← j.string? }),
     ("output_variables", fun c j => return { c with outputs := ← outputs? j }),
     ("store", fun c j => return { c with store := ← StoreOptions.fields.read exact {} j }),
     ("api", fun c j => return { c with api := ← Json.orNull? (ApiSettings.ofJson? exact) j }),
     ("redis", fun c j =>
        return { c with redis := ← Json.orNull? (RedisSettings.fields.read exact {}) j })]

def ofJson? (exact : Bool) (j : Json) : Except Json.Mismatch Config := (fields exact).read exact {} j

end Config

end VariableStore

/-! ## From TOML

The table of a document is read as the same object of JSON would be, but a list may hold more items than a record has
fields.
-/

namespace VariableStore.Config

def ofToml? (text : String) : Except Error Config :=
  match Toml.Document.ofText? text with
  | none => .error (.config .notToml)
  | some document => (ofJson? false document.toJson).mapError fun _ => .config .notToml

/-- The configuration of a file, given by its content if there is such a file. -/
def ofFile? : Option Bytes → Except Error Config
  | none => .error (.config .noFile)
  | some content =>
    match Utf8.decode? content with
    | none => .error (.config .fileNotUtf8)
    | some text => ofToml? text

end VariableStore.Config
