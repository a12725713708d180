import VariableStore.Backend.Api
import VariableStore.Proofs.Url.Extension
/-!
The interface of a platform, seen from behind its requests. The URL of a key is that in front of all keys with one more
segment. Where that is a proper beginning, each variable has a path of its own, under which it is asked for. So over a
server that keeps the bytes of each PUT under its path the interface keeps the bytes of variables, and it reads an entry
without bytes as none.
-/
namespace VariableStore

open Url (Ordinary settle)

namespace Percent

theorem hexDigit_ne_mark : ∀ n < 16, hexDigit n ≠ '%' := by decide

/-- The byte of a point is not escaped. -/
theorem point_of_escape : ∀ n < 256, isUnreserved (UInt8.ofNat n) = false → hexDigit (n / 16) = '2' →
    (hexDigit (n % 16)).toLower ≠ 'e' := by
  decide +kernel

theorem pointsOf_cons {c : Char} (other : c ≠ '%') (rest : List Char) :
    Url.pointsOf (c :: rest) = c :: Url.pointsOf rest :=
  Url.pointsOf.eq_2 _ _ (by simp [other])

theorem pointsOf_encodeByte (byte : UInt8) (rest : List Char) :
    Url.pointsOf (encodeByte byte ++ rest) = encodeByte byte ++ Url.pointsOf rest := by
  have size : byte.toNat < 256 := byte.toNat_lt_size
  unfold encodeByte
  by_cases plain : isUnreserved byte = true
  · obtain ⟨mark, -⟩ := unreserved_byte byte.toNat size (by simpa using plain)
    rw [if_pos plain]
    exact pointsOf_cons mark rest
  · have high := hexDigit_ne_mark (byte.toNat / 16) (by omega)
    have low := hexDigit_ne_mark (byte.toNat % 16) (by omega)
    rw [if_neg plain, escape, List.cons_append, List.cons_append, List.singleton_append]
    by_cases two : hexDigit (byte.toNat / 16) = '2'
    · have other := point_of_escape byte.toNat size (by simpa using plain) two
      rw [two, Url.pointsOf.eq_1, if_neg other]
      rfl
    · rw [Url.pointsOf.eq_2 _ _ (by simp [two]), pointsOf_cons high, pointsOf_cons low]
      rfl

/-- No point is escaped in a segment. -/
theorem pointsOf_encode (s : String) : Url.pointsOf (encode s).toList = (encode s).toList := by
  rw [encode, String.toList_ofList]
  induction Utf8.encode s with
  | nil => rfl
  | cons byte rest ih =>
    have split : encodeBytes (byte :: rest) = encodeByte byte ++ encodeBytes rest := rfl
    rw [split, pointsOf_encodeByte, ih]

theorem encode_empty : encode "" = "" := by decide

theorem encode_dots : (encode ".").toList = ['.'] ∧ (encode "..").toList = ['.', '.'] := by decide

/-- Only the keys of one and of two points are encoded as what stands for a directory. -/
theorem ordinary_encode {key : String} (here : key ≠ ".") (above : key ≠ "..") : Ordinary (encode key).toList where
  plain := Url.plain_of_encoded (encoded_encode key)
  above := by
    rw [Url.isAbove, pointsOf_encode, decide_eq_false_iff_not, ← encode_dots.2, String.toList_inj]
    exact fun same => above (encode_injective same)
  here := by
    rw [Url.isHere, pointsOf_encode, decide_eq_false_iff_not, ← encode_dots.1, String.toList_inj]
    exact fun same => here (encode_injective same)

/-- The key of one point is read as the empty key. -/
theorem settle_encode (dirs : List (List Char)) {key : String} (above : key ≠ "..") :
    settle dirs (encode key).toList = dirs ++ [(encode (if key = "." then "" else key)).toList] := by
  by_cases here : key = "."
  · subst here
    rw [if_pos rfl, encode_dots.1]
    rfl
  · rw [if_neg here, Url.settle_of_ordinary dirs (ordinary_encode here above)]

end Percent

theorem Variable.text_ne_dots (v : Variable) : v.text ≠ "." ∧ v.text ≠ ".." := by
  have begins : ∀ {text : String}, v.text = text → text.toList.head? = some '#' := by
    rintro _ rfl
    simp [Variable.text]
  exact ⟨fun same => absurd (begins same) (by decide), fun same => absurd (begins same) (by decide)⟩

namespace Endpoint

/-- Requests of a context can be sent: what the URLs of all keys begin with is a URL of a scheme with requests, without
query and fragment, and the context and the token can be values of headers. -/
structure Reaches (e : Endpoint) (context : String) : Prop where
  url : ∃ url, Url.ofText? e.front = some url ∧ url.scheme ∈ schemes ∧ url.query = none ∧ url.fragment = none
  context : Http.isHeaderValue context = true
  token : ∀ token, e.token = some token → Http.isHeaderValue token = true

/-- What the host is asked for under a key, if its URL is one. -/
def path (e : Endpoint) (key : String) : String := ((Url.ofText? (e.url key)).map Url.target).getD ""

def headers (e : Endpoint) (context : String) (more : List (String × String)) : List (String × String) :=
  ("db-context", context) :: (e.token.map fun token => ("authorization", token)).toList ++ more

theorem lookup_headers (e : Endpoint) (context : String) (more : List (String × String)) :
    (e.headers context more).lookup "db-context" = some context := by
  simp [headers]

/-- What becomes of a request that was sent. -/
theorem send_some {σ : Type} (exchange : Http.Exchange σ) (key : String) (request : Http.Request) (x : σ) :
    send exchange key (some request) x = ((match (exchange request x).1 with
      | some response => .ok response
      | none => .error (lost key)), (exchange request x).2) := by
  simp only [send]
  rcases exchange request x with ⟨_ | response, y⟩ <;> rfl

variable {e : Endpoint} {context : String}

/-- The URL of a key ends with a letter, a slash and the key. -/
theorem toList_url (e : Endpoint) (key : String) : (e.url key).toList =
    (e.base ++ "/internal/" ++ e.space ++ "/keyValu").toList ++ 'e' :: '/' :: (Percent.encode key).toList := by
  simp [url, front]

/-- What is in front of all keys is the URL of the empty key. -/
theorem url_empty (e : Endpoint) : e.url "" = e.front := by
  rw [url, Percent.encode_empty, String.append_empty]

/-- The URL of a key is that in front of all keys, with one more segment. -/
theorem ofText?_url (e : Endpoint) (key : String) :
    Url.ofText? (e.url key) = (Url.ofText? e.front).map (Url.extend (Percent.encode key).toList) := by
  rw [← url_empty, Url.ofText?, Url.ofText?, toList_url, toList_url, Percent.encode_empty, String.toList_empty]
  exact Url.ofChars?_append _ (by decide) (Percent.encoded_encode key)

/-- Requests for keys can be sent, and they differ in the last segment of the path. -/
theorem Reaches.ofText?_url (h : e.Reaches context) : ∃ (url : Url) (dirs : List (List Char)),
    url.scheme ∈ schemes ∧ url.query = none ∧ ∀ key, Url.ofText? (e.url key) =
      some { url with path := .segments (settle dirs (Percent.encode key).toList) } := by
  obtain ⟨url, read, scheme, query, fragment⟩ := h.url
  have special : Url.isSpecial (String.ofList url.scheme) = true ∧ url.scheme ≠ "file".toList := by
    simp only [schemes, List.mem_cons, List.not_mem_nil, or_false] at scheme
    rcases scheme with scheme | scheme <;> rw [scheme] <;> decide
  obtain ⟨parts, path⟩ := Url.ofChars?_segments read special.1 special.2
  refine ⟨url, parts.dropLast, scheme, query, fun key => ?_⟩
  rw [Endpoint.ofText?_url, read]
  simp [Url.extend, query, fragment, path, Url.Path.extend]

/-- The key of two points apart, only the empty key and the key of one point share a path. -/
theorem Reaches.path_eq_iff (h : e.Reaches context) {key other : String} (above : key ≠ "..") (above' : other ≠ "..") :
    e.path key = e.path other ↔ (if key = "." then "" else key) = if other = "." then "" else other := by
  obtain ⟨url, dirs, -, query, urls⟩ := h.ofText?_url
  have path : ∀ {key : String}, key ≠ ".." → (e.path key).toList =
      dirs.flatMap ('/' :: ·) ++ '/' :: (Percent.encode (if key = "." then "" else key)).toList := by
    intro key above
    simp [Endpoint.path, urls, Percent.settle_encode dirs above, Url.target, Url.Path.text, Url.marked, query]
  rw [← String.toList_inj, path above, path above', List.append_cancel_left_eq, List.cons.injEq, String.toList_inj]
  exact ⟨fun same => Percent.encode_injective same.2, fun same => ⟨rfl, congrArg Percent.encode same⟩⟩

/-- Each variable has a path of its own. -/
theorem Reaches.path_injective (h : e.Reaches context) {v w : Variable} (same : e.path v.text = e.path w.text) :
    v.text = w.text := by
  obtain ⟨here, above⟩ := v.text_ne_dots
  obtain ⟨here', above'⟩ := w.text_ne_dots
  simpa [here, here'] using (h.path_eq_iff above above').mp same

/-- A request for a key is one for its path. -/
theorem Reaches.request?_eq (h : e.Reaches context) (method : Http.Method) (key : String)
    {more : List (String × String)} (values : ∀ header ∈ more, Http.isHeaderValue header.2 = true) (body : Bytes) :
    e.request? method context key more body = some ⟨method, e.path key, e.headers context more, body⟩ := by
  obtain ⟨url, dirs, scheme, -, urls⟩ := h.ofText?_url
  have valid : ∀ header ∈ e.headers context more, Http.isHeaderValue header.2 = true := by
    intro header inside
    rcases List.mem_append.mp inside with inside | inside
    · rcases List.mem_cons.mp inside with rfl | inside
      · exact h.context
      · obtain ⟨token, given, rfl⟩ := Option.map_eq_some_iff.mp (Option.mem_toList.mp inside)
        exact h.token token given
    · exact values header inside
  simp only [request?, path, urls key, Option.map_some, Option.getD_some, Option.bind_eq_bind, Option.bind_some]
  refine if_pos ?_
  rw [Bool.and_eq_true, List.all_eq_true]
  exact ⟨List.contains_iff_mem.mpr scheme, valid⟩

end Endpoint

/-- Somebody who keeps, for a context, the bytes of each PUT under its path, and answers each GET with what is kept. -/
structure Http.Keeps {σ : Type} (exchange : Exchange σ) (context : String) (kept : σ → String → Option Bytes) : Prop where
  put : ∀ request x, request.method = .put → request.header? "db-context" = some context →
    (∃ response, (exchange request x).1 = some response ∧ response.isSuccess = true) ∧
      ∀ path, kept (exchange request x).2 path = if request.target = path then some request.body else kept x path
  get : ∀ request x, request.method = .get → request.header? "db-context" = some context →
    (∃ response, (exchange request x).1 = some response ∧
      match kept x request.target with
      | some bytes => response = ⟨200, some bytes⟩
      | none => response.status = 404) ∧
      ∀ path, kept (exchange request x).2 path = kept x path

namespace Endpoint

variable {σ : Type} {e : Endpoint} {context : String} {exchange : Http.Exchange σ} {kept : σ → String → Option Bytes}

/-- Over a server that keeps bytes, a write of a variable is taken, and the bytes are kept under its path. -/
theorem create_of_keeps (h : e.Reaches context) (keeps : Http.Keeps exchange context kept) (v : Variable) (bytes : Bytes)
    (x : σ) : ((e.backend exchange).create context v.text bytes x).1 = .ok .accepted ∧
      ∀ path, kept ((e.backend exchange).create context v.text bytes x).2 path =
        if e.path v.text = path then some bytes else kept x path := by
  have value : ∀ header ∈ [("content-type", "application/octet-stream")], Http.isHeaderValue header.2 = true := by
    decide
  have request := h.request?_eq .put v.text value bytes
  obtain ⟨⟨response, answer, success⟩, after⟩ := keeps.put ⟨.put, e.path v.text, e.headers context _, bytes⟩ x rfl
    (e.lookup_headers context [("content-type", "application/octet-stream")])
  simp only [backend, request, send_some, answer] at after ⊢
  refine ⟨?_, after⟩
  simp [Except.bind, acknowledged, success]

end Endpoint

/-! ## Addresses

Whatever the key, its URL is that in front of all keys with the encoded key at the end, so the key can be read off the
URL and adds no part to it. As it is written the URL is the key's own. Whoever resolves a path takes the keys of one
and of two points for directories, see `Reaches.path_eq_iff`.
-/

namespace Url

theorem cut_append_mark {mark : Char} {front : List Char} (absent : mark ∉ front) (back : List Char) :
    cut mark (front ++ mark :: back) = (front, some back) := by
  induction front with
  | nil => rw [List.nil_append, cut, if_pos rfl]
  | cons c rest ih =>
    rw [List.mem_cons, not_or] at absent
    rw [List.cons_append, cut, if_neg (Ne.symm absent.1), ih absent.2]

theorem cutLast_append {mark : Char} {back : List Char} (absent : mark ∉ back) (front : List Char) :
    cutLast mark (front ++ mark :: back) = (some front, back) := by
  have turned : (front ++ mark :: back).reverse = back.reverse ++ mark :: front.reverse := by simp
  rw [cutLast, turned, cut_append_mark (by simpa using absent)]
  simp

/-- What stands behind the last slash of a text. -/
def lastPart (s : String) : String := String.ofList (cutLast '/' s.toList).2

end Url

namespace Endpoint

/-- The URL of a key ends with the key. -/
@[simp] theorem lastPart_url (e : Endpoint) (key : String) : Url.lastPart (e.url key) = Percent.encode key := by
  have slash : '/' ∉ (Percent.encode key).toList := (Percent.encoded_encode key).not_mem (by decide)
  rw [Url.lastPart, toList_url, Url.append_cons_slash, Url.cutLast_append slash, String.ofList_toList]

theorem url_injective (e : Endpoint) : Function.Injective e.url := by
  intro key other same
  have parts := congrArg Url.lastPart same
  rw [lastPart_url, lastPart_url] at parts
  exact Percent.encode_injective parts

/-- The URL of a key is divided as that in front of all keys. -/
theorem filter_url (e : Endpoint) (key : String) {marks : List Char} (apart : Percent.areApart marks = true) :
    (e.url key).toList.filter marks.contains = e.front.toList.filter marks.contains := by
  have none : (Percent.encode key).toList.filter marks.contains = [] := by
    refine List.filter_eq_nil_iff.mpr fun c inside => ?_
    simpa using (Percent.encoded_encode key).apart apart c inside
  rw [Endpoint.url, String.toList_append, List.filter_append, none, List.append_nil]

/-- The URL of a key has no more parts than that in front of all keys. -/
theorem within_url (e : Endpoint) (key : String) :
    Option.Rel Url.Within (Url.ofText? (e.url key)) (Url.ofText? e.front) := by
  have ends := e.ofText?_url ""
  rw [url_empty, Percent.encode_empty, String.toList_empty] at ends
  rw [ofText?_url]
  cases read : Url.ofText? e.front with
  | none => exact .none
  | some url =>
    rw [read] at ends
    exact .some (Url.within_extend (Percent.encoded_encode key) (Option.some.inj ends).symm)

/-- Each key has a URL of its own. What stands behind the last slash is made of characters that stand for themselves and of
escapes, and it is decoded to the key. So the URL of a key has no more slashes, question marks and number signs than what
is in front of all keys; and it is a URL just where that is one, with the same scheme and authority, no more segments in
its path, and a query or a fragment only if the other has one. -/
theorem urls_of_keys (e : Endpoint) (key : String) :
    (∀ other, e.url key = e.url other ↔ key = other) ∧
    Percent.Encoded (Url.lastPart (e.url key)).toList ∧
    Percent.decode? (Url.lastPart (e.url key)) = some key ∧
    (e.url key).toList.filter ['/', '?', '#'].contains = e.front.toList.filter ['/', '?', '#'].contains ∧
    Option.Rel Url.Within (Url.ofText? (e.url key)) (Url.ofText? e.front) := by
  refine ⟨fun other => e.url_injective.eq_iff, ?_, ?_, e.filter_url key (by decide), e.within_url key⟩
  · rw [lastPart_url]
    exact Percent.encoded_encode key
  · rw [lastPart_url, Percent.decode?_encode]

example : Endpoint.url ⟨"http://[::1]:8080", "playbooks", none⟩ "a/../b?c#%2Fé" =
    "http://[::1]:8080/internal/playbooks/keyValue/a%2F..%2Fb%3Fc%23%252F%C3%A9" := by
  decide

end Endpoint

end VariableStore
