import VariableStore.Proofs.Reference.Scan
import VariableStore.Proofs.Traced
import VariableStore.Reference
/-!
Resolution as substitution. Replacing references on the way through a text, with those met before remembered, comes
to the same as replacing all of them at once in the text as it was. Who is asked, and in which order, is settled by
the text before anything is answered: each source that needs an answer counts once, at its first occurrence.
-/
namespace VariableStore

/-- Whether a reference needs an answer. A binary variable does not, and nor does an external reference where there
is nobody to ask. -/
def Reference.isAsked (external : Bool) : Reference → Bool
  | .internal v => v.type.single ≠ .binary
  | .external _ => external

/-- The text that stands for a reference written as `source`, if variables and external references stand for what
these functions say. -/
def Reference.replacement (lookup : Variable → Option TypedValue)
    (external : Option (ExternalReference → Option String)) (source : String) : Reference → String
  | .internal v => if v.type.single = .binary then "<binary>" else TypedValue.renderOption (lookup v)
  | .external r =>
    match external with
    | some ask => (ask r).getD "<null>"
    | none => source

def Piece.fill (f : String → Reference → String) : Piece → List Char
  | .plain c => [c]
  | .reference source r => (f (String.ofList source) r).toList

namespace Occurrence

/-- The references that need an answer, one for each text that a reference is written with, in the order in which
these texts first occur. -/
def asked (external : Bool) (os : List Occurrence) : List Reference :=
  ((os.eraseDupsBy fun o p => o.text == p.text).filter fun o => o.reference.isAsked external).map reference

/-- The bytes from `cursor` on, with the range of each occurrence replaced and all others as they are. -/
def splice (f : Occurrence → String) (bytes : Bytes) : Nat → List Occurrence → Bytes
  | cursor, [] => bytes.drop cursor
  | cursor, o :: rest => (bytes.take o.start).drop cursor ++ Utf8.encode (f o) ++ splice f bytes o.stop rest

theorem asked_cons (external : Bool) (o : Occurrence) (os : List Occurrence) :
    asked external (o :: os) = (if o.reference.isAsked external then [o.reference] else []) ++
      asked external (os.filter fun p => p.text ≠ o.text) := by
  simp only [asked, List.eraseDupsBy_cons, List.filter_cons, beq_eq_false_iff_ne]
  split <;> rfl

/-- Replacing the ranges of the references among pieces is replacing these pieces. `before` is what the cursor has
passed, and `pending` the plain characters between the cursor and the pieces. -/
theorem splice_ofPieces (f : String → Reference → String) (pieces : List Piece) (before pending : Bytes) :
    splice (fun o => f o.text o.reference)
        (before ++ pending ++ Utf8.encodeChars (pieces.flatMap Piece.source)) before.length
        (ofPieces (before.length + pending.length) pieces) =
      pending ++ Utf8.encodeChars (pieces.flatMap (Piece.fill f)) := by
  induction pieces generalizing before pending with
  | nil => simp [ofPieces, splice]
  | cons piece rest ih =>
    cases piece with
    | plain c =>
      have step := ih before (pending ++ Utf8.encodeChars [c])
      simpa [ofPieces, Piece.source, Piece.fill, Nat.add_assoc] using step
    | reference source r =>
      have step := ih (before ++ pending ++ Utf8.encodeChars source) []
      have passed : ((before ++ pending ++ Utf8.encodeChars ((Piece.reference source r :: rest).flatMap
          Piece.source)).take (before.length + pending.length)).drop before.length = pending := by
        rw [← List.length_append, List.take_left, List.drop_left]
      rw [ofPieces, splice]
      simp only [passed]
      simpa [Piece.source, Piece.fill, Utf8.encode, Nat.add_assoc] using step

/-- The text of the pieces where references are replaced is the text with their ranges replaced. -/
theorem encode_fill (f : String → Reference → String) (text : String) :
    Utf8.encode (String.ofList ((Piece.scan text).flatMap (Piece.fill f))) =
      splice (fun o => f o.text o.reference) (Utf8.encode text) 0 (scan text) := by
  have spliced := splice_ofPieces f (Piece.scan text) [] []
  rw [(Piece.scanned_scan text).flatMap_source] at spliced
  rw [Utf8.encode_ofList]
  exact spliced.symm

end Occurrence

namespace Sources

open Traced

section Substitute

variable {κ σ : Type} {s : Sources (Traced κ σ)}

/-- An occurrence is not known any more once its text is. -/
theorem filter_unknown_cons (known : List (List Char × String)) (source : List Char) (text : String)
    (os : List Occurrence) :
    os.filter (fun o => (((source, text) :: known).lookup o.text.toList).isNone) =
      (os.filter fun o => (known.lookup o.text.toList).isNone).filter fun o => o.text ≠ String.ofList source := by
  rw [List.filter_filter]
  congr 1
  funext o
  rw [List.lookup_cons]
  by_cases same : o.text = String.ofList source
  · simp [same]
  · have other : (o.text.toList == source) = false := by
      rw [beq_eq_false_iff_ne]
      exact fun eq => same (by rw [← eq, String.ofList_toList])
    simp [same, other]

/-- Replacing a reference makes the one call that asks for it, or none if it needs no answer. -/
theorem makes_replacement {call : Reference → κ} (look : ∀ v, Makes [call (.internal v)] (s.lookup v))
    (ask : ∀ f, s.external = some f → ∀ r, Makes [call (.external r)] (f r)) (source : List Char) (r : Reference) :
    Makes (if r.isAsked s.external.isSome then [call r] else []) (s.replacement source r) := by
  cases r with
  | internal v =>
    by_cases binary : v.type.single = .binary
    · simp only [Reference.isAsked, replacement, binary]
      exact makes_pure _
    · rw [replacement, if_neg binary, if_pos (by simpa [Reference.isAsked] using binary)]
      exact (look v).bind_pure _
  | external r =>
    rw [replacement, Reference.isAsked]
    cases present : s.external with
    | none => exact makes_pure _
    | some f => exact (ask f present r).bind_pure _

/-- The calls of a substitution, where asking for a reference makes one call: one for each source that is not known
and needs an answer. -/
theorem makes_substitute {call : Reference → κ} (look : ∀ v, Makes [call (.internal v)] (s.lookup v))
    (ask : ∀ f, s.external = some f → ∀ r, Makes [call (.external r)] (f r))
    (known : List (List Char × String)) (pieces : List Piece) (start : Nat) :
    Makes ((Occurrence.asked s.external.isSome ((Occurrence.ofPieces start pieces).filter fun o =>
      (known.lookup o.text.toList).isNone)).map call) (s.substitute known pieces) := by
  induction pieces generalizing known start with
  | nil => exact makes_pure _
  | cons piece rest ih =>
    cases piece with
    | plain c => exact (ih known _).bind_pure _
    | reference source r =>
      rw [substitute, Occurrence.ofPieces, List.filter_cons]
      simp only [String.toList_ofList]
      cases met : known.lookup source with
      | some text => exact (ih known _).bind_pure _
      | none =>
        simp only [Option.isNone_none, if_true, Occurrence.asked_cons, List.map_append]
        rw [apply_ite (List.map call)]
        refine (makes_replacement look ask source r).bind fun text => ?_
        rw [← filter_unknown_cons known source text]
        exact (ih ((source, text) :: known) _).bind_pure _

/-- The answer of a substitution, where asking for a reference gives an answer that depends on nothing else. What is
known must be such answers. -/
theorem gives_substitute {f : String → Reference → String}
    (one : ∀ source r, Gives (f (String.ofList source) r) (s.replacement source r)) {pieces : List Piece}
    (read : ∀ source r, .reference source r ∈ pieces → Reference.read? source = some (r, []))
    {known : List (List Char × String)}
    (right : ∀ source text r, known.lookup source = some text → Reference.read? source = some (r, []) →
      text = f (String.ofList source) r) :
    Gives (pieces.flatMap (Piece.fill f)) (s.substitute known pieces) := by
  induction pieces generalizing known with
  | nil => exact gives_pure _
  | cons piece rest ih =>
    have later : ∀ source r, .reference source r ∈ rest → Reference.read? source = some (r, []) :=
      fun source r inside => read source r (List.mem_cons_of_mem _ inside)
    cases piece with
    | plain c => exact (ih later right).bind (gives_pure _)
    | reference source r =>
      have own := read source r List.mem_cons_self
      rw [substitute, List.flatMap_cons, Piece.fill]
      cases met : known.lookup source with
      | some text =>
        simp only [← right source text r met own]
        exact (ih later right).bind (gives_pure _)
      | none =>
        refine (one source r).bind (Gives.bind (ih later fun other text q found again => ?_) (gives_pure _))
        -- The source that was just met is read as `r` wherever it stands.
        rw [List.lookup_cons] at found
        split at found
        · next same =>
          have eq : other = source := by simpa using same
          subst eq
          rw [own] at again
          cases again
          exact (Option.some.inj found).symm
        · exact right other text q found again

/-- The calls of a resolution are settled by the text. -/
theorem makes_resolve (call : Reference → κ) (look : ∀ v, Makes [call (.internal v)] (s.lookup v))
    (ask : ∀ f, s.external = some f → ∀ r, Makes [call (.external r)] (f r)) (bound : Nat) (text : String) :
    Makes (if bound < Utf8.length text then []
      else (Occurrence.asked s.external.isSome (Occurrence.scan text)).map call) (s.resolve bound text) := by
  rw [resolve]
  split
  · exact makes_pure text
  · have all := makes_substitute look ask [] (Piece.scan text) 0
    have unknown : (Occurrence.ofPieces 0 (Piece.scan text)).filter
        (fun o => (([] : List (List Char × String)).lookup o.text.toList).isNone) = Occurrence.scan text :=
      List.filter_eq_self.mpr fun _ _ => rfl
    rw [unknown] at all
    exact all.bind_pure _

/-- The answer of a resolution of a text within the bound. -/
theorem gives_resolve {f : String → Reference → String}
    (one : ∀ source r, Gives (f (String.ofList source) r) (s.replacement source r)) {bound : Nat} {text : String}
    (within : Utf8.length text ≤ bound) :
    Gives (String.ofList ((Piece.scan text).flatMap (Piece.fill f))) (s.resolve bound text) := by
  rw [resolve, if_neg (Nat.not_lt.mpr within)]
  have read : ∀ source r, .reference source r ∈ Piece.scan text → Reference.read? source = some (r, []) :=
    fun source r => (Piece.scanned_scan text).read?_of_mem
  exact (gives_substitute one read (by simp)).bind (gives_pure _)

end Substitute

/-- Sources that answer as these functions do and note what they are asked. -/
def noting (lookup : Variable → Option TypedValue) (external : Option (ExternalReference → Option String)) :
    Sources (Traced Reference Unit) where
  lookup v := Traced.call (.internal v) fun s => (lookup v, s)
  external := external.map fun ask r => Traced.call (.external r) fun s => (ask r, s)

section Noting

variable (lookup : Variable → Option TypedValue) (external : Option (ExternalReference → Option String))

theorem makes_ask {f : ExternalReference → Traced Reference Unit (Option String)}
    (present : (noting lookup external).external = some f) (r : ExternalReference) : Makes [.external r] (f r) := by
  obtain ⟨ask, -, rfl⟩ := Option.map_eq_some_iff.mp present
  exact makes_call _ _

theorem gives_replacement (source : List Char) (r : Reference) :
    Gives (r.replacement lookup external (String.ofList source)) ((noting lookup external).replacement source r) := by
  cases r with
  | internal v =>
    by_cases binary : v.type.single = .binary
    · rw [Reference.replacement, replacement, if_pos binary, if_pos binary]
      exact gives_pure _
    · rw [Reference.replacement, replacement, if_neg binary, if_neg binary]
      exact fun _ => rfl
  | external r =>
    cases external with
    | none => exact gives_pure _
    | some ask => exact fun _ => rfl

/-- Resolution of a text within the bound is substitution in one go: the ranges of the references that are found in
it are replaced, each by what it stands for, and all other bytes stay. It asks for one reference for each text that a
reference needing an answer is written with, in the order of their first occurrences. A longer text is left alone, and
nobody is asked. -/
theorem resolve_eq_splice (bound : Nat) (text : String) :
    (Utf8.length text ≤ bound →
      Utf8.encode (((noting lookup external).resolve bound text).answer ()) =
        Occurrence.splice (fun o => o.reference.replacement lookup external o.text) (Utf8.encode text) 0
          (Occurrence.scan text) ∧
      ((noting lookup external).resolve bound text).calls () =
        Occurrence.asked external.isSome (Occurrence.scan text)) ∧
    (bound < Utf8.length text →
      ((noting lookup external).resolve bound text).answer () = text ∧
      ((noting lookup external).resolve bound text).calls () = []) := by
  have calls := makes_resolve (s := noting lookup external) id (fun v => makes_call _ _)
    (fun f present => makes_ask lookup external present) bound text ()
  rw [List.map_id, noting, Option.isSome_map, ← noting] at calls
  constructor
  · intro within
    rw [if_neg (Nat.not_lt.mpr within)] at calls
    refine ⟨?_, calls⟩
    rw [gives_resolve (gives_replacement lookup external) within (), Occurrence.encode_fill]
  · intro beyond
    rw [if_pos beyond] at calls
    refine ⟨?_, calls⟩
    rw [resolve, if_pos beyond]
    rfl

end Noting

/-- References side by side, behind a character of two bytes, one of them written twice and standing for a text that
is a reference itself. -/
theorem resolve_eq_splice_of_adjacent :
    let text := "é#App:1:a!String#App:1:a!String&\x7bTC:TEXT:k\x7d #App:1:f!BinaryArray"
    let lookup := fun v : Variable => if v.key = "a" then some (TypedValue.string "#App:1:b!String") else none
    let external := some fun _ : ExternalReference => (none : Option String)
    Utf8.length text = 65 ∧
      Utf8.encode (((noting lookup external).resolve 65 text).answer ()) =
        Utf8.encode "é#App:1:b!String#App:1:b!String<null> <binary>" ∧
      ((noting lookup external).resolve 65 text).calls () =
        [.internal ⟨"App", "1", "a", .string⟩, .external ⟨"TC", "TEXT", "k"⟩] ∧
      ((noting lookup external).resolve 64 text).answer () = text := by
  intro text lookup external
  have length : Utf8.length text = 65 := by decide +kernel
  obtain ⟨answer, calls⟩ := (resolve_eq_splice lookup external 65 text).1 (by omega)
  obtain ⟨untouched, -⟩ := (resolve_eq_splice lookup external 64 text).2 (by omega)
  refine ⟨length, ?_, ?_, untouched⟩
  · rw [answer]
    decide +kernel
  · rw [calls]
    decide +kernel

end Sources

end VariableStore
