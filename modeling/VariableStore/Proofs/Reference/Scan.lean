import VariableStore.Proofs.Reference.Form
import VariableStore.Proofs.Variable
/-!
What scanning takes from a text. A reference is read off the front of a text, and what it was written with is read
as the same reference where it stands alone: so two references with one source are one reference. The sources of
the pieces of a text, put together, are the text.
-/
namespace VariableStore

namespace Reference

open Variable (Parts)

/-- A variable is read off the front of a text, and from its characters alone as the same variable. -/
theorem internal?_source {cs rest : List Char} {v : Variable} (h : internal? cs = some (v, rest)) :
    ∃ source, source.head? = some '#' ∧ cs = source ++ rest ∧ internal? source = some (v, []) := by
  obtain ⟨p, wellFormed, rfl, whole⟩ := wellFormed_of_internal? h
  have again : internal? (p.text.toList ++ []) = _ := internal?_of_wellFormed wellFormed (by simp)
  rw [List.append_nil] at again
  exact ⟨p.text.toList, by rw [Parts.toList_text]; rfl, whole, again⟩

/-- An external reference is read off the front of a text, and from its characters alone as the same one. -/
theorem external?_source {cs rest : List Char} {r : ExternalReference} (h : external? cs = some (r, rest)) :
    ∃ source mark, source.head? = some mark ∧ mark ≠ '#' ∧ cs = source ++ rest ∧
      external? source = some (r, []) := by
  obtain ⟨s, written, whole⟩ := writtenAs_of_external? h
  have again := external?_of_writtenAs written []
  rw [List.append_nil] at again
  obtain ⟨mark, front, other⟩ := head_of_writtenAs written
  exact ⟨s.toList, mark, front, other, whole, again⟩

/-- A reference is read off the front of a text, and from its characters alone as the same reference. -/
theorem read?_source {cs rest : List Char} {r : Reference} (h : read? cs = some (r, rest)) :
    ∃ source, source ≠ [] ∧ cs = source ++ rest ∧ read? source = some (r, []) := by
  unfold read? at h
  split at h
  · next v behind found =>
    cases h
    obtain ⟨source, front, whole, again⟩ := internal?_source found
    refine ⟨source, fun empty => ?_, whole, by rw [read?, again]⟩
    rw [empty] at front
    cases front
  · obtain ⟨⟨e, behind⟩, found, eq⟩ := Option.map_eq_some_iff.mp h
    cases eq
    obtain ⟨source, mark, front, other, whole, again⟩ := external?_source found
    refine ⟨source, fun empty => ?_, whole, by rw [read?, internal?_of_other front other, again]; rfl⟩
    rw [empty] at front
    cases front

/-- The same where what is read, and what stands behind it, are known. -/
theorem read?_alone {source behind : List Char} {r : Reference} (h : read? (source ++ behind) = some (r, behind)) :
    source ≠ [] ∧ read? source = some (r, []) := by
  obtain ⟨own, filled, whole, again⟩ := read?_source h
  cases List.append_cancel_right whole
  exact ⟨filled, again⟩

end Reference

namespace Piece

/-- One step of a scan: a reference at the front is one piece, with the characters that it is read from. -/
theorem scanFrom_of_read? {c : Char} {rest behind : List Char} {r : Reference}
    (h : Reference.read? (c :: rest) = some (r, behind)) :
    ∃ source skip, c :: rest = source ++ behind ∧ rest.drop skip = behind ∧
      scanFrom 0 (c :: rest) = .reference source r :: scanFrom skip rest := by
  obtain ⟨source, filled, whole, -⟩ := Reference.read?_source h
  have size : (c :: rest).length - behind.length = source.length := by
    rw [whole, List.length_append]
    omega
  refine ⟨source, source.length - 1, whole, ?_, ?_⟩
  · obtain ⟨first, more, rfl⟩ := List.exists_cons_of_ne_nil filled
    obtain ⟨-, rfl⟩ := List.cons.inj whole
    simp
  · have taken : (c :: rest).take source.length = source := by rw [whole, List.take_left]
    rw [scanFrom, h]
    simp only [size, taken]

/-- Pieces that characters are cut into from left to right. A character is a piece by itself only where no reference is
read, and a reference takes all that it is read from. -/
inductive Scanned : List Char → List Piece → Prop
  | nil : Scanned [] []
  | plain {c : Char} {rest : List Char} {pieces : List Piece} (unread : Reference.read? (c :: rest) = none)
      (tail : Scanned rest pieces) : Scanned (c :: rest) (.plain c :: pieces)
  | reference {source behind : List Char} {r : Reference} {pieces : List Piece}
      (read : Reference.read? (source ++ behind) = some (r, behind)) (tail : Scanned behind pieces) :
      Scanned (source ++ behind) (.reference source r :: pieces)

theorem scanned_scanFrom (skip : Nat) (cs : List Char) : Scanned (cs.drop skip) (scanFrom skip cs) := by
  induction cs generalizing skip with
  | nil => simpa [scanFrom] using Scanned.nil
  | cons c rest ih =>
    cases skip with
    | succ skip => exact ih skip
    | zero =>
      cases read : Reference.read? (c :: rest) with
      | some found =>
        obtain ⟨r, behind⟩ := found
        obtain ⟨source, skip, whole, dropped, step⟩ := scanFrom_of_read? read
        rw [step, List.drop_zero, whole]
        exact .reference (whole ▸ read) (dropped ▸ ih skip)
      | none =>
        rw [scanFrom, read]
        exact .plain read (ih 0)

/-- A text is cut from left to right. -/
theorem scanned_scan (s : String) : Scanned s.toList (scan s) := scanned_scanFrom 0 s.toList

namespace Scanned

variable {cs : List Char} {pieces : List Piece}

/-- The pieces, put together, are what was cut. -/
theorem flatMap_source (h : Scanned cs pieces) : pieces.flatMap source = cs := by
  induction h with
  | nil => rfl
  | plain unread tail ih => rw [List.flatMap_cons, ih, source, List.singleton_append]
  | reference read tail ih => rw [List.flatMap_cons, ih, source]

/-- A reference among the pieces is what its source is read as. -/
theorem read?_of_mem {source : List Char} {r : Reference} (h : Scanned cs pieces)
    (inside : .reference source r ∈ pieces) : Reference.read? source = some (r, []) := by
  induction h with
  | nil => cases inside
  | plain unread tail ih =>
    rcases List.mem_cons.mp inside with eq | behind
    · cases eq
    · exact ih behind
  | reference read tail ih =>
    rcases List.mem_cons.mp inside with eq | behind
    · cases eq
      exact (Reference.read?_alone read).2
    · exact ih behind

end Scanned

theorem scanFrom_drop (skip : Nat) (cs : List Char) : scanFrom skip cs = scanFrom 0 (cs.drop skip) := by
  induction cs generalizing skip with
  | nil => simp [scanFrom]
  | cons c rest ih =>
    cases skip with
    | zero => rfl
    | succ skip => exact ih skip

/-- There is one way to cut characters from left to right. -/
theorem Scanned.scanFrom_eq {cs : List Char} {pieces : List Piece} (h : Scanned cs pieces) : scanFrom 0 cs = pieces := by
  induction h with
  | nil => rfl
  | plain unread tail ih => rw [scanFrom, unread, ih]
  | @reference source behind r pieces read tail ih =>
    obtain ⟨c, rest, eq⟩ := List.exists_cons_of_ne_nil (Reference.read?_alone read).1
    subst eq
    rw [List.cons_append] at read ⊢
    obtain ⟨other, skip, whole, dropped, step⟩ := scanFrom_of_read? read
    rw [← List.cons_append] at whole
    rw [step, scanFrom_drop, dropped, ih, List.append_cancel_right whole]

/-- Characters that are read as one reference are one piece. -/
theorem scanFrom_of_whole {cs : List Char} {r : Reference} (h : Reference.read? cs = some (r, [])) :
    scanFrom 0 cs = [.reference cs r] := by
  have whole : Scanned (cs ++ []) [.reference cs r] := .reference (by rwa [List.append_nil]) .nil
  rw [← whole.scanFrom_eq, List.append_nil]

end Piece

/-! ## Occurrences

The references that are reported of a text. Each one is a slice of the text, at the range of bytes that is reported
with it, and is read from the slice alone. The slice of a variable has the form of its text.
-/

namespace Reference

open Variable (WireText wireText_of_formed)

/-- What a variable in a text is written with has the form of its text. -/
theorem wireText_of_internal? {source : List Char} {v : Variable} (h : internal? source = some (v, [])) :
    v.WireText (String.ofList source) := by
  obtain ⟨p, wellFormed, rfl, whole⟩ := wellFormed_of_internal? h
  have text : String.ofList source = p.text := by
    rw [← String.toList_inj, String.toList_ofList, whole, List.append_nil]
  rw [text]
  exact wireText_of_formed ⟨wellFormed.application, wellFormed.job, wellFormed.key, wellFormed.type⟩ rfl

theorem internal?_of_read?_internal {source : List Char} {v : Variable} (h : read? source = some (.internal v, [])) :
    internal? source = some (v, []) := by
  unfold read? at h
  split at h
  · next found =>
    cases h
    exact found
  · obtain ⟨_, _, eq⟩ := Option.map_eq_some_iff.mp h
    cases eq

end Reference

namespace Occurrence

/-- A reference that is reported of some pieces is one of them, and starts where those in front of it end. -/
theorem mem_ofPieces {start : Nat} {pieces : List Piece} {o : Occurrence} (h : o ∈ ofPieces start pieces) :
    ∃ before source after, pieces = before ++ .reference source o.reference :: after ∧ o.text = String.ofList source ∧
      o.start = start + (Utf8.encodeChars (before.flatMap Piece.source)).length ∧
      o.stop = o.start + (Utf8.encodeChars source).length := by
  induction pieces generalizing start with
  | nil => cases h
  | cons piece rest ih =>
    have further : ∀ {stop}, stop = start + (Utf8.encodeChars piece.source).length → o ∈ ofPieces stop rest →
        ∃ before source after, piece :: rest = before ++ .reference source o.reference :: after ∧
          o.text = String.ofList source ∧ o.start = start + (Utf8.encodeChars (before.flatMap Piece.source)).length ∧
          o.stop = o.start + (Utf8.encodeChars source).length := by
      rintro stop rfl inside
      obtain ⟨before, source, after, rfl, text, first, last⟩ := ih inside
      refine ⟨piece :: before, source, after, rfl, text, ?_, last⟩
      rw [first, List.flatMap_cons, Utf8.encodeChars_append, List.length_append, Nat.add_assoc]
    cases piece with
    | plain c => exact further rfl h
    | reference source r =>
      rcases List.mem_cons.mp h with rfl | inside
      · exact ⟨[], source, rest, rfl, rfl, rfl, rfl⟩
      · exact further rfl inside

/-- A reference that is reported of a text is a slice of it, at its range of bytes, and is read from the slice. -/
theorem slice_of_mem_scan {s : String} {o : Occurrence} (h : o ∈ scan s) :
    (∃ before after, s = before ++ o.text ++ after ∧ o.start = Utf8.length before ∧
      o.stop = o.start + Utf8.length o.text) ∧ Reference.read? o.text.toList = some (o.reference, []) := by
  obtain ⟨before, source, after, pieces, text, first, last⟩ := mem_ofPieces h
  have whole := (Piece.scanned_scan s).flatMap_source
  rw [pieces, List.flatMap_append, List.flatMap_cons] at whole
  constructor
  · refine ⟨String.ofList (before.flatMap Piece.source), String.ofList (after.flatMap Piece.source), ?_, ?_, ?_⟩
    · rw [← String.toList_inj, ← whole, text]
      simp [Piece.source]
    · rw [first, Utf8.length, Utf8.encode_ofList, Nat.zero_add]
    · rw [last, text, Utf8.length, Utf8.encode_ofList]
  · rw [text, String.toList_ofList]
    exact (Piece.scanned_scan s).read?_of_mem (pieces ▸ List.mem_append_right _ List.mem_cons_self)

/-- A variable that is reported of a text stands there in the form of its text. -/
theorem wireText_of_mem_scan {s : String} {o : Occurrence} {v : Variable} (h : o ∈ scan s)
    (internal : o.reference = .internal v) : v.WireText o.text := by
  have read := (slice_of_mem_scan h).2
  rw [internal] at read
  have form := Reference.wireText_of_internal? (Reference.internal?_of_read?_internal read)
  rwa [String.ofList_toList] at form

end Occurrence

end VariableStore
