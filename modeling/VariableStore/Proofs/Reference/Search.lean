import VariableStore.Proofs.Reference.Scan
import VariableStore.Proofs.Utf8
/-!
The search for references. The occurrences that are reported of a text follow one another without overlap, each at a
place that holds its text and no other. And none is missed: the search goes past a character only where no reference can
be read, or inside one that is reported, so every place where a reference could be read meets an occurrence.
-/
namespace VariableStore

open Variable (Parts)

namespace Reference

/-- A reference is read where the text of a variable stands. The variable read there may have a shorter type name. -/
theorem read?_of_parse? {s : String} {v : Variable} (read : Variable.parse? s = some v) (unpadded : Text.trim s = s)
    (rest : List Char) : read? (s.toList ++ rest) ≠ none := by
  obtain ⟨p, wellFormed, text, -⟩ := (Variable.parse?_eq_some_iff s v).mp read
  obtain ⟨found, internal⟩ := exists_internal? wellFormed rest
  rw [← unpadded, text, read?, internal]
  exact Option.some_ne_none _

/-- A reference is read where the form of an external one stands. -/
theorem read?_of_writtenAs {r : ExternalReference} {s : String} (h : r.WrittenAs s) (rest : List Char) :
    read? (s.toList ++ rest) = some (.external r, rest) := by
  obtain ⟨mark, front, other⟩ := head_of_writtenAs h
  have behind : (s.toList ++ rest).head? = some mark := by rw [List.head?_append, front, Option.some_or]
  rw [read?, internal?_of_other behind other, external?_of_writtenAs h]
  rfl

/-- The characters that a variable was read from are its text, and are parsed as this variable. -/
theorem parse?_of_read? {s : String} {v : Variable} (h : read? s.toList = some (.internal v, [])) :
    s = v.text ∧ Variable.parse? s = some v := by
  obtain ⟨p, wellFormed, rfl, whole⟩ := wellFormed_of_internal? (internal?_of_read?_internal h)
  rw [List.append_nil, String.toList_inj] at whole
  subst whole
  exact ⟨p.text_toVariable.symm, wellFormed.parse?_text⟩

/-- The characters that an external reference was read from have its form. -/
theorem writtenAs_of_read? {s : String} {r : ExternalReference} (h : read? s.toList = some (.external r, [])) :
    r.WrittenAs s := by
  unfold read? at h
  split at h
  · cases h
  · obtain ⟨⟨own, rest⟩, external, eq⟩ := Option.map_eq_some_iff.mp h
    cases eq
    obtain ⟨source, written, whole⟩ := writtenAs_of_external? external
    rw [List.append_nil, String.toList_inj] at whole
    exact whole ▸ written

end Reference

namespace Occurrence

/-- The place of an occurrence in a text: a range of bytes that is not empty, with its text between whole characters. -/
structure StandsIn (o : Occurrence) (s : String) : Prop where
  filled : o.start < o.stop
  slice : ∃ before after, s = before ++ o.text ++ after ∧ o.start = Utf8.length before ∧
    o.stop = o.start + Utf8.length o.text

/-- The bytes from `start` to `stop` lie in no occurrence: in front of the first, between two, or behind the last. -/
def Between (os : List Occurrence) (start stop : Nat) : Prop := ∀ o ∈ os, stop ≤ o.start ∨ o.stop ≤ start

/-- Occurrences follow one another, none beginning before the one in front of it has ended. -/
theorem pairwise_ofPieces (start : Nat) (pieces : List Piece) :
    (ofPieces start pieces).Pairwise fun o p => o.stop ≤ p.start := by
  induction pieces generalizing start with
  | nil => exact .nil
  | cons piece rest ih =>
    cases piece with
    | plain c => exact ih _
    | reference source r =>
      refine List.pairwise_cons.mpr ⟨fun p inside => ?_, ih _⟩
      obtain ⟨_, _, _, _, _, first, _⟩ := mem_ofPieces inside
      exact first ▸ Nat.le_add_right _ _

/-- Where a reference can be read among characters that are cut, an occurrence takes some of its bytes. -/
theorem exists_meeting {cs : List Char} {pieces : List Piece} (cut : Piece.Scanned cs pieces) (start : Nat)
    {before word after : List Char} (whole : cs = before ++ (word ++ after)) (filled : word ≠ [])
    (readable : Reference.read? (word ++ after) ≠ none) :
    ∃ o ∈ ofPieces start pieces,
      o.start < start + (Utf8.encodeChars before).length + (Utf8.encodeChars word).length ∧
        start + (Utf8.encodeChars before).length < o.stop := by
  -- The pieces are gone through one by one: the part in front of the word shrinks, and the word stays as it is.
  induction cut generalizing start before with
  | nil =>
    have empty := (List.append_eq_nil_iff.mp whole.symm).2
    exact absurd (List.append_eq_nil_iff.mp empty).1 filled
  | @plain c rest pieces unread tail ih =>
    cases before with
    | nil => exact absurd (whole ▸ unread) readable
    | cons first before =>
      obtain ⟨rfl, same⟩ := List.cons.inj whole
      obtain ⟨o, inside, left, right⟩ := ih (start + (Utf8.encodeChars [c]).length) same
      refine ⟨o, inside, ?_⟩
      simp only [Utf8.encodeChars_cons, Utf8.encodeChars_nil, List.length_append, List.length_nil] at left right ⊢
      omega
  | @reference source behind r pieces read tail ih =>
    have front : before <+: source ++ behind := whole ▸ List.prefix_append before _
    rcases Nat.lt_or_ge before.length source.length with within | behind
    · -- The word begins inside the source.
      obtain ⟨more, rfl⟩ := List.prefix_of_prefix_length_le front (List.prefix_append source behind) within.le
      have some := Utf8.length_encodeChars_pos filled
      have left : more ≠ [] := fun empty => by simp [empty] at within
      refine ⟨⟨start, _, _, r⟩, List.mem_cons_self, by simp only; omega, ?_⟩
      have rest := Utf8.length_encodeChars_pos left
      simp only [Piece.source, Utf8.encodeChars_append, List.length_append]
      omega
    · -- The word begins behind the source.
      obtain ⟨more, rfl⟩ := List.prefix_of_prefix_length_le (List.prefix_append source _) front behind
      rw [List.append_assoc] at whole
      obtain ⟨o, inside, left, right⟩ :=
        ih (start + (Utf8.encodeChars source).length) (List.append_cancel_left whole)
      refine ⟨o, List.mem_cons_of_mem _ inside, ?_⟩
      simp only [Utf8.encodeChars_append, List.length_append] at left right ⊢
      omega

/-- No reference can be read at bytes between the occurrences of a text. -/
theorem not_read_of_between {s before word after : String} (whole : s = before ++ word ++ after)
    (between : Between (scan s) (Utf8.length before) (Utf8.length before + Utf8.length word)) (filled : word ≠ "") :
    Reference.read? (word.toList ++ after.toList) = none := by
  by_contra readable
  have chars : s.toList = before.toList ++ (word.toList ++ after.toList) := by simp [whole]
  have some : word.toList ≠ [] := fun empty => filled (String.toList_eq_nil_iff.mp empty)
  obtain ⟨o, inside, left, right⟩ := exists_meeting (Piece.scanned_scan s) 0 chars some readable
  rw [Nat.zero_add] at left right
  rcases between o inside with before' | behind
  · exact absurd left (Nat.not_lt.mpr before')
  · exact absurd right (Nat.not_lt.mpr behind)

/-- The occurrences of a text follow one another without overlap, each with a range of bytes that is not empty and holds
its text between whole characters. A variable occurs with its own text, which is parsed as this variable, and an external
reference with the form of one. No part of the text that lies between occurrences is the form of an external reference, or
is parsed as a variable with no white space around it. -/
theorem scan_finds_all (s : String) :
    (scan s).Pairwise (fun o p => o.stop ≤ p.start) ∧
    (∀ o ∈ scan s, o.StandsIn s ∧
      (∀ v, o.reference = .internal v → o.text = v.text ∧ Variable.parse? o.text = some v) ∧
      ∀ r, o.reference = .external r → r.WrittenAs o.text) ∧
    ∀ before word after, s = before ++ word ++ after →
      Between (scan s) (Utf8.length before) (Utf8.length before + Utf8.length word) →
      (∀ v, Variable.parse? word = some v → Text.trim word ≠ word) ∧ ∀ r, ¬ ExternalReference.WrittenAs r word := by
  refine ⟨pairwise_ofPieces 0 _, fun o inside => ?_, fun before word after whole between => ?_⟩
  · obtain ⟨⟨before, after, whole, first, last⟩, read⟩ := slice_of_mem_scan inside
    refine ⟨⟨?_, before, after, whole, first, last⟩, fun v internal => ?_, fun r external => ?_⟩
    · have filled : o.text.toList ≠ [] := fun empty => by
        rw [empty] at read
        cases read
      have some := Utf8.length_encodeChars_pos filled
      rw [last]
      exact Nat.lt_add_of_pos_right some
    · exact Reference.parse?_of_read? (internal ▸ read)
    · exact Reference.writtenAs_of_read? (external ▸ read)
  · constructor
    · intro v read unpadded
      have readable := Reference.read?_of_parse? read unpadded after.toList
      have filled : word ≠ "" := fun empty => by
        rw [empty] at read
        cases read
      exact readable (not_read_of_between whole between filled)
    · intro r written
      have readable := Reference.read?_of_writtenAs written after.toList
      obtain ⟨mark, front, -⟩ := Reference.head_of_writtenAs written
      have filled : word ≠ "" := fun empty => by
        rw [empty] at front
        cases front
      rw [not_read_of_between whole between filled] at readable
      cases readable

/-- A variable and an external reference with a character of two bytes and a broken reference between them. -/
theorem scan_finds_all_of_broken :
    let s := "#App:1:x!Stringé&\x7bTC:TEXT\x7d$\x7bTC:TEXT:k\x7d"
    let v : Variable := ⟨"App", "1", "x", .string⟩
    let r : ExternalReference := ⟨"TC", "TEXT", "k"⟩
    scan s = [⟨0, 15, "#App:1:x!String", .internal v⟩, ⟨27, 39, "$\x7bTC:TEXT:k\x7d", .external r⟩] ∧
      Variable.parse? "#App:1:x!String" = some v ∧ r.WrittenAs "$\x7bTC:TEXT:k\x7d" ∧
      ∀ q, ¬ ExternalReference.WrittenAs q "&\x7bTC:TEXT\x7d" := by
  intro s v r
  have found : scan s =
      [⟨0, 15, "#App:1:x!String", .internal v⟩, ⟨27, 39, "$\x7bTC:TEXT:k\x7d", .external r⟩] := by decide +kernel
  obtain ⟨-, sound, complete⟩ := scan_finds_all s
  rw [found] at sound complete
  have between : Between [⟨0, 15, "#App:1:x!String", .internal v⟩, ⟨27, 39, "$\x7bTC:TEXT:k\x7d", .external r⟩]
      (Utf8.length "#App:1:x!Stringé") (Utf8.length "#App:1:x!Stringé" + Utf8.length "&\x7bTC:TEXT\x7d") := by
    unfold Between
    decide +kernel
  refine ⟨found, ?_, ?_, (complete _ _ "$\x7bTC:TEXT:k\x7d" (by decide +kernel) between).2⟩
  · exact ((sound _ List.mem_cons_self).2.1 v rfl).2
  · exact (sound _ (List.mem_cons_of_mem _ List.mem_cons_self)).2.2 r rfl

end Occurrence

end VariableStore
