import VariableStore.Proofs.Reference.Search
import VariableStore.Proofs.Reference.Template
/-!
A variable that is a whole text, white space around it aside. Who reads a whole text must get to its end with the type
name, and checks afterwards that the name is allowed; a search stops at the first standard name that it meets. The two
agree on such texts: a variable is read exactly where the search finds this variable, over all of the text but the white
space, and nothing else.
-/
namespace VariableStore

open Variable (parse? Parts isTypeChar_iff isBlank_of_isTypeChar)

theorem unmarked_of_blank {s : String} (blank : ∀ c ∈ s.toList, Text.isBlank c = true) : Unmarked s := by
  have marks : ['#', '&', '$'].all (!Text.isBlank ·) = true := by decide
  intro c inside mark
  have other := List.all_eq_true.mp marks c mark
  rw [blank c inside] at other
  cases other

/-- A type name does not go on with white space. -/
theorem apart_of_blank {s : String} (blank : ∀ c ∈ s.toList, Text.isBlank c = true) (c : Char)
    (front : s.toList.head? = some c) : ¬ (c.isAlphanum = true ∨ c ∈ ['_', '-']) := by
  intro char
  have other := isBlank_of_isTypeChar ((isTypeChar_iff c).mpr char)
  rw [blank c (List.mem_of_head? front)] at other
  cases other

namespace Template

def padded {p : Parts} (wellFormed : p.WellFormed) (s : String) : Template where
  front := Text.leading s
  unmarked := unmarked_of_blank fun _ => Text.isBlank_of_mem_leading
  slots := [{
    parts := p
    behind := Text.trailing s
    wellFormed := wellFormed
    unmarked := unmarked_of_blank fun _ => Text.isBlank_of_mem_trailing
    apart := apart_of_blank fun _ => Text.isBlank_of_mem_trailing }]

theorem text_padded {p : Parts} (wellFormed : p.WellFormed) {s : String} (text : Text.trim s = p.text) :
    (padded wellFormed s).text = s := by
  have whole := Text.leading_trim_trailing s
  rw [text, ← p.text_toVariable, String.append_assoc] at whole
  rw [Template.text, fill, padded, Slot.fill, Slot.fill, String.append_empty]
  exact whole

end Template

namespace Occurrence

/-- The occurrence takes all of the text but white space around it, if not more. -/
def Covers (o : Occurrence) (s : String) : Prop :=
  o.start ≤ Utf8.length (Text.leading s) ∧ Utf8.length (Text.leading s) + Utf8.length (Text.trim s) ≤ o.stop

/-- Where a text is read as a variable, this variable is found in place of the trimmed text, and nothing else is. -/
theorem scan_of_parse? {s : String} {v : Variable} (read : parse? s = some v) :
    scan s = [⟨Utf8.length (Text.leading s), Utf8.length (Text.leading s) + Utf8.length (Text.trim s), Text.trim s,
      .internal v⟩] := by
  obtain ⟨p, wellFormed, text, rfl⟩ := (Variable.parse?_eq_some_iff s v).mp read
  have found := (Template.padded wellFormed s).occurrences_text
  rw [Template.text_padded wellFormed text] at found
  rw [found, text, ← p.text_toVariable]
  rfl

/-- An occurrence that covers a text holds it, trimmed. -/
theorem trimChars_of_covers {s : String} {o : Occurrence} (found : o ∈ scan s) (covers : o.Covers s) :
    Text.trimChars s.toList = Text.trimChars o.text.toList := by
  obtain ⟨⟨before, after, whole, first, last⟩, -⟩ := slice_of_mem_scan found
  obtain ⟨starts, stops⟩ := covers
  rw [last, first] at stops
  rw [first] at starts
  have chars : before.toList ++ o.text.toList ++ after.toList = s.toList := by simp [whole]
  have trimmed : (Text.leading s).toList ++ (Text.trim s).toList ++ (Text.trailing s).toList = s.toList := by
    rw [← String.toList_append, ← String.toList_append, Text.leading_trim_trailing]
  have reached : before.toList ++ o.text.toList <+: s.toList := ⟨_, chars⟩
  have lead : (Text.leading s).toList ++ (Text.trim s).toList <+: s.toList := ⟨_, trimmed⟩
  have left : before.toList <+: (Text.leading s).toList :=
    Utf8.prefix_of_length_le ((List.prefix_append _ _).trans reached) ((List.prefix_append _ _).trans lead) starts
  have right : (Text.leading s).toList ++ (Text.trim s).toList <+: before.toList ++ o.text.toList :=
    Utf8.prefix_of_length_le lead reached (by simpa [Utf8.length, Utf8.encode] using stops)
  obtain ⟨more, same⟩ := right
  have behind : (Text.trailing s).toList = more ++ after.toList := by
    rw [← chars, ← same, List.append_assoc _ more] at trimmed
    exact List.append_cancel_left trimmed
  rw [← chars]
  refine Text.trimChars_surrounded o.text.toList (fun c inside => ?_) fun c inside => ?_
  · exact Text.isBlank_of_mem_leading (left.subset inside)
  · have there : c ∈ (Text.trailing s).toList := by
      rw [behind]
      exact List.mem_append_right more inside
    exact Text.isBlank_of_mem_trailing there

/-- A variable that covers a text is what the text is read as. -/
theorem parse?_of_covers {s : String} {v : Variable} {o : Occurrence} (found : o ∈ scan s)
    (internal : o.reference = .internal v) (covers : o.Covers s) : parse? s = some v := by
  have read := (slice_of_mem_scan found).2
  rw [internal] at read
  have parsed := (Reference.parse?_of_read? read).2
  rw [parse?, trimChars_of_covers found covers, ← parse?, parsed]

/-- A text is read as a variable exactly where this variable is the one reference that is found in it and covers it. The
variable is then found at the very bytes that are left of the text when it is trimmed. -/
theorem parse?_iff_scan (s : String) (v : Variable) :
    (parse? s = some v → scan s =
      [⟨Utf8.length (Text.leading s), Utf8.length (Text.leading s) + Utf8.length (Text.trim s), Text.trim s,
        .internal v⟩]) ∧
    ∀ o, scan s = [o] → o.reference = .internal v → o.Covers s → parse? s = some v := by
  refine ⟨scan_of_parse?, fun o alone internal covers => ?_⟩
  have found : o ∈ scan s := alone ▸ List.mem_cons_self
  exact parse?_of_covers found internal covers

/-- A custom type with the front of a standard name, behind white space of three bytes. -/
theorem parse?_iff_scan_of_padded :
    let s := "\u2003#App:٣:items[0]!TCEnhanced\n"
    let v : Variable := ⟨"App", "٣", "items[0]", .custom "TCEnhanced"⟩
    let o : Occurrence := ⟨3, 30, "#App:٣:items[0]!TCEnhanced", .internal v⟩
    parse? s = some v ∧ scan s = [o] ∧ o.Covers s := by
  intro s v o
  have found : scan s = [o] := by decide +kernel
  have covers : o.Covers s := by
    unfold Covers
    decide +kernel
  have read : parse? s = some v := (parse?_iff_scan s v).2 o found rfl covers
  have again := (parse?_iff_scan s v).1 read
  exact ⟨read, again.trans (by decide +kernel), covers⟩

/-- A name that goes on behind a standard one: a variable is found, and it is not the whole text. -/
example : parse? "#App:1:x!StringX" = none ∧
    scan "#App:1:x!StringX" = [⟨0, 15, "#App:1:x!String", .internal ⟨"App", "1", "x", .string⟩⟩] := by
  decide +kernel

end Occurrence

end VariableStore
