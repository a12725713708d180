import Mathlib.Data.List.Find
import Mathlib.Data.List.TakeWhile
import VariableStore.Proofs.Variable
import VariableStore.Reference
/-!
The form of references. A variable is read off the front of a text exactly where the text begins with the text of well
formed parts, and an external reference where it begins with the form of one. So what is read has one of the two forms, and
a text of either form is not passed over, whatever stands behind it.
-/
namespace VariableStore

open Variable (Opening Parts isTypeChar isKeyChar isKeyChar_iff run? run?_append run?_members run?_ok)

/-- The form of an external reference: a mark, and three names in braces with colons between them. -/
structure ExternalReference.WrittenAs (r : ExternalReference) (s : String) : Prop where
  text : ∃ mark ∈ ["&", "$"], s = mark ++ "\x7b" ++ r.provider ++ ":" ++ r.lookup ++ ":" ++ r.id ++ "\x7d"
  provider : r.provider ≠ "" ∧ ∀ c ∈ r.provider.toList, c.isAlpha = true
  lookup : r.lookup ≠ "" ∧ ∀ c ∈ r.lookup.toList, c.isAlphanum = true ∨ c ∈ ['_', '.', '-', '[', ']']
  id : r.id ≠ "" ∧ ∀ c ∈ r.id.toList, c.isAlphanum = true ∨ c ∈ ['_', '.', '-', '[', ']']

namespace Reference

theorem typeName_of_found {cs : List Char} {name : String}
    (h : typeNames.find? (fun name => name.toList.isPrefixOf cs) = some name) : typeName cs = name.toList := by
  rw [typeName, h]

theorem typeName_of_not_found {cs : List Char}
    (h : typeNames.find? (fun name => name.toList.isPrefixOf cs) = none) :
    typeName cs = cs.takeWhile Variable.isTypeChar := by
  rw [typeName, h]

theorem typeName_front (cs : List Char) : typeName cs <+: cs := by
  cases found : typeNames.find? (fun name => name.toList.isPrefixOf cs) with
  | some name =>
    rw [typeName_of_found found]
    have front := List.find?_some found
    exact List.isPrefixOf_iff_prefix.mp front
  | none =>
    rw [typeName_of_not_found found]
    exact List.takeWhile_prefix _

theorem isTypeChar_of_mem {name : String} (inside : name ∈ typeNames) : ∀ c ∈ name.toList, isTypeChar c = true := by
  have all : ∀ name ∈ typeNames, name.toList.all isTypeChar = true := by decide +kernel
  exact List.all_eq_true.mp (all name inside)

theorem isTypeChar_of_mem_typeName (cs : List Char) : ∀ c ∈ typeName cs, isTypeChar c = true := by
  cases found : typeNames.find? (fun name => name.toList.isPrefixOf cs) with
  | some name =>
    rw [typeName_of_found found]
    exact isTypeChar_of_mem (List.mem_of_find?_eq_some found)
  | none =>
    rw [typeName_of_not_found found]
    exact fun c inside => List.all_eq_true.mp List.all_takeWhile c inside

/-- A type name that stands in a text is a standard one or begins like none of the reserved ones. -/
theorem isTypeName_typeName (cs : List Char) : Variable.isTypeName (typeName cs) = true := by
  rw [Variable.isTypeName_iff]
  cases found : typeNames.find? (fun name => name.toList.isPrefixOf cs) with
  | some name =>
    rw [typeName_of_found found, String.ofList_toList]
    have standard : ∀ name ∈ typeNames, ∃ t ∈ VariableType.standard, t.name = name := by decide +kernel
    exact .inl (standard name (List.mem_of_find?_eq_some found))
  | none =>
    right
    intro r inside front
    have named : ∀ r ∈ Variable.reserved, r ∈ typeNames := by decide +kernel
    have absent := List.find?_eq_none.mp found r (named r inside)
    exact absent (List.isPrefixOf_iff_prefix.mpr (front.trans (typeName_front cs)))

/-- A type name is read where type characters stand. -/
theorem typeName_ne_nil {name : List Char} (filled : name ≠ []) (chars : ∀ c ∈ name, isTypeChar c = true)
    (rest : List Char) : typeName (name ++ rest) ≠ [] := by
  cases found : typeNames.find? (fun name' => name'.toList.isPrefixOf (name ++ rest)) with
  | some standard =>
    rw [typeName_of_found found]
    have all : ∀ name ∈ typeNames, name.toList ≠ [] := by decide +kernel
    exact all standard (List.mem_of_find?_eq_some found)
  | none =>
    rw [typeName_of_not_found found, List.takeWhile_append_of_pos chars]
    exact fun empty => filled (List.append_eq_nil_iff.mp empty).1

/-- No standard name goes on behind the end of type characters. -/
theorem typeName_append {name rest : List Char} (chars : ∀ c ∈ name, isTypeChar c = true)
    (stop : ∀ c, rest.head? = some c → isTypeChar c = false) : typeName (name ++ rest) = typeName name := by
  have taken : (name ++ rest).takeWhile isTypeChar = name := by
    rw [List.takeWhile_append_of_pos chars]
    cases rest with
    | nil => simp
    | cons c rest => rw [List.takeWhile_cons_of_neg (by simp [stop c rfl]), List.append_nil]
  have same : ∀ standard ∈ typeNames, standard.toList.isPrefixOf (name ++ rest) = standard.toList.isPrefixOf name := by
    intro standard inside
    rw [Bool.eq_iff_iff, List.isPrefixOf_iff_prefix, List.isPrefixOf_iff_prefix]
    refine ⟨fun ⟨more, whole⟩ => ?_, fun front => front.trans (List.prefix_append name rest)⟩
    rw [← taken, ← whole, List.takeWhile_append_of_pos (isTypeChar_of_mem inside)]
    exact List.prefix_append _ _
  have found := List.find?_congr same
  rw [typeName, typeName, found, taken, List.takeWhile_eq_self_iff.mpr chars]

/-- A whole type name is found as it is. -/
theorem typeName_eq_self {name : List Char} (chars : ∀ c ∈ name, isTypeChar c = true)
    (known : Variable.isTypeName name = true) : typeName name = name := by
  rcases (Variable.isTypeName_iff name).mp known with ⟨t, standard, same⟩ | unreserved
  · have all : ∀ t ∈ VariableType.standard, typeName t.name.toList = t.name.toList := by decide +kernel
    rw [← String.toList_ofList (l := name), ← same]
    exact all t standard
  · have reserved : ∀ name ∈ typeNames, ∃ r ∈ Variable.reserved, r.toList <+: name.toList := by decide +kernel
    have absent : typeNames.find? (fun standard => standard.toList.isPrefixOf name) = none := by
      rw [List.find?_eq_none]
      intro standard inside front
      obtain ⟨r, listed, begins⟩ := reserved standard inside
      exact unreserved r listed (begins.trans (List.isPrefixOf_iff_prefix.mp front))
    rw [typeName_of_not_found absent, List.takeWhile_eq_self_iff.mpr chars]

theorem internal?_of_read? {cs : List Char} {o : Opening} (read : Opening.read? cs = some o)
    (filled : typeName o.rest ≠ []) :
    internal? cs = some (o.variable (typeName o.rest), o.rest.drop (typeName o.rest).length) := by
  rw [internal?, read, Option.bind_eq_bind, Option.bind_some]
  split
  · next empty => exact absurd empty filled
  · rfl

theorem internal?_ok {cs rest : List Char} {v : Variable} (h : internal? cs = some (v, rest)) :
    ∃ o, Opening.read? cs = some o ∧ typeName o.rest ≠ [] ∧ v = o.variable (typeName o.rest) ∧
      o.rest = typeName o.rest ++ rest := by
  obtain ⟨o, read, h⟩ := Option.bind_eq_some_iff.mp h
  split at h
  · cases h
  · next filled =>
    cases h
    exact ⟨o, read, filled, rfl, (List.prefix_iff_eq_append.mp (typeName_front o.rest)).symm⟩

/-- A variable that is read off the front is written as well formed parts. -/
theorem wellFormed_of_internal? {cs rest : List Char} {v : Variable} (h : internal? cs = some (v, rest)) :
    ∃ p : Parts, p.WellFormed ∧ v = p.toVariable ∧ cs = p.text.toList ++ rest := by
  obtain ⟨o, read, filled, rfl, whole⟩ := internal?_ok h
  let alone : Opening := { o with rest := typeName o.rest }
  have legal := Opening.legal_of_read? read
  refine ⟨.ofOpening alone, ?_, ?_, ?_⟩
  · rw [Parts.wellFormed_iff, Parts.opening_ofOpening]
    exact ⟨⟨legal.application, legal.job, legal.key⟩, filled, isTypeChar_of_mem_typeName o.rest,
      isTypeName_typeName o.rest⟩
  · rw [Parts.toVariable_eq, Parts.opening_ofOpening]
    rfl
  · rw [Parts.toList_text, Parts.opening_ofOpening, Opening.read?_ok read, Opening.chars, whole]
    simp [alone, Opening.chars]

/-- Well formed parts are read up to their type name, whatever stands behind them. -/
theorem read?_text_append {p : Parts} (wellFormed : p.WellFormed) (rest : List Char) :
    Opening.read? (p.text.toList ++ rest) = some { p.opening with rest := p.opening.rest ++ rest } := by
  have legal := (p.wellFormed_iff.mp wellFormed).1
  let longer : Opening := { p.opening with rest := p.opening.rest ++ rest }
  have written : p.text.toList ++ rest = longer.chars := by
    rw [Parts.toList_text]
    simp [longer, Opening.chars]
  rw [written]
  exact Opening.Legal.read?_chars ⟨legal.application, legal.job, legal.key⟩

/-- Where a text begins with well formed parts, some variable is read off its front. -/
theorem exists_internal? {p : Parts} (wellFormed : p.WellFormed) (rest : List Char) :
    ∃ found, internal? (p.text.toList ++ rest) = some found := by
  obtain ⟨-, filled, chars, -⟩ := p.wellFormed_iff.mp wellFormed
  exact ⟨_, internal?_of_read? (read?_text_append wellFormed rest) (typeName_ne_nil filled chars rest)⟩

/-- Where a text begins with well formed parts and goes on with no type character, the variable that they make is read
off its front. -/
theorem internal?_of_wellFormed {p : Parts} (wellFormed : p.WellFormed) {rest : List Char}
    (stop : ∀ c, rest.head? = some c → isTypeChar c = false) :
    internal? (p.text.toList ++ rest) = some (p.toVariable, rest) := by
  obtain ⟨-, filled, chars, known⟩ := p.wellFormed_iff.mp wellFormed
  have name : typeName (p.opening.rest ++ rest) = p.opening.rest :=
    (typeName_append chars stop).trans (typeName_eq_self chars known)
  have found := internal?_of_read? (read?_text_append wellFormed rest)
  simp only [name, List.drop_left] at found
  rw [found filled, Parts.toVariable_eq]
  rfl

theorem internal?_of_other {cs : List Char} {mark : Char} (front : cs.head? = some mark) (other : mark ≠ '#') :
    internal? cs = none := by
  have none_ : Opening.read? cs = none := by
    unfold Opening.read?
    split
    · cases front
      exact absurd rfl other
    · rfl
  rw [internal?, none_]
  rfl

/-- The form of an external reference begins with a mark that no variable begins with. -/
theorem head_of_writtenAs {r : ExternalReference} {s : String} (h : r.WrittenAs s) :
    ∃ mark, s.toList.head? = some mark ∧ mark ≠ '#' := by
  obtain ⟨⟨mark, marked, rfl⟩, -, -, -⟩ := h
  simp only [List.mem_cons, List.not_mem_nil, or_false] at marked
  rcases marked with rfl | rfl
  · exact ⟨'&', by simp, by decide⟩
  · exact ⟨'$', by simp, by decide⟩

/-- An external reference that is read off the front stands there in its form. -/
theorem writtenAs_of_external? {cs rest : List Char} {r : ExternalReference} (h : external? cs = some (r, rest)) :
    ∃ s, r.WrittenAs s ∧ cs = s.toList ++ rest := by
  unfold external? at h
  split at h
  · next mark brace cs =>
    split at h
    · next opens =>
      obtain ⟨marked, rfl⟩ := opens
      simp only [Option.bind_eq_bind, Option.bind_eq_some_iff, Option.some.injEq, Prod.exists, Prod.mk.injEq] at h
      obtain ⟨provider, afterProvider, first, lookup, afterLookup, second, id, rest, third, rfl, rfl⟩ := h
      refine ⟨_, ⟨⟨String.ofList [mark], ?_, rfl⟩, ?_, ?_, ?_⟩, ?_⟩
      · rcases marked with rfl | rfl <;> decide
      · simpa [Variable.isApplicationChar] using run?_members first
      · simpa [isKeyChar_iff] using run?_members second
      · simpa [isKeyChar_iff] using run?_members third
      · rw [run?_ok first, run?_ok second, run?_ok third]
        simp
    · cases h
  · cases h

/-- Where a text begins with the form of an external reference, this one is read off its front. -/
theorem external?_of_writtenAs {r : ExternalReference} {s : String} (h : r.WrittenAs s) (rest : List Char) :
    external? (s.toList ++ rest) = some (r, rest) := by
  obtain ⟨⟨mark, marked, rfl⟩, provider, lookup, id⟩ := h
  let afterLookup := r.id.toList ++ '\x7d' :: rest
  let afterProvider := r.lookup.toList ++ ':' :: afterLookup
  have first : run? Variable.isApplicationChar ':' (r.provider.toList ++ ':' :: afterProvider) =
      some (r.provider.toList, afterProvider) := run?_append (by simpa using provider.1) provider.2 (by decide) _
  have second : run? isKeyChar ':' afterProvider = some (r.lookup.toList, afterLookup) :=
    run?_append (by simpa using lookup.1) (fun c inside => (isKeyChar_iff c).mpr (lookup.2 c inside)) (by decide) _
  have third : run? isKeyChar '\x7d' afterLookup = some (r.id.toList, rest) :=
    run?_append (by simpa using id.1) (fun c inside => (isKeyChar_iff c).mpr (id.2 c inside)) (by decide) rest
  have opens : ∃ c : Char, (c = '&' ∨ c = '$') ∧ mark.toList = [c] := by
    simp only [List.mem_cons, List.not_mem_nil, or_false] at marked
    rcases marked with rfl | rfl
    · exact ⟨'&', .inl rfl, rfl⟩
    · exact ⟨'$', .inr rfl, rfl⟩
  obtain ⟨c, kind, single⟩ := opens
  have written : (mark ++ "\x7b" ++ r.provider ++ ":" ++ r.lookup ++ ":" ++ r.id ++ "\x7d").toList ++ rest =
      c :: '\x7b' :: (r.provider.toList ++ ':' :: afterProvider) := by
    simp [single, afterProvider, afterLookup]
  rw [written, external?, if_pos ⟨kind, rfl⟩]
  simp only [first, second, third, Option.bind_eq_bind, Option.bind_some, String.ofList_toList]

/-- A variable is read from its whole text. -/
theorem read?_of_variable {text : String} {v : Variable} (named : Variable.parse? text = some v)
    (unpadded : Text.trim text = text) : read? text.toList = some (.internal v, []) := by
  obtain ⟨p, wellFormed, eq, rfl⟩ := (Variable.parse?_eq_some_iff text v).mp named
  have whole : internal? (p.text.toList ++ []) = _ := internal?_of_wellFormed wellFormed (by simp)
  rw [List.append_nil, ← eq, unpadded] at whole
  rw [read?, whole]

end Reference

end VariableStore
