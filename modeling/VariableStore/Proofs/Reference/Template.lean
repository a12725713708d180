import VariableStore.Proofs.Reference.Scan
import VariableStore.Proofs.Reference.Resolution
/-!
Templates, texts that are put together from literals and variables. A literal has no mark that a reference begins with, and
none that stands behind a variable goes on with its type name. So the variables that were put in are the ones that are
found, each at its place, and resolution fills the places and leaves the literals as they are.
-/
namespace VariableStore

open Variable (Parts isTypeChar isTypeChar_iff)

/-- No reference can begin in the text. -/
def Unmarked (s : String) : Prop := ∀ c ∈ s.toList, c ∉ ['#', '&', '$']

instance (s : String) : Decidable (Unmarked s) := List.decidableBAll (· ∉ ['#', '&', '$']) s.toList

/-- A variable in a template and the literal behind it, which does not go on with the type name. -/
structure Slot where
  parts : Parts
  behind : String
  wellFormed : parts.WellFormed
  unmarked : Unmarked behind
  apart : ∀ c, behind.toList.head? = some c → ¬ (c.isAlphanum = true ∨ c ∈ ['_', '-'])

namespace Slot

def named (s : Slot) : Variable := s.parts.toVariable

def fill (f : Variable → String) : List Slot → String
  | [] => ""
  | s :: rest => f s.named ++ s.behind ++ fill f rest

/-- Where the variables of slots are found, if the first slot begins at byte `start`. -/
def places (start : Nat) : List Slot → List Occurrence
  | [] => []
  | s :: rest =>
    let stop := start + Utf8.length s.named.text
    ⟨start, stop, s.named.text, .internal s.named⟩ :: places (stop + Utf8.length s.behind) rest

def pieces : List Slot → List Piece
  | [] => []
  | s :: rest => .reference s.named.text.toList (.internal s.named) :: (s.behind.toList.map .plain ++ pieces rest)

end Slot

/-- A literal, and variables with a literal behind each of them. -/
structure Template where
  front : String
  slots : List Slot
  unmarked : Unmarked front

namespace Template

def fill (f : Variable → String) (t : Template) : String := t.front ++ Slot.fill f t.slots

def text (t : Template) : String := t.fill Variable.text

def named (t : Template) : List Variable := t.slots.map Slot.named

def places (t : Template) : List Occurrence := Slot.places (Utf8.length t.front) t.slots

def pieces (t : Template) : List Piece := t.front.toList.map .plain ++ Slot.pieces t.slots

end Template

/-- No reference is read where no mark stands. -/
theorem Reference.read?_of_unmarked {c : Char} (unmarked : c ∉ ['#', '&', '$']) (rest : List Char) :
    read? (c :: rest) = none := by
  simp only [List.mem_cons, List.not_mem_nil, or_false, not_or] at unmarked
  obtain ⟨hash, ampersand, dollar⟩ := unmarked
  have internal : internal? (c :: rest) = none := internal?_of_other rfl hash
  have external : external? (c :: rest) = none := by
    cases rest with
    | nil => rfl
    | cons brace rest => simp [external?, ampersand, dollar]
  rw [read?, internal, external]
  rfl

/-- A literal is cut into its characters. -/
theorem Piece.Scanned.literal {cs rest : List Char} {pieces : List Piece} (unmarked : ∀ c ∈ cs, c ∉ ['#', '&', '$'])
    (tail : Scanned rest pieces) : Scanned (cs ++ rest) (cs.map .plain ++ pieces) := by
  induction cs with
  | nil => exact tail
  | cons c cs ih =>
    obtain ⟨first, others⟩ := List.forall_mem_cons.mp unmarked
    exact .plain (Reference.read?_of_unmarked first _) (ih others)

/-- There is no occurrence in a literal. -/
theorem Occurrence.ofPieces_literal (start : Nat) (cs : List Char) (pieces : List Piece) :
    ofPieces start (cs.map .plain ++ pieces) = ofPieces (start + (Utf8.encodeChars cs).length) pieces := by
  induction cs generalizing start with
  | nil => rfl
  | cons c cs ih =>
    rw [List.map_cons, List.cons_append, ofPieces]
    simp only [ih, Piece.source, Utf8.encodeChars_cons, Utf8.encodeChars_nil, List.append_nil, List.length_append,
      Nat.add_assoc]

/-- A literal is filled with its characters. -/
theorem Piece.flatMap_fill_literal (f : String → Reference → String) (cs : List Char) (pieces : List Piece) :
    (cs.map plain ++ pieces).flatMap (fill f) = cs ++ pieces.flatMap (fill f) := by
  rw [List.flatMap_append, List.flatMap_map]
  simp [fill]

/-- A literal is left as it is. -/
theorem Sources.substitute_literal {m : Type → Type} [Monad m] [LawfulMonad m] (s : Sources m)
    (known : List (List Char × String)) (cs : List Char) (pieces : List Piece) :
    s.substitute known (cs.map .plain ++ pieces) = (cs ++ ·) <$> s.substitute known pieces := by
  induction cs with
  | nil => simp
  | cons c cs ih => simp [substitute, ih]

namespace Slot

theorem fill_congr {f g : Variable → String} {slots : List Slot} (same : ∀ s ∈ slots, f s.named = g s.named) :
    fill f slots = fill g slots := by
  induction slots with
  | nil => rfl
  | cons s rest ih =>
    obtain ⟨first, others⟩ := List.forall_mem_cons.mp same
    rw [fill, fill, first, ih others]

/-- Slots do not go on with a type name. -/
theorem stop_text (slots : List Slot) :
    ∀ c, (fill Variable.text slots).toList.head? = some c → isTypeChar c = false := by
  intro c front
  cases slots with
  | nil => cases front
  | cons s rest =>
    simp [fill, Variable.text] at front
    subst front
    decide

/-- What stands behind the variable of a slot does not go on with its type name. -/
theorem stop_behind (s : Slot) (rest : List Slot) :
    ∀ c, (s.behind.toList ++ (fill Variable.text rest).toList).head? = some c → isTypeChar c = false := by
  intro c front
  rw [List.head?_append] at front
  cases own : s.behind.toList.head? with
  | none =>
    rw [own] at front
    exact stop_text rest c front
  | some d =>
    rw [own] at front
    cases front
    exact Bool.eq_false_iff.mpr fun char => s.apart c own ((isTypeChar_iff c).mp char)

/-- The variable of a slot is read up to the end of its text. -/
theorem read?_append (s : Slot) {rest : List Char} (stop : ∀ c, rest.head? = some c → isTypeChar c = false) :
    Reference.read? (s.named.text.toList ++ rest) = some (.internal s.named, rest) := by
  rw [named, s.parts.text_toVariable, Reference.read?, Reference.internal?_of_wellFormed s.wellFormed stop]

/-- Variables of slots are equal if their texts are. -/
theorem named_eq_of_text_eq {s t : Slot} (h : s.named.text = t.named.text) : s.named = t.named := by
  rw [named, named, Parts.text_toVariable, Parts.text_toVariable] at h
  rw [named, named, s.wellFormed.eq_of_text_eq t.wellFormed h]

theorem scanned_pieces (slots : List Slot) : Piece.Scanned (fill Variable.text slots).toList (pieces slots) := by
  induction slots with
  | nil => exact .nil
  | cons s rest ih =>
    rw [fill, String.toList_append, String.toList_append, List.append_assoc]
    exact .reference (s.read?_append (stop_behind s rest)) (.literal s.unmarked ih)

theorem ofPieces_pieces (start : Nat) (slots : List Slot) :
    Occurrence.ofPieces start (pieces slots) = places start slots := by
  induction slots generalizing start with
  | nil => rfl
  | cons s rest ih =>
    rw [pieces, Occurrence.ofPieces, places]
    simp only [Occurrence.ofPieces_literal, ih, Piece.source, String.ofList_toList]
    rfl

theorem flatMap_fill_pieces (f : String → Reference → String) (slots : List Slot) :
    (pieces slots).flatMap (Piece.fill f) = (fill (fun v => f v.text (.internal v)) slots).toList := by
  induction slots with
  | nil => rfl
  | cons s rest ih =>
    rw [pieces, List.flatMap_cons, Piece.flatMap_fill_literal, ih, fill]
    simp [Piece.fill]

end Slot

namespace Template

theorem scan_text (t : Template) : Piece.scan t.text = t.pieces := by
  refine Piece.Scanned.scanFrom_eq ?_
  rw [text, fill, String.toList_append]
  exact .literal t.unmarked (Slot.scanned_pieces t.slots)

theorem occurrences_text (t : Template) : Occurrence.scan t.text = t.places := by
  rw [Occurrence.scan, scan_text, pieces, Occurrence.ofPieces_literal, Nat.zero_add, Slot.ofPieces_pieces]
  rfl

theorem flatMap_fill_pieces (f : String → Reference → String) (t : Template) :
    t.pieces.flatMap (Piece.fill f) = (t.fill fun v => f v.text (.internal v)).toList := by
  rw [pieces, Piece.flatMap_fill_literal, Slot.flatMap_fill_pieces, fill, String.toList_append]

end Template

namespace Sources

variable {m : Type → Type} [Monad m] [LawfulMonad m]

def replaced (s : Sources m) (v : Variable) : m (Variable × String) :=
  (fun text => (v, text)) <$> s.replacement v.text.toList (.internal v)

/-- Variables of slots whose replacements are not known. -/
def unknown (known : List (List Char × String)) (slots : List Slot) : List Variable :=
  (slots.map Slot.named).filter fun v => (known.lookup v.text.toList).isNone

/-- Once a variable of a slot is known, the others are as before. -/
theorem lookup_known_cons (known : List (List Char × String)) (s t : Slot) (text : String) :
    List.lookup t.named.text.toList ((s.named.text.toList, text) :: known) =
      if t.named = s.named then some text else known.lookup t.named.text.toList := by
  rw [List.lookup_cons]
  by_cases same : t.named = s.named
  · simp [same]
  · have apart : (t.named.text.toList == s.named.text.toList) = false := by
      rw [beq_eq_false_iff_ne]
      exact fun eq => same (Slot.named_eq_of_text_eq (String.toList_inj.mp eq))
    rw [apart, if_neg same]

/-- Once the variable of a slot is known, it is not among those that are left. -/
theorem unknown_known_cons (known : List (List Char × String)) (s : Slot) (text : String) (slots : List Slot) :
    unknown ((s.named.text.toList, text) :: known) slots = (unknown known slots).filter (!· == s.named) := by
  rw [unknown, unknown, List.filter_filter]
  refine List.filter_congr fun v inside => ?_
  obtain ⟨t, -, rfl⟩ := List.mem_map.mp inside
  rw [lookup_known_cons]
  by_cases same : t.named = s.named <;> simp [same]

/-- Slots are filled alike whether a variable is among those that were known or those that were just replaced. -/
theorem fill_known_cons {known : List (List Char × String)} {s : Slot}
    (met : known.lookup s.named.text.toList = none) (text : String) (texts : List (Variable × String))
    (slots : List Slot) :
    Slot.fill (fun v => ((List.lookup v.text.toList ((s.named.text.toList, text) :: known)).or
        (texts.lookup v)).getD "") slots =
      Slot.fill (fun v => ((known.lookup v.text.toList).or
        (List.lookup v ((s.named, text) :: texts))).getD "") slots := by
  refine Slot.fill_congr fun t _ => ?_
  rw [lookup_known_cons, List.lookup_cons]
  by_cases same : t.named = s.named
  · simp [same, met]
  · rw [if_neg same, beq_eq_false_iff_ne.mpr same]

/-- Variables of slots are replaced as they are met, each once. -/
theorem substitute_slots (s : Sources m) (known : List (List Char × String)) (slots : List Slot) :
    s.substitute known (Slot.pieces slots) = do
      let texts ← (unknown known slots).eraseDups.mapM s.replaced
      return (Slot.fill (fun v => ((known.lookup v.text.toList).or (texts.lookup v)).getD "") slots).toList := by
  induction slots generalizing known with
  | nil => simp [unknown, Slot.pieces, substitute, Slot.fill]
  | cons slot rest ih =>
    rw [Slot.pieces, substitute]
    cases met : known.lookup slot.named.text.toList with
    | some text =>
      have others : unknown known (slot :: rest) = unknown known rest := by simp [unknown, met]
      simp [others, substitute_literal, ih, Slot.fill, met]
    | none =>
      have first : unknown known (slot :: rest) = slot.named :: unknown known rest := by simp [unknown, met]
      rw [first, List.eraseDups_cons]
      simp only [substitute_literal, ih, unknown_known_cons, fill_known_cons met]
      simp [replaced, Slot.fill, met]

/-- A template within the bound is resolved by replacing each of its variables once, in the order in which they first
occur, and filling the places of each with what replaces it. -/
theorem resolve_text (s : Sources m) (t : Template) {bound : Nat} (within : Utf8.length t.text ≤ bound) :
    s.resolve bound t.text = do
      let texts ← t.named.eraseDups.mapM s.replaced
      return t.fill fun v => (texts.lookup v).getD "" := by
  have all : unknown [] t.slots = t.named := by simp [unknown, Template.named]
  rw [resolve, if_neg (Nat.not_lt.mpr within), t.scan_text, Template.pieces, substitute_literal, substitute_slots, all]
  simp [Template.fill]

end Sources

namespace Template

/-- The variables of a template are found at their places, and nothing else is. A template within the bound is resolved
to its literals with a text in the place of each variable: each variable is replaced once, in the order in which they
first occur, whatever is done to look it up; so where lookups answer by a function, each is replaced by what this function
makes of it. -/
theorem scan_and_resolve (t : Template) :
    Occurrence.scan t.text = t.places ∧
    (∀ {m : Type → Type} [Monad m] [LawfulMonad m] (s : Sources m) (bound : Nat), Utf8.length t.text ≤ bound →
      s.resolve bound t.text = do
        let texts ← t.named.eraseDups.mapM s.replaced
        return t.fill fun v => (texts.lookup v).getD "") ∧
    ∀ (lookup : Variable → Option TypedValue) (external : Option (ExternalReference → Option String)) (bound : Nat),
      Utf8.length t.text ≤ bound →
      ((Sources.noting lookup external).resolve bound t.text).answer () =
        t.fill fun v => (Reference.internal v).replacement lookup external v.text := by
  refine ⟨t.occurrences_text, fun s bound within => s.resolve_text t within, fun lookup external bound within => ?_⟩
  rw [Sources.gives_resolve (Sources.gives_replacement lookup external) within (), t.scan_text, t.flatMap_fill_pieces,
    String.ofList_toList]

/-- Variables side by side, one of a custom type with the front of a standard name and one of them twice, behind a
character of two bytes. -/
theorem scan_and_resolve_of_adjacent :
    let twice : Parts := ⟨"App", "1", "a", "String"⟩
    let custom : Parts := ⟨"App", "٣", "b", "TCEnhanced"⟩
    let t : Template :=
      { front := "é"
        unmarked := by decide
        slots := [
          { parts := twice, behind := "", wellFormed := by decide +kernel, unmarked := by decide, apart := by simp },
          { parts := custom, behind := ": é", wellFormed := by decide +kernel, unmarked := by decide,
            apart := by simp },
          { parts := twice, behind := "", wellFormed := by decide +kernel, unmarked := by decide, apart := by simp }] }
    let lookup := fun v : Variable =>
      if v = twice.toVariable then some (TypedValue.string "#App:٣:b!TCEnhanced") else none
    t.text = "é#App:1:a!String#App:٣:b!TCEnhanced: é#App:1:a!String" ∧ Utf8.length t.text ≤ 60 ∧
      Occurrence.scan t.text = [⟨2, 17, "#App:1:a!String", .internal twice.toVariable⟩,
        ⟨17, 37, "#App:٣:b!TCEnhanced", .internal custom.toVariable⟩,
        ⟨41, 56, "#App:1:a!String", .internal twice.toVariable⟩] ∧
      ((Sources.noting lookup none).resolve 60 t.text).answer () =
        "é#App:٣:b!TCEnhanced<null>: é#App:٣:b!TCEnhanced" ∧
      ((Sources.noting lookup none).resolve 60 t.text).calls () =
        [.internal twice.toVariable, .internal custom.toVariable] := by
  intro twice custom t lookup
  have within : Utf8.length t.text ≤ 60 := by decide +kernel
  obtain ⟨found, once, filled⟩ := t.scan_and_resolve
  refine ⟨by decide +kernel, within, found.trans (by decide +kernel), ?_, ?_⟩
  · rw [filled lookup none 60 within]
    decide +kernel
  · rw [once (Sources.noting lookup none) 60 within]
    decide +kernel

end Template

end VariableStore
