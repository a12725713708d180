import VariableStore.Proofs.Url.Segment
/-!
A segment behind the last slash of a URL. It belongs to the last part that the URL has, be that the fragment, the query or
the path, and nothing else of the URL depends on it. So it adds neither a part nor a segment to the path.
-/
namespace VariableStore.Url

open Percent (Encoded unreserved)

/-- A URL that ends with a slash, with a segment behind the slash, where it belongs to the last part that there is. -/
def extend (segment : List Char) (u : Url) : Url :=
  match u.fragment, u.query with
  | some part, _ => { u with fragment := some (part ++ segment) }
  | none, some part => { u with query := some (part ++ segment) }
  | none, none => { u with path := u.path.extend segment }

/-! ## Cutting -/

theorem cut_of_not_mem {mark : Char} {cs : List Char} (h : mark ∉ cs) : cut mark cs = (cs, none) := by
  induction cs with
  | nil => rfl
  | cons c rest ih =>
    rw [List.mem_cons, not_or] at h
    obtain ⟨other, absent⟩ := h
    rw [cut, if_neg (Ne.symm other), ih absent]

/-- What is cut at a mark goes on behind it. -/
theorem cut_append {mark : Char} {cs : List Char} (h : mark ∈ cs) :
    ∃ front back, ∀ more, cut mark (cs ++ more) = (front, some (back ++ more)) := by
  induction cs with
  | nil => cases h
  | cons c rest ih =>
    by_cases same : c = mark
    · exact ⟨[], rest, fun more => by rw [List.cons_append, cut, if_pos same]⟩
    · obtain ⟨front, back, cuts⟩ := ih ((List.mem_cons.mp h).resolve_left (Ne.symm same))
      exact ⟨c :: front, back, fun more => by rw [List.cons_append, cut, if_neg same, cuts]⟩

/-- An encoded segment at the end of a text holds no mark to cut at. -/
theorem cut_append_encoded (mark : Char) (apart : Percent.areApart [mark] = true) (cs : List Char) :
    (∃ front back, ∀ segment, Encoded segment → cut mark (cs ++ segment) = (front, some (back ++ segment))) ∨
      ∀ segment, Encoded segment → cut mark (cs ++ segment) = (cs ++ segment, none) := by
  by_cases inside : mark ∈ cs
  · obtain ⟨front, back, cuts⟩ := cut_append inside
    exact .inl ⟨front, back, fun segment _ => cuts segment⟩
  · refine .inr fun segment encoded => cut_of_not_mem ?_
    rw [List.mem_append, not_or]
    exact ⟨inside, encoded.not_mem apart⟩

/-- Printable characters all count behind one of their kind. -/
theorem relevant_append (cs : List Char) {c : Char} (printable : 32 < c.toNat) : ∃ front, ∀ more,
    (∀ d ∈ more, 32 < d.toNat) → relevant (cs ++ c :: more) = front ++ c :: more := by
  refine ⟨(cs.dropWhile fun c => c.toNat ≤ 32).filter fun c => !(c = '\t' || c = '\n' || c = '\r'), fun more all => ?_⟩
  have all : ∀ d ∈ c :: more, 32 < d.toNat := List.forall_mem_cons.mpr ⟨printable, all⟩
  have stop : decide (c.toNat ≤ 32) = false := by simpa using printable
  have last : ((c :: more).reverse ++ (cs.dropWhile fun c => decide (c.toNat ≤ 32)).reverse).dropWhile
      (fun c => decide (c.toNat ≤ 32)) = (c :: more).reverse ++ (cs.dropWhile fun c => decide (c.toNat ≤ 32)).reverse := by
    rw [List.dropWhile_eq_self_iff]
    intro filled
    have inside := List.getElem_mem (l := (c :: more).reverse) (n := 0) (by simp)
    rw [List.getElem_append_left (by simp)]
    simpa using all _ (List.mem_reverse.mp inside)
  have kept : (c :: more).filter (fun c => !(c = '\t' || c = '\n' || c = '\r')) = c :: more := by
    refine List.filter_eq_self.mpr fun d inside => ?_
    have printable := all d inside
    have tab : d ≠ '\t' := by rintro rfl; exact absurd printable (by decide)
    have line : d ≠ '\n' := by rintro rfl; exact absurd printable (by decide)
    have feed : d ≠ '\r' := by rintro rfl; exact absurd printable (by decide)
    simp [tab, line, feed]
  unfold relevant
  simp only
  rw [dropWhile_append_mark (fun c : Char => c.toNat ≤ 32) stop, List.reverse_append, last, List.reverse_append, List.reverse_reverse,
    List.reverse_reverse, List.filter_append, kept]

/-! ## Authority and path -/

def served? (scheme : String) (isLast : Bool) (cs : List Char) : Option (Option Authority × Path) := do
  let path := cs.dropWhile fun c => !isSlash (isSpecial scheme) c
  let (a, rest) ← authority? scheme (isLast && path.isEmpty) (cs.takeWhile fun c => !isSlash (isSpecial scheme) c)
  return (some a, pathOf (isSpecial scheme) (rest ++ path))

theorem served?_append (scheme : String) (isLast : Bool) (cs : List Char) {segment : List Char}
    (encoded : Encoded segment) : served? scheme isLast (cs ++ '/' :: segment) =
      (served? scheme isLast (cs ++ ['/'])).map (Prod.map id (Path.extend segment)) := by
  have stop : (!isSlash (isSpecial scheme) '/') = false := by simp [isSlash]
  have more : ∀ front more : List Char, (isLast && (front ++ '/' :: more).isEmpty) = false := by simp
  unfold served?
  simp only [takeWhile_append_mark (fun c => !isSlash (isSpecial scheme) c) stop,
    dropWhile_append_mark (fun c => !isSlash (isSpecial scheme) c) stop, more]
  cases authority? scheme false (cs.takeWhile fun c => !isSlash (isSpecial scheme) c) with
  | none => rfl
  | some found =>
    obtain ⟨a, rest⟩ := found
    simp only [Option.bind_eq_bind, Option.bind_some, ← List.append_assoc, pathOf_append _ _ encoded]
    rfl

def unusual? (scheme : String) (isLast : Bool) (cs : List Char) : Option (Option Authority × Path) :=
  match cs with
  | '/' :: '/' :: rest => served? scheme isLast rest
  | '/' :: rest => some (none, pathOf false ('/' :: rest))
  | _ => some (none, .flat (escape [] cs))

theorem unusual?_cons (scheme : String) (isLast : Bool) (a b : Char) (rest : List Char) :
    unusual? scheme isLast (a :: b :: rest) =
      if a = '/' then if b = '/' then served? scheme isLast rest else some (none, pathOf false ('/' :: b :: rest))
      else some (none, .flat (escape [] (a :: b :: rest))) := by
  by_cases slash : a = '/'
  · subst slash
    by_cases second : b = '/'
    · subst second
      rfl
    · rw [if_pos rfl, if_neg second, unusual?.eq_2 _ _ _ (by simp [second])]
  · rw [if_neg slash, unusual?.eq_3 _ _ _ (by simp [slash]) (by simp [slash])]

theorem unusual?_append (scheme : String) (isLast : Bool) (cs : List Char) {c : Char} (other : c ≠ '/')
    {segment : List Char} (encoded : Encoded segment) : unusual? scheme isLast (cs ++ c :: '/' :: segment) =
      (unusual? scheme isLast (cs ++ [c, '/'])).map (Prod.map id (Path.extend segment)) := by
  have flat : ∀ front : List Char, (some (none, .flat (escape [] (front ++ '/' :: segment))) :
      Option (Option Authority × Path)) =
      (some (none, Path.flat (escape [] (front ++ ['/'])))).map (Prod.map id (Path.extend segment)) := by
    intro front
    have whole : front ++ '/' :: segment = front ++ ['/'] ++ segment := by simp
    rw [whole, escape_append, escape_of_encoded rfl encoded]
    rfl
  have path : ∀ front : List Char, (some (none, pathOf false (front ++ '/' :: segment)) :
      Option (Option Authority × Path)) =
      (some (none, pathOf false (front ++ ['/']))).map (Prod.map id (Path.extend segment)) := by
    intro front
    rw [pathOf_append false front encoded]
    rfl
  match cs with
  | [] =>
    simp only [List.nil_append, unusual?_cons, if_neg other]
    exact flat [c]
  | [a] =>
    simp only [List.singleton_append, unusual?_cons, if_neg other]
    split
    · exact path ['/', c]
    · exact flat [a, c]
  | a :: b :: rest =>
    simp only [List.cons_append, unusual?_cons]
    split
    · split
      · rw [append_cons_slash, append_cons_slash]
        exact served?_append scheme isLast _ encoded
      · simpa only [append_cons_slash, List.cons_append] using path ('/' :: b :: (rest ++ [c]))
    · simpa only [append_cons_slash, List.cons_append] using flat (a :: b :: (rest ++ [c]))

theorem body?_eq (scheme : String) (isLast : Bool) (cs : List Char) : body? scheme isLast cs =
    if scheme = "file" then (file? cs).map (Prod.map some id)
    else if isSpecial scheme then served? scheme isLast (cs.dropWhile (isSlash true))
    else unusual? scheme isLast cs := by
  unfold body? unusual? served?
  split
  · rfl
  · cases isSpecial scheme <;> rfl

theorem body?_append (scheme : String) (isLast : Bool) (cs : List Char) {c : Char} (other : isSlash true c = false)
    {segment : List Char} (encoded : Encoded segment) : body? scheme isLast (cs ++ c :: '/' :: segment) =
      (body? scheme isLast (cs ++ [c, '/'])).map (Prod.map id (Path.extend segment)) := by
  have slash : c ≠ '/' := by
    rintro rfl
    cases other
  rw [body?_eq, body?_eq]
  split
  · rw [file?_append cs other encoded, Option.map_map, Option.map_map]
    rfl
  split
  · rw [dropWhile_append_mark (isSlash true) other, dropWhile_append_mark (isSlash true) other, append_cons_slash,
      append_cons_slash]
    exact served?_append scheme isLast _ encoded
  · exact unusual?_append scheme isLast cs slash encoded

/-! ## The whole URL -/

/-- Reads a URL of which query and fragment are cut off. -/
def ofParts? (cs : List Char) (query fragment : Option (List Char)) : Option Url :=
  (scheme? (cut ':' cs).1).bind fun scheme => (cut ':' cs).2.bind fun back =>
    (body? scheme (query.isNone && fragment.isNone) back).map fun found =>
      ⟨scheme.toList, found.1, found.2, query.map (escape (if isSpecial scheme then specialQuerySet else querySet)),
        fragment.map (escape fragmentSet)⟩

theorem ofChars?_eq (cs : List Char) : ofChars? cs = ofParts? (cut '?' (cut '#' (relevant cs)).1).1
    (cut '?' (cut '#' (relevant cs)).1).2 (cut '#' (relevant cs)).2 := by
  unfold ofChars? ofParts?
  simp only
  cases scheme? (cut ':' (cut '?' (cut '#' (relevant cs)).1).1).1 with
  | none => rfl
  | some scheme =>
    cases (cut ':' (cut '?' (cut '#' (relevant cs)).1).1).2 with
    | none => rfl
    | some back =>
      simp only [Option.bind_eq_bind, Option.bind_some]
      cases body? scheme _ back <;> rfl

theorem ofParts?_fragment (cs : List Char) (query : Option (List Char)) (part : List Char) {segment : List Char}
    (encoded : Encoded segment) :
    ofParts? cs query (some (part ++ segment)) = (ofParts? cs query (some part)).map (extend segment) := by
  have kept : escape fragmentSet segment = segment := escape_of_encoded (by decide) encoded
  unfold ofParts?
  simp only [Option.map_bind, Function.comp_def, Option.map_map, Option.map_some, escape_append, kept]
  rfl

theorem ofParts?_query (cs part : List Char) {segment : List Char} (encoded : Encoded segment) :
    ofParts? cs (some (part ++ segment)) none = (ofParts? cs (some part) none).map (extend segment) := by
  have kept : ∀ scheme, escape (if isSpecial scheme then specialQuerySet else querySet) segment = segment := by
    intro scheme
    split
    · exact escape_of_encoded (by decide) encoded
    · exact escape_of_encoded (by decide) encoded
  unfold ofParts?
  simp only [Option.map_bind, Function.comp_def, Option.map_map, Option.map_some, escape_append, kept]
  rfl

theorem ofParts?_path (cs : List Char) {c : Char} (other : isSlash true c = false) (colon : c ≠ ':') {segment : List Char}
    (encoded : Encoded segment) :
    ofParts? (cs ++ c :: '/' :: segment) none none = (ofParts? (cs ++ [c, '/']) none none).map (extend segment) := by
  unfold ofParts?
  by_cases named : ':' ∈ cs
  · obtain ⟨name, back, cuts⟩ := cut_append named
    simp only [cuts, Option.bind_some, Option.map_bind, Function.comp_def, Option.map_map,
      body?_append _ _ back other encoded]
    rfl
  -- Without a colon there is no scheme.
  · have absent : ∀ {more : List Char}, Encoded more → ':' ∉ cs ++ c :: '/' :: more := by
      intro more encoded
      have free : ':' ∉ more := encoded.not_mem (by decide)
      simp [named, Ne.symm colon, free]
    simp [cut_of_not_mem (absent encoded), cut_of_not_mem (absent .nil)]

/-- Behind a slash and a character that stands for itself, a segment is the end of the last part of a URL, and the URL is
the same elsewhere. -/
theorem ofChars?_append (cs : List Char) {c : Char} (known : c ∈ unreserved) {segment : List Char}
    (encoded : Encoded segment) :
    ofChars? (cs ++ c :: '/' :: segment) = (ofChars? (cs ++ [c, '/'])).map (extend segment) := by
  have alone : Encoded [c] := .plain known .nil
  have colon : c ≠ ':' := by
    rintro rfl
    exact absurd known (by decide)
  obtain ⟨printable, -, -, slash⟩ := isPlain_iff.mp (plain_of_encoded alone c (List.mem_singleton_self c))
  have other : isSlash true c = false := by simp [isSlash, slash]
  obtain ⟨front, kept⟩ := relevant_append cs printable
  have counted : ∀ {more : List Char}, Encoded more → relevant (cs ++ c :: '/' :: more) = front ++ [c, '/'] ++ more := by
    intro more encoded
    have all : ∀ d ∈ more, 32 < d.toNat := fun d inside => (isPlain_iff.mp (plain_of_encoded encoded d inside)).1
    rw [kept _ (List.forall_mem_cons.mpr ⟨by decide, all⟩), List.append_assoc]
    rfl
  rw [ofChars?_eq, ofChars?_eq, counted encoded, counted .nil]
  rcases cut_append_encoded '#' (by decide) (front ++ [c, '/']) with ⟨before, behind, cuts⟩ | cuts
  · rw [cuts segment encoded, cuts [] .nil, List.append_nil]
    exact ofParts?_fragment _ _ behind encoded
  rw [cuts segment encoded, cuts [] .nil]
  dsimp only
  rcases cut_append_encoded '?' (by decide) (front ++ [c, '/']) with ⟨before, behind, cuts⟩ | cuts
  · rw [cuts segment encoded, cuts [] .nil, List.append_nil]
    exact ofParts?_query before behind encoded
  · rw [cuts segment encoded, cuts [] .nil, List.append_nil, List.append_assoc]
    exact ofParts?_path front other colon encoded

/-- A URL of a special scheme, and not of a file, has a path of segments. -/
theorem ofChars?_segments {cs : List Char} {u : Url} (read : ofChars? cs = some u)
    (special : isSpecial (String.ofList u.scheme) = true) (other : u.scheme ≠ "file".toList) :
    ∃ parts, u.path = .segments parts := by
  rw [ofChars?_eq, ofParts?] at read
  simp only [Option.bind_eq_some_iff, Option.map_eq_some_iff] at read
  obtain ⟨scheme, -, back, -, found, read, rfl⟩ := read
  have other : scheme ≠ "file" := fun same => other (congrArg String.toList same)
  rw [body?_eq, if_neg other, if_pos (by simpa using special), served?] at read
  simp only [Option.bind_eq_bind, Option.bind_eq_some_iff] at read
  obtain ⟨who, -, made⟩ := read
  obtain rfl := Option.some.inj made
  show ∃ parts, pathOf _ _ = .segments parts
  unfold pathOf
  split <;> exact ⟨_, rfl⟩

/-! ## What a segment adds -/

/-- How many segments a path has. In a text without structure, its slashes are counted. -/
def Path.depth : Path → Nat
  | .segments parts => parts.length
  | .flat text => text.count '/'

/-- A URL has no more parts than another: both have the scheme and the authority in common, and both or neither a query
and a fragment, and the path of the first has no more segments. -/
structure Within (u w : Url) : Prop where
  scheme : u.scheme = w.scheme
  authority : u.authority = w.authority
  path : u.path.depth ≤ w.path.depth
  query : u.query.isSome = w.query.isSome
  fragment : u.fragment.isSome = w.fragment.isSome

theorem length_leave_le (dirs : List (List Char)) : (leave dirs).length ≤ dirs.length := by
  unfold leave
  split
  · exact le_refl _
  · simp

theorem length_settle_le (dirs : List (List Char)) (segment : List Char) :
    (settle dirs segment).length ≤ dirs.length + 1 := by
  unfold settle
  split
  · simpa using length_leave_le dirs
  split
  · simp
  · simp

theorem depth_extend_le {path : Path} {segment : List Char} (encoded : Encoded segment) (ends : path.extend [] = path) :
    (path.extend segment).depth ≤ path.depth := by
  cases path with
  | segments parts =>
    have same : parts.dropLast ++ [[]] = parts := Path.segments.inj ends
    have filled : parts.dropLast.length + 1 = parts.length := by
      simpa using congrArg List.length same
    exact (length_settle_le parts.dropLast segment).trans_eq filled
  | flat text =>
    have none : segment.count '/' = 0 := List.count_eq_zero.mpr (encoded.not_mem (by decide))
    simp [Path.extend, Path.depth, none]

/-- A URL that ends with a slash gets no more parts by a segment behind the slash. -/
theorem within_extend {u : Url} {segment : List Char} (encoded : Encoded segment) (ends : u.extend [] = u) :
    Within (u.extend segment) u := by
  obtain ⟨scheme, authority, path, query, fragment⟩ := u
  rcases fragment with _ | part
  · rcases query with _ | part
    · exact ⟨rfl, rfl, depth_extend_le encoded (congrArg Url.path ends), rfl, rfl⟩
    · exact ⟨rfl, rfl, le_refl _, rfl, rfl⟩
  · exact ⟨rfl, rfl, le_refl _, rfl, rfl⟩

end VariableStore.Url
