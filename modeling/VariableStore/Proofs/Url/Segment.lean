import VariableStore.Proofs.List
import VariableStore.Proofs.Text
import VariableStore.Url.Basic
/-!
The last segment of a path. Where a text ends with a slash, an encoded segment may be put behind the slash: it becomes the
last segment of the path as it is, unless it stands for a directory, and the directories in front do not depend on it.
-/
namespace VariableStore.Url

open Percent (Encoded unreserved)

/-- A character that a path leaves as it is and that ends no part of a URL. -/
def isPlain (c : Char) : Bool := 32 < c.toNat && c.toNat < 127 && !pathSet.contains c && c ≠ '/' && c ≠ '\\'

/-- A segment of plain characters that stands for itself and not for a directory. -/
structure Ordinary (segment : List Char) : Prop where
  plain : ∀ c ∈ segment, isPlain c = true
  above : isAbove segment = false
  here : isHere segment = false

theorem isPlain_iff {c : Char} : isPlain c = true ↔
    32 < c.toNat ∧ c.toNat < 127 ∧ c ∉ pathSet ∧ c ≠ '/' ∧ c ≠ '\\' := by
  simp [isPlain, and_assoc]

theorem plain_of_encoded {segment : List Char} (encoded : Encoded segment) : ∀ c ∈ segment, isPlain c = true := by
  have all : ('%' :: unreserved).all isPlain = true := by decide
  exact fun c inside => List.all_eq_true.mp all c (encoded.mem c inside)

/-! ## Cutting at marks -/

/-- A character in front of a slash ends what the slash ends. -/
theorem append_cons_slash (front : List Char) (c : Char) (more : List Char) :
    front ++ c :: '/' :: more = (front ++ [c]) ++ '/' :: more :=
  List.append_cons front c ('/' :: more)

theorem splitSlashes_ne_nil (special : Bool) (cs : List Char) : splitSlashes special cs ≠ [] := by
  cases cs with
  | nil => exact List.cons_ne_nil _ _
  | cons c rest =>
    unfold splitSlashes
    split
    · exact List.cons_ne_nil _ _
    · split <;> exact List.cons_ne_nil _ _

theorem splitSlashes_append (special : Bool) (cs more : List Char) :
    splitSlashes special (cs ++ '/' :: more) = splitSlashes special cs ++ splitSlashes special more := by
  induction cs with
  | nil => rfl
  | cons c rest ih =>
    rw [List.cons_append, splitSlashes, splitSlashes, ih]
    split
    · rfl
    · cases split : splitSlashes special rest with
      | nil => exact absurd split (splitSlashes_ne_nil special rest)
      | cons part parts => rfl

theorem splitSlashes_of_plain (special : Bool) {segment : List Char} (plain : ∀ c ∈ segment, isPlain c = true) :
    splitSlashes special segment = [segment] := by
  induction segment with
  | nil => rfl
  | cons c rest ih =>
    obtain ⟨head, tail⟩ := List.forall_mem_cons.mp plain
    have inside : isSlash special c = false := by simp [isSlash, (isPlain_iff.mp head).2.2.2]
    rw [splitSlashes, inside, ih tail]
    rfl

/-! ## Escapes -/

theorem escape_append (set front back : List Char) : escape set (front ++ back) = escape set front ++ escape set back :=
  List.flatMap_append

theorem escape_eq_self {set cs : List Char} (free : ∀ c ∈ cs, 32 ≤ c.toNat ∧ c.toNat < 127 ∧ c ∉ set) :
    escape set cs = cs := by
  induction cs with
  | nil => rfl
  | cons c rest ih =>
    obtain ⟨⟨above, below, other⟩, tail⟩ := List.forall_mem_cons.mp free
    have step : escape set (c :: rest) = [c] ++ escape set rest := by
      rw [escape, List.flatMap_cons, if_neg (by simp [other]; omega), ← escape]
    rw [step, ih tail, List.singleton_append]

/-- What is encoded is not escaped again, whatever part of a URL it belongs to. -/
theorem escape_of_encoded {set segment : List Char} (apart : Percent.areApart set = true) (encoded : Encoded segment) :
    escape set segment = segment := by
  refine escape_eq_self fun c inside => ?_
  obtain ⟨above, below, -⟩ := isPlain_iff.mp (plain_of_encoded encoded c inside)
  exact ⟨by omega, below, encoded.apart apart c inside⟩

/-! ## Paths -/

/-- The directories of a path with a segment behind them, which may itself stand for a directory. -/
def settle (dirs : List (List Char)) (segment : List Char) : List (List Char) :=
  if isAbove segment then leave dirs ++ [[]] else if isHere segment then dirs ++ [[]] else dirs ++ [segment]

/-- A path that ends with a slash, with a segment behind the slash. -/
def Path.extend (segment : List Char) : Path → Path
  | .segments parts => .segments (settle parts.dropLast segment)
  | .flat text => .flat (text ++ segment)

@[simp] theorem settle_nil (dirs : List (List Char)) : settle dirs [] = dirs ++ [[]] := rfl

theorem settle_of_ordinary (dirs : List (List Char)) {segment : List Char} (ordinary : Ordinary segment) :
    settle dirs segment = dirs ++ [segment] := by
  rw [settle, ordinary.above, ordinary.here]
  rfl

@[simp] theorem extend_append_nil (dirs : List (List Char)) (segment : List Char) :
    (Path.segments (dirs ++ [[]])).extend segment = .segments (settle dirs segment) := by
  simp [Path.extend]

theorem isDrive_of_encoded {segment : List Char} (encoded : Encoded segment) : isDrive segment = false := by
  have colon : ':' ∉ segment := encoded.not_mem (by decide)
  have bar : '|' ∉ segment := encoded.not_mem (by decide)
  unfold isDrive
  split
  · simp only [List.mem_cons, List.not_mem_nil, or_false, not_or] at colon bar
    simp [Ne.symm colon.2, Ne.symm bar.2]
  · rfl

theorem enter_of_encoded (file : Bool) (done : List (List Char)) {segment : List Char} (encoded : Encoded segment) :
    enter file done segment = done ++ [segment] := by
  have same : escape pathSet segment = segment := escape_of_encoded (by decide) encoded
  unfold enter
  split
  · rw [isDrive_of_encoded encoded, Bool.and_false, if_neg Bool.false_ne_true, same]
  · rw [same]

/-- The directories of a path do not depend on the segment behind them. -/
theorem walk_append (file : Bool) (done parts : List (List Char)) : ∃ dirs, ∀ segment, Encoded segment →
    walk file done (parts ++ [segment]) = settle dirs segment := by
  induction parts generalizing done with
  | nil =>
    refine ⟨done, fun segment encoded => ?_⟩
    rw [List.nil_append, walk, enter_of_encoded file done encoded, settle]
  | cons part rest ih =>
    have step : ∀ segment, walk file done (part :: rest ++ [segment]) =
        walk file (if isAbove part then leave done else if isHere part then done else enter file done part)
          (rest ++ [segment]) := by
      intro segment
      rw [List.cons_append, walk.eq_3 _ _ _ _ (by simp)]
      split
      · rfl
      · split <;> rfl
    obtain ⟨dirs, walked⟩ := ih (if isAbove part then leave done else if isHere part then done else enter file done part)
    exact ⟨dirs, fun segment encoded => (step segment).trans (walked segment encoded)⟩

/-- Parts that are split off the front of a text, with a segment behind them. -/
theorem walk_splitSlashes (file special : Bool) (cs : List Char) : ∃ dirs, ∀ segment, Encoded segment →
    walk file [] (splitSlashes special (cs ++ '/' :: segment)) = settle dirs segment := by
  obtain ⟨dirs, walked⟩ := walk_append file [] (splitSlashes special cs)
  refine ⟨dirs, fun segment encoded => ?_⟩
  rw [splitSlashes_append, splitSlashes_of_plain special (plain_of_encoded encoded), walked segment encoded]

theorem walk_alone (file special : Bool) {segment : List Char} (encoded : Encoded segment) :
    walk file [] (splitSlashes special segment) = settle [] segment := by
  rw [splitSlashes_of_plain special (plain_of_encoded encoded), walk, enter_of_encoded file [] encoded, settle]

theorem pathOf_append (special : Bool) (cs : List Char) {segment : List Char} (encoded : Encoded segment) :
    pathOf special (cs ++ '/' :: segment) = (pathOf special (cs ++ ['/'])).extend segment := by
  obtain ⟨dirs, paths⟩ : ∃ dirs, ∀ more, Encoded more →
      pathOf special (cs ++ '/' :: more) = .segments (settle dirs more) := by
    cases cs with
    | nil =>
      have slash : isSlash special '/' = true := by simp [isSlash]
      refine ⟨[], fun more encoded => ?_⟩
      rw [List.nil_append, pathOf, slash, if_pos rfl, walk_alone false special encoded]
    | cons c rest =>
      obtain ⟨dirs, walked⟩ := walk_splitSlashes false special (if isSlash special c then rest else c :: rest)
      refine ⟨dirs, fun more encoded => ?_⟩
      have split : (if isSlash special c then rest ++ '/' :: more else c :: (rest ++ '/' :: more)) =
          (if isSlash special c then rest else c :: rest) ++ '/' :: more := by
        split <;> rfl
      rw [List.cons_append, pathOf, split, walked more encoded]
  rw [paths segment encoded, paths [] .nil, settle_nil, extend_append_nil]

/-! ## Paths of files -/

theorem leave_singleton (dir : List Char) :
    leave [dir] = if isDrive (dir.takeWhile (· ≠ '\\')) = true then [dir] else [] := rfl

theorem leave_cons (dir : List Char) {dirs : List (List Char)} (filled : dirs ≠ []) :
    leave (dir :: dirs) = dir :: leave dirs := by
  obtain ⟨next, rest, rfl⟩ := List.exists_cons_of_ne_nil filled
  rw [leave, leave, List.getLast?_cons_cons, List.dropLast_cons_cons]
  split <;> rfl

theorem isDrive_takeWhile {dir : List Char} (drive : isDrive dir = true) :
    isDrive (dir.takeWhile (· ≠ '\\')) = true := by
  match dir, drive with
  | [letter, mark], drive =>
    have other : letter ≠ '\\' ∧ mark ≠ '\\' := by
      constructor <;> rintro rfl <;> simp [isDrive] at drive
    simpa [other] using drive

/-- A drive that a path begins with is not left. -/
theorem head?_leave (dirs : List (List Char)) :
    (leave dirs ++ [[]]).head?.any isDrive = (dirs ++ [[]]).head?.any isDrive := by
  match dirs with
  | [] => rfl
  | [dir] =>
    rw [leave_singleton]
    split
    · rfl
    · next gone =>
      have other : isDrive dir = false := Bool.eq_false_iff.mpr fun drive => gone (isDrive_takeWhile drive)
      exact other.symm
  | dir :: next :: rest =>
    rw [leave_cons dir (List.cons_ne_nil next rest)]
    rfl

/-- Whether a path begins with a drive does not depend on the segment at its end. -/
theorem head?_settle (dirs : List (List Char)) {segment : List Char} (encoded : Encoded segment) :
    (settle dirs segment).head?.any isDrive = (dirs ++ [[]]).head?.any isDrive := by
  unfold settle
  split
  · exact head?_leave dirs
  split
  · rfl
  · cases dirs with
    | nil => exact isDrive_of_encoded encoded
    | cons dir rest => rfl

theorem dropWhile_leave (dirs : List (List Char)) :
    (leave dirs).dropWhile List.isEmpty = leave (dirs.dropWhile List.isEmpty) := by
  induction dirs with
  | nil => rfl
  | cons dir rest ih =>
    rcases eq_or_ne rest [] with rfl | filled
    · cases dir with
      | nil => rfl
      | cons c more =>
        have stays : [c :: more].dropWhile List.isEmpty = [c :: more] := rfl
        rw [stays, leave_singleton]
        split <;> rfl
    · rw [leave_cons dir filled]
      cases dir with
      | nil => exact ih
      | cons c more => exact (leave_cons (c :: more) filled).symm

theorem filePath_append (dirs : List (List Char)) (last : List Char) :
    filePath (dirs ++ [last]) = .segments (dirs.dropWhile List.isEmpty ++ [last]) := by
  unfold filePath
  rw [List.dropWhile_append]
  by_cases empty : (dirs.dropWhile List.isEmpty).isEmpty = true
  · rw [if_pos empty, List.isEmpty_iff.mp empty]
    cases last <;> rfl
  · rw [if_neg empty]
    simp

theorem filePath_settle (dirs : List (List Char)) (segment : List Char) :
    filePath (settle dirs segment) = (filePath (dirs ++ [[]])).extend segment := by
  rw [filePath_append, extend_append_nil]
  unfold settle
  split
  · rw [filePath_append, dropWhile_leave]
  split
  · exact filePath_append dirs []
  · exact filePath_append dirs segment

def filed (host : List Char) (segments : List (List Char)) : Authority × Path :=
  (⟨[], [], host, none⟩, filePath segments)

theorem filed_append (host cs : List Char) {segment : List Char} (encoded : Encoded segment) :
    filed host (fileSegments (cs ++ '/' :: segment)) =
      (filed host (fileSegments (cs ++ ['/']))).map id (Path.extend segment) := by
  obtain ⟨dirs, walked⟩ := walk_splitSlashes true true cs
  rw [fileSegments, fileSegments, walked segment encoded, walked [] .nil, settle_nil]
  exact congrArg (Prod.mk _) (filePath_settle dirs segment)

/-- The path of a file behind its host, which is left out in front of a drive. -/
def filedBehind (host behind : List Char) : Authority × Path :=
  if host.isEmpty || host = "localhost".toList then filed [] (fileSegments behind)
  else filed (if (fileSegments (behind.drop 1)).head?.any isDrive then [] else host) (fileSegments (behind.drop 1))

theorem filedBehind_append (host cs : List Char) {segment : List Char} (encoded : Encoded segment) :
    filedBehind host (cs ++ '/' :: segment) = (filedBehind host (cs ++ ['/'])).map id (Path.extend segment) := by
  unfold filedBehind
  split
  · exact filed_append [] cs encoded
  · obtain ⟨dirs, walked⟩ : ∃ dirs, ∀ more, Encoded more →
        fileSegments ((cs ++ '/' :: more).drop 1) = settle dirs more := by
      cases cs with
      | nil => exact ⟨[], fun more encoded => walk_alone true true encoded⟩
      | cons c rest => exact walk_splitSlashes true true rest
    rw [walked segment encoded, walked [] .nil, head?_settle dirs encoded, settle_nil]
    exact congrArg (Prod.mk _) (filePath_settle dirs segment)

def filedServed? (cs : List Char) : Option (Authority × Path) :=
  let host := cs.takeWhile fun c => !isSlash true c
  if isDrive host then some (filed [] (fileSegments cs))
  else (if host.isEmpty then some [] else Host.special? host).map fun host =>
    filedBehind host (cs.dropWhile fun c => !isSlash true c)

theorem filedServed?_append (cs : List Char) {segment : List Char} (encoded : Encoded segment) :
    filedServed? (cs ++ '/' :: segment) = (filedServed? (cs ++ ['/'])).map (Prod.map id (Path.extend segment)) := by
  have stop : (!isSlash true '/') = false := by decide
  unfold filedServed?
  simp only [takeWhile_append_mark (fun c => !isSlash true c) stop, dropWhile_append_mark (fun c => !isSlash true c) stop]
  split
  · exact congrArg some (filed_append [] cs encoded)
  · rw [Option.map_map]
    congr 1
    funext host
    exact filedBehind_append host _ encoded

theorem file?_cons (a b : Char) (rest : List Char) : file? (a :: b :: rest) =
    if isSlash true a && isSlash true b then filedServed? rest
    else some (filed [] (fileSegments (if isSlash true a then b :: rest else a :: b :: rest))) := by
  unfold file? filedServed? filedBehind
  simp only
  split
  · split
    · rfl
    split
    · simp only [Option.bind_eq_bind, Option.bind_some, Option.map_some]
      rfl
    · cases Host.special? (rest.takeWhile fun c => !isSlash true c) with
      | none => rfl
      | some host =>
        simp only [Option.bind_eq_bind, Option.bind_some, Option.map_some]
        split <;> rfl
  · rfl

theorem file?_append (cs : List Char) {c : Char} (other : isSlash true c = false) {segment : List Char}
    (encoded : Encoded segment) :
    file? (cs ++ c :: '/' :: segment) = (file? (cs ++ [c, '/'])).map (Prod.map id (Path.extend segment)) := by
  -- Without the mark of an authority all of the text is a path, but for one slash in front.
  have unserved : ∀ (first : Char) (front : List Char),
      some (filed [] (fileSegments (if isSlash true first then front ++ '/' :: segment
        else first :: (front ++ '/' :: segment)))) =
      (some (filed [] (fileSegments (if isSlash true first then front ++ ['/'] else first :: (front ++ ['/']))))).map
        (Prod.map id (Path.extend segment)) := by
    intro first front
    split
    · exact congrArg some (filed_append [] front encoded)
    · exact congrArg some (filed_append [] (first :: front) encoded)
  match cs with
  | [] =>
    have first := unserved c []
    rw [other] at first
    simpa only [List.nil_append, file?_cons, other, Bool.false_and, Bool.false_eq_true, if_false] using first
  | [a] =>
    simpa only [List.singleton_append, file?_cons, other, Bool.and_false, Bool.false_eq_true, if_false] using
      unserved a [c]
  | a :: b :: rest =>
    simp only [List.cons_append, file?_cons]
    split
    · rw [append_cons_slash, append_cons_slash]
      exact filedServed?_append _ encoded
    · simpa only [append_cons_slash, List.cons_append] using unserved a (b :: (rest ++ [c]))

end VariableStore.Url
