import DeviceTwin.Proofs.Encoding.Percent
import DeviceTwin.Proofs.Text.Split
import DeviceTwin.Url.Path
import Mathlib.Data.List.Forall2

/-!
Segments that are added to a path. A written path falls into its segments again, and an ordinary segment is found there
as it was given (`pushSegment_of_ordinary`). Dots, and tabs or line ends, which are dropped, make segments that are not
ordinary: those are lost, take another segment with them, or stand for another text. Either way the path that results
does not end with what was added (`appendSegments_iff`).
-/
namespace DeviceTwin.Url
open DeviceTwin.Text

variable {special file : Bool} {segments base : Segments} {segment part : List Char}

/-! ### Written paths -/

/-- The bytes that a segment stands for. -/
def decoded (segment : List Char) : List UInt8 :=
  Percent.decode (segment.flatMap utf8)

/-- What stands between the slashes of a path, decoded. -/
def decodedParts (path : List Char) : List (List UInt8) :=
  ((pieces (fun c => c = '/') path).drop 1).map decoded

/-- No segment holds a slash. -/
def NoSlash (segments : Segments) : Prop :=
  ∀ segment ∈ segments, '/' ∉ segment

theorem pieces_append_writePath (free : '/' ∉ part) (noSlash : NoSlash segments) :
    pieces (fun c => c = '/') (part ++ writePath segments) = part :: segments := by
  induction segments generalizing part with
  | nil =>
    rw [writePath, List.flatMap_nil, List.append_nil]
    exact pieces_of_free fun c member => by simpa using fun same : c = '/' => free (same ▸ member)
  | cons segment segments ih =>
    obtain ⟨here, later⟩ := List.forall_mem_cons.mp noSlash
    rw [writePath, List.flatMap_cons, List.cons_append, ← writePath, pieces_append _ (by simp), ih here later]
    exact fun c member => by simpa using fun same : c = '/' => free (same ▸ member)

/-- The parts of a written path are its segments. -/
theorem decodedParts_writePath (noSlash : NoSlash segments) :
    decodedParts (writePath segments) = segments.map decoded := by
  rw [decodedParts, ← List.nil_append (writePath segments), pieces_append_writePath (by simp) noSlash]
  rfl

/-! ### Dots -/

theorem decode_of_dropDot {l rest : List Char} (dot : dropDot l = some rest) (tail : List UInt8) :
    Percent.decode (l.flatMap utf8 ++ tail) = 0x2E :: Percent.decode (rest.flatMap utf8 ++ tail) := by
  unfold dropDot at dot
  split at dot
  · cases dot
    exact Percent.decode_cons (by decide) _
  · cases dot
    rfl
  · cases dot
    rfl
  · cases dot

theorem decoded_of_isDot (dot : isDot segment = true) : decoded segment = [0x2E] := by
  have one : dropDot segment = some [] := by simpa [isDot] using dot
  have bytes := decode_of_dropDot one []
  rwa [List.append_nil] at bytes

theorem decoded_of_isDoubleDot (dots : isDoubleDot segment = true) : decoded segment = [0x2E, 0x2E] := by
  have two : (dropDot segment).bind dropDot = some [] := by simpa [isDoubleDot] using dots
  obtain ⟨rest, first, second⟩ := Option.bind_eq_some_iff.mp two
  have bytes := decode_of_dropDot first []
  rw [decode_of_dropDot second, List.append_nil] at bytes
  exact bytes

/-! ### Ordinary segments -/

/-- A segment that is not one or two dots and holds no tabs and line ends. -/
structure IsOrdinary (segment : List Char) : Prop where
  notDot : segment ≠ ['.']
  notDots : segment ≠ ['.', '.']
  kept : ∀ c ∈ segment, isSkipped c = false

instance : DecidablePred IsOrdinary := fun segment =>
  decidable_of_iff (segment ≠ ['.'] ∧ segment ≠ ['.', '.'] ∧ segment.all fun c => !isSkipped c)
    ⟨fun ⟨notDot, notDots, kept⟩ => ⟨notDot, notDots, by simpa using kept⟩,
      fun ⟨notDot, notDots, kept⟩ => ⟨notDot, notDots, by simpa using kept⟩⟩

/-- A segment as it is added to a path. -/
def encodeSegment (special : Bool) (segment : List Char) : List Char :=
  Percent.encode (encodedInSegment special) segment

theorem decoded_encodeSegment (special : Bool) (segment : List Char) :
    decoded (encodeSegment special segment) = segment.flatMap utf8 :=
  Percent.decode_encode (by cases special <;> decide) segment

theorem encodeSegment_injective (special : Bool) : Function.Injective (encodeSegment special) := by
  intro segment segment' same
  have bytes := congrArg decoded same
  rw [decoded_encodeSegment, decoded_encodeSegment] at bytes
  exact flatMap_utf8_injective bytes

theorem slash_not_mem_encodeSegment (special : Bool) (segment : List Char) : '/' ∉ encodeSegment special segment :=
  Percent.slash_not_mem_encode fun _ => by cases special <;> decide

/-- The segments that another one is added to: a path that is a slash has none. -/
def parents (segments : Segments) : Segments :=
  if segments = [[]] then [] else segments

/-- A file's path does not begin with an empty segment. -/
def IsTrimmed (file : Bool) (segments : Segments) : Prop :=
  file = true → segments.head? ≠ some []

theorem isTrimmed_false (segments : Segments) : IsTrimmed false segments :=
  fun file => absurd file Bool.false_ne_true

theorem trimFile_of_isTrimmed (trimmed : IsTrimmed file segments) (some_ : segments ≠ []) :
    trimFile file segments = segments := by
  cases file with
  | false => rfl
  | true =>
    cases segments with
    | nil => exact absurd rfl some_
    | cons segment segments =>
      have there : segment.isEmpty = false := by simpa using trimmed rfl
      simp [trimFile, there]

theorem eq_of_isDot (dot : isDot (encodeSegment special segment) = true) : segment = ['.'] := by
  have bytes := decoded_of_isDot dot
  rw [decoded_encodeSegment] at bytes
  exact flatMap_utf8_injective bytes

theorem eq_of_isDoubleDot (dots : isDoubleDot (encodeSegment special segment) = true) : segment = ['.', '.'] := by
  have bytes := decoded_of_isDoubleDot dots
  rw [decoded_encodeSegment] at bytes
  exact flatMap_utf8_injective bytes

/-- What a segment without dots in its encoded form becomes. -/
theorem followLast_of_noDots (noDot : isDot segment = false) (noDots : isDoubleDot segment = false)
    (noDrive : file = true → segments = [] → isDriveLetter segment = false) :
    followLast file segments segment = segments ++ [segment] := by
  have noDrive : (file && segments.isEmpty && isDriveLetter segment) = false := by
    cases file with
    | false => rfl
    | true => cases segments <;> simp [noDrive]
  simp [followLast, follow, noDot, noDots, noDrive]

/-- The text of a segment that is encoded. -/
def keptOf (segment : List Char) : List Char :=
  segment.filter fun c => !isSkipped c

theorem pushSegment_eq (notDot : segment ≠ ['.']) (notDots : segment ≠ ['.', '.']) :
    pushSegment special file segments segment =
      trimFile file (followLast file (parents segments) (encodeSegment special (keptOf segment))) :=
  if_neg (by simp [notDot, notDots])

/-- An ordinary segment is found at the end of the path. -/
theorem pushSegment_of_ordinary (ordinary : IsOrdinary segment)
    (trimmed : IsTrimmed file (parents segments ++ [encodeSegment special segment]))
    (noDrive : file = true → parents segments = [] → isDriveLetter (encodeSegment special segment) = false) :
    pushSegment special file segments segment = parents segments ++ [encodeSegment special segment] := by
  have kept : keptOf segment = segment :=
    List.filter_eq_self.mpr fun c member => by simp [ordinary.kept c member]
  have noDot : isDot (encodeSegment special segment) = false :=
    Bool.eq_false_iff.mpr fun dot => ordinary.notDot (eq_of_isDot dot)
  have noDots : isDoubleDot (encodeSegment special segment) = false :=
    Bool.eq_false_iff.mpr fun dots => ordinary.notDots (eq_of_isDoubleDot dots)
  rw [pushSegment_eq ordinary.notDot ordinary.notDots, kept, followLast_of_noDots noDot noDots noDrive,
    trimFile_of_isTrimmed trimmed (by simp)]

/-! ### Any segments -/

/-- How many segments a path has, not counting the empty one of a path that is a slash. -/
def weight (segments : Segments) : Nat :=
  (parents segments).length

theorem weight_le (segments : Segments) : weight segments ≤ segments.length := by
  rw [weight, parents]
  split <;> simp

theorem weight_trimFile (file : Bool) (segments : Segments) : weight (trimFile file segments) ≤ weight segments := by
  by_cases slash : segments = [[]]
  · subst slash
    cases file <;> exact Nat.le_refl _
  · have length : weight segments = segments.length := by rw [weight, parents, if_neg slash]
    rw [length]
    cases file with
    | false => exact weight_le segments
    | true =>
      rw [trimFile, if_pos rfl]
      split
      · exact Nat.zero_le _
      · exact (weight_le _).trans (List.dropWhile_suffix _).length_le

/-- Going back stays in front of a drive letter, and takes a segment away otherwise. -/
theorem goBack_cases (some_ : segments ≠ []) :
    goBack segments = segments ∨ (goBack segments).length + 1 = segments.length := by
  have positive := List.length_pos_iff.mpr some_
  unfold goBack
  split
  · split
    · exact .inl rfl
    · refine .inr ?_
      rw [List.length_dropLast]
      omega
  · rename_i nothing
    exact absurd (List.getLast?_eq_none_iff.mp nothing) some_

theorem length_goBack (segments : Segments) : (goBack segments).length ≤ segments.length := by
  unfold goBack
  split
  · split <;> simp
  · simp

theorem length_followLast (file : Bool) (segments : Segments) (segment : List Char) :
    (followLast file segments segment).length ≤ segments.length + 1 := by
  have back := length_goBack segments
  unfold followLast follow
  cases isDoubleDot segment <;> cases isDot segment <;> simp
  · split <;> simp
  · omega
  · omega

/-- A path grows by at most one segment. -/
theorem weight_pushSegment (special file : Bool) (segments : Segments) (segment : List Char) :
    weight (pushSegment special file segments segment) ≤ weight segments + 1 := by
  unfold pushSegment
  split
  · omega
  · exact (weight_trimFile _ _).trans ((weight_le _).trans (length_followLast _ _ _))

theorem IsTrimmed.append (trimmed : IsTrimmed file segments) (some_ : segments ≠ []) (more : Segments) :
    IsTrimmed file (segments ++ more) := by
  intro isFile
  rw [List.head?_append_of_ne_nil _ some_]
  exact trimmed isFile

/-- What stands in a path for a segment, and for its text only if the segment is an ordinary one. -/
def StandsFor (last segment : List Char) : Prop :=
  decoded last = segment.flatMap utf8 → IsOrdinary segment

/-- If a path that is more than a slash grows, it grows at its end; and what stands there is the segment only if that
    is an ordinary one. -/
theorem pushSegment_grows (some_ : segments ≠ []) (noSlash : segments ≠ [[]]) (trimmed : IsTrimmed file segments)
    (grows : weight (pushSegment special file segments segment) = weight segments + 1) :
    ∃ last, pushSegment special file segments segment = segments ++ [last] ∧ StandsFor last segment := by
  have parents_ : parents segments = segments := if_neg noSlash
  have notDot : segment ≠ ['.'] := by
    rintro rfl
    rw [pushSegment, if_pos (by simp)] at grows
    omega
  have notDots : segment ≠ ['.', '.'] := by
    rintro rfl
    rw [pushSegment, if_pos (by simp)] at grows
    omega
  have empty : StandsFor [] segment := by
    intro bytes
    obtain rfl : [] = segment := flatMap_utf8_injective bytes
    exact ⟨notDot, notDots, nofun⟩
  have trims (last : List Char) : trimFile file (segments ++ [last]) = segments ++ [last] :=
    trimFile_of_isTrimmed (trimmed.append some_ [last]) (by simp)
  rw [pushSegment_eq notDot notDots, parents_] at grows ⊢
  cases dots : isDoubleDot (encodeSegment special (keptOf segment)) with
  | true =>
    have follows : followLast file segments (encodeSegment special (keptOf segment)) = goBack segments ++ [[]] := by
      simp [followLast, follow, dots]
    rw [follows] at grows ⊢
    rcases goBack_cases some_ with same | shorter
    · rw [same, trims]
      exact ⟨[], rfl, empty⟩
    · have light := (weight_trimFile file (goBack segments ++ [[]])).trans (weight_le _)
      rw [grows, List.length_append, List.length_singleton, shorter, weight, parents_] at light
      omega
  | false =>
    cases dot : isDot (encodeSegment special (keptOf segment)) with
    | true =>
      have follows : followLast file segments (encodeSegment special (keptOf segment)) = segments ++ [[]] := by
        simp [followLast, follow, dots, dot]
      rw [follows, trims]
      exact ⟨[], rfl, empty⟩
    | false =>
      rw [followLast_of_noDots dot dots fun _ nothing => absurd nothing some_, trims]
      refine ⟨_, rfl, fun bytes => ⟨notDot, notDots, ?_⟩⟩
      rw [decoded_encodeSegment] at bytes
      have same := flatMap_utf8_injective bytes
      intro c member
      rw [← same] at member
      simpa using (List.mem_filter.mp member).2

/-! ### Several segments -/

theorem weight_foldl_pushSegment (special file : Bool) (segments : Segments) (more : List (List Char)) :
    weight (more.foldl (pushSegment special file) segments) ≤ weight segments + more.length := by
  induction more generalizing segments with
  | nil => exact Nat.le_refl _
  | cons segment more ih =>
    have step := weight_pushSegment special file segments segment
    have rest := ih (pushSegment special file segments segment)
    rw [List.foldl_cons, List.length_cons]
    omega

theorem append_ne_slash (some_ : segments ≠ []) (last : List Char) : segments ++ [last] ≠ [[]] := by
  intro slash
  have length := congrArg List.length slash
  have positive := List.length_pos_iff.mpr some_
  simp only [List.length_append, List.length_singleton] at length
  omega

/-- If a path grows by all segments that are added to it, each of them has its place. -/
theorem foldl_pushSegment_grows (some_ : segments ≠ []) (noSlash : segments ≠ [[]]) (trimmed : IsTrimmed file segments)
    {more : List (List Char)}
    (grows : weight (more.foldl (pushSegment special file) segments) = weight segments + more.length) :
    ∃ added, more.foldl (pushSegment special file) segments = segments ++ added ∧
      List.Forall₂ StandsFor added more := by
  induction more generalizing segments with
  | nil => exact ⟨[], (List.append_nil _).symm, .nil⟩
  | cons segment more ih =>
    have step := weight_pushSegment special file segments segment
    have rest := weight_foldl_pushSegment special file (pushSegment special file segments segment) more
    rw [List.foldl_cons, List.length_cons] at grows
    have growth : weight (pushSegment special file segments segment) = weight segments + 1 := by omega
    obtain ⟨last, pushed, ordinary⟩ := pushSegment_grows some_ noSlash trimmed growth
    rw [List.foldl_cons]
    rw [pushed] at grows rest step ⊢
    obtain ⟨added, all, others⟩ :=
      ih (by simp) (append_ne_slash some_ last) (trimmed.append some_ [last]) (by omega)
    exact ⟨last :: added, by rw [all, List.append_assoc, List.singleton_append], .cons ordinary others⟩

/-- A path that is as long as the segments added to it demand has grown by all of them. -/
theorem foldl_pushSegment_length (some_ : segments ≠ []) (noSlash : segments ≠ [[]]) (trimmed : IsTrimmed file segments)
    {more : List (List Char)}
    (long : segments.length + more.length ≤ (more.foldl (pushSegment special file) segments).length) :
    ∃ added, more.foldl (pushSegment special file) segments = segments ++ added ∧
      List.Forall₂ StandsFor added more := by
  have most := weight_foldl_pushSegment special file segments more
  have before : weight segments = segments.length := by rw [weight, parents, if_neg noSlash]
  have noSlash' : more.foldl (pushSegment special file) segments ≠ [[]] := by
    intro slash
    have positive := List.length_pos_iff.mpr some_
    rw [slash, List.length_singleton] at long
    obtain rfl : more = [] := List.length_eq_zero_iff.mp (by omega)
    exact noSlash slash
  have after : weight (more.foldl (pushSegment special file) segments) =
      (more.foldl (pushSegment special file) segments).length := by rw [weight, parents, if_neg noSlash']
  exact foldl_pushSegment_grows some_ noSlash trimmed (by omega)

theorem isOrdinary_of_grown {added more : List (List Char)} (grown : List.Forall₂ StandsFor added more)
    (same : added.map decoded = more.map (List.flatMap utf8)) : ∀ segment ∈ more, IsOrdinary segment := by
  induction grown with
  | nil => nofun
  | cons ordinary others ih =>
    rw [List.map_cons, List.map_cons, List.cons.injEq] at same
    exact List.forall_mem_cons.mpr ⟨ordinary same.1, ih same.2⟩

/-- Ordinary segments are all found at the end of the path. -/
theorem foldl_pushSegment_ordinary (some_ : segments ≠ []) (noSlash : segments ≠ [[]]) (trimmed : IsTrimmed file segments)
    {more : List (List Char)} (ordinary : ∀ segment ∈ more, IsOrdinary segment) :
    more.foldl (pushSegment special file) segments = segments ++ more.map (encodeSegment special) := by
  induction more generalizing segments with
  | nil => exact (List.append_nil _).symm
  | cons segment more ih =>
    rw [List.forall_mem_cons] at ordinary
    have parents_ : parents segments = segments := if_neg noSlash
    have trimmed' := trimmed.append some_ [encodeSegment special segment]
    have pushed := pushSegment_of_ordinary ordinary.1 (parents_.symm ▸ trimmed')
      fun _ nothing => absurd (parents_ ▸ nothing) some_
    rw [List.foldl_cons, pushed, parents_, ih (by simp) (append_ne_slash some_ _) trimmed' ordinary.2, List.map_cons,
      List.append_assoc, List.singleton_append]

/-! ### Slashes -/

theorem noSlash_goBack (noSlash : NoSlash segments) : NoSlash (goBack segments) := by
  unfold goBack
  split
  · split
    · exact noSlash
    · exact fun s member => noSlash s (List.mem_of_mem_dropLast member)
  · nofun

theorem NoSlash.append_singleton (noSlash : NoSlash segments) (free : '/' ∉ segment) : NoSlash (segments ++ [segment]) := by
  intro s member
  rcases List.mem_append.mp member with before | last
  · exact noSlash s before
  · rwa [List.mem_singleton.mp last]

theorem noSlash_follow (file : Bool) (noSlash : NoSlash segments) (free : '/' ∉ segment) :
    NoSlash (follow file segments segment) := by
  unfold follow
  split_ifs
  · exact noSlash_goBack noSlash
  · exact noSlash
  · have drive : '/' ∉ segment.take 1 ++ [':'] := by
      simpa using fun member => free (List.mem_of_mem_take member)
    simpa [NoSlash] using drive
  · exact noSlash.append_singleton free

theorem noSlash_followLast (file : Bool) (noSlash : NoSlash segments) (free : '/' ∉ segment) :
    NoSlash (followLast file segments segment) := by
  have follows := noSlash_follow file noSlash free
  unfold followLast
  split
  · exact follows.append_singleton (by simp)
  · exact follows

theorem noSlash_trimFile (file : Bool) (noSlash : NoSlash segments) : NoSlash (trimFile file segments) := by
  unfold trimFile
  split
  · split
    · simp [NoSlash]
    · rename_i rest
      exact fun s member => noSlash s ((List.dropWhile_suffix _).subset member)
  · exact noSlash

theorem noSlash_parents (noSlash : NoSlash segments) : NoSlash (parents segments) := by
  unfold parents
  split
  · nofun
  · exact noSlash

theorem noSlash_pushSegment (special file : Bool) (noSlash : NoSlash segments) (segment : List Char) :
    NoSlash (pushSegment special file segments segment) := by
  unfold pushSegment
  split
  · exact noSlash
  · exact noSlash_trimFile file (noSlash_followLast file (noSlash_parents noSlash) (slash_not_mem_encodeSegment special _))

theorem noSlash_popEmpty (noSlash : NoSlash segments) : NoSlash (popEmpty segments) := by
  unfold popEmpty
  split
  · exact fun s member => noSlash s (List.mem_of_mem_dropLast member)
  · exact noSlash

theorem noSlash_foldl_pushSegment (special file : Bool) (noSlash : NoSlash segments) (more : List (List Char)) :
    NoSlash (more.foldl (pushSegment special file) segments) := by
  induction more generalizing segments with
  | nil => exact noSlash
  | cons segment more ih => exact ih (noSlash_pushSegment special file noSlash segment)

theorem noSlash_appendSegments (special file : Bool) (noSlash : NoSlash segments) (more : List (List Char)) :
    NoSlash (appendSegments special file segments more) :=
  noSlash_foldl_pushSegment special file (noSlash_popEmpty noSlash) more

/-! ### Paths of entities -/

/-- A path without an empty segment at its end. -/
def withoutFinalSlash (segments : Segments) : Segments :=
  if segments.getLast? = some [] then segments.dropLast else segments

/-- A segment that no dots and no drive letter are taken for, wherever it stands. -/
structure IsLeading (segment : List Char) : Prop where
  ordinary : IsOrdinary segment
  there : ∀ special, encodeSegment special segment ≠ []
  noDrive : ∀ special, isDriveLetter (encodeSegment special segment) = false

/-- Where segments are added to a path, it ends without an empty segment, and two slashes count as one. -/
theorem parents_popEmpty (base : Segments) :
    parents (popEmpty base) = if base = [[], []] then [] else withoutFinalSlash base := by
  by_cases long : 1 < base.length
  · by_cases last : base.getLast? = some []
    · have popped : popEmpty base = base.dropLast := if_pos (by simp [long, last])
      have slashes : base.dropLast = [[]] ↔ base = [[], []] := by
        constructor
        · intro front
          rw [← List.dropLast_append_getLast? [] last, front]
          rfl
        · rintro rfl
          rfl
      simp only [popped, parents, slashes, withoutFinalSlash, last, if_true]
    · have popped : popEmpty base = base := if_neg (by simp [last])
      have noSlash : base ≠ [[]] := by rintro rfl; simp at long
      have noSlashes : base ≠ [[], []] := by rintro rfl; simp at last
      rw [popped, parents, if_neg noSlash, if_neg noSlashes, withoutFinalSlash, if_neg last]
  · match base, long with
    | [], _ => rfl
    | [segment], _ =>
      cases segment with
      | nil => rfl
      | cons c segment => simp [popEmpty, parents, withoutFinalSlash]
    | _ :: _ :: _, short => exact absurd (by simp) short

theorem length_parents_popEmpty (base : Segments) :
    (parents (popEmpty base)).length ≤ (withoutFinalSlash base).length := by
  rw [parents_popEmpty]
  split <;> simp

theorem withoutFinalSlash_prefix (base : Segments) : withoutFinalSlash base <+: base := by
  unfold withoutFinalSlash
  split
  · exact List.dropLast_prefix base
  · exact List.prefix_refl base

theorem isTrimmed_popEmpty (trimmed : IsTrimmed file (parents base)) (leading : IsLeading segment) (special : Bool) :
    IsTrimmed file (parents (popEmpty base) ++ [encodeSegment special segment]) := by
  cases front : parents (popEmpty base) with
  | nil =>
    intro _ nothing
    exact leading.there special (by simpa using nothing)
  | cons s rest =>
    have noSlashes : base ≠ [[], []] := by
      rintro rfl
      cases front
    have noSlash : base ≠ [[]] := by
      rintro rfl
      cases front
    rw [parents_popEmpty, if_neg noSlashes] at front
    obtain ⟨behind, same⟩ := withoutFinalSlash_prefix base
    rw [front] at same
    rw [parents, if_neg noSlash, ← same] at trimmed
    exact trimmed

section Append
variable (trimmed : IsTrimmed file (parents base)) (leading : IsLeading segment) (special : Bool)
  {more : List (List Char)}
include trimmed leading

theorem appendSegments_cons (more : List (List Char)) :
    appendSegments special file base (segment :: more) =
      more.foldl (pushSegment special file) (parents (popEmpty base) ++ [encodeSegment special segment]) := by
  have first : pushSegment special file (popEmpty base) segment =
      parents (popEmpty base) ++ [encodeSegment special segment] :=
    pushSegment_of_ordinary leading.ordinary (isTrimmed_popEmpty trimmed leading special)
      fun _ _ => leading.noDrive special
  rw [appendSegments, List.foldl_cons, first]

omit trimmed in
theorem parents_append_ne_slash (segments : Segments) : parents segments ++ [encodeSegment special segment] ≠ [[]] := by
  intro slash
  rcases List.append_eq_singleton_iff.mp slash with ⟨_, nothing⟩ | ⟨_, nothing⟩
  · exact leading.there special (by simpa using nothing)
  · cases nothing

/-- Ordinary segments are added as they are, behind one that leads. -/
theorem appendSegments_ordinary (ordinary : ∀ s ∈ more, IsOrdinary s) :
    appendSegments special file base (segment :: more) =
      parents (popEmpty base) ++ (segment :: more).map (encodeSegment special) := by
  rw [appendSegments_cons trimmed leading, foldl_pushSegment_ordinary (by simp)
    (parents_append_ne_slash leading special _) (isTrimmed_popEmpty trimmed leading special) ordinary, List.map_cons,
    List.append_assoc, List.singleton_append]

/-- A path ends with the segments that are added to it exactly if all of them are ordinary, and unless the path before
    them is two slashes. -/
theorem appendSegments_iff (more : List (List Char)) :
    (appendSegments special file base (segment :: more)).map decoded =
        (withoutFinalSlash base).map decoded ++ (segment :: more).map (List.flatMap utf8) ↔
      (∀ s ∈ more, IsOrdinary s) ∧ base ≠ [[], []] := by
  constructor
  · intro same
    -- As many segments as were asked for are there only if the path has grown by each of them.
    rw [appendSegments_cons trimmed leading] at same
    have length := congrArg List.length same
    simp only [List.length_map, List.length_append, List.length_cons] at length
    have shorter := length_parents_popEmpty base
    have long : (parents (popEmpty base) ++ [encodeSegment special segment]).length + more.length ≤
        (more.foldl (pushSegment special file)
          (parents (popEmpty base) ++ [encodeSegment special segment])).length := by
      rw [length, List.length_append, List.length_singleton]
      omega
    obtain ⟨added, all, grown⟩ := foldl_pushSegment_length (by simp) (parents_append_ne_slash leading special _)
      (isTrimmed_popEmpty trimmed leading special) long
    rw [all] at same length
    have as_many := grown.length_eq
    have noSlashes : base ≠ [[], []] := by
      -- Two slashes would be counted as one, so that a segment would be missing.
      rintro rfl
      have none_ : (parents (popEmpty [[], []])).length = 0 := rfl
      have one : (withoutFinalSlash [[], []]).length = 1 := rfl
      simp only [List.length_append, List.length_singleton] at length
      omega
    rw [parents_popEmpty, if_neg noSlashes] at same
    refine ⟨isOrdinary_of_grown grown ?_, noSlashes⟩
    simpa [decoded_encodeSegment] using same
  · rintro ⟨ordinary, noSlashes⟩
    rw [appendSegments_ordinary trimmed leading special ordinary, parents_popEmpty, if_neg noSlashes]
    simp [decoded_encodeSegment]

end Append

end DeviceTwin.Url
