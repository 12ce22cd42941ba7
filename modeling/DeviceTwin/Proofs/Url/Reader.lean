import DeviceTwin.Proofs.Url.Path
import DeviceTwin.Url.Reader

/-!
Paths of addresses that are read. Slashes only stand between segments, and a file's path does not begin with an empty
one, unless it is a slash.
-/
namespace DeviceTwin.Url
open DeviceTwin.Text

variable {file : Bool} {segments : Segments} {scheme l : List Char} {last : Bool}

/-- A path as addresses have it. -/
def IsRead (file : Bool) : Path → Prop
  | .rooted segments => NoSlash segments ∧ IsTrimmed file (parents segments)
  | .rootless _ => True

theorem noSlash_followAll (file : Bool) (noSlash : NoSlash segments) {more : List (List Char)} (free : NoSlash more) :
    NoSlash (followAll file segments more) := by
  induction more generalizing segments with
  | nil => exact noSlash
  | cons segment more ih =>
    obtain ⟨here, later⟩ := List.forall_mem_cons.mp free
    cases more with
    | nil => exact noSlash_followLast file noSlash here
    | cons next more => exact ih (noSlash_follow file noSlash here) later

theorem noSlash_readPath (special file : Bool) (l : List Char) : NoSlash (readPath special file l) := by
  have empty : NoSlash [] := nofun
  refine noSlash_followAll file empty fun segment member => ?_
  obtain ⟨part, inside, rfl⟩ := List.mem_map.mp member
  refine Percent.slash_not_mem_encode fun slash => ?_
  have kept := of_mem_pieces inside _ slash
  simp at kept

theorem isTrimmed_trimFile (segments : Segments) : IsTrimmed true (parents (trimFile true segments)) := by
  intro _
  rw [trimFile, if_pos rfl]
  split
  · simp [parents]
  · rename_i rest
    have there := List.head?_dropWhile_not List.isEmpty segments
    unfold parents
    split
    · simp
    · intro nothing
      simp [nothing] at there

theorem isRead_of_readFile {authority : Option Authority} {path : Path} (reading : readFile l = .ok (authority, path)) :
    IsRead true path := by
  have file (text : List Char) : IsRead true (.rooted (trimFile true (readPath true true text))) :=
    ⟨noSlash_trimFile true (noSlash_readPath true true text), isTrimmed_trimFile _⟩
  unfold readFile at reading
  dsimp only at reading
  split at reading
  · split at reading
    · split at reading
      · cases reading
        exact file _
      · split at reading
        · cases reading
          exact file _
        · cases reading
    · cases reading
      exact file _
  · cases reading
    exact file _
  · cases reading
    exact file _

theorem isRead_pathBehind (special : Bool) (l : List Char) : IsRead false (pathBehind special l) := by
  cases l with
  | nil => exact ⟨by cases special <;> simp [NoSlash], isTrimmed_false _⟩
  | cons c rest => exact ⟨noSlash_readPath _ _ _, isTrimmed_false _⟩

theorem isRead_of_readBehindSlashes {authority : Option Authority} {path : Path}
    (reading : readBehindSlashes scheme last l = .ok (authority, path)) : IsRead false path := by
  simp only [readBehindSlashes, bind, Except.bind, pure, Except.pure] at reading
  split at reading
  · cases reading
  · cases reading
    exact isRead_pathBehind _ _

theorem isRead_of_readBody {authority : Option Authority} {path : Path}
    (reading : readBody scheme last l = .ok (authority, path)) : IsRead (isFile scheme) path := by
  unfold readBody at reading
  split at reading
  · rename_i isFile
    rw [isFile]
    exact isRead_of_readFile reading
  · rename_i noFile
    rw [Bool.not_eq_true _ |>.mp noFile]
    split at reading
    · exact isRead_of_readBehindSlashes reading
    · split at reading
      · exact isRead_of_readBehindSlashes reading
      · cases reading
        exact ⟨noSlash_readPath _ _ _, isTrimmed_false _⟩
      · cases reading
        exact trivial

theorem isRead_of_read {s : String} {u : Url} (reading : Url.read s = .ok u) : IsRead (isFile u.scheme) u.path := by
  unfold Url.read at reading
  split at reading
  · cases reading
  · rename_i scheme rest _
    simp only [bind, Except.bind, pure, Except.pure] at reading
    split at reading
    · cases reading
    · rename_i body
      cases reading
      exact isRead_of_readBody body

end DeviceTwin.Url
