import Wallboard.Disk
import Wallboard.Proofs.Attempt

/-!
Files after one of them is written: the paths lead where they led before, the file holds what was
written, and the directories above it stand. Directories that were made need not be made again.
-/
namespace Wallboard.Disk

variable {disk after : Disk} {path : Path} {place final : List Text} {names : List Text}
  {name : Text} {content : ByteArray}

theorem write_cases (written : disk.write path content = .ok after) :
    ∃ place, disk.resolve path = .ok place ∧ disk.node? place ≠ some .directory ∧
      after = { nodes := Keyed.put place (.file content) disk.nodes } := by
  unfold write at written
  cases resolved : disk.resolve path with
  | error fault =>
      rw [resolved] at written
      cases written
  | ok place =>
      simp only [resolved, bind, Except.bind] at written
      split at written
      · cases written
      · rename_i free
        exact ⟨place, rfl, free, (Except.ok.inj written).symm⟩

theorem node?_put_self (free : disk.node? place ≠ some .directory) (node : Node) :
    node? { nodes := Keyed.put place node disk.nodes } place = some node := by
  unfold node? at free ⊢
  split at free
  · contradiction
  · rename_i inside
    rw [if_neg inside, Keyed.find?_put_self]

theorem node?_put_of_ne {other : List Text} (differ : other ≠ place) (node : Node) :
    node? { nodes := Keyed.put place node disk.nodes } other = disk.node? other := by
  unfold node?
  rw [Keyed.find?_put_of_ne differ]

theorem directory_of_put (free : disk.node? place ≠ some .directory) (node : Node)
    (other : List Text) (directory : disk.node? other = some .directory) :
    node? { nodes := Keyed.put place node disk.nodes } other = some .directory := by
  have differ : other ≠ place := by
    rintro rfl
    exact free directory
  rw [node?_put_of_ne differ, directory]

/-- A walk passes through directories only, so it goes the same way where these stay. -/
theorem walk_of_directories
    (kept : ∀ place, disk.node? place = some .directory → after.node? place = some .directory)
    (walked : disk.walk place names = .ok final) : after.walk place names = .ok final := by
  induction names generalizing place with
  | nil => exact walked
  | cons name rest ih =>
      unfold walk at walked ⊢
      split at walked
      · cases walked
      · cases walked
      · rename_i found
        rw [kept place found]
        exact ih walked

theorem walk_concat (walked : disk.walk place (names ++ [name]) = .ok final) :
    ∃ parent, disk.walk place names = .ok parent ∧ disk.node? parent = some .directory := by
  induction names generalizing place with
  | nil =>
      simp only [List.nil_append, walk] at walked
      split at walked
      · cases walked
      · cases walked
      · rename_i found
        exact ⟨place, rfl, found⟩
  | cons first rest ih =>
      rw [List.cons_append, walk] at walked
      rw [walk]
      split at walked
      · cases walked
      · cases walked
      · exact ih walked

theorem directory_of_write (written : disk.write path content = .ok after) (place : List Text)
    (found : disk.node? place = some .directory) : after.node? place = some .directory := by
  obtain ⟨target, _, free, rfl⟩ := write_cases written
  exact directory_of_put free _ place found

theorem resolve_of_write (written : disk.write path content = .ok after) {other : Path}
    (resolved : disk.resolve other = .ok place) : after.resolve other = .ok place :=
  walk_of_directories (directory_of_write written) resolved

theorem read_of_write (written : disk.write path content = .ok after) :
    after.read path = .ok content := by
  obtain ⟨place, resolved, free, same⟩ := write_cases written
  have found : after.node? place = some (.file content) := by
    rw [same]
    exact node?_put_self free _
  simp only [read, resolve_of_write written resolved, bind, Except.bind, found]

theorem parent_of_resolve (resolved : disk.resolve path = .ok place) (filled : path.names ≠ []) :
    disk.lookup? path.parent = some .directory := by
  rcases path with ⟨absolute, names⟩
  obtain ⟨above, name, rfl⟩ := (List.eq_nil_or_concat names).resolve_left filled
  rw [List.concat_eq_append] at resolved ⊢
  obtain ⟨parent, walked, found⟩ := walk_concat resolved
  have leads : disk.resolve (Path.parent ⟨absolute, above ++ [name]⟩) = .ok parent := by
    simpa [resolve, Path.parent] using walked
  simp only [lookup?, leads, found]

theorem ensureTree_of_directory (found : disk.lookup? path = some .directory) :
    disk.ensureTree path = .ok disk := by
  have known : disk.makeDirectory path = .error .alreadyExists := by
    unfold lookup? at found
    split at found
    · rename_i place resolved
      simp only [makeDirectory, resolved, bind, Except.bind, found]
    · cases found
  have directory : disk.isDirectory path = true := by
    simp only [isDirectory, found]
  have restored : (⟨path.absolute, path.names.reverse.reverse⟩ : Path) = path := by
    rw [List.reverse_reverse]
  unfold ensureTree
  cases names : path.names.reverse with
  | nil => rfl
  | cons name above =>
      rw [names] at restored
      simp only [ensureAll, restored, known, directory, if_true]

theorem ensureTree_of_write (written : disk.write path content = .ok after) :
    after.ensureTree path.parent = .ok after := by
  obtain ⟨place, resolved, _, _⟩ := write_cases written
  by_cases filled : path.names = []
  · simp [ensureTree, Path.parent, filled, ensureAll]
  · exact ensureTree_of_directory (parent_of_resolve (resolve_of_write written resolved) filled)

theorem write_of_read {found : ByteArray} (known : disk.read path = .ok found)
    (content : ByteArray) : ∃ after, disk.write path content = .ok after := by
  unfold read at known
  unfold write
  cases resolved : disk.resolve path with
  | error fault =>
      rw [resolved] at known
      cases known
  | ok place =>
      rw [resolved] at known
      simp only [bind, Except.bind] at known ⊢
      split at known
      · cases known
      · cases known
      · rename_i file
        exact ⟨_, by rw [file]⟩

theorem lookup?_of_makeDirectory (made : disk.makeDirectory path = .ok after) :
    after.lookup? path = some .directory := by
  unfold makeDirectory at made
  cases resolved : disk.resolve path with
  | error fault =>
      rw [resolved] at made
      cases made
  | ok place =>
      simp only [resolved, bind, Except.bind] at made
      split at made
      · cases made
      · rename_i free
        obtain rfl : { nodes := Keyed.put place .directory disk.nodes } = after :=
          Except.ok.inj made
        have vacant : disk.node? place ≠ some .directory := by simp [free]
        have leads : resolve { nodes := Keyed.put place .directory disk.nodes } path = .ok place :=
          walk_of_directories (directory_of_put vacant .directory) resolved
        simp only [lookup?, leads, node?_put_self vacant]

theorem lookup?_of_isDirectory (directory : disk.isDirectory path = true) :
    disk.lookup? path = some .directory := by
  unfold isDirectory at directory
  split at directory
  · assumption
  · cases directory

theorem lookup?_of_ensureDirectory (ensured : disk.ensureDirectory path = .ok after) :
    after.lookup? path = some .directory := by
  unfold ensureDirectory at ensured
  split at ensured
  · split at ensured
    · rename_i directory
      obtain rfl := Except.ok.inj ensured
      exact lookup?_of_isDirectory directory
    · cases ensured
  · exact lookup?_of_makeDirectory ensured

theorem lookup?_of_ensureTree (ensured : disk.ensureTree path = .ok after) :
    after.lookup? path = some .directory := by
  rcases path with ⟨absolute, names⟩
  unfold ensureTree at ensured
  cases reversed : names.reverse with
  | nil =>
      obtain rfl := List.reverse_eq_nil_iff.mp reversed
      cases absolute <;> rfl
  | cons name above =>
      have restored : (name :: above).reverse = names := by rw [← reversed, List.reverse_reverse]
      simp only [reversed, ensureAll, restored] at ensured
      split at ensured
      · obtain ⟨made, _, last⟩ := bind_eq_ok_iff.mp ensured
        exact lookup?_of_ensureDirectory last
      · split at ensured
        · rename_i directory
          obtain rfl := Except.ok.inj ensured
          exact lookup?_of_isDirectory directory
        · cases ensured
      · exact lookup?_of_makeDirectory ensured

theorem ensureTree_again (ensured : disk.ensureTree path = .ok after) :
    after.ensureTree path = .ok after :=
  ensureTree_of_directory (lookup?_of_ensureTree ensured)

end Wallboard.Disk
