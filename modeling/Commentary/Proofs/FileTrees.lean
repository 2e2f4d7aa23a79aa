import Commentary.FileTree
import Mathlib.Logic.Function.Iterate

/-!
# What changes in a file tree

Putting an entry to a place changes that place only. Making directories keeps everything that is
there and adds directories at places that the path or a path above it leads to. A walk that has
reached a place still reaches it in a tree that has kept its directories.
-/

namespace Commentary.FileTree

variable {tree mid after : FileTree} {place other : Place} {entry : Entry} {t : Text} {path : Path}

/-! ## Single entries -/

/-- Leaving out the entries of one place keeps those of another. -/
theorem lookup_filter_ne (entries : List (Place × Entry)) (h : other ≠ place) :
    (entries.filter (·.1 != place)).lookup other = entries.lookup other := by
  induction entries with
  | nil => rfl
  | cons e entries ih =>
    obtain ⟨p, entry⟩ := e
    by_cases hp : p = place
    · have hother : (other == p) = false := by simpa [hp] using h
      rw [List.filter_cons_of_neg (by simp [hp]), ih, List.lookup_cons, hother]
    · rw [List.filter_cons_of_pos (by simpa using hp), List.lookup_cons, List.lookup_cons, ih]

/-- An entry that is put at one place leaves another as it is. -/
theorem get?_put_of_ne (tree : FileTree) (entry : Entry) (h : other ≠ place) :
    (tree.put place entry).get? other = tree.get? other := by
  have hne : (other == place) = false := by simpa using h
  rw [get?, get?, put, List.lookup_cons, hne, lookup_filter_ne tree.entries h]

/-- A place that holds no directory lies below the working directory or beside it. -/
theorem isOuter_eq_false (h : tree.get? place ≠ some .directory) : isOuter place = false := by
  by_contra houter
  exact h (if_pos (by simpa using houter))

/-- An entry that replaces no directory stands at its place, and every other place is as before. -/
theorem get?_put (h : tree.get? place ≠ some .directory) (entry : Entry) :
    (tree.put place entry).get? other = if other = place then some entry else tree.get? other := by
  split
  · next heq => rw [heq, get?_put_self tree entry (isOuter_eq_false h)]
  · next hne => exact get?_put_of_ne tree entry hne

/-! ## Walks -/

/-- `after` has every directory of `tree`. -/
def KeepsDirectories (tree after : FileTree) : Prop :=
  ∀ place, tree.get? place = some .directory → after.get? place = some .directory

/-- Only a directory can be entered. -/
theorem exists_directory_of_enter {part : Text} (h : tree.enter place part = .ok other) :
    tree.get? place = some .directory := by
  rw [enter] at h
  split at h
  · exact absurd h (by simp)
  · exact absurd h (by simp)
  · assumption

/-- A walk asks of each place on its way only that it holds a directory. -/
theorem KeepsDirectories.walk (hkeeps : KeepsDirectories tree after) {parts : List Text}
    (h : tree.walk place parts = .ok other) : after.walk place parts = .ok other := by
  induction parts generalizing place with
  | nil => exact h
  | cons part parts ih =>
    rw [FileTree.walk] at h ⊢
    cases henter : tree.enter place part with
    | error e => exact absurd h (by simp [henter])
    | ok next =>
      have hdirectory := exists_directory_of_enter henter
      have hsame : after.enter place part = .ok next := by
        rw [← henter, enter, enter, hdirectory, hkeeps place hdirectory]
      rw [henter] at h
      rw [hsame]
      exact ih h

/-- A path leads to the same place as long as directories are kept. -/
theorem KeepsDirectories.locate (hkeeps : KeepsDirectories tree after)
    (h : tree.locate t = .ok place) : after.locate t = .ok place := by
  rw [FileTree.locate] at h ⊢
  cases hrefusal : refusal? t with
  | some e => exact absurd h (by simp [hrefusal])
  | none =>
    rw [hrefusal] at h
    exact hkeeps.walk h

/-- An entry that replaces no directory keeps all directories. -/
theorem keepsDirectories_put (h : tree.get? place ≠ some .directory) (entry : Entry) :
    KeepsDirectories tree (tree.put place entry) := by
  intro other hother
  have hne : other ≠ place := by
    rintro rfl
    exact h hother
  rw [get?_put_of_ne tree entry hne, hother]

/-- A file can be read where its path leads to. -/
theorem read_eq_ok_iff (h : tree.locate t = .ok place) {content : Bytes} :
    tree.read t = .ok content ↔ tree.get? place = some (.file content) := by
  rw [read, lookup, h]
  dsimp only
  cases tree.get? place with
  | none => simp
  | some entry => cases entry <;> simp

/-- A path that can be written to leads to a place without a directory. -/
theorem locate_of_writable (h : tree.writable t = .ok place) :
    tree.locate t = .ok place ∧ tree.get? place ≠ some .directory := by
  rw [writable] at h
  split at h
  · cases hparent : tree.locateParent t <;> simp [hparent] at h
  · cases hlocate : tree.locate t with
    | error e => simp [hlocate] at h
    | ok found =>
      rw [hlocate] at h
      dsimp only at h
      split at h
      · exact absurd h (by simp)
      · next hfree =>
        obtain rfl := Except.ok.inj h
        exact ⟨rfl, hfree⟩

/-! ## Making directories -/

/-- `after` has everything that `tree` has, and otherwise only directories at places that `path` or
a path above it leads to. -/
def MadeAlong (path : Path) (tree after : FileTree) : Prop :=
  ∀ place, after.get? place = tree.get? place ∨
    tree.get? place = none ∧ after.get? place = some .directory ∧
      ∃ n, after.locate (Path.parent^[n] path).toText = .ok place

/-- Where no directory is made, none is made off the path. -/
theorem MadeAlong.refl (path : Path) (tree : FileTree) : MadeAlong path tree tree :=
  fun _ => .inl rfl

/-- Making directories keeps every entry. -/
theorem MadeAlong.get?_eq (h : MadeAlong path tree after) (hplace : tree.get? place = some entry) :
    after.get? place = some entry := by
  rcases h place with heq | ⟨hnone, -⟩
  · rw [heq, hplace]
  · exact absurd (hplace.symm.trans hnone) (by simp)

/-- Making directories keeps the others. -/
theorem MadeAlong.keepsDirectories (h : MadeAlong path tree after) : KeepsDirectories tree after :=
  fun _ => h.get?_eq

/-- A file is there after directories have been made if it was there before. -/
theorem MadeAlong.get?_file_iff (h : MadeAlong path tree after) {content : Bytes} :
    after.get? place = some (.file content) ↔ tree.get? place = some (.file content) := by
  refine ⟨fun hfile => ?_, h.get?_eq⟩
  rcases h place with heq | ⟨-, hdirectory, -⟩
  · rw [← heq, hfile]
  · exact absurd (hfile.symm.trans hdirectory) (by simp)

/-- What is made along the parent of a path is made along the path. -/
theorem MadeAlong.of_parent (h : MadeAlong path.parent tree after) : MadeAlong path tree after := by
  intro place
  apply (h place).imp_right
  rintro ⟨hnone, hdirectory, n, hlocate⟩
  exact ⟨hnone, hdirectory, n + 1, hlocate⟩

/-- Directories may be made along a path one after another. -/
theorem MadeAlong.trans (h : MadeAlong path tree mid) (h' : MadeAlong path mid after) :
    MadeAlong path tree after := by
  intro place
  rcases h place with hsame | ⟨hnone, hdirectory, n, hlocate⟩
  · rw [← hsame]
    exact h' place
  · exact .inr ⟨hnone, h'.get?_eq hdirectory, n, h'.keepsDirectories.locate hlocate⟩

/-- A directory is made at a free place. -/
theorem madeAlong_of_makeDirectory (h : tree.makeDirectory path.toText = .ok after) :
    MadeAlong path tree after := by
  rw [makeDirectory] at h
  cases hlocate : tree.locate path.toText with
  | error e => simp [hlocate] at h
  | ok place =>
    rw [hlocate] at h
    cases hget : tree.get? place with
    | some entry => simp [hget] at h
    | none =>
      obtain rfl : tree.put place .directory = after := by simpa [hget] using h
      have hfree : tree.get? place ≠ some .directory := by simp [hget]
      intro other
      rw [get?_put hfree]
      split
      · next heq =>
        subst heq
        exact .inr ⟨hget, rfl, 0, (keepsDirectories_put hfree _).locate hlocate⟩
      · exact .inl rfl

/-- To make a directory, or to keep it, makes none off its path. -/
theorem madeAlong_makeOrKeep (tree : FileTree) (path : Path) :
    MadeAlong path tree (tree.makeOrKeep path).1 := by
  rw [makeOrKeep]
  cases hmake : tree.makeDirectory path.toText with
  | error e => exact .refl path tree
  | ok made => exact madeAlong_of_makeDirectory hmake

/-- Going up makes directories along the way, whether or not the last one can be made. -/
theorem madeAlong_makeUpTo (tree : FileTree) (path : Path) (names : Nat) :
    MadeAlong path tree (tree.makeUpTo path names).1 := by
  induction names generalizing path with
  | zero => exact madeAlong_makeOrKeep tree path
  | succ names ih =>
    rw [makeUpTo]
    split
    · have habove := (ih path.parent).of_parent
      split
      · next made hmade =>
        rw [hmade] at habove
        exact habove.trans (madeAlong_makeOrKeep made path)
      · exact habove
    · exact madeAlong_makeOrKeep tree path

/-- To make a directory with its parents makes none off its path. -/
theorem madeAlong_makeDirectories (tree : FileTree) (path : Path) :
    MadeAlong path tree (tree.makeDirectories path).1 :=
  madeAlong_makeUpTo tree path path.parts.length

end Commentary.FileTree
