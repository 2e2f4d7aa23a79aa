import Commentary.Proofs.FileTrees
import Commentary.Proofs.Paths
import Commentary.Storage

/-!
# What a write changes

A write makes the missing directories, opens the file and then encodes the text. Whatever fails
before the file is opened leaves every file as it is. An encoding that is not known or that cannot
write the text is only noticed afterwards: the file is then left empty, and if it had a content,
that is lost.
-/

namespace Commentary

open FileTree

/-- The errors that are only noticed once a file has been opened. -/
def Error.isCoding : Error → Bool
  | .unencodable _ | .unknownEncoding _ | .binaryEncoding _ => true
  | _ => false

/-- How a write to a path can end in a tree that has the directories on the way. -/
inductive WriteEnds (made : FileTree) (path text encoding : Text) :
    FileTree × Except Error Unit → Prop where
  | unopened {e : Error} : e.isCoding = false → WriteEnds made path text encoding (made, .error e)
  | emptied {place : Place} {e : Error} : made.writable path = .ok place → e.isCoding = true →
      WriteEnds made path text encoding (made.put place (.file []), .error e)
  | written {place : Place} {enc : Encoding} {content : Bytes} : made.writable path = .ok place →
      encodingOf encoding = .ok enc → enc.encode text = .ok content →
      WriteEnds made path text encoding (made.put place (.file content), .ok ())

/-- A name that no encoding of texts has is an error of coding. -/
theorem isCoding_of_encodingOf {name : Text} {e : Error} (h : encodingOf name = .error e) :
    e.isCoding = true := by
  rw [encodingOf] at h
  split at h
  · exact absurd h (by simp)
  · obtain rfl := Except.error.inj h
    split <;> rfl

/-- A text is written in full, or its file stays as it was, or the file is left empty. -/
theorem writeEnds_writeText (tree : FileTree) (path text encoding : Text) :
    WriteEnds (tree.makeDirectories (Path.ofText path).parent).1 path text encoding
      (writeText tree path text encoding) := by
  rw [writeText]
  rcases hmade : tree.makeDirectories (Path.ofText path).parent with ⟨made, _ | e⟩
  · dsimp only
    split
    · exact .unopened rfl
    · cases hplace : made.writable path with
      | error e => exact .unopened rfl
      | ok place =>
        dsimp only
        cases hencoding : encodingOf encoding with
        | error e => exact .emptied hplace (isCoding_of_encodingOf hencoding)
        | ok enc =>
          dsimp only
          cases hcontent : enc.encode text with
          | error e => exact .emptied hplace rfl
          | ok content => exact .written hplace hencoding hcontent
  · exact .unopened rfl

/-- The tree in which a file is opened: the missing directories on the way to it have been made. -/
def FileTree.withParents (tree : FileTree) (path : Path) : FileTree :=
  (tree.makeDirectories path.parent).1

/-- Opening a file makes directories on the way to it only. -/
theorem FileTree.madeAlong_withParents (tree : FileTree) (path : Path) :
    MadeAlong path.parent tree (tree.withParents path) :=
  madeAlong_makeDirectories tree path.parent

/-- A sink is not written at all, or it is written to the file that the path leads to. -/
theorem Sink.save_cases (sink : Sink) (tree : FileTree) {path : Path} (hpath : path.IsPlain)
    (overwrite : Bool) (encoding : Text) :
    (∃ e, e.isCoding = false ∧ sink.save tree path overwrite encoding = (tree, .error e)) ∨
      WriteEnds (tree.withParents path) path.toText sink.value encoding
        (sink.save tree path overwrite encoding) := by
  rw [Sink.save]
  split
  · exact .inl ⟨_, rfl, rfl⟩
  · split
    · exact .inl ⟨_, rfl, rfl⟩
    · have hends := writeEnds_writeText tree path.toText sink.value encoding
      rw [hpath.ofText_toText] at hends
      exact .inr hends

/-! ## Failed writes -/

/-- Every file of `tree` is in `after`, with the same content. -/
def KeepsFiles (tree after : FileTree) : Prop :=
  ∀ (place : Place) (content : Bytes), tree.get? place = some (.file content) →
    after.get? place = some (.file content)

/-- Making directories keeps every file. -/
theorem FileTree.MadeAlong.keepsFiles {path : Path} {tree after : FileTree}
    (h : MadeAlong path tree after) : KeepsFiles tree after :=
  fun _ _ => h.get?_eq

/-- A file that is emptied loses what it had before the directories were made. -/
theorem FileTree.MadeAlong.keepsFiles_put_iff {path : Path} {tree made : FileTree} {place : Place}
    (h : MadeAlong path tree made) (hplace : made.get? place ≠ some .directory) :
    KeepsFiles tree (made.put place (.file [])) ↔
      ∀ content, made.get? place = some (.file content) → content = [] := by
  constructor
  · intro hkeeps content hcontent
    have hkept := hkeeps place content (h.get?_file_iff.1 hcontent)
    rw [get?_put hplace, if_pos rfl] at hkept
    simpa using hkept.symm
  · intro hempty other content hcontent
    have hmade := h.get?_eq hcontent
    rw [get?_put hplace]
    split
    · next heq =>
      subst heq
      rw [hempty content hmade]
    · exact hmade

/-- A write that fails keeps every file exactly if it does not fail over the encoding or if the path
did not lead to a file with a content, once the missing directories were made. In any case a file
that has lost its content is the one that the path leads to, and is empty. -/
theorem Sink.save_keeps_files_iff (sink : Sink) (tree : FileTree) (t : Text) (overwrite : Bool)
    (encoding : Text) {after : FileTree} {e : Error}
    (h : sink.save tree (.ofText t) overwrite encoding = (after, .error e)) :
    (KeepsFiles tree after ↔ ¬ (e.isCoding = true ∧ ∃ content, content ≠ [] ∧
      (tree.withParents (.ofText t)).read (Path.ofText t).toText = .ok content)) ∧
    ∀ place content, tree.get? place = some (.file content) →
      after.get? place = some (.file content) ∨
        after.locate (Path.ofText t).toText = .ok place ∧ after.get? place = some (.file []) := by
  have hmade := tree.madeAlong_withParents (.ofText t)
  rcases sink.save_cases tree (Path.isPlain_ofText t) overwrite encoding with
    ⟨e', hcoding, hsave⟩ | hends
  · obtain ⟨rfl, rfl⟩ : tree = after ∧ e' = e := by simpa using hsave.symm.trans h
    exact ⟨iff_of_true (fun _ _ => id) (by simp [hcoding]), fun _ _ => .inl⟩
  · rw [h] at hends
    cases hends with
    | unopened hcoding =>
      exact ⟨iff_of_true hmade.keepsFiles (by simp [hcoding]),
        fun place content hcontent => .inl (hmade.get?_eq hcontent)⟩
    | @emptied place _ hplace hcoding =>
      obtain ⟨hlocate, hfree⟩ := locate_of_writable hplace
      refine ⟨?_, fun other content hcontent => ?_⟩
      · rw [hmade.keepsFiles_put_iff hfree]
        simp only [hcoding, read_eq_ok_iff hlocate, true_and, not_exists, not_and]
        exact forall_congr' fun content => not_imp_not.symm
      · rw [get?_put hfree]
        split
        · next heq =>
          subst heq
          exact .inr ⟨(keepsDirectories_put hfree _).locate hlocate, rfl⟩
        · exact .inl (hmade.get?_eq hcontent)

/-- A text that cannot be encoded empties the file that it was to replace. -/
theorem Sink.save_loses_content : ¬ ∀ (sink : Sink) (tree : FileTree) (t : Text) (overwrite : Bool)
    (encoding : Text) (after : FileTree) (e : Error),
    sink.save tree (.ofText t) overwrite encoding = (after, .error e) → KeepsFiles tree after := by
  intro h
  have hsave : Sink.save ⟨[.line ['\u00e9']]⟩ ⟨[(["a.md".toList], .file [0x6f, 0x6c, 0x64])]⟩
      (.ofText "a.md".toList) true "ascii".toList =
      (⟨[(["a.md".toList], .file [])]⟩,
        .error (.unencodable ⟨Encoding.asciiCodec, 0, 0, '\u00e9', 128⟩)) := by
    decide
  have hkept := h _ _ _ _ _ _ _ hsave ["a.md".toList] _ rfl
  exact absurd hkept (by decide)

/-- The new file is left behind empty in the directory that was made for it, and the other one is
kept. -/
theorem Sink.save_keeps_files_iff_beside :
    let sink : Sink := ⟨[.line ['\u00e9']]⟩
    let tree : FileTree := ⟨[(["a.md".toList], .file [0x6f, 0x6c, 0x64])]⟩
    let after : FileTree := ⟨[(["d".toList, "b.md".toList], .file []), (["d".toList], .directory),
      (["a.md".toList], .file [0x6f, 0x6c, 0x64])]⟩
    let e : Error := .unencodable ⟨Encoding.asciiCodec, 0, 0, '\u00e9', 128⟩
    sink.save tree (.ofText "d/b.md".toList) false "ascii".toList = (after, .error e) ∧
    (tree.withParents (.ofText "d/b.md".toList)).read "d/b.md".toList = .error .notFound ∧
    KeepsFiles tree after := by
  intro sink tree after e
  have hsave : sink.save tree (.ofText "d/b.md".toList) false "ascii".toList =
      (after, .error e) := by decide
  have hread : (tree.withParents (.ofText "d/b.md".toList)).read
      (Path.ofText "d/b.md".toList).toText = .error .notFound := by decide
  refine ⟨hsave, hread, (sink.save_keeps_files_iff tree _ false _ hsave).1.2 ?_⟩
  rintro ⟨-, content, -, hcontent⟩
  exact absurd (hread.symm.trans hcontent) (by simp)

end Commentary
