import Commentary.Command
import Commentary.Proofs.Controls
import Commentary.Proofs.Encodings
import Commentary.Proofs.Writes

/-!
# What a run changes

A run that only shows the output changes no file. A run that writes changes nothing if the source
cannot be read or if the file exists and the answer is not yes; if it ends well, it has written the
output to the file and made the missing directories above it, and nothing else has changed. What is
shown is what would be written, less the control sequences in it.

A path counts as existing if it leads somewhere when the run starts. A path that goes into a missing
directory and out of it again leads nowhere then, even if it leads to a file later on.
-/

namespace Commentary

open FileTree

/-- The number that a run ends with. -/
def Outcome.exitCode : Outcome → Nat
  | .usage => 2
  | .finished exit _ _ => exit
  | .unanswered _ _ => 1
  | .failed _ _ => 1

/-- Nothing has changed but the file that the path leads to and missing directories that paths above
it lead to. -/
def FileTree.OnlyWrites (tree after : FileTree) (path : Path) (content : Bytes) : Prop :=
  ∃ place, after.locate path.toText = .ok place ∧ after.get? place = some (.file content) ∧
    ∀ other, other ≠ place → after.get? other = tree.get? other ∨
      tree.get? other = none ∧ after.get? other = some .directory ∧
        ∃ n, after.locate (Path.parent^[n + 1] path).toText = .ok other

/-- A write that succeeds leaves the encoded text in the file. -/
theorem Sink.onlyWrites_of_save {sink : Sink} {tree after : FileTree} {path : Path}
    {overwrite : Bool} {encoding : Text} (hpath : path.IsPlain)
    (h : sink.save tree path overwrite encoding = (after, .ok ())) :
    ∃ enc content, encodingOf encoding = .ok enc ∧ enc.encode sink.value = .ok content ∧
      tree.OnlyWrites after path content := by
  rcases sink.save_cases tree hpath overwrite encoding with ⟨e, -, hfailed⟩ | hends
  · simp [hfailed] at h
  · rw [h] at hends
    cases hends with
    | @written place enc content hplace hencoding hcontent =>
      obtain ⟨hlocate, hfree⟩ := locate_of_writable hplace
      have hkeeps := keepsDirectories_put hfree (.file content)
      refine ⟨enc, content, hencoding, hcontent, place, hkeeps.locate hlocate, ?_, ?_⟩
      · rw [get?_put hfree, if_pos rfl]
      · intro other hne
        rw [get?_put hfree, if_neg hne]
        apply (tree.madeAlong_withParents path other).imp_right
        rintro ⟨hnone, hdirectory, n, habove⟩
        exact ⟨hnone, hdirectory, n, hkeeps.locate habove⟩

namespace Command

/-! ## Questions -/

/-- The first answer that is understood is yes. -/
def Confirms (answers : List Text) : Prop := answers.findSome? readAnswer = some true

instance (answers : List Text) : Decidable (Confirms answers) :=
  inferInstanceAs (Decidable (answers.findSome? readAnswer = some true))

/-- A question is answered with yes if the first answer that is understood says so. -/
theorem ask_eq_yes_iff (q : Text) (answers : List Text) :
    (ask q answers).2 = .yes ↔ Confirms answers := by
  induction answers with
  | nil => simp [ask, Confirms]
  | cons line answers ih =>
    rw [Confirms, List.findSome?_cons, ask]
    cases readAnswer line with
    | none => exact ih
    | some answer => cases answer <;> simp

/-- The end of the input does not change the exit code. -/
theorem exitCode_atInputEnd (outcome : Outcome) :
    (atInputEnd outcome).exitCode = outcome.exitCode := by
  cases outcome <;> rfl

/-! ## Writing -/

/-- It can be said whether the path exists, and if it does, it is given up by force or by an
answer. -/
def Allows (tree : FileTree) (path : Path) (force : Bool) (answers : List Text) : Prop :=
  ∃ found, tree.pathExists path.toText = .ok found ∧
    (found = true → force = true ∨ Confirms answers)

section Save

variable (verbose force : Bool) (tree : FileTree) (sink : Sink) (path : Path) (encoding : Text)
  (answers : List Text) (p : Printed)

/-- A command leaves the tree that writing the sink leaves. -/
theorem save_snd :
    (save verbose tree sink path encoding p).2 = (sink.save tree path true encoding).1 := by
  rw [save]
  split <;> simp_all

/-- Saving ends with exit code zero if the sink is written, and only then. -/
theorem exitCode_save_eq_zero_iff :
    (save verbose tree sink path encoding p).1.exitCode = 0 ↔
      (sink.save tree path true encoding).2 = .ok () := by
  rw [save]
  split <;> simp_all [Outcome.exitCode]

/-- A run that is to write a file writes it if that is allowed, and otherwise it ends with 1 and
changes nothing. -/
theorem saveOrAsk_cases :
    Allows tree path force answers ∧
      (∃ p', saveOrAsk verbose force tree sink path encoding answers p =
        save verbose tree sink path encoding p') ∨
    ¬ Allows tree path force answers ∧
      (saveOrAsk verbose force tree sink path encoding answers p).2 = tree ∧
      (saveOrAsk verbose force tree sink path encoding answers p).1.exitCode = 1 := by
  rw [saveOrAsk, Allows]
  cases hexists : tree.pathExists path.toText with
  | error e => exact .inr ⟨by simp, rfl, rfl⟩
  | ok found =>
    dsimp only
    split
    · next hasked =>
      obtain ⟨rfl, hforce⟩ : found = true ∧ force = false := by simpa using hasked
      have hyes := ask_eq_yes_iff (question path) answers
      cases hdecision : (ask (question path) answers).2 with
      | yes => exact .inl ⟨⟨true, rfl, fun _ => .inr (hyes.1 hdecision)⟩, _, rfl⟩
      | no => exact .inr ⟨by simp [← hyes, hdecision, hforce], rfl, rfl⟩
      | unanswered => exact .inr ⟨by simp [← hyes, hdecision, hforce], rfl, rfl⟩
    · next hasked =>
      refine .inl ⟨⟨found, rfl, fun hfound => .inl ?_⟩, p, rfl⟩
      simpa [hfound] using hasked

end Save

/-! ## Converting -/

/-- The sink that holds the output of a run, whatever is done with it. -/
def converted (i : Invocation) (tree : FileTree) : Except Error Sink :=
  let config : Config := { i.options.settings with }
  match Document.load tree config.markers (Path.ofText i.input) i.options.encoding with
  | .error e => .error e
  | .ok doc => emit tree config doc

/-- A run whose source cannot be read has no output. -/
theorem converted_of_readText_error {i : Invocation} {tree : FileTree} {e : Error}
    (h : readText tree (Path.ofText i.input).toText i.options.encoding = .error e) :
    converted i tree = .error e := by
  rw [converted, Document.load, h]
  rfl

@[simp]
theorem out_note (verbose : Bool) (p : Printed) (entries : List LogEntry) :
    (note verbose p entries).out = p.out := by
  rw [note]
  split <;> rfl

/-- A run without output ends with 1 and changes nothing, and any other run delivers its output. -/
theorem convertAndDeliver_cases (i : Invocation) (tree : FileTree) (answers : List Text) :
    (∃ e, converted i tree = .error e) ∧ (convertAndDeliver i tree answers).2 = tree ∧
      (convertAndDeliver i tree answers).1.exitCode = 1 ∨
    ∃ sink p, converted i tree = .ok sink ∧ p.out = [] ∧
      convertAndDeliver i tree answers = deliver i tree sink answers p := by
  rw [convertAndDeliver, converted, Document.load]
  cases hread : readText tree (Path.ofText i.input).toText i.options.encoding with
  | error e =>
    refine .inl ⟨⟨e, rfl⟩, ?_⟩
    cases e <;> exact ⟨rfl, rfl⟩
  | ok text =>
    dsimp only [Except.map]
    cases hemit : emit tree { i.options.settings with } (.ofText i.options.settings.markers text
      (some (Path.ofText i.input).name)) with
    | error e => exact .inl ⟨⟨e, rfl⟩, rfl, rfl⟩
    | ok sink => exact .inr ⟨sink, _, rfl, out_note _ _ _, rfl⟩

/-! ## Runs -/

/-- The command line can be read, the file to write has a name that a file can have, and the source
is a file. -/
structure Runs (tree : FileTree) (args : List Text) (i : Invocation) : Prop where
  read : Invocation.ofArguments? args = some i
  named : namesFile i = true
  source : ∃ content, tree.lookup (Path.ofText i.input).toText = .ok (.file content)

/-- Two command lines ask for the output of one source, with the same options as far as they bear on
it. -/
structure SameSource (i j : Invocation) : Prop where
  input : Path.ofText i.input = Path.ofText j.input
  symmetricQuotes : i.options.symmetricQuotes = j.options.symmetricQuotes
  keys : i.options.keys = j.options.keys
  encoding : i.options.encoding = j.options.encoding

/-- Command lines with one source have the same output. -/
theorem SameSource.converted_eq {i j : Invocation} (h : SameSource i j) (tree : FileTree) :
    converted i tree = converted j tree := by
  have hsettings : i.options.settings = j.options.settings := by
    rw [Options.settings, Options.settings, h.symmetricQuotes, h.keys]
  rw [converted, converted, h.input, h.encoding, hsettings]

/-- The path that a command writes to is plain. -/
theorem isPlain_target {i : Invocation} {path : Path} (h : target i = some path) :
    path.IsPlain := by
  rw [target] at h
  cases hcommand : i.command <;> rw [hcommand] at h
  · cases h
  · cases h
    exact Path.isPlain_ofText _
  · cases h
    exact (Path.isPlain_ofText _).readme

namespace Runs

variable {tree : FileTree} {args : List Text} {i : Invocation}

/-- A command line that can be run converts its source and delivers the output. -/
theorem runOn_eq (h : Runs tree args i) (input : Text) :
    runOn tree args input =
      (atInputEnd (convertAndDeliver i tree (answerLines input)).1,
        (convertAndDeliver i tree (answerLines input)).2) := by
  obtain ⟨content, hsource⟩ := h.source
  rw [runOn, run, h.read]
  dsimp only
  rw [runInvocation, h.named, hsource]

/-- The exit code of a run is that of converting and delivering. -/
theorem exitCode_eq (h : Runs tree args i) (input : Text) :
    (runOn tree args input).1.exitCode =
      (convertAndDeliver i tree (answerLines input)).1.exitCode := by
  rw [h.runOn_eq, exitCode_atInputEnd]

/-- A run that shows its output changes nothing. -/
theorem view_cases (h : Runs tree args i) (hview : i.command = .view) (input : Text) :
    (∃ e, converted i tree = .error e) ∧ (runOn tree args input).2 = tree ∨
    ∃ sink err, converted i tree = .ok sink ∧
      runOn tree args input = (.finished 0 (Text.withoutControls sink.value) err, tree) := by
  rw [h.runOn_eq]
  rcases convertAndDeliver_cases i tree (answerLines input) with
    ⟨hfails, htree, -⟩ | ⟨sink, p, hsink, hout, hdeliver⟩
  · exact .inl ⟨hfails, htree⟩
  · refine .inr ⟨sink, p.err, hsink, ?_⟩
    rw [hdeliver, deliver, target, hview]
    simp [print, hout, atInputEnd]

/-- A run that has a file to write saves its output there if it has one and may do so, and otherwise
it ends with 1 and changes nothing. -/
theorem target_cases (h : Runs tree args i) {path : Path} (htarget : target i = some path)
    (input : Text) :
    ((runOn tree args input).2 = tree ∧ (runOn tree args input).1.exitCode = 1 ∧
      ∀ sink, converted i tree = .ok sink →
        ¬ Allows tree path i.options.force (answerLines input)) ∨
    ∃ sink, converted i tree = .ok sink ∧
      Allows tree path i.options.force (answerLines input) ∧
      (runOn tree args input).2 = (sink.save tree path true i.options.encoding).1 ∧
      ((runOn tree args input).1.exitCode = 0 ↔
        (sink.save tree path true i.options.encoding).2 = .ok ()) := by
  rw [h.exitCode_eq, h.runOn_eq]
  rcases convertAndDeliver_cases i tree (answerLines input) with
    ⟨⟨e, hfails⟩, htree, hexit⟩ | ⟨sink, p, hsink, -, hdeliver⟩
  · exact .inl ⟨htree, hexit, by simp [hfails]⟩
  · rw [hdeliver, deliver, htarget]
    rcases saveOrAsk_cases i.verbose i.options.force tree sink path i.options.encoding
      (answerLines input) p with ⟨hallows, p', hsave⟩ | ⟨hrefuses, htree, hexit⟩
    · refine .inr ⟨sink, hsink, hallows, ?_⟩
      dsimp only
      rw [hsave]
      exact ⟨save_snd .., exitCode_save_eq_zero_iff ..⟩
    · exact .inl ⟨htree, hexit, fun _ _ => hrefuses⟩

end Runs

/-- What a run shows has the bytes of the text that another run has written just if there is no
control sequence in the text. -/
theorem encode_withoutControls_iff {enc : Encoding} {text : Text} {content : Bytes}
    (h : enc.encode text = .ok content) :
    enc.encode (Text.withoutControls text) = .ok content ↔ ¬ Text.HoldsControl text := by
  rw [← Text.withoutControls_eq_self_iff]
  constructor
  · intro hshown
    exact Encoding.eq_of_encode_eq hshown h
  · intro heq
    rw [heq, h]

/-- A run that shows its output changes nothing. A run that has a file to write changes nothing and
ends with 1 if the source cannot be read, or if the file exists and is given up neither by force nor
by an answer. If it ends with 0, it has written the file and made missing directories above it, and
the file holds the text that is shown of the same source, control sequences included. -/
theorem runOn_changes {tree : FileTree} {args : List Text} {i : Invocation} (h : Runs tree args i)
    (input : Text) :
    (i.command = .view → (runOn tree args input).2 = tree) ∧
    ∀ path, target i = some path →
      ((∃ e, readText tree (Path.ofText i.input).toText i.options.encoding = .error e) ∨
          (tree.pathExists path.toText = .ok true ∧ i.options.force = false ∧
            ¬ Confirms (answerLines input)) →
        (runOn tree args input).2 = tree ∧ (runOn tree args input).1.exitCode = 1) ∧
      ((runOn tree args input).1.exitCode = 0 →
        ∃ enc text content, encodingOf i.options.encoding = .ok enc ∧
          enc.encode text = .ok content ∧
          tree.OnlyWrites (runOn tree args input).2 path content ∧
          ∀ args' j input', Runs tree args' j → j.command = .view → SameSource j i →
            ∃ out err, runOn tree args' input' = (.finished 0 out err, tree) ∧
              out = Text.withoutControls text ∧
              (enc.encode out = .ok content ↔ ¬ Text.HoldsControl text)) := by
  refine ⟨fun hview => ?_, fun path htarget => ?_⟩
  · rcases h.view_cases hview input with ⟨-, htree⟩ | ⟨sink, err, -, hrun⟩
    · exact htree
    · rw [hrun]
  · rcases h.target_cases htarget input with
      ⟨htree, hexit, -⟩ | ⟨sink, hsink, hallows, hsaved, hexit⟩
    · exact ⟨fun _ => ⟨htree, hexit⟩, fun hzero => by omega⟩
    · constructor
      · rintro (⟨e, hread⟩ | ⟨hexists, hforce, hanswers⟩)
        · rw [converted_of_readText_error hread] at hsink
          cases hsink
        · obtain ⟨found, hfound, hgiven⟩ := hallows
          cases hexists.symm.trans hfound
          simp [hforce, hanswers] at hgiven
      · intro hzero
        obtain ⟨enc, content, hencoding, hcontent, honly⟩ :=
          Sink.onlyWrites_of_save (isPlain_target htarget) (Prod.ext hsaved.symm (hexit.1 hzero))
        refine ⟨enc, sink.value, content, hencoding, hcontent, honly, ?_⟩
        intro args' j input' hj hview hsame
        rw [← hsame.converted_eq] at hsink
        rcases hj.view_cases hview input' with ⟨⟨e, hfails⟩, -⟩ | ⟨shown, err, hshown, hrun⟩
        · cases hsink.symm.trans hfails
        · cases hsink.symm.trans hshown
          exact ⟨_, err, hrun, rfl, encode_withoutControls_iff hcontent⟩

/-- A control sequence in the title is written and not shown. -/
theorem runOn_writes_unshown : ¬ ∀ (tree : FileTree) (args args' : List Text) (i j : Invocation)
    (path : Path) (out err : Text) (enc : Encoding),
    Runs tree args i → target i = some path → (runOn tree args []).1.exitCode = 0 →
    Runs tree args' j → j.command = .view → SameSource j i →
    runOn tree args' [] = (.finished 0 out err, tree) → encodingOf i.options.encoding = .ok enc →
    ∃ content, enc.encode out = .ok content ∧
      (runOn tree args []).2.read path.toText = .ok content := by
  intro h
  let tree : FileTree :=
    ⟨[(["a.el".toList], .file (Utf8.encode ";;; a.el --- A\x1b[m\n".toList))]⟩
  let args : List Text := ["write".toList, "a.el".toList, "-o".toList, "b.md".toList]
  let footer : Text := "\n\n---\nConverted from `a.el` by ".toList ++
    "[*el2md*](https://gitlab.com/thomasluquet/el2md).\n".toList
  let written : FileTree :=
    tree.put ["b.md".toList] (.file (Utf8.encode ("# A\x1b[m".toList ++ footer)))
  have hwritten : runOn tree args [] = (.finished 0 "b.md\n".toList [], written) := by
    decide +kernel
  have hshown : runOn tree ["view".toList, "a.el".toList] [] =
      (.finished 0 ("# A".toList ++ footer) [], tree) := by
    decide +kernel
  have hwrite : Runs tree args ⟨false, .write, "a.el".toList, { output := some "b.md".toList }⟩ :=
    ⟨rfl, rfl, _, rfl⟩
  have hview : Runs tree ["view".toList, "a.el".toList] ⟨false, .view, "a.el".toList, {}⟩ :=
    ⟨rfl, rfl, _, rfl⟩
  obtain ⟨content, hcontent, hread⟩ := h _ _ _ _ _ _ _ _ .utf8 hwrite rfl (by rw [hwritten]; rfl)
    hview rfl ⟨rfl, rfl, rfl, rfl⟩ hshown rfl
  obtain rfl := Except.ok.inj hcontent
  rw [hwritten] at hread
  exact absurd hread (by decide +kernel)

/-- A file is kept if the answer is no in the end, and a file below a missing directory gets the
text that is shown. -/
theorem runOn_changes_new :
    let tree : FileTree := ⟨[(["a.el".toList], .file (Utf8.encode ";;; a.el --- A\n".toList)),
      (["README.md".toList], .file [0x6f, 0x6c, 0x64])]⟩
    let args : List Text := ["write".toList, "a.el".toList, "-o".toList, "new/b.md".toList]
    (runOn tree ["readme".toList, "a.el".toList] "?\nn\n".toList).2 = tree ∧
    (runOn tree ["readme".toList, "a.el".toList] "?\nn\n".toList).1.exitCode = 1 ∧
    (runOn tree args []).1.exitCode = 0 ∧
    ∃ text content err, Encoding.utf8.encode text = .ok content ∧
      tree.OnlyWrites (runOn tree args []).2 (.ofText "new/b.md".toList) content ∧
      runOn tree ["view".toList, "a.el".toList] [] =
        (.finished 0 (Text.withoutControls text) err, tree) := by
  intro tree args
  have hreadme : Runs tree ["readme".toList, "a.el".toList] ⟨false, .readme, "a.el".toList, {}⟩ :=
    ⟨rfl, rfl, _, rfl⟩
  have hwrite : Runs tree args
      ⟨false, .write, "a.el".toList, { output := some "new/b.md".toList }⟩ :=
    ⟨rfl, rfl, _, rfl⟩
  have hview : Runs tree ["view".toList, "a.el".toList] ⟨false, .view, "a.el".toList, {}⟩ :=
    ⟨rfl, rfl, _, rfl⟩
  have hkept := ((runOn_changes hreadme "?\nn\n".toList).2 _ rfl).1
    (.inr ⟨rfl, rfl, by decide +kernel⟩)
  have hzero : (runOn tree args []).1.exitCode = 0 := by decide +kernel
  obtain ⟨enc, text, content, hencoding, hcontent, honly, hshows⟩ :=
    ((runOn_changes hwrite []).2 _ rfl).2 hzero
  obtain ⟨out, err, hrun, rfl, -⟩ := hshows _ _ [] hview rfl ⟨rfl, rfl, rfl, rfl⟩
  obtain rfl : Encoding.utf8 = enc := Except.ok.inj hencoding
  exact ⟨hkept.1, hkept.2, hzero, text, content, err, hcontent, honly, hrun⟩

end Command

end Commentary
