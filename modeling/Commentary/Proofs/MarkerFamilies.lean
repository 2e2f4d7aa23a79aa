import Commentary.Conversion
import Commentary.Proofs.Header
import Commentary.Proofs.LineParts
import Commentary.Proofs.Views

/-!
# The choice of the markers

A family of visible characters that are no folding characters means nothing to a line beyond how
many of them it starts with. A cleaned line is a number of markers and a rest that does not go on
with one, and all that is asked of it can be told from these two. So two documents with the same
numbers and the same rests give the same output, each with its own family.
-/

namespace Commentary

namespace Line

/-- Two lines with as many markers in front, each of its own, and the same rest, which does not go
on with a marker of either. -/
inductive SameRest (m m' : Char) : Text → Text → Prop
  | intro (n : Nat) {rest : Text} : (∀ c ∈ rest.head?, c ≠ m ∧ c ≠ m') →
      SameRest m m' (List.replicate n m ++ rest) (List.replicate n m' ++ rest)

variable {m : Char}

/-- A scan cannot tell two families of markers apart. -/
theorem SameRest.sameView {m' : Char} {line line' : Text} (h : SameRest m m' line line')
    (hm : Neutral m) (hm' : Neutral m') : Scan.SameView m m' line line' := by
  obtain ⟨n, hstops⟩ := h
  have hleft := fun c hc => (hstops c hc).1
  have hright := fun c hc => (hstops c hc).2
  constructor
  · rw [commentText?_replicate hm.visible hleft, commentText?_replicate hm'.visible hright]
  · rw [isBlank_replicate hm hleft, isBlank_replicate hm' hright]
  · rw [isTopLevel_replicate hleft, isTopLevel_replicate hright]
  · intro s
    rw [opens_replicate hm.visible hleft, opens_replicate hm'.visible hright]

end Line

/-! ## Metadata -/

namespace Metadata

/-- Two lines that say the same to a header, each with its own settings. -/
structure SameHeader (s s' : Settings) (line line' : Text) : Prop where
  /-- Both are the same title line, or none is one. -/
  title : titleLine? s line = titleLine? s' line'
  /-- They declare the same. -/
  field (f : Field) : fieldValue? s.marker f line = fieldValue? s'.marker f line'
  /-- Both open the commentary, or none does. -/
  commentary : Line.opens s.marker .commentary line = Line.opens s'.marker .commentary line'

variable {s s' : Settings} {lines lines' : List Text}

/-- Lines that say the same to a header open the commentary at the same place. -/
theorem commentaryIndex?_eq (h : List.Forall₂ (SameHeader s s') lines lines') :
    commentaryIndex? s.marker lines = commentaryIndex? s'.marker lines' := by
  induction h with
  | nil => rfl
  | cons hline _ ih =>
    rw [commentaryIndex?] at ih
    rw [commentaryIndex?, List.findIdx?_cons, hline.commentary, ih, commentaryIndex?,
      commentaryIndex?, List.findIdx?_cons]

/-- Lines that say the same to a header declare the same values. -/
theorem headerField?_eq (h : List.Forall₂ (SameHeader s s') lines lines') (f : Field) :
    headerField? s.marker f lines = headerField? s'.marker f lines' := by
  induction h with
  | nil => rfl
  | cons hline _ ih =>
    rw [headerField?] at ih
    rw [headerField?, List.findSome?_cons, hline.field, ih, headerField?, headerField?,
      List.findSome?_cons]

/-- Lines that say the same to a header give the same metadata. -/
theorem ofDocument_eq (h : List.Forall₂ (SameHeader s s') lines lines') (name : Option Text) :
    ofDocument s ⟨lines, name⟩ = ofDocument s' ⟨lines', name⟩ := by
  have htitle : lines.head?.bind (titleLine? s) = lines'.head?.bind (titleLine? s') := by
    cases h with
    | nil => rfl
    | cons hline _ => exact hline.title
  have hheader (f : Field) (stop : Nat) : headerField? s.marker f (lines.take stop) =
      headerField? s'.marker f (lines'.take stop) :=
    headerField?_eq (List.forall₂_take stop h) f
  rw [ofDocument, ofDocument, htitle, readFields, readFields, commentaryIndex?_eq h]
  simp only [hheader]

/-- Behind markers that were put in front comes a space, and then the rest. -/
theorem afterMarkersAndSpace?_replicate {m : Char} {n : Nat} {rest : Text} (hm : Line.Neutral m)
    (h : ∀ c ∈ rest.head?, c ≠ m) : afterMarkersAndSpace? m (List.replicate n m ++ rest) =
      if 1 ≤ n then List.isPrefixOf? [' '] rest else none := by
  have hspace : ¬ (m == ' ') = true := by simpa using Text.ne_of_isSpace hm.visible (by decide)
  rw [afterMarkersAndSpace?, if_neg hspace, Line.markerRun_replicate h,
    Line.afterMarkers_replicate h]

/-- A header cannot tell two families of markers apart. -/
theorem sameHeader_of_sameRest {ms ms' : Markers} {line line' : Text}
    (h : Line.SameRest ms.canonical ms'.canonical line line') (hm : Line.Neutral ms.canonical)
    (hm' : Line.Neutral ms'.canonical) (s : Settings) :
    SameHeader { s with markers := ms } { s with markers := ms' } line line' := by
  have hview := h.sameView hm hm'
  have hafter : afterMarkersAndSpace? ms.canonical line =
      afterMarkersAndSpace? ms'.canonical line' := by
    obtain ⟨n, hstops⟩ := h
    rw [afterMarkersAndSpace?_replicate hm fun c hc => (hstops c hc).1,
      afterMarkersAndSpace?_replicate hm' fun c hc => (hstops c hc).2]
  refine ⟨?_, fun f => ?_, hview.opens .commentary⟩
  · simp only [titleLine?, Settings.marker, hafter]
  · simp only [fieldValue?, Settings.marker, hafter]

end Metadata

/-! ## Emission -/

section Emission

variable (s : Settings) (ms : Markers)

/-- The spans of a line do not depend on the markers. -/
theorem Inline.spansFrom_markers (plain : Text) (opened : Option Text) (t : Text) :
    spansFrom { s with markers := ms } plain opened t = spansFrom s plain opened t := by
  induction t generalizing plain opened with
  | nil => rfl
  | cons c t ih =>
    cases opened with
    | none => simp only [spansFrom, ih]
    | some name => simp only [spansFrom, ih, nameSpan]

/-- The markers have no part in the Markdown of a line. -/
theorem Inline.toMarkdown_markers (t : Text) :
    toMarkdown { s with markers := ms } t = toMarkdown s t := by
  rw [toMarkdown, spans, spansFrom_markers, toMarkdown, spans]

/-- What a block hands over does not depend on the markers. -/
theorem Block.emission_markers (b : Block) :
    b.emission { s with markers := ms } = b.emission s := by
  simp only [emission, Inline.toMarkdown_markers]

/-- What blocks hand over does not depend on the markers. -/
theorem blocksEmissionAfter_markers (previous : Option Block) (bs : List Block) :
    blocksEmissionAfter { s with markers := ms } previous bs =
      blocksEmissionAfter s previous bs := by
  induction bs generalizing previous with
  | nil => rfl
  | cons b bs ih => rw [blocksEmissionAfter, Block.emission_markers, ih, blocksEmissionAfter]

/-- What metadata hand over does not depend on the markers. -/
theorem Metadata.tokens_markers (md : Metadata) :
    md.tokens { s with markers := ms } = md.tokens s := by
  simp only [Metadata.tokens, Metadata.titleTokens, Inline.toMarkdown_markers]

end Emission

/-- The output of a document is told by its metadata, its blocks and its name, whatever the markers
are that these have been read with. -/
theorem emit_eq_of_read {tree : FileTree} {config : Config} {ms ms' : Markers} {doc doc' : Document}
    (hmetadata : Metadata.ofDocument { config.toSettings with markers := ms } doc =
      Metadata.ofDocument { config.toSettings with markers := ms' } doc')
    (hblocks : doc.blocks { config.toSettings with markers := ms } =
      doc'.blocks { config.toSettings with markers := ms' })
    (hname : doc.sourceName = doc'.sourceName) :
    emit tree { config with markers := ms } doc =
      emit tree { config with markers := ms' } doc' := by
  have hpage (blocks : List Block) (footer : Text) :
      pageEmission { config.toSettings with markers := ms } doc blocks footer =
        pageEmission { config.toSettings with markers := ms' } doc' blocks footer := by
    simp only [pageEmission, blocksEmission, hmetadata, Metadata.tokens_markers,
      blocksEmissionAfter_markers]
  have hfooter : Footer.render tree { config.toSettings with markers := ms } doc.sourceName =
      Footer.render tree { config.toSettings with markers := ms' } doc'.sourceName := by
    rw [hname]
    rfl
  simp only [emit, hblocks, hfooter, hpage]

/-! ## Whole documents -/

namespace Markers

/-- A family whose members have no other meaning in a line. -/
def Neutral (ms : Markers) : Prop := ∀ c ∈ ms.toText, Line.Neutral c

instance (ms : Markers) : Decidable ms.Neutral :=
  List.decidableBAll Line.Neutral ms.toText

/-- Two lines that start with equally long runs of members, each of its own family, and go on with
the same rest, which starts with no member of either. -/
inductive Alike (ms ms' : Markers) : Text → Text → Prop
  | intro {run run' rest : Text} : run.length = run'.length → (∀ c ∈ run, ms.contains c = true) →
      (∀ c ∈ run', ms'.contains c = true) →
      (∀ c ∈ rest.head?, ms.contains c = false ∧ ms'.contains c = false) →
      Alike ms ms' (run ++ rest) (run' ++ rest)

variable {ms ms' : Markers} {run rest line line' : Text}

/-- The members of a neutral family are not blank. -/
theorem Neutral.visible (h : ms.Neutral) : ∀ c ∈ ms.toText, Text.isSpace c = false :=
  fun c hc => (h c hc).visible

/-- Lines that are alike up to their markers have the same rest once they are clean. -/
theorem Alike.sameRest (h : ms.Alike ms' line line') (hms : ms.Neutral) (hms' : ms'.Neutral) :
    Line.SameRest ms.canonical ms'.canonical (ms.cleanLine line) (ms'.cleanLine line') := by
  obtain @⟨run, run', rest, hlength, hrun, hrun', hrest⟩ := h
  rw [cleanLine_append hms.visible hrun fun c hc => (hrest c hc).1,
    cleanLine_append hms'.visible hrun' fun c hc => (hrest c hc).2, hlength]
  constructor
  intro c hc
  obtain ⟨hout, hout'⟩ := hrest c (Text.head?_trimEnd hc)
  exact ⟨ne_canonical hout, ne_canonical hout'⟩

end Markers

/-- The comment characters are a choice without consequences. Two families without blanks and
folding characters give the same output or the same error on lines that differ in the members they
start with and in nothing else. -/
theorem convert_of_alike (tree : FileTree) (config : Config) {ms ms' : Markers} (hms : ms.Neutral)
    (hms' : ms'.Neutral) {lines lines' : List Text} (h : List.Forall₂ (ms.Alike ms') lines lines')
    (sourceName : Option Text) :
    convert tree { config with markers := ms } lines sourceName =
      convert tree { config with markers := ms' } lines' sourceName := by
  have hm := hms _ ms.canonical_mem_toText
  have hm' := hms' _ ms'.canonical_mem_toText
  have hclean : List.Forall₂ (Line.SameRest ms.canonical ms'.canonical) (ms.cleanLines lines)
      (ms'.cleanLines lines') := by
    rw [Markers.cleanLines, Markers.cleanLines, List.forall₂_map_left_iff,
      List.forall₂_map_right_iff]
    exact h.imp fun _ _ hline => hline.sameRest hms hms'
  have hblocks := Scan.blocks_document_eq (hclean.imp fun _ _ hline => hline.sameView hm hm')
  have hmetadata := Metadata.ofDocument_eq
    (hclean.imp fun _ _ hline => Metadata.sameHeader_of_sameRest hline hm hm' config.toSettings)
    sourceName
  exact congrArg (Except.map Sink.value) (emit_eq_of_read hmetadata hblocks rfl)

/-- Members that mean something elsewhere in a line: two bullets, and the first letter of the
commentary's title. -/
theorem convert_of_alike_bullets :
    let ms : Markers := ⟨';', ['#']⟩
    let ms' : Markers := ⟨'-', ['*', 'C']⟩
    let lines := [[';', '#', ';'] ++ ' ' :: "Commentary:".toList,
      ['#', ';'] ++ ' ' :: "- One".toList]
    let lines' := [['*', '-', 'C'] ++ ' ' :: "Commentary:".toList,
      ['C', '-'] ++ ' ' :: "- One".toList]
    ms.Neutral ∧ ms'.Neutral ∧ List.Forall₂ (ms.Alike ms') lines lines' ∧ ∃ footer,
      convert .empty { Config.default with markers := ms } lines none =
        .ok ("- One\n\n---\n".toList ++ footer) ∧
      convert .empty { Config.default with markers := ms' } lines' none =
        .ok ("- One\n\n---\n".toList ++ footer) := by
  intro ms ms' lines lines'
  have hms : ms.Neutral := by decide
  have hms' : ms'.Neutral := by decide
  have hspace : ∀ c ∈ some ' ', ms.contains c = false ∧ ms'.contains c = false := by
    rintro _ ⟨⟩
    decide
  have halike : List.Forall₂ (ms.Alike ms') lines lines' :=
    .cons (.intro rfl (List.all_eq_true.1 rfl) (List.all_eq_true.1 rfl) hspace)
      (.cons (.intro rfl (List.all_eq_true.1 rfl) (List.all_eq_true.1 rfl) hspace) .nil)
  have hfooter : ∃ footer, convert .empty { Config.default with markers := ms } lines none =
      .ok ("- One\n\n---\n".toList ++ footer) := by
    have hstarts : (convert .empty { Config.default with markers := ms } lines none).map
        ("- One\n\n---\n".toList.isPrefixOf ·) = .ok true := by decide +kernel
    cases hvalue : convert .empty { Config.default with markers := ms } lines none with
    | error => rw [hvalue] at hstarts; cases hstarts
    | ok value =>
      rw [hvalue] at hstarts
      obtain ⟨footer, rfl⟩ := List.isPrefixOf_iff_prefix.1 (Except.ok.inj hstarts)
      exact ⟨footer, rfl⟩
  obtain ⟨footer, hvalue⟩ := hfooter
  exact ⟨hms, hms', halike, footer, hvalue,
    (convert_of_alike .empty .default hms hms' halike none).symm.trans hvalue⟩

end Commentary
