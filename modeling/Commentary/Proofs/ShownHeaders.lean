import Commentary.Proofs.LineParts
import Commentary.Proofs.Seams
import Commentary.Proofs.Separators
import Commentary.Proofs.TrailingPeriods

/-!
# Headers that show a text

A title of which nothing remains without its periods is left out, but a heading of the body is not:
it gives a header with no text behind the number signs. Main statement: the headers of a page are
that of the title and one for each heading, and all of them show a text exactly if no heading is
made of periods and blanks only.
-/

namespace Commentary

/-- Whether a token is a header. -/
def Token.isHeader (t : Token) : Bool := t.kind == .header

/-- A header of a level from one to three and the text behind it. -/
structure Token.Heads (t : Token) (level : Nat) (text : Text) : Prop where
  /-- There is a number sign. -/
  level_pos : 1 ≤ level
  /-- There are at most three of them. -/
  level_le : level ≤ 3
  /-- One space divides them from the text. -/
  text_eq : t.text = List.replicate level '#' ++ ' ' :: text

/-- A header whose text has a visible character. -/
def Token.ShowsText (t : Token) : Prop :=
  ∃ level text, t.Heads level text ∧ Text.isBlank text = false

/-- A title of which something remains without the periods at its end. -/
def Line.NotOnlyPeriods (title : Text) : Prop := ∃ c ∈ title, isPeriodOrSpace c = false

/-- The title of a heading. -/
def Block.title? (b : Block) : Option Text := if b.isHeading then b.lines.head? else none

/-- The header of a heading. -/
def Block.header? (s : Settings) (b : Block) : Option Token :=
  b.title?.map fun title =>
    .header b.headerLevel (Inline.toMarkdown s (Line.withoutPeriods title))

/-- The header of the title, if there is one. -/
def Metadata.header? (s : Settings) (md : Metadata) : Option Token :=
  let title := Line.withoutPeriods (md.title.getD [])
  if title = [] then none else some (.header 1 (Inline.toMarkdown s title))

/-- The header of the title and those of the headings, in order. -/
def Page.headers (s : Settings) (md : Metadata) (bs : List Block) : List Token :=
  (md.header? s).toList ++ bs.filterMap (Block.header? s)

/-! ## Titles without their periods -/

namespace Text

/-- A trimmed text is blank only if it is empty. -/
theorem Trimmed.isBlank_iff {t : Text} (h : Trimmed t) : isBlank t = true ↔ t = [] := by
  rw [← trimEnd_eq_nil_iff, h.trimEnd_eq]

end Text

namespace Line

/-- A title without its periods is trimmed. -/
theorem trimmed_withoutPeriods (title : Text) : Text.Trimmed (withoutPeriods title) := fun c hc =>
  (endsShown_withoutPeriods title c hc).2

/-- A title without its periods has a visible character if anything remains of it. -/
theorem isBlank_withoutPeriods_iff {title : Text} :
    Text.isBlank (withoutPeriods title) = false ↔ NotOnlyPeriods title := by
  rw [← Bool.not_eq_true, (trimmed_withoutPeriods title).isBlank_iff, withoutPeriods,
    Text.dropEndWhile_eq_nil_iff, NotOnlyPeriods]
  simp

end Line

namespace Token

/-- A header token of a level from one to three has that level and its text. -/
theorem heads_header {level : Nat} (hpos : 1 ≤ level) (hle : level ≤ 3) (text : Text) :
    (header level text).Heads level text :=
  ⟨hpos, hle, rfl⟩

/-- A header has one text only. -/
theorem Heads.text_unique {t : Token} {level level' : Nat} {text text' : Text}
    (h : t.Heads level text) (h' : t.Heads level' text') : text = text' := by
  have hspace (u : Text) : ∀ c ∈ (' ' :: u).head?, c ≠ '#' := by
    rintro c ⟨⟩
    decide
  have hsame := h.text_eq.symm.trans h'.text_eq
  rw [Line.replicate_append_inj (hspace text) (hspace text')] at hsame
  exact (List.cons.inj hsame.2).2

/-- A header shows text if its own text has a visible character. -/
theorem Heads.showsText_iff {t : Token} {level : Nat} {text : Text} (h : t.Heads level text) :
    t.ShowsText ↔ Text.isBlank text = false := by
  constructor
  · rintro ⟨level', text', h', hvisible⟩
    rwa [h.text_unique h']
  · exact fun hvisible => ⟨level, text, h, hvisible⟩

/-- The header of a title shows a text if something remains of the title. -/
theorem Heads.showsText_withoutPeriods_iff {t : Token} {level : Nat} {s : Settings} {title : Text}
    (h : t.Heads level (Inline.toMarkdown s (Line.withoutPeriods title))) :
    t.ShowsText ↔ Line.NotOnlyPeriods title := by
  rw [h.showsText_iff, Inline.isBlank_toMarkdown, Line.isBlank_withoutPeriods_iff]

end Token

/-- The header of a heading has the title for its text. -/
theorem Block.exists_heads {s : Settings} {b : Block} {t : Token} (h : b.header? s = some t) :
    ∃ title level, b.title? = some title ∧
      t.Heads level (Inline.toMarkdown s (Line.withoutPeriods title)) := by
  obtain ⟨title, htitle, rfl⟩ := Option.map_eq_some_iff.1 h
  refine ⟨title, (b.level.getD .three).toNat, htitle, Token.heads_header ?_ ?_ _⟩ <;>
    cases b.level.getD .three <;> decide

/-- The title never gives a header without a text. -/
theorem Metadata.showsText_header {s : Settings} {md : Metadata} :
    ∀ t ∈ md.header? s, t.ShowsText := by
  intro t ht
  simp only [header?] at ht
  split at ht
  · simp at ht
  · next hne =>
    obtain rfl := Option.some.inj ht
    have hheads : Token.Heads _ 1 _ := Token.heads_header (Nat.le_refl 1) (by decide)
      (Inline.toMarkdown s (Line.withoutPeriods (md.title.getD [])))
    rw [← (Line.trimmed_withoutPeriods _).isBlank_iff, Bool.not_eq_true] at hne
    exact hheads.showsText_iff.2 (by rwa [Inline.isBlank_toMarkdown])

/-! ## The headers of a page -/

/-- A heading hands over its header, and no other block hands over one. -/
theorem Block.filter_isHeader_emission (s : Settings) (b : Block) :
    (b.emission s).tokens.filter Token.isHeader = (b.header? s).toList := by
  have hlines (lines : List Text) (f : Text → Text) :
      (lines.map fun t => Token.line (f t)).filter Token.isHeader = [] := by
    rw [List.filter_eq_nil_iff]
    intro t ht
    obtain ⟨line, _, rfl⟩ := List.mem_map.1 ht
    exact Bool.false_ne_true
  rw [emission, header?, title?, isHeading]
  cases b.kind with
  | heading => cases b.lines <;> rfl
  | paragraph | bulletList | codeBlock => exact hlines _ _

/-- No header stands between two blocks. -/
theorem filter_isHeader_separator (b c : Block) : (separator b c).filter Token.isHeader = [] := by
  rw [separator]
  split <;> rfl

/-- The headers of a body are those of its headings. -/
theorem filter_isHeader_spaced (s : Settings) (bs : List Block) :
    (spaced s bs).filter Token.isHeader = bs.filterMap (Block.header? s) := by
  have hcons (b : Block) (later : List Block) : (b :: later).filterMap (Block.header? s) =
      (b.header? s).toList ++ later.filterMap (Block.header? s) := by
    rw [List.filterMap_cons]
    cases b.header? s <;> rfl
  fun_induction spaced s bs with
  | case1 => rfl
  | case2 b => rw [b.filter_isHeader_emission s, hcons, List.filterMap_nil, List.append_nil]
  | case3 b c later ih =>
    rw [List.filter_append, List.filter_append, b.filter_isHeader_emission s,
      filter_isHeader_separator, List.append_nil, ih, ← hcons]

/-- The title hands over its own header and no other. -/
theorem Metadata.filter_isHeader_titleTokens (s : Settings) (md : Metadata) :
    (md.titleTokens s).filter Token.isHeader = (md.header? s).toList := by
  simp only [titleTokens, header?, beq_iff_eq]
  split <;> rfl

/-- The headers of a page are that of the title and those of its body. -/
theorem Page.filter_isHeader_keptTokens (s : Settings) (md : Metadata) (bs : List Block)
    (footer : Text) :
    (keptTokens s md (spaced s bs) footer).filter Token.isHeader = headers s md bs := by
  have hfields : (keptFields md).filter Token.isHeader = [] := by
    rw [List.filter_eq_nil_iff]
    intro t ht
    rw [keptFields] at ht
    split at ht
    · rcases List.mem_append.1 ht with ht | ht
      · obtain ⟨field, _, rfl⟩ := List.mem_map.1 ht
        exact Bool.false_ne_true
      · rw [List.mem_singleton.1 ht]
        exact Bool.false_ne_true
    · exact absurd ht List.not_mem_nil
  have hgap : (bodyGap (spaced s bs)).filter Token.isHeader = [] := by
    rw [bodyGap]
    split <;> rfl
  have hfoot : [Token.rule, .attribution footer].filter Token.isHeader = [] := rfl
  simp only [keptTokens, List.filter_append, md.filter_isHeader_titleTokens, hfields,
    filter_isHeader_spaced, hgap, hfoot, List.append_nil, List.nil_append, headers]

/-- The title of a block, if it has one, stands on one of the lines. -/
def Block.IsTitledIn (m : Char) (lines : List Text) (b : Block) : Prop :=
  ∀ title ∈ b.title?, ∃ line ∈ lines, ∃ text ∈ Line.commentText? m line,
    Line.heading? text = some title

/-- A title that stands on one of some lines stands on one of more lines. -/
theorem Block.IsTitledIn.mono {m : Char} {lines lines' : List Text} {b : Block}
    (h : b.IsTitledIn m lines) (hsub : lines ⊆ lines') : b.IsTitledIn m lines' := by
  intro title htitle
  obtain ⟨line, hline, hheading⟩ := h title htitle
  exact ⟨line, hsub hline, hheading⟩

/-- Every heading of a body stands on a line of it. -/
theorem Scan.Reading.isTitledIn {m : Char} {deep : Bool} {lines rest : List Text}
    {bs : List Block} (h : Reading m deep lines bs rest) : ∀ b ∈ bs, b.IsTitledIn m lines := by
  have hlater (line : Text) (after : List Text) (f : Text → Bool) :
      after.dropWhile f ⊆ line :: after :=
    fun _ hl => List.mem_cons_of_mem _ ((List.dropWhile_suffix f).subset hl)
  induction h with
  | nil | code => exact fun b hb => absurd hb List.not_mem_nil
  | blank _ _ ih | stray _ _ _ _ _ ih =>
    exact fun b hb => (ih b hb).mono (List.subset_cons_self _ _)
  | license _ _ ih => exact fun b hb => (ih b hb).mono (hlater _ _ _)
  | @heading deep line title after _ _ _ hheading _ ih =>
    refine List.forall_mem_cons.2 ⟨?_, fun b hb => (ih b hb).mono (List.subset_cons_self _ _)⟩
    rintro _ ⟨⟩
    rw [headingAt?] at hheading
    split at hheading
    · obtain ⟨text, htext, hshape⟩ := Option.bind_eq_some_iff.1 hheading
      exact ⟨line, List.mem_cons_self, text, htext, hshape⟩
    · simp at hheading
  | block _ _ _ _ ih =>
    refine List.forall_mem_cons.2 ⟨?_, fun b hb => (ih b hb).mono (hlater _ _ _)⟩
    intro title htitle
    rw [Block.title?, isHeading_blockKind] at htitle
    exact absurd htitle (by simp)

/-! ## Which of them show a text -/

namespace Page

variable {s : Settings} {md : Metadata} {bs : List Block} {t : Token}

/-- A header is that of the title or that of a heading. -/
theorem mem_headers_iff : t ∈ headers s md bs ↔
    md.header? s = some t ∨ ∃ b ∈ bs, b.header? s = some t := by
  rw [headers, List.mem_append, Option.mem_toList, List.mem_filterMap]

/-- All headers have the form of one, whether they show a text or not. -/
theorem exists_heads_of_mem_headers (h : t ∈ headers s md bs) :
    ∃ level text, t.Heads level text := by
  rcases mem_headers_iff.1 h with ht | ⟨b, _, ht⟩
  · obtain ⟨level, text, hheads, _⟩ := Metadata.showsText_header t ht
    exact ⟨level, text, hheads⟩
  · obtain ⟨_, level, _, hheads⟩ := Block.exists_heads ht
    exact ⟨level, _, hheads⟩

/-- All headers show a text if something remains of every heading. -/
theorem forall_showsText_iff : (∀ t ∈ headers s md bs, t.ShowsText) ↔
    ∀ b ∈ bs, ∀ title ∈ b.title?, Line.NotOnlyPeriods title := by
  constructor
  · intro hall b hb title htitle
    have hheader : b.header? s = some _ := Option.map_eq_some_iff.2 ⟨title, htitle, rfl⟩
    obtain ⟨title', level, htitle', hheads⟩ := Block.exists_heads hheader
    obtain rfl : title' = title := Option.some.inj (htitle'.symm.trans htitle)
    exact hheads.showsText_withoutPeriods_iff.1
      (hall _ (mem_headers_iff.2 (.inr ⟨b, hb, hheader⟩)))
  · intro hall t ht
    rcases mem_headers_iff.1 ht with ht | ⟨b, hb, ht⟩
    · exact Metadata.showsText_header t ht
    · obtain ⟨title, level, htitle, hheads⟩ := Block.exists_heads ht
      exact hheads.showsText_withoutPeriods_iff.2 (hall b hb title htitle)

/-- A document whose body has been read gives a page, if there is a footer and no hook. -/
theorem emit_eq_keptTokens {tree : FileTree} {config : Config} {doc : Document} {footer : Text}
    (hhooks : config.hooks = [])
    (hfooter : Footer.render tree config.toSettings doc.sourceName = .ok footer)
    (hblocks : doc.blocks config.toSettings = .ok bs) (hlines : ∀ b ∈ bs, b.lines ≠ []) :
    emit tree config doc = .ok ⟨keptTokens config.toSettings
      (Metadata.ofDocument config.toSettings doc) (spaced config.toSettings bs) footer⟩ := by
  have hspaced := blocksEmission_eq_spaced hlines config.toSettings
  obtain ⟨ts, hts, hbody⟩ := blocksEmissionAfter_of_lines hlines config.toSettings none
  obtain rfl : ts = spaced config.toSettings bs :=
    congrArg Emission.tokens (hts.symm.trans hspaced)
  have hpage := appendAll_page config.toSettings (Metadata.ofDocument config.toSettings doc) hbody
    footer
  have hemission : (pageEmission config.toSettings doc bs footer).andThen
      (hooksEmission config.hooks) =
        .ofTokens ((Metadata.ofDocument config.toSettings doc).tokens config.toSettings ++
          (spaced config.toSettings bs ++ [.blank, .rule, .attribution footer])) := by
    rw [pageEmission, hspaced, hhooks]
    exact congrArg Emission.ofTokens (List.append_nil _)
  simp only [emit, hblocks, hfooter, hemission, Emission.error_ofTokens, Emission.into,
    Emission.tokens_ofTokens, hpage]

end Page

/-- Without hooks, a page is made whenever there is a footer, and its headers are those of the title
and of the headings, each of which stands on a line of the document. -/
theorem exists_headers (tree : FileTree) (config : Config) (doc : Document) {footer : Text}
    (hhooks : config.hooks = [])
    (hfooter : Footer.render tree config.toSettings doc.sourceName = .ok footer) :
    ∃ bs sink, doc.blocks config.toSettings = .ok bs ∧ emit tree config doc = .ok sink ∧
      sink.tokens.filter Token.isHeader =
        Page.headers config.toSettings (Metadata.ofDocument config.toSettings doc) bs ∧
      ∀ b ∈ bs, b.IsTitledIn config.marker doc.lines := by
  obtain ⟨bs, rest, hreading⟩ := Scan.exists_reading config.marker false
    (doc.lines.dropWhile (!Line.opens config.marker .commentary ·)).tail
  have hblocks : doc.blocks config.toSettings = .ok bs :=
    (Scan.blocks_ofDocument _ _).trans hreading.blocks_eq
  refine ⟨bs, _, hblocks, Page.emit_eq_keptTokens hhooks hfooter hblocks hreading.lines_ne_nil,
    Page.filter_isHeader_keptTokens _ _ _ _, fun b hb => ?_⟩
  refine (hreading.isTitledIn b hb).mono fun line hline => ?_
  exact (List.dropWhile_suffix _).subset (List.mem_of_mem_tail hline)

/-- Without hooks, the headers of a page are that of the title and one for each heading, in order,
and each is one to three number signs, a space and a text. The title's always shows its text, and
all do exactly if no heading is made of periods and blanks only; so they do if no line of the
document has the shape of such a heading. -/
theorem emit_shows_headers_iff (tree : FileTree) (config : Config) (doc : Document) {footer : Text}
    (hhooks : config.hooks = [])
    (hfooter : Footer.render tree config.toSettings doc.sourceName = .ok footer) :
    let s := config.toSettings
    let md := Metadata.ofDocument s doc
    ∃ bs sink, doc.blocks s = .ok bs ∧ emit tree config doc = .ok sink ∧
      sink.tokens.filter Token.isHeader = Page.headers s md bs ∧
      (∀ t ∈ sink.tokens, t.isHeader = true → ∃ level text, t.Heads level text) ∧
      (∀ t ∈ md.header? s, t.ShowsText) ∧
      ((∀ t ∈ sink.tokens, t.isHeader = true → t.ShowsText) ↔
        ∀ b ∈ bs, ∀ title ∈ b.title?, Line.NotOnlyPeriods title) ∧
      ((∀ line ∈ doc.lines, ∀ text ∈ Line.commentText? s.marker line,
          ∀ title ∈ Line.heading? text, Line.NotOnlyPeriods title) →
        ∀ t ∈ sink.tokens, t.isHeader = true → t.ShowsText) := by
  intro s md
  obtain ⟨bs, sink, hblocks, hemit, hheaders, htitled⟩ :=
    exists_headers tree config doc hhooks hfooter
  have hall (P : Token → Prop) : (∀ t ∈ sink.tokens, t.isHeader = true → P t) ↔
      ∀ t ∈ Page.headers s md bs, P t := by
    rw [← hheaders]
    simp only [List.mem_filter, and_imp]
  have hiff := (hall Token.ShowsText).trans Page.forall_showsText_iff
  refine ⟨bs, sink, hblocks, hemit, hheaders, ?_, Metadata.showsText_header, hiff, ?_⟩
  · exact (hall _).2 fun t ht => Page.exists_heads_of_mem_headers ht
  · intro hshapes
    refine hiff.2 fun b hb title htitle => ?_
    obtain ⟨line, hline, text, htext, hheading⟩ := htitled b hb title htitle
    exact hshapes line hline text htext title hheading

/-- The default configuration has a footer. -/
theorem exists_footer_default : ∃ footer, Footer.render .empty .default none = .ok footer := by
  have hok : (Footer.render .empty .default none).isOk = true := by decide +kernel
  cases hfooter : Footer.render .empty .default none with
  | error => rw [hfooter] at hok; exact Bool.noConfusion hok
  | ok footer => exact ⟨footer, rfl⟩

/-- A title and a heading with periods and blanks behind their texts. -/
theorem emit_shows_headers_iff_titled :
    let s := Config.default.toSettings
    let doc := Document.ofLines s.markers [";;; x.el --- Tool. .".toList, ";;; Commentary:".toList,
      ";; See `x'. ..:".toList, ";;".toList] none
    Config.default.hooks = [] ∧ (∃ footer, Footer.render .empty s none = .ok footer) ∧
      ∃ sink, emit .empty .default doc = .ok sink ∧
        sink.tokens.filter Token.isHeader =
          [.header 1 "Tool".toList, .header 2 "See `x`".toList] ∧
        ∀ t ∈ sink.tokens, t.isHeader = true → t.ShowsText := by
  intro s doc
  obtain ⟨footer, hfooter⟩ := exists_footer_default
  obtain ⟨bs, sink, hblocks, hemit, hheaders, -, -, hiff, -⟩ :=
    emit_shows_headers_iff .empty .default doc rfl hfooter
  obtain rfl : bs = [⟨.heading, ["See `x'. ..".toList], some .two⟩] :=
    Except.ok.inj (hblocks.symm.trans (by decide +kernel))
  refine ⟨rfl, ⟨footer, hfooter⟩, sink, hemit, hheaders.trans (by decide +kernel), hiff.2 ?_⟩
  intro b hb title htitle
  obtain rfl := List.mem_singleton.1 hb
  obtain rfl := Option.some.inj htitle
  exact ⟨'S', by decide, by decide⟩

/-- A heading of periods gives a header that shows nothing. -/
theorem emit_hides_heading : ¬ ∀ (tree : FileTree) (config : Config) (doc : Document) (sink : Sink),
    config.hooks = [] → emit tree config doc = .ok sink →
      ∀ t ∈ sink.tokens, t.isHeader = true → t.ShowsText := by
  intro h
  let doc := Document.ofLines Config.default.markers
    [";;; Commentary:".toList, ";; ...:".toList, ";;".toList] none
  obtain ⟨footer, hfooter⟩ := exists_footer_default
  obtain ⟨bs, sink, hblocks, hemit, hheaders, -⟩ :=
    exists_headers .empty .default doc rfl hfooter
  obtain rfl : bs = [⟨.heading, ["...".toList], some .two⟩] :=
    Except.ok.inj (hblocks.symm.trans (by decide +kernel))
  have hmem : Token.header 2 [] ∈ sink.tokens.filter Token.isHeader := by
    rw [hheaders]
    decide +kernel
  obtain ⟨htoken, hkind⟩ := List.mem_filter.1 hmem
  have hheads : (Token.header 2 []).Heads 2 [] := Token.heads_header (by decide) (by decide) []
  exact Bool.noConfusion (hheads.showsText_iff.1 (h _ _ _ _ rfl hemit _ htoken hkind))

end Commentary
