import Commentary.Conversion
import Commentary.Proofs.Header
import Commentary.Proofs.Spacing

/-!
# The page of a document

The output for a document is its title, its declared fields, what its body gives alone, a rule and
the footer. An empty line stands behind each part that is there, whatever parts are there.
-/

namespace Commentary

namespace Page

/-! ## The parts of a page -/

/-- The lines behind the line that opens the commentary. -/
def bodyLines (index : Option Nat) (lines : List Text) : List Text :=
  index.elim [] fun i => lines.drop (i + 1)

/-- The title and an empty line. -/
def titleText (s : Settings) (title : Text) : Text :=
  if title = [] then [] else ['#', ' '] ++ Inline.toMarkdown s title ++ ['\n', '\n']

/-- The line of a field that is declared. -/
def fieldText (label : Text) (value : Option Text) : Text :=
  value.elim [] fun t => ['*'] ++ label ++ ":* ".toList ++ t ++ "<br>\n".toList

/-- The declared fields and an empty line, if a commentary follows and there is a field at all. -/
def fieldsText (index : Option Nat) (md : Metadata) : Text :=
  if index ≠ none ∧ (md.author ≠ none ∨ md.version ≠ none ∨ md.url ≠ none) then
    fieldText "Author".toList md.author ++ fieldText "Version".toList md.version ++
      fieldText "URL".toList md.url ++ ['\n']
  else []

/-- An empty line behind a body that is not empty, a rule and the footer. -/
def footText (body footer : Text) : Text :=
  (if body = [] then [] else ['\n']) ++ ['-', '-', '-', '\n'] ++ footer ++ ['\n']

/-- Whether a token is a header of level 1. -/
def isTopHeader (t : Token) : Bool := t.kind == .header && ['#', ' '].isPrefixOf t.text

/-- How the tokens of a page are arranged. -/
structure Arranged (s : Settings) (title footer : Text) (tokens : List Token) : Prop where
  /-- A page has a header of level 1 exactly if it has a title. -/
  top_iff : (∃ t ∈ tokens, isTopHeader t = true) ↔ title ≠ []
  /-- The title is the first token. -/
  top_first : title ≠ [] → tokens.head? = some (.header 1 (Inline.toMarkdown s title))
  /-- No later token is a header of level 1. -/
  top_once : ∀ t ∈ tokens.tail, isTopHeader t = false
  /-- A rule and the footer are the last tokens, and the only ones of their kinds. -/
  foot : ∃ before, tokens = before ++ [.rule, .attribution footer] ∧
    ∀ t ∈ before, t.kind ≠ .rule ∧ t.kind ≠ .attribution

/-! ## The tokens of a page -/

/-- The declared fields as they are kept behind an empty line. -/
def keptFields (md : Metadata) : List Token :=
  if md.hasCommentary = true ∧ md.declared ≠ [] then md.declared.map fieldToken ++ [.blank] else []

/-- The empty line behind a body. -/
def bodyGap (body : List Token) : List Token := if body = [] then [] else [.blank]

/-- All tokens of a page that are kept. -/
def keptTokens (s : Settings) (md : Metadata) (body : List Token) (footer : Text) : List Token :=
  md.titleTokens s ++ (keptFields md ++ (body ++ bodyGap body)) ++ [.rule, .attribution footer]

variable {s : Settings} {md : Metadata} {body : List Token} {footer : Text}

private theorem appendAll_titleTokens (s : Settings) (md : Metadata) :
    Sink.empty.appendAll (md.titleTokens s) = ⟨md.titleTokens s⟩ ∧
      (⟨md.titleTokens s⟩ : Sink).refusesBlank = true := by
  simp only [Metadata.titleTokens]
  split
  · exact ⟨rfl, rfl⟩
  · exact ⟨rfl, rfl⟩

private theorem appendAll_fieldTokens {sink : Sink} (h : sink.refusesBlank = true) (md : Metadata) :
    sink.appendAll md.fieldTokens = ⟨sink.tokens ++ keptFields md⟩ ∧
      (⟨sink.tokens ++ keptFields md⟩ : Sink).refusesBlank = true := by
  have hnone : (⟨sink.tokens ++ []⟩ : Sink) = sink := by rw [List.append_nil]
  rw [Metadata.fieldTokens, keptFields]
  cases hcommentary : md.hasCommentary with
  | false =>
    rw [if_neg (by simp), if_neg (by simp), hnone]
    exact ⟨rfl, h⟩
  | true =>
    by_cases hdeclared : md.declared = []
    · -- the empty line of a header without fields is dropped
      rw [if_pos rfl, if_neg (by simp [hdeclared]), hnone, hdeclared]
      exact ⟨Sink.append_blank h, h⟩
    · rw [if_pos rfl, if_pos ⟨rfl, hdeclared⟩]
      have hfields : ∀ t ∈ md.declared.map fieldToken, t.isBlank = false := by
        intro t ht
        obtain ⟨field, _, rfl⟩ := List.mem_map.1 ht
        rfl
      have hkeeps : Sink.keepsAll sink.refusesBlank (md.declared.map fieldToken ++ [.blank]) =
          true := Sink.keepsAll_append (by simpa using hdeclared) hfields
      refine ⟨Sink.appendAll_of_keepsAll hkeeps, ?_⟩
      exact Sink.refusesBlank_of_getLast? (t := .blank) (by simp)

private theorem appendAll_body {sink : Sink} (h : sink.refusesBlank = true)
    (hbody : IsBody true body) :
    sink.appendAll body = ⟨sink.tokens ++ body⟩ ∧
      (⟨sink.tokens ++ body⟩ : Sink).refusesBlank = decide (body = []) := by
  refine ⟨Sink.appendAll_of_keepsAll (by rw [h]; exact hbody.keeps), ?_⟩
  by_cases hnil : body = []
  · rw [hnil, List.append_nil]
    exact h
  · have hlast := List.getLast?_eq_some_getLast hnil
    rw [Sink.refusesBlank_of_getLast? ((List.getLast?_append_of_ne_nil _ hnil).trans hlast),
      hbody.last _ hlast, decide_eq_false hnil]

private theorem appendAll_foot (sink : Sink) (footer : Text) :
    sink.appendAll [.blank, .rule, .attribution footer] =
      ⟨sink.tokens ++ (if sink.refusesBlank = true then [] else [.blank]) ++
        [.rule, .attribution footer]⟩ := by
  cases h : sink.refusesBlank with
  | true =>
    rw [Sink.appendAll_cons, Sink.append_blank h, if_pos rfl, List.append_nil]
    exact Sink.appendAll_of_keepsAll rfl
  | false =>
    rw [if_neg (by simp), List.append_assoc]
    exact Sink.appendAll_of_keepsAll (by rw [h]; rfl)

/-- What an empty sink keeps of a page: of the empty lines, those behind parts that are there. -/
theorem appendAll_page (s : Settings) (md : Metadata) (hbody : IsBody true body) (footer : Text) :
    Sink.empty.appendAll (md.tokens s ++ (body ++ [.blank, .rule, .attribution footer])) =
      ⟨keptTokens s md body footer⟩ := by
  obtain ⟨htitle, hrefuses⟩ := appendAll_titleTokens s md
  obtain ⟨hfields, hrefuses⟩ := appendAll_fieldTokens hrefuses md
  obtain ⟨hbody, hrefuses⟩ := appendAll_body hrefuses hbody
  rw [Metadata.tokens, Sink.appendAll_append, Sink.appendAll_append, Sink.appendAll_append, htitle,
    hfields, hbody, appendAll_foot, hrefuses, keptTokens, bodyGap]
  simp only [decide_eq_true_eq, List.append_assoc]

/-! ## Their arrangement -/

/-- Blocks hand over no header of level 1, no rule and no footer. -/
theorem not_isTopHeader_of_isBodyToken {t : Token} (h : t.IsBodyToken) : isTopHeader t = false := by
  cases h with
  | heading level => cases level <;> rfl
  | line | blank => rfl

/-- Blocks hand over neither a rule nor an attribution. -/
theorem kind_of_isBodyToken {t : Token} (h : t.IsBodyToken) :
    t.kind ≠ .rule ∧ t.kind ≠ .attribution := by
  cases h with
  | heading | line | blank => exact ⟨TokenKind.noConfusion, TokenKind.noConfusion⟩

private theorem isBodyToken_of_mem_keptFields {t : Token} (h : t ∈ keptFields md) :
    t.IsBodyToken := by
  rw [keptFields] at h
  split at h
  · rcases List.mem_append.1 h with h | h
    · obtain ⟨field, _, rfl⟩ := List.mem_map.1 h
      exact .line _
    · rw [List.mem_singleton.1 h]
      exact .blank
  · exact absurd h List.not_mem_nil

private theorem isBodyToken_of_mem_bodyGap {t : Token} (h : t ∈ bodyGap body) : t.IsBodyToken := by
  rw [bodyGap] at h
  split at h
  · exact absurd h List.not_mem_nil
  · rw [List.mem_singleton.1 h]
    exact .blank

/-- The title comes first, the rule and the footer last, and they do not come again in between. -/
theorem arranged_keptTokens (s : Settings) (md : Metadata) (hbody : IsBody true body)
    (footer : Text) :
    Arranged s (Line.withoutPeriods (md.title.getD [])) footer (keptTokens s md body footer) := by
  have hmiddle : ∀ t ∈ keptFields md ++ (body ++ bodyGap body), t.IsBodyToken := by
    simp only [List.mem_append]
    rintro t (ht | ht | ht)
    · exact isBodyToken_of_mem_keptFields ht
    · exact hbody.body t ht
    · exact isBodyToken_of_mem_bodyGap ht
  have hlater : ∀ t ∈ keptFields md ++ (body ++ bodyGap body) ++ [.rule, .attribution footer],
      isTopHeader t = false := by
    intro t ht
    rcases List.mem_append.1 ht with ht | ht
    · exact not_isTopHeader_of_isBodyToken (hmiddle t ht)
    · simp only [List.mem_cons, List.not_mem_nil, or_false] at ht
      rcases ht with rfl | rfl <;> rfl
  rw [keptTokens, Metadata.titleTokens, List.append_assoc]
  by_cases htitle : Line.withoutPeriods (md.title.getD []) = []
  · simp only [htitle, beq_self_eq_true, ite_true, List.nil_append]
    refine ⟨?_, fun h => absurd rfl h, fun t ht => hlater t (List.mem_of_mem_tail ht),
      _, rfl, fun t ht => kind_of_isBodyToken (hmiddle t ht)⟩
    refine iff_of_false ?_ (not_not_intro rfl)
    rintro ⟨t, ht, htop⟩
    rw [hlater t ht] at htop
    exact Bool.noConfusion htop
  · simp only [beq_iff_eq, htitle, ite_false, List.cons_append, List.nil_append]
    refine ⟨iff_of_true ⟨_, List.mem_cons_self, rfl⟩ htitle, fun _ => rfl, ?_, ?_⟩
    · exact List.forall_mem_cons.2 ⟨rfl, hlater⟩
    · refine ⟨_ :: _ :: (keptFields md ++ (body ++ bodyGap body)), rfl, ?_⟩
      refine List.forall_mem_cons.2 ⟨⟨TokenKind.noConfusion, TokenKind.noConfusion⟩, ?_⟩
      exact List.forall_mem_cons.2 ⟨kind_of_isBodyToken .blank, fun t ht =>
        kind_of_isBodyToken (hmiddle t ht)⟩

/-! ## Their text -/

private theorem value_titleTokens (s : Settings) (md : Metadata) :
    (⟨md.titleTokens s⟩ : Sink).value = titleText s (Line.withoutPeriods (md.title.getD [])) := by
  simp only [Metadata.titleTokens, titleText, beq_iff_eq]
  split
  · rfl
  · simp [Sink.value, Token.header, Token.blank]

private theorem text_fieldToken (field : Metadata.Field) (t : Text) :
    (fieldToken (field, t)).text ++ ['\n'] = fieldText field.label (some t) := by
  have hbreak : "<br>\n".toList = lineBreak ++ ['\n'] := by decide
  simp only [fieldText, hbreak, fieldToken, Token.line, Option.elim_some, List.append_assoc,
    List.cons_append, List.nil_append]

private theorem declared_ne_nil_iff :
    md.declared ≠ [] ↔ md.author ≠ none ∨ md.version ≠ none ∨ md.url ≠ none := by
  rw [Metadata.declared]
  cases md.author <;> cases md.version <;> cases md.url <;> simp

private theorem value_declared (md : Metadata) : (⟨md.declared.map fieldToken⟩ : Sink).value =
    fieldText (Metadata.Field.label .author) md.author ++
      fieldText (Metadata.Field.label .version) md.version ++
      fieldText (Metadata.Field.label .url) md.url := by
  have hfield (field : Metadata.Field) (value : Option Text) :
      ((value.map (field, ·)).toList.flatMap fun f => (fieldToken f).text ++ ['\n']) =
        fieldText field.label value := by
    cases value with
    | none => rfl
    | some t => rw [← text_fieldToken]; exact List.append_nil _
  rw [← hfield, ← hfield, ← hfield, Metadata.declared]
  cases md.author <;> cases md.version <;> cases md.url <;> simp [Sink.value]

private theorem value_keptFields {index : Option Nat} (h : md.hasCommentary = index.isSome) :
    (⟨keptFields md⟩ : Sink).value = fieldsText index md := by
  have hindex : md.hasCommentary = true ↔ index ≠ none := by rw [h, Option.isSome_iff_ne_none]
  simp only [keptFields, fieldsText, hindex, declared_ne_nil_iff]
  split
  · rw [Sink.value_append, value_declared]
    rfl
  · rfl

private theorem value_bodyGap (body : List Token) (footer : Text) :
    (⟨bodyGap body ++ [.rule, .attribution footer]⟩ : Sink).value =
      footText (⟨body⟩ : Sink).value footer := by
  simp only [Sink.value_append, footText, bodyGap, Sink.value_eq_nil_iff]
  split <;> simp [Sink.value, Token.rule, Token.attribution, Token.blank]

/-- The text of a page. -/
theorem value_keptTokens {index : Option Nat} (h : md.hasCommentary = index.isSome)
    (body : List Token) (footer : Text) : (⟨keptTokens s md body footer⟩ : Sink).value =
      titleText s (Line.withoutPeriods (md.title.getD [])) ++ fieldsText index md ++
        (⟨body⟩ : Sink).value ++ footText (⟨body⟩ : Sink).value footer := by
  have hparts : keptTokens s md body footer = md.titleTokens s ++ (keptFields md ++ (body ++
      (bodyGap body ++ [.rule, .attribution footer]))) := by
    simp only [keptTokens, List.append_assoc]
  rw [hparts, Sink.value_append, Sink.value_append, Sink.value_append, value_titleTokens,
    value_keptFields h, value_bodyGap]
  simp only [List.append_assoc]

/-! ## The two ways into a body -/

/-- The blocks of a document are those of the lines behind its Commentary line. -/
theorem blocks_ofLines (s : Settings) (lines : List Text) (name : Option Text) :
    Document.blocks s (.ofLines s.markers lines name) = bodyBlocks s
      (bodyLines (Metadata.commentaryIndex? s.marker (s.markers.cleanLines lines)) lines) := by
  have hbody : ((s.markers.cleanLines lines).dropWhile (!Line.opens s.marker .commentary ·)).tail =
      s.markers.cleanLines
        (bodyLines (Metadata.commentaryIndex? s.marker (s.markers.cleanLines lines)) lines) := by
    cases h : Metadata.commentaryIndex? s.marker (s.markers.cleanLines lines) with
    | none =>
      have hnone : ∀ line ∈ s.markers.cleanLines lines,
          (!Line.opens s.marker .commentary line) = true := by
        simpa [Metadata.commentaryIndex?] using h
      rw [List.dropWhile_eq_nil_iff.2 hnone]
      rfl
    | some i =>
      have hi : (s.markers.cleanLines lines).findIdx
          (fun line => !!Line.opens s.marker .commentary line) = i := by
        simpa only [Bool.not_not] using (List.findIdx?_eq_some_iff_findIdx_eq.1 h).2
      rw [List.dropWhile_eq_drop_findIdx_not, hi, List.tail_drop, Markers.cleanLines,
        ← List.map_drop]
      rfl
  rw [Document.blocks, Document.ofLines, Scan.blocks_ofDocument, hbody]
  rfl

/-- A body is always read, and what its blocks hand over is kept as it is. -/
theorem exists_body (s : Settings) (lines : List Text) :
    ∃ bs ts, bodyBlocks s lines = .ok bs ∧ blocksEmission s bs = .ofTokens ts ∧ IsBody true ts ∧
      convertBody s lines = .ok (⟨ts⟩ : Sink).value := by
  obtain ⟨bs, rest, h⟩ := Scan.exists_reading s.marker false (s.markers.cleanLines lines)
  obtain ⟨ts, hts, hbody⟩ := blocksEmissionAfter_of_lines h.lines_ne_nil s none
  have hblocks : bodyBlocks s lines = .ok bs := h.blocks_eq
  have hemission : blocksEmission s bs = .ofTokens ts := hts
  have hkept : Sink.empty.appendAll ts = ⟨ts⟩ := Sink.appendAll_of_keepsAll hbody.keeps
  refine ⟨bs, ts, hblocks, hemission, hbody, ?_⟩
  simp only [convertBody, hblocks, hemission, Emission.error_ofTokens, Emission.into,
    Emission.tokens_ofTokens, hkept]

end Page

/-- Without hooks, the output for a document is its title, its fields, what the body alone gives and
the footer; the title is the only header of level 1, and the rule and the footer come last. -/
theorem convert_eq_page (tree : FileTree) (config : Config) (lines : List Text) (name : Option Text)
    {footer : Text} (hhooks : config.hooks = [])
    (hfooter : Footer.render tree config.toSettings name = .ok footer) :
    let s := config.toSettings
    let doc := Document.ofLines s.markers lines name
    let md := Metadata.ofDocument s doc
    let index := doc.lines.findIdx? (Line.opens s.marker .commentary)
    let title := Line.withoutPeriods (md.title.getD [])
    ∃ body sink, convertBody s (Page.bodyLines index lines) = .ok body ∧
      convert tree config lines name = .ok (Page.titleText s title ++ Page.fieldsText index md ++
        body ++ Page.footText body footer) ∧
      emit tree config doc = .ok sink ∧ Page.Arranged s title footer sink.tokens := by
  intro s doc md index title
  obtain ⟨bs, ts, hblocks, hemission, hbody, hconvert⟩ :=
    Page.exists_body s (Page.bodyLines index lines)
  have hdoc : doc.blocks s = .ok bs := (Page.blocks_ofLines s lines name).trans hblocks
  have hpage := Page.appendAll_page s md hbody footer
  have hemit : emit tree config doc = .ok ⟨Page.keptTokens s md ts footer⟩ := by
    have hemission : (pageEmission s doc bs footer).andThen (hooksEmission config.hooks) =
        .ofTokens (md.tokens s ++ (ts ++ [.blank, .rule, .attribution footer])) := by
      rw [pageEmission, hemission, hhooks]
      exact congrArg Emission.ofTokens (List.append_nil _)
    have hfooter : Footer.render tree s doc.sourceName = .ok footer := hfooter
    simp only [emit, hdoc, hfooter, hemission, Emission.error_ofTokens, Emission.into,
      Emission.tokens_ofTokens, hpage, s]
  have hcommentary : md.hasCommentary = index.isSome := Metadata.hasCommentary_ofDocument s doc
  refine ⟨_, _, hconvert, ?_, hemit, Page.arranged_keptTokens s md hbody footer⟩
  rw [convert, convertDocument, hemit]
  exact congrArg Except.ok (Page.value_keptTokens hcommentary ts footer)

/-- A title that loses its periods, a field, and a body of one paragraph. -/
theorem convert_eq_page_titled :
    let lines := [";;; tool.el --- A tool.".toList, ";; Version: 1.2".toList,
      ";;; Commentary:".toList, ";; It works.".toList]
    let s := Config.default.toSettings
    Config.default.hooks = [] ∧ ∃ footer, Footer.render .empty s none = .ok footer ∧
      convert .empty .default lines none = .ok ("# A tool\n\n*Version:* 1.2<br>\n\n".toList ++
        "It works.\n".toList ++ Page.footText "It works.\n".toList footer) ∧
      ∃ sink, emit .empty .default (.ofLines s.markers lines none) = .ok sink ∧
        Page.Arranged s "A tool".toList footer sink.tokens := by
  intro lines s
  have hok : (Footer.render .empty s none).isOk = true := by decide +kernel
  cases hfooter : Footer.render .empty s none with
  | error => rw [hfooter] at hok; exact Bool.noConfusion hok
  | ok footer =>
    obtain ⟨body, sink, hbody, hconvert, hemit, harranged⟩ :=
      convert_eq_page .empty .default lines none rfl hfooter
    have hvalue : body = "It works.\n".toList :=
      Except.ok.inj (hbody.symm.trans (by decide +kernel))
    rw [hvalue] at hconvert
    refine ⟨rfl, footer, rfl, ?_, sink, hemit, harranged⟩
    rw [hconvert]
    rfl

end Commentary
