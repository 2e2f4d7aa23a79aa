import Commentary.Proofs.TitleLines
import Mathlib.Logic.Relation

/-!
# Declared fields

A header is made of the lines before the first Commentary line. Of each field the first line of the
header that declares it counts, so that the metadata are determined by the header, and a line that
does not declare a field has no part in its value, wherever it stands. A value stands behind a colon
and loses the spaces before it and the blanks behind it, but no other blank before it.
-/

namespace Commentary

namespace Text

/-! ## Values between spaces and blanks -/

/-- The plain space is a blank character. -/
theorem isSpace_of_isBlankSpace {c : Char} (h : isBlankSpace c = true) : isSpace c = true := by
  obtain rfl : c = ' ' := by simpa [isBlankSpace] using h
  decide

/-- A text is its indentation and what stands behind it. -/
theorem exists_eq_replicate_append (t : Text) :
    ∃ spaces, t = List.replicate spaces ' ' ++ dropIndent t := by
  refine ⟨indent t, ?_⟩
  have hspaces : t.takeWhile isBlankSpace = List.replicate (indent t) ' ' :=
    List.eq_replicate_of_mem fun c hc => by
      simpa [isBlankSpace] using List.mem_takeWhile_imp hc
  rw [← hspaces]
  exact List.takeWhile_append_dropWhile.symm

/-- What is left without the spaces in front and the blanks at the end. -/
theorem trimEnd_dropIndent_eq_iff {t value : Text} : trimEnd (dropIndent t) = value ↔
    (∃ spaces blanks, isBlank blanks = true ∧
      t = List.replicate spaces ' ' ++ (value ++ blanks)) ∧
    (∀ c ∈ value.head?, c ≠ ' ') ∧ value.Trimmed := by
  constructor
  · rintro rfl
    obtain ⟨spaces, hspaces⟩ := exists_eq_replicate_append t
    obtain ⟨blanks, hblanks, hend⟩ := exists_eq_dropEndWhile_append isSpace (dropIndent t)
    refine ⟨⟨spaces, blanks, hblanks, ?_⟩, ?_, trimmed_trimEnd _⟩
    · rw [trimEnd, ← hend]
      exact hspaces
    · intro c hc
      simpa [isBlankSpace] using head?_dropWhile isBlankSpace t c (head?_trimEnd hc)
  · rintro ⟨⟨spaces, blanks, hblanks, rfl⟩, hhead, htrimmed⟩
    cases value with
    | nil =>
      rw [trimEnd_eq_nil_iff, dropIndent, isBlank_dropWhile fun _ => isSpace_of_isBlankSpace,
        List.nil_append, isBlank_append, hblanks, Bool.and_true, isBlank, List.all_eq_true]
      intro c hc
      rw [List.eq_of_mem_replicate hc]
      decide
    | cons c value =>
      have hstops : ∀ d ∈ (c :: value ++ blanks).head?, isBlankSpace d = false := by
        rintro _ ⟨⟩
        simpa [isBlankSpace] using hhead c rfl
      have hspaces : ∀ d ∈ List.replicate spaces ' ', isBlankSpace d = true := by
        simp [isBlankSpace]
      rw [dropIndent, dropWhile_run hspaces hstops, trimEnd_append_blank _ hblanks,
        htrimmed.trimEnd_eq]

/-- Whether another blank than a space stands before what is visible of a text. -/
def startsTabbed (t : Text) : Bool := (dropIndent t).head?.any isSpace && !isBlank t

/-- Trimming drops the indentation anyway. -/
theorem trimStart_dropIndent (t : Text) : trimStart (dropIndent t) = trimStart t := by
  obtain ⟨spaces, hspaces⟩ := exists_eq_replicate_append t
  have hblank : ∀ c ∈ List.replicate spaces ' ', isSpace c = true := by
    intro c hc
    rw [List.eq_of_mem_replicate hc]
    decide
  conv => rhs; rw [hspaces, trimStart, List.dropWhile_append_of_pos hblank]
  rfl

/-- A trimmed text starts with a visible character. -/
theorem isSpace_of_head?_trim {t : Text} {c : Char} (h : c ∈ (trim t).head?) :
    isSpace c = false :=
  head?_dropWhile isSpace t c (head?_trimEnd h)

/-- Dropping the spaces in front is trimming there, unless another blank comes first. -/
theorem trimEnd_dropIndent_eq_trim_iff {t : Text} :
    trimEnd (dropIndent t) = trim t ↔ startsTabbed t = false := by
  have hblank : isBlank (dropIndent t) = isBlank t :=
    isBlank_dropWhile (fun _ => isSpace_of_isBlankSpace) t
  rw [trim, ← trimStart_dropIndent, startsTabbed, ← hblank]
  cases dropIndent t with
  | nil => simp [trimStart, isBlank]
  | cons c rest =>
    rw [List.head?_cons, Option.any_some]
    cases hc : isSpace c with
    | false => simp [trimStart, hc]
    | true =>
      cases hrest : isBlank (c :: rest) with
      | true =>
        have hstart : isBlank (trimStart (c :: rest)) = true := by rw [isBlank_trimStart, hrest]
        simp [trimEnd_eq_nil_iff.2 hrest, trimEnd_eq_nil_iff.2 hstart]
      | false =>
        rw [trimEnd_cons_of_visible hrest]
        simp only [Bool.not_false, Bool.and_true, Bool.true_eq_false, iff_false]
        intro heq
        have hhead : c ∈ (trim (c :: rest)).head? := by
          rw [trim, ← heq]
          rfl
        rw [isSpace_of_head?_trim hhead] at hc
        exact Bool.noConfusion hc

end Text

namespace Metadata

/-- The recorded value of a field. -/
def value? (md : Metadata) : Field → Option Text
  | .author => md.author
  | .version => md.version
  | .url => md.url

/-- How a value is recorded: an address becomes a link to itself. -/
def Field.recorded : Field → Text → Text
  | .author, v => v
  | .version, v => v
  | .url, v => link v

/-- Different addresses make different links. -/
theorem link_injective : Function.Injective link := by
  intro a b h
  have hlength : a.length = b.length := by
    have htotal := congrArg List.length h
    simp only [link, List.length_append, List.length_cons] at htotal
    omega
  simp only [link, List.cons_append, List.append_assoc, List.cons.injEq, true_and] at h
  exact (List.append_inj h hlength).1

/-- Different values of a field are recorded differently. -/
theorem Field.recorded_injective (field : Field) : Function.Injective field.recorded := by
  cases field with
  | author => exact fun _ _ h => h
  | version => exact fun _ _ h => h
  | url => exact link_injective

/-! ## Lines that declare a field -/

/-- `rest` stands behind the colon of a line that names `field`. -/
def AfterColon (m : Char) (field : Field) (line rest : Text) : Prop :=
  ∃ k, 1 ≤ k ∧ line = List.replicate k m ++ ' ' :: (field.label ++ ':' :: rest)

/-- A line that declares a value for a field. -/
structure Declares (m : Char) (field : Field) (line value : Text) : Prop where
  /-- The value stands behind the colon, spaces before it and blanks behind it. -/
  place : ∃ spaces blanks, Text.isBlank blanks = true ∧
    AfterColon m field line (List.replicate spaces ' ' ++ (value ++ blanks))
  /-- The value does not start with one of these spaces. -/
  head_ne_space : ∀ c ∈ value.head?, c ≠ ' '
  /-- The value does not end in one of these blanks. -/
  trimmed : value.Trimmed
  /-- The value stands on one line. -/
  newline_not_mem : '\n' ∉ value

variable {m : Char} {field : Field} {line rest value : Text}

/-- What stands after the colon of a field can be computed from the line. -/
theorem afterColon_iff : AfterColon m field line rest ↔
    (afterMarkersAndSpace? m line).bind (List.isPrefixOf? (field.label ++ [':'])) = some rest := by
  have hlabel : ∀ c ∈ (field.label ++ ':' :: rest).head?, c ≠ ' ' := by
    cases field <;> rintro _ ⟨⟩ <;> decide
  rw [Option.bind_eq_some_iff]
  constructor
  · rintro ⟨k, hk, rfl⟩
    refine ⟨_, afterMarkersAndSpace?_eq_some_iff.2 ⟨⟨k, hk, rfl⟩, fun _ => hlabel⟩, ?_⟩
    have hafter : List.isPrefixOf? (field.label ++ [':']) (field.label ++ [':'] ++ rest) =
        some rest := List.isPrefixOf?_eq_some_iff_append_eq.2 rfl
    rwa [List.append_assoc, List.singleton_append] at hafter
  · rintro ⟨body, hbody, hafter⟩
    obtain ⟨⟨k, hk, rfl⟩, -⟩ := afterMarkersAndSpace?_eq_some_iff.1 hbody
    refine ⟨k, hk, ?_⟩
    rw [← List.append_eq_of_isPrefixOf?_eq_some hafter, List.append_assoc, List.singleton_append]

/-- The value of a field is what stands after the colon, without the spaces in front and the blanks
behind, if it is one line. -/
theorem fieldValue?_eq_some_iff_afterColon : fieldValue? m field line = some value ↔
    ∃ rest, AfterColon m field line rest ∧ Text.trimEnd (Text.dropIndent rest) = value ∧
      '\n' ∉ value := by
  simp only [fieldValue?, afterColon_iff, Option.bind_eq_bind, Option.bind_eq_some_iff]
  constructor
  · rintro ⟨body, hbody, rest, hrest, hvalue⟩
    split at hvalue
    · simp at hvalue
    · next hbreak =>
      obtain rfl := Option.some.inj hvalue
      exact ⟨rest, ⟨body, hbody, hrest⟩, rfl, by simpa using hbreak⟩
  · rintro ⟨rest, ⟨body, hbody, hrest⟩, rfl, hbreak⟩
    exact ⟨body, hbody, rest, hrest, if_neg (by simpa using hbreak)⟩

/-- The value of a line is what the line declares. -/
theorem fieldValue?_eq_some_iff :
    fieldValue? m field line = some value ↔ Declares m field line value := by
  rw [fieldValue?_eq_some_iff_afterColon]
  constructor
  · rintro ⟨rest, hrest, hvalue, hbreak⟩
    obtain ⟨⟨spaces, blanks, hblanks, rfl⟩, hhead, htrimmed⟩ :=
      Text.trimEnd_dropIndent_eq_iff.1 hvalue
    exact ⟨⟨spaces, blanks, hblanks, hrest⟩, hhead, htrimmed, hbreak⟩
  · rintro ⟨⟨spaces, blanks, hblanks, hrest⟩, hhead, htrimmed, hbreak⟩
    exact ⟨_, hrest, Text.trimEnd_dropIndent_eq_iff.2
      ⟨⟨spaces, blanks, hblanks, rfl⟩, hhead, htrimmed⟩, hbreak⟩

/-- No value is read from a line that declares none, and from no other. -/
theorem fieldValue?_eq_none_iff :
    fieldValue? m field line = none ↔ ∀ value, ¬ Declares m field line value := by
  simp only [Option.eq_none_iff_forall_ne_some, ne_eq, fieldValue?_eq_some_iff]

/-! ## The first line that declares a field -/

/-- What the first line of a header to declare a field declares. -/
inductive FirstDeclared (m : Char) (field : Field) : (header : List Text) → Option Text → Prop
  | absent {header : List Text} : (∀ line ∈ header, ∀ v, ¬ Declares m field line v) →
      FirstDeclared m field header none
  | found {before after : List Text} {line value : Text} :
      (∀ earlier ∈ before, ∀ v, ¬ Declares m field earlier v) → Declares m field line value →
      FirstDeclared m field (before ++ line :: after) (some value)

/-- The first value that a header declares is the one that is read from it. -/
theorem firstDeclared_iff {header : List Text} {found : Option Text} :
    FirstDeclared m field header found ↔ headerField? m field header = found := by
  constructor
  · rintro (hnone | ⟨hbefore, hline⟩)
    · exact List.findSome?_eq_none_iff.2 fun line hline =>
        fieldValue?_eq_none_iff.2 (hnone line hline)
    · exact List.findSome?_eq_some_iff.2 ⟨_, _, _, rfl, fieldValue?_eq_some_iff.2 hline,
        fun earlier hearlier => fieldValue?_eq_none_iff.2 (hbefore earlier hearlier)⟩
  · intro h
    cases found with
    | none =>
      rw [headerField?, List.findSome?_eq_none_iff] at h
      exact .absent fun line hline => fieldValue?_eq_none_iff.1 (h line hline)
    | some value =>
      rw [headerField?, List.findSome?_eq_some_iff] at h
      obtain ⟨before, line, after, rfl, hvalue, hbefore⟩ := h
      exact .found (fun earlier hearlier => fieldValue?_eq_none_iff.1 (hbefore earlier hearlier))
        (fieldValue?_eq_some_iff.1 hvalue)

/-! ## Headers -/

/-- `header` are the lines before the first Commentary line. -/
def IsHeader (m : Char) (header lines : List Text) : Prop :=
  (∀ line ∈ header, Line.opens m .commentary line = false) ∧
    ∃ line after, Line.opens m .commentary line = true ∧ lines = header ++ line :: after

/-- The metadata that a header gives. -/
def ofHeader (s : Settings) (header : List Text) : Metadata :=
  let titleLine := header.head?.bind (titleLine? s)
  { title := titleLine.bind TitleLine.title?
    packageName := titleLine.map TitleLine.stem
    author := headerField? s.marker .author header
    version := headerField? s.marker .version header
    url := (headerField? s.marker .url header).map link
    hasCommentary := true }

/-- The metadata of a header record the value that is read from it. -/
theorem value?_ofHeader (s : Settings) (header : List Text) (field : Field) :
    (ofHeader s header).value? field = (headerField? s.marker field header).map field.recorded := by
  cases field with
  | author => exact Option.map_id_apply.symm
  | version => exact Option.map_id_apply.symm
  | url => rfl

variable {s : Settings} {doc : Document} {header header' lines : List Text}

/-- The commentary starts right behind the header. -/
theorem IsHeader.commentaryIndex?_eq (h : IsHeader m header lines) :
    commentaryIndex? m lines = some header.length ∧ lines.take header.length = header := by
  obtain ⟨hheader, line, after, hline, rfl⟩ := h
  refine ⟨?_, List.take_left⟩
  have hnone : header.findIdx? (Line.opens m .commentary) = none :=
    List.findIdx?_eq_none_iff.2 hheader
  rw [commentaryIndex?, List.findIdx?_append, hnone, List.findIdx?_cons, hline]
  simp

/-- Either no line opens the commentary, or the lines start with a header. -/
theorem forall_not_opens_or_isHeader (m : Char) (lines : List Text) :
    (∀ line ∈ lines, Line.opens m .commentary line = false) ∨
      ∃ header, IsHeader m header lines := by
  cases hfind : lines.find? (Line.opens m .commentary) with
  | none => exact .inl (by simpa using hfind)
  | some line =>
    obtain ⟨hline, header, after, rfl, hheader⟩ := List.find?_eq_some_iff_append.1 hfind
    exact .inr ⟨header, by simpa using hheader, line, after, hline, rfl⟩

/-- A title line has a dot behind its markers. -/
theorem dot_mem_of_titleLine? {t : TitleLine} (h : titleLine? s line = some t) :
    ∃ body, afterMarkersAndSpace? s.marker line = some body ∧ '.' ∈ body := by
  simp only [titleLine?, Option.bind_eq_bind, Option.bind_eq_some_iff] at h
  obtain ⟨body, hbody, h⟩ := h
  refine ⟨body, hbody, ?_⟩
  split at h
  · simp at h
  · obtain ⟨dashes, hdashes, -⟩ := Option.bind_eq_some_iff.1 h
    apply (List.drop_suffix _ body).subset
    rw [← List.append_eq_of_isPrefixOf?_eq_some hdashes]
    exact List.mem_cons_self

/-- A Commentary line is no title line. -/
theorem titleLine?_of_opens (h : Line.opens s.marker .commentary line = true) :
    titleLine? s line = none := by
  rw [Option.eq_none_iff_forall_ne_some]
  intro t ht
  obtain ⟨body, hbody, hdot⟩ := dot_mem_of_titleLine? ht
  obtain ⟨ending, hending, hline⟩ : ∃ ending : Text, '.' ∉ ending ∧
      line = List.replicate 3 s.marker ++ ' ' :: (Line.Section.commentary.title ++ ending) := by
    rw [Line.opens, Bool.or_eq_true, beq_iff_eq, beq_iff_eq] at h
    rcases h with rfl | rfl
    · exact ⟨[], List.not_mem_nil, by rw [List.append_nil]; rfl⟩
    · exact ⟨['\n'], by decide, rfl⟩
  have htitle : afterMarkersAndSpace? s.marker line =
      some (Line.Section.commentary.title ++ ending) := by
    refine afterMarkersAndSpace?_eq_some_iff.2 ⟨⟨3, by decide, hline⟩, fun _ => ?_⟩
    rintro _ ⟨⟩
    decide
  rw [htitle] at hbody
  obtain rfl := Option.some.inj hbody
  rcases List.mem_append.1 hdot with hmem | hmem
  · exact absurd hmem (by decide)
  · exact hending hmem

/-- The title line of a document, if it has one, stands in the header. -/
theorem IsHeader.head?_bind_titleLine? (h : IsHeader s.marker header lines) :
    lines.head?.bind (titleLine? s) = header.head?.bind (titleLine? s) := by
  obtain ⟨-, line, after, hline, rfl⟩ := h
  cases header with
  | nil => exact titleLine?_of_opens hline
  | cons first header => rfl

/-- The metadata of a document are those of its header. -/
theorem IsHeader.ofDocument_eq (h : IsHeader s.marker header doc.lines) :
    ofDocument s doc = ofHeader s header := by
  obtain ⟨hindex, htake⟩ := h.commentaryIndex?_eq
  rw [ofDocument, h.head?_bind_titleLine?, readFields, hindex]
  dsimp only
  rw [htake, ofHeader]
  cases header.head?.bind (titleLine? s) <;> simp [recordTitle]

/-- Without a Commentary line nothing is declared. -/
theorem ofDocument_of_forall_not_opens
    (h : ∀ line ∈ doc.lines, Line.opens s.marker .commentary line = false) :
    (ofDocument s doc).hasCommentary = false ∧
      ∀ field, (ofDocument s doc).value? field = none := by
  have hindex : commentaryIndex? s.marker doc.lines = none := List.findIdx?_eq_none_iff.2 h
  refine ⟨by rw [hasCommentary_ofDocument, hindex]; rfl, fun field => ?_⟩
  rw [ofDocument, readFields, hindex]
  cases doc.lines.head?.bind (titleLine? s) <;> cases field <;> rfl

/-! ## Changes of a header -/

/-- One line is put into a list of lines, taken out of it or moved within it. -/
inductive Edit (quiet : Text → Prop) : List Text → List Text → Prop
  | insert {before after : List Text} {line : Text} : quiet line →
      Edit quiet (before ++ after) (before ++ line :: after)
  | delete {before after : List Text} {line : Text} : quiet line →
      Edit quiet (before ++ line :: after) (before ++ after)
  | move {before after before' after' : List Text} {line : Text} : quiet line →
      before ++ after = before' ++ after' →
      Edit quiet (before ++ line :: after) (before' ++ line :: after')

/-- A line that neither declares `field` nor opens the commentary. -/
def Quiet (m : Char) (field : Field) (line : Text) : Prop :=
  (∀ v, ¬ Declares m field line v) ∧ Line.opens m .commentary line = false

/-- Two headers that give `field` one value, and of which both or none are free of Commentary
lines. -/
def DeclareAlike (m : Char) (field : Field) (header header' : List Text) : Prop :=
  headerField? m field header = headerField? m field header' ∧
    ((∀ line ∈ header, Line.opens m .commentary line = false) ↔
      ∀ line ∈ header', Line.opens m .commentary line = false)

/-- A quiet line has no part in the value, wherever it stands. -/
theorem Quiet.declareAlike (h : Quiet m field line) (before after : List Text) :
    DeclareAlike m field (before ++ line :: after) (before ++ after) := by
  constructor
  · simp only [headerField?, List.findSome?_append, List.findSome?_cons,
      fieldValue?_eq_none_iff.2 h.1]
  · simp only [List.forall_mem_append, List.forall_mem_cons, h.2, true_and]

/-- An edit of one quiet line keeps what a header declares. -/
theorem Edit.declareAlike (h : Edit (Quiet m field) header header') :
    DeclareAlike m field header header' := by
  cases h with
  | @insert before after line hline =>
    obtain ⟨hvalue, hopens⟩ := hline.declareAlike before after
    exact ⟨hvalue.symm, hopens.symm⟩
  | @delete before after line hline => exact hline.declareAlike before after
  | @move before after before' after' line hline hsame =>
    -- taken out in one place, the line is put in again in the other
    obtain ⟨hvalue, hopens⟩ := hline.declareAlike before after
    obtain ⟨hvalue', hopens'⟩ := hline.declareAlike before' after'
    rw [← hsame] at hvalue' hopens'
    exact ⟨hvalue.trans hvalue'.symm, hopens.trans hopens'.symm⟩

/-- Edits of quiet lines, however many, keep what a header declares. -/
theorem DeclareAlike.of_edits (h : Relation.ReflTransGen (Edit (Quiet m field)) header header') :
    DeclareAlike m field header header' := by
  induction h with
  | refl => exact ⟨rfl, Iff.rfl⟩
  | tail _ hlast ih =>
    obtain ⟨hvalue, hopens⟩ := hlast.declareAlike
    exact ⟨ih.1.trans hvalue, ih.2.trans hopens⟩

/-- Behind a header that declares alike the same Commentary line comes first. -/
theorem IsHeader.of_declareAlike {behind : List Text} (h : IsHeader m header (header ++ behind))
    (halike : DeclareAlike m field header header') : IsHeader m header' (header' ++ behind) := by
  obtain ⟨hheader, line, after, hline, hlines⟩ := h
  obtain rfl := List.append_cancel_left hlines
  exact ⟨halike.2.1 hheader, line, after, hline, rfl⟩

/-- The metadata of a document can always be read. Without a Commentary line no field is recorded.
With one, the lines before the first such line determine the metadata: of each field the first of
them that declares it counts, what follows has no part in them, and lines that do not declare a
field can be put in, taken out and moved there without a change to its value. -/
theorem ofDocument_determined_by_header (s : Settings) (doc : Document) :
    (read s doc).map Prod.fst = .ok (ofDocument s doc) ∧
    ((∀ line ∈ doc.lines, Line.opens s.marker .commentary line = false) →
      (ofDocument s doc).hasCommentary = false ∧
        ∀ field, (ofDocument s doc).value? field = none) ∧
    ∀ header, IsHeader s.marker header doc.lines →
      (ofDocument s doc).hasCommentary = true ∧
      (∀ field found, FirstDeclared s.marker field header found ↔
        (ofDocument s doc).value? field = found.map field.recorded) ∧
      (∀ doc' : Document, IsHeader s.marker header doc'.lines →
        ofDocument s doc' = ofDocument s doc) ∧
      ∀ field header' behind name, doc.lines = header ++ behind →
        Relation.ReflTransGen (Edit (Quiet s.marker field)) header header' →
        (ofDocument s ⟨header' ++ behind, name⟩).value? field =
          (ofDocument s doc).value? field := by
  refine ⟨read_eq_ofDocument s doc, ofDocument_of_forall_not_opens, ?_⟩
  intro header hheader
  rw [hheader.ofDocument_eq]
  refine ⟨rfl, ?_, fun doc' hheader' => hheader'.ofDocument_eq, ?_⟩
  · intro field found
    rw [firstDeclared_iff, value?_ofHeader]
    exact (Option.map_injective field.recorded_injective).eq_iff.symm
  · intro field header' behind name hlines hedits
    have halike := DeclareAlike.of_edits hedits
    rw [hlines] at hheader
    have hheader' : IsHeader s.marker header' (Document.mk (header' ++ behind) name).lines :=
      hheader.of_declareAlike halike
    rw [hheader'.ofDocument_eq, value?_ofHeader, value?_ofHeader, halike.1]

/-- Two lines declare an author, and the version is declared too late. The line between the authors
is moved before them. -/
theorem ofDocument_determined_by_header_moved :
    let header := [";; Author: A".toList, ";; URL: u".toList, ";; Author: B".toList]
    let header' := [";; URL: u".toList, ";; Author: A".toList, ";; Author: B".toList]
    let behind := [";;; Commentary:".toList, ";; Version: 1".toList]
    IsHeader ';' header (header ++ behind) ∧
      FirstDeclared ';' .author header (some "A".toList) ∧
      FirstDeclared ';' .version header none ∧
      Relation.ReflTransGen (Edit (Quiet ';' .author)) header header' ∧
      (ofDocument .default ⟨header' ++ behind, none⟩).value? .author = some "A".toList := by
  intro header header' behind
  have hheader : IsHeader ';' header (header ++ behind) :=
    ⟨by decide, _, _, by decide, rfl⟩
  have hquiet : Quiet ';' .author ";; URL: u".toList :=
    ⟨fieldValue?_eq_none_iff.1 (by decide), by decide⟩
  have hmove : Edit (Quiet ';' .author) header header' :=
    @Edit.move _ [";; Author: A".toList] [";; Author: B".toList] [] _ _ hquiet rfl
  obtain ⟨-, hfields, -, hedits⟩ :=
    (ofDocument_determined_by_header .default ⟨header ++ behind, none⟩).2.2 header hheader
  have hauthor := hedits .author header' behind none rfl (.single hmove)
  exact ⟨hheader, (hfields .author _).2 (by decide), (hfields .version _).2 (by decide),
    .single hmove, hauthor.trans (by decide)⟩

/-! ## Blanks around a value -/

/-- A recorded value is what stands behind the colon of the first line that declares the field,
without the spaces before it and the blanks behind it. It is trimmed on both sides exactly where no
other blank comes before it. -/
theorem value?_trimmed_iff (s : Settings) (doc : Document) (field : Field) (t : Text)
    (h : (ofDocument s doc).value? field = some t) :
    ∃ before line after rest value, IsHeader s.marker (before ++ line :: after) doc.lines ∧
      (∀ earlier ∈ before, ∀ v, ¬ Declares s.marker field earlier v) ∧
      Declares s.marker field line value ∧ t = field.recorded value ∧
      AfterColon s.marker field line rest ∧ value = Text.trimEnd (Text.dropIndent rest) ∧
      (value = Text.trim rest ↔ Text.startsTabbed rest = false) := by
  have hsome : ∃ header, IsHeader s.marker header doc.lines := by
    rcases forall_not_opens_or_isHeader s.marker doc.lines with hnone | hsome
    · rw [(ofDocument_of_forall_not_opens hnone).2 field] at h
      simp at h
    · exact hsome
  obtain ⟨header, hheader⟩ := hsome
  rw [hheader.ofDocument_eq, value?_ofHeader, Option.map_eq_some_iff] at h
  obtain ⟨value, hvalue, rfl⟩ := h
  cases firstDeclared_iff.2 hvalue with
  | @found before after line _ hbefore hline =>
    obtain ⟨rest, hrest, rfl, -⟩ :=
      fieldValue?_eq_some_iff_afterColon.1 (fieldValue?_eq_some_iff.2 hline)
    exact ⟨before, line, after, rest, _, hheader, hbefore, hline, rfl, hrest, rfl,
      Text.trimEnd_dropIndent_eq_trim_iff⟩

/-- Of two lines the first counts, and an address loses the spaces before it. -/
theorem value?_trimmed_iff_spaces :
    let doc := Document.ofLines Settings.default.markers
      [";; URL:   u".toList, ";; URL:\tv".toList, ";;; Commentary:".toList] none
    (ofDocument .default doc).value? .url = some "[u](u)".toList ∧
      ∃ before line after rest value, IsHeader ';' (before ++ line :: after) doc.lines ∧
        (∀ earlier ∈ before, ∀ v, ¬ Declares ';' .url earlier v) ∧
        Declares ';' .url line value ∧ "[u](u)".toList = Field.url.recorded value ∧
        AfterColon ';' .url line rest ∧ value = Text.trimEnd (Text.dropIndent rest) ∧
        (value = Text.trim rest ↔ Text.startsTabbed rest = false) := by
  intro doc
  have hvalue : (ofDocument .default doc).value? .url = some "[u](u)".toList := by decide
  exact ⟨hvalue, value?_trimmed_iff .default doc .url _ hvalue⟩

/-- A tab before a value is not trimmed. -/
theorem value?_keeps_tab :
    ¬ ∀ (lines : List Text) (name : Option Text) (field : Field) (t : Text),
      (ofDocument .default (.ofLines Settings.default.markers lines name)).value? field = some t →
      ∃ line ∈ Settings.default.markers.cleanLines lines, ∃ rest,
        AfterColon ';' field line rest ∧ t = field.recorded (Text.trim rest) := by
  intro hall
  obtain ⟨line, -, rest, -, htrim⟩ :=
    hall [";; Author:\tJane".toList, ";;; Commentary:".toList] none .author "\tJane".toList
      (by decide)
  have htab : '\t' ∈ (Text.trim rest).head? := by
    rw [← show "\tJane".toList = Text.trim rest from htrim]
    rfl
  exact absurd (Text.isSpace_of_head?_trim htab) (by decide)

end Metadata

end Commentary
