import Commentary.Proofs.Header
import Commentary.Proofs.Legible
import Mathlib.Data.Nat.Find

/-!
# Title lines

A title line is put together from its parts in one way, so that it can be taken apart again: the
spaces in it tell where the markers, the file name and the dashes end, and the extension tells where
the name without it ends. Of the text behind the dashes a title keeps what stands before the first
mode mark, if another one ends the text.
-/

namespace Commentary

/-! ## Trimming and parting -/

namespace Text

/-- Every character of a text without the separator differs from it. -/
theorem bne_of_not_mem {sep : Char} {s : Text} (hs : sep ∉ s) : ∀ c ∈ s, (c != sep) = true := by
  intro c hc
  have hne : c ≠ sep := fun heq => hs (heq ▸ hc)
  simpa using hne

/-- What stands before the first separator. -/
theorem takeWhile_sep {sep : Char} {s : Text} (hs : sep ∉ s) (t : Text) :
    (s ++ sep :: t).takeWhile (· != sep) = s := by
  apply takeWhile_run (bne_of_not_mem hs)
  rintro _ ⟨⟩
  simp

/-- The first separator parts a text in one way only. -/
theorem append_sep_inj {sep : Char} {s t u v : Text} (hs : sep ∉ s) (ht : sep ∉ t)
    (h : s ++ sep :: u = t ++ sep :: v) : s = t ∧ u = v := by
  obtain rfl : s = t := by rw [← takeWhile_sep hs u, h, takeWhile_sep ht v]
  exact ⟨rfl, (List.cons.inj (List.append_cancel_left h)).2⟩

/-- Behind a visible character nothing in front is trimmed. -/
theorem trimEnd_append_eq (s t : Text) :
    trimEnd (s ++ t) = if isBlank t then trimEnd s else s ++ trimEnd t :=
  dropEndWhile_append isSpace s t

/-- The first character of a text that is not blank stays where the end is trimmed. -/
theorem trimEnd_cons_of_visible {c : Char} {t : Text} (h : isBlank (c :: t) = false) :
    trimEnd (c :: t) = c :: trimEnd t :=
  dropEndWhile_cons_of_not_all h

/-- Blank characters behind a text are trimmed away on both sides. -/
theorem trim_append_blank (t : Text) {s : Text} (h : isBlank s = true) :
    trim (t ++ s) = trim t := by
  rw [trim, trimStart, List.dropWhile_append]
  split
  · next hempty =>
    rw [List.isEmpty_iff] at hempty
    rw [List.dropWhile_eq_nil_iff.2 (List.all_eq_true.1 h), trim, trimStart, hempty]
  · exact trimEnd_append_blank _ h

/-- Trimming at the end makes no difference where both sides are trimmed. -/
theorem trim_trimEnd (t : Text) : trim (trimEnd t) = trim t := by
  obtain ⟨s, hs, ht⟩ := exists_eq_dropEndWhile_append isSpace t
  conv => rhs; rw [ht, trim_append_blank _ hs]
  rfl

end Text

/-! ## Mode annotations -/

namespace Line

/-- The first mode mark of `r` stands between `head` and `tail`. -/
structure FirstMark (r head tail : Text) : Prop where
  /-- A mark stands there. -/
  split : r = head ++ (modeMark ++ tail)
  /-- No mark stands before it. -/
  first : ∀ head' tail', r = head' ++ (modeMark ++ tail') → head.length ≤ head'.length

/-- What is left of `r` without its mode annotation: the part before the first mark, if another mark
that does not overlap that one ends `r`, blanks apart, and else the whole. -/
inductive Unannotated (r : Text) : Text → Prop
  | cut {head inside tail : Text} : FirstMark r head tail →
      Text.trimEnd tail = inside ++ modeMark → Unannotated r head
  | whole : (∀ head inside tail, FirstMark r head tail →
      Text.trimEnd tail ≠ inside ++ modeMark) → Unannotated r r

variable {r head inside tail : Text}

/-- The first mark is the one that no earlier place starts with. -/
theorem firstMark_iff : FirstMark r head tail ↔
    r = head ++ (modeMark ++ tail) ∧ ∀ n < head.length, ¬ modeMark <+: r.drop n := by
  constructor
  · intro h
    refine ⟨h.split, ?_⟩
    rintro n hn ⟨tail', htail'⟩
    have hle := h.first (r.take n) tail' (by rw [htail', List.take_append_drop])
    rw [List.length_take] at hle
    omega
  · rintro ⟨hsplit, hnone⟩
    refine ⟨hsplit, fun head' tail' hsplit' => ?_⟩
    by_contra hlt
    apply hnone head'.length (Nat.lt_of_not_le hlt)
    rw [hsplit', List.drop_left]
    exact List.prefix_append _ _

instance : Decidable (FirstMark r head tail) := decidable_of_iff _ firstMark_iff.symm

/-- The first mark stands in one place only. -/
theorem FirstMark.unique {head' tail' : Text} (h : FirstMark r head tail)
    (h' : FirstMark r head' tail') : head = head' ∧ tail = tail' := by
  have hlength : head.length = head'.length :=
    Nat.le_antisymm (h.first _ _ h'.split) (h'.first _ _ h.split)
  obtain ⟨hhead, hbehind⟩ := List.append_inj (h.split.symm.trans h'.split) hlength
  exact ⟨hhead, List.append_cancel_left hbehind⟩

/-- Where a mark stands, there is a first one. -/
theorem exists_firstMark (h : r = head ++ (modeMark ++ tail)) :
    ∃ first behind, FirstMark r first behind := by
  classical
  have hplace : ∃ n, ∃ head' tail', head'.length = n ∧ r = head' ++ (modeMark ++ tail') :=
    ⟨_, head, tail, rfl, h⟩
  obtain ⟨first, behind, hlength, hsplit⟩ := Nat.find_spec hplace
  refine ⟨first, behind, hsplit, ?_⟩
  intro head' tail' hsplit'
  rw [hlength]
  exact Nat.find_min' hplace ⟨head', tail', rfl, hsplit'⟩

/-- What is left of a text is told by the text. -/
theorem existsUnique_unannotated (r : Text) : ∃! kept, Unannotated r kept := by
  by_cases h : ∃ head inside tail, FirstMark r head tail ∧ Text.trimEnd tail = inside ++ modeMark
  · obtain ⟨head, inside, tail, hfirst, hends⟩ := h
    refine ⟨head, .cut hfirst hends, ?_⟩
    rintro kept (⟨hfirst', -⟩ | hwhole)
    · exact (hfirst'.unique hfirst).1
    · exact absurd hends (hwhole head inside tail hfirst)
  · have hnone : ∀ head inside tail, FirstMark r head tail →
        Text.trimEnd tail ≠ inside ++ modeMark :=
      fun head inside tail hfirst hends => h ⟨head, inside, tail, hfirst, hends⟩
    refine ⟨r, .whole hnone, ?_⟩
    rintro kept (⟨hfirst, hends⟩ | -)
    · exact absurd ⟨_, _, _, hfirst, hends⟩ h
    · rfl

/-- An annotation opens with a mark and ends in a second one. -/
theorem opensMode_iff {t : Text} (hbreak : '\n' ∉ t) :
    opensMode t = true ↔ ∃ inside tail, t = modeMark ++ tail ∧
      Text.trimEnd tail = inside ++ modeMark := by
  constructor
  · intro h
    rw [opensMode] at h
    split at h
    · exact absurd h Bool.false_ne_true
    · next tail hafter =>
      rw [Bool.and_eq_true, List.isSuffixOf_iff_suffix] at h
      obtain ⟨inside, hinside⟩ := h.1
      exact ⟨inside, tail, (List.append_eq_of_isPrefixOf?_eq_some hafter).symm, hinside.symm⟩
  · rintro ⟨inside, tail, rfl, hends⟩
    have hinside : '\n' ∉ inside := by
      intro hmem
      apply hbreak
      apply List.mem_append_right
      apply (Text.prefix_dropEndWhile Text.isSpace tail).subset
      rw [← Text.trimEnd, hends]
      exact List.mem_append_left _ hmem
    rw [opensMode, List.isPrefixOf?_eq_some_iff_append_eq.2 rfl]
    dsimp only
    rw [hends, List.length_append, Nat.add_sub_cancel, List.take_left, Bool.and_eq_true,
      List.isSuffixOf_iff_suffix]
    exact ⟨List.suffix_append _ _, by simpa using hinside⟩

/-- If any mark opens an annotation, the first one does. -/
theorem exists_cut (h : r = head ++ (modeMark ++ tail))
    (hends : Text.trimEnd tail = inside ++ modeMark) :
    ∃ first inside' behind, FirstMark r first behind ∧
      Text.trimEnd behind = inside' ++ modeMark := by
  obtain ⟨first, behind, hfirst⟩ := exists_firstMark h
  have hle := hfirst.first _ _ h
  have hlength : tail.length ≤ behind.length := by
    have htotal := congrArg List.length (h.symm.trans hfirst.split)
    simp only [List.length_append] at htotal
    omega
  have hsuffix : tail <:+ behind := by
    have htail : tail <:+ r := ⟨head ++ modeMark, by rw [h, List.append_assoc]⟩
    have hbehind : behind <:+ r := ⟨first ++ modeMark, by rw [hfirst.split, List.append_assoc]⟩
    exact List.suffix_of_suffix_length_le htail hbehind hlength
  obtain ⟨between, rfl⟩ := hsuffix
  have hvisible : Text.isBlank tail = false := by
    rw [Bool.eq_false_iff, Ne, ← Text.trimEnd_eq_nil_iff, hends]
    simp [modeMark]
  refine ⟨first, between ++ inside, _, hfirst, ?_⟩
  rw [Text.trimEnd_append_eq, hvisible, hends, List.append_assoc]
  rfl

/-- A text that no annotation ends stays as it is. -/
theorem withoutMode_eq_self (hbreak : '\n' ∉ r)
    (h : ∀ head inside tail, r = head ++ (modeMark ++ tail) →
      Text.trimEnd tail ≠ inside ++ modeMark) : withoutMode r = r := by
  induction r with
  | nil => rfl
  | cons c r ih =>
    have hstarts : startsMode (c :: r) = false := by
      rw [Bool.eq_false_iff, startsMode, Ne, opensMode_iff]
      · rintro ⟨inside, tail, hsplit, hends⟩
        refine h ((c :: r).takeWhile Text.isSpace) inside tail ?_ hends
        rw [← hsplit, Text.trimStart, List.takeWhile_append_dropWhile]
      · exact fun hmem => hbreak ((List.dropWhile_suffix _).subset hmem)
    rw [withoutMode, hstarts, if_neg Bool.false_ne_true]
    refine congrArg (List.cons c) (ih (fun hmem => hbreak (List.mem_cons_of_mem c hmem)) ?_)
    intro head inside tail hsplit
    exact h (c :: head) inside tail (congrArg (List.cons c) hsplit)

/-- A text with an annotation is cut before it and the blanks in front of it. -/
theorem withoutMode_of_firstMark (hbreak : '\n' ∉ r) (h : FirstMark r head tail)
    (hends : Text.trimEnd tail = inside ++ modeMark) : withoutMode r = Text.trimEnd head := by
  induction head generalizing r with
  | nil =>
    obtain rfl := h.split
    have hopens : opensMode (modeMark ++ tail) = true :=
      (opensMode_iff hbreak).2 ⟨inside, tail, rfl, hends⟩
    exact if_pos hopens
  | cons c head ih =>
    obtain rfl := h.split
    have hlater : FirstMark (head ++ (modeMark ++ tail)) head tail := by
      refine ⟨rfl, fun head' tail' hsplit => ?_⟩
      have hle := h.first (c :: head') tail' (congrArg (List.cons c) hsplit)
      simpa using hle
    have hstart : '\n' ∉ Text.trimStart (c :: head ++ (modeMark ++ tail)) :=
      fun hmem => hbreak ((List.dropWhile_suffix _).subset hmem)
    have hstarts : startsMode (c :: head ++ (modeMark ++ tail)) = Text.isBlank (c :: head) := by
      rw [Bool.eq_iff_iff, startsMode, opensMode_iff hstart]
      constructor
      · -- a mark behind blanks cannot come before the first one, so these blanks reach up to it
        rintro ⟨inside', tail', hsplit, -⟩
        have hblanks := List.takeWhile_append_dropWhile (p := Text.isSpace)
          (l := c :: head ++ (modeMark ++ tail))
        have hle := h.first _ tail' (hblanks.symm.trans (congrArg _ hsplit))
        have hfront : c :: head <+:
            (c :: head ++ (modeMark ++ tail)).takeWhile Text.isSpace :=
          List.prefix_of_prefix_length_le (List.prefix_append _ _) (List.takeWhile_prefix _) hle
        rw [Text.isBlank, List.all_eq_true]
        exact fun d hd => List.mem_takeWhile_imp (hfront.subset hd)
      · intro hblank
        refine ⟨inside, tail, ?_, hends⟩
        rw [Text.trimStart, List.dropWhile_append_of_pos (List.all_eq_true.1 hblank)]
        exact List.dropWhile_cons_of_neg (by decide)
    rw [List.cons_append] at hbreak hstarts ⊢
    rw [withoutMode, hstarts, ih (fun hmem => hbreak (List.mem_cons_of_mem c hmem)) hlater]
    split
    · next hblank => exact (Text.trimEnd_eq_nil_iff.2 hblank).symm
    · next hblank => exact (Text.trimEnd_cons_of_visible (by simpa using hblank)).symm

/-- What a title is trimmed from is what is left without the annotation. -/
theorem Unannotated.trim_eq {kept : Text} (h : Unannotated r kept) (hbreak : '\n' ∉ r) :
    Text.trim (withoutMode r) = Text.trim kept := by
  cases h with
  | cut hfirst hends => rw [withoutMode_of_firstMark hbreak hfirst hends, Text.trim_trimEnd]
  | whole hnone =>
    rw [withoutMode_eq_self hbreak]
    intro head inside tail hsplit hends
    obtain ⟨first, inside', behind, hfirst, hends'⟩ := exists_cut hsplit hends
    exact hnone first inside' behind hfirst hends'

end Line

/-- A cursor has a current line if it is not at its end and its position leads to that line. -/
theorem Cursor.peek_eq_some_iff {c : Cursor} {line : Text} :
    c.peek = .ok (some line) ↔ c.atEnd = false ∧ c.line c.position = .ok line := by
  rw [peek]
  cases c.atEnd with
  | true => simp
  | false => cases c.line c.position <;> simp [Except.map]

/-! ## The parts of a title line -/

namespace Metadata

/-- The parts of a title line. -/
@[ext]
structure TitleParts where
  /-- How many markers stand in front. -/
  markers : Nat
  /-- The file name without its extension. -/
  stem : Text
  /-- How many dashes stand behind the file name. -/
  dashes : Nat
  /-- What stands behind the dashes. -/
  rest : Text
  /-- Whether a newline ends the line. -/
  newline : Bool
  one_le_markers : 1 ≤ markers
  stem_ne_nil : stem ≠ []
  space_not_mem_stem : ' ' ∉ stem
  two_le_dashes : 2 ≤ dashes
  newline_not_mem_rest : '\n' ∉ rest

namespace TitleParts

/-- The newline that may end a title line. -/
def ending (p : TitleParts) : Text := if p.newline then ['\n'] else []

/-- A title line put together: markers, the file name, dashes and the rest, with a space between one
and the next. -/
def line (s : Settings) (p : TitleParts) : Text :=
  List.replicate p.markers s.marker ++ ' ' :: (p.stem ++ '.' :: s.extension ++
    ' ' :: (List.replicate p.dashes '-' ++ ' ' :: (p.rest ++ p.ending)))

/-- A title line ends with a newline or with nothing. -/
theorem isEnd_ending (p : TitleParts) : Text.isEnd p.ending = true := by
  rw [ending]
  split <;> rfl

end TitleParts

variable {s : Settings} (hm : s.marker ≠ ' ') (hext : ' ' ∉ s.extension)

include hext in
/-- A file name has no space where its stem has none. -/
theorem space_not_mem_name {stem : Text} (hstem : ' ' ∉ stem) :
    ' ' ∉ stem ++ '.' :: s.extension := by
  simp [hstem, hext]

include hm hext in
/-- A title line is put together from its parts in one way only. -/
theorem TitleParts.line_injective : Function.Injective (TitleParts.line s) := by
  intro p q h
  have hmarkers (k : Nat) : ' ' ∉ List.replicate k s.marker :=
    fun hmem => hm (List.eq_of_mem_replicate hmem).symm
  have hdashes (k : Nat) : ' ' ∉ List.replicate k '-' :=
    fun hmem => absurd (List.eq_of_mem_replicate hmem) (by decide)
  -- each of the three spaces that part the line is the first one behind the space before it
  obtain ⟨hrun, h⟩ := Text.append_sep_inj (hmarkers _) (hmarkers _) h
  obtain ⟨hname, h⟩ := Text.append_sep_inj (space_not_mem_name hext p.space_not_mem_stem)
    (space_not_mem_name hext q.space_not_mem_stem) h
  obtain ⟨hdash, h⟩ := Text.append_sep_inj (hdashes _) (hdashes _) h
  have hrest : p.rest = q.rest := by
    have hline := Text.singleLine?_append p.newline_not_mem_rest p.isEnd_ending
    rw [h, Text.singleLine?_append q.newline_not_mem_rest q.isEnd_ending] at hline
    exact (Option.some.inj hline).symm
  ext1
  · simpa using congrArg List.length hrun
  · exact List.append_cancel_right hname
  · simpa using congrArg List.length hdash
  · exact hrest
  · rw [hrest] at h
    have hending := List.append_cancel_left h
    revert hending
    rw [ending, ending]
    cases p.newline <;> cases q.newline <;> simp

/-! ## Taking a title line apart -/

/-- The stem of the file name that `body` starts with, where the extension holds no space. -/
def stemOf (s : Settings) (body : Text) : Text :=
  let word := body.takeWhile (· != ' ')
  word.take (word.length - ('.' :: s.extension).length)

/-- What stands behind two dashes or more and a space, up to the end of the line. -/
def afterDashes? (behind : Text) : Option Text :=
  if (behind.takeWhile (· == '-')).length < 2 then none
  else (List.isPrefixOf? [' '] (behind.dropWhile (· == '-'))).bind Text.singleLine?

/-- The stem stands at the start of what it is read from. -/
theorem prefix_stemOf (s : Settings) (body : Text) : stemOf s body <+: body :=
  (List.take_prefix _ _).trans (List.takeWhile_prefix _)

/-- A stem has no space. -/
theorem space_not_mem_stemOf (s : Settings) (body : Text) : ' ' ∉ stemOf s body := by
  intro hmem
  have hword := List.mem_takeWhile_imp ((List.take_prefix _ _).subset hmem)
  simp at hword

include hext in
/-- The stem is found in front of the extension and a space. -/
theorem stemOf_append {stem : Text} (hstem : ' ' ∉ stem) (behind : Text) :
    stemOf s (stem ++ '.' :: s.extension ++ ' ' :: behind) = stem := by
  have hword : (stem ++ '.' :: s.extension ++ ' ' :: behind).takeWhile (· != ' ') =
      stem ++ '.' :: s.extension := Text.takeWhile_sep (space_not_mem_name hext hstem) behind
  simp only [stemOf, hword, List.length_append, Nat.add_sub_cancel, List.take_left]

/-- What is read behind the dashes is one line, with two dashes or more and a space in front. -/
theorem afterDashes?_eq_some_iff {behind rest : Text} :
    afterDashes? behind = some rest ↔ '\n' ∉ rest ∧ ∃ dashes ending, 2 ≤ dashes ∧
      Text.isEnd ending = true ∧
        behind = List.replicate dashes '-' ++ ' ' :: (rest ++ ending) := by
  constructor
  · intro h
    rw [afterDashes?] at h
    split at h
    · simp at h
    · next hdashes =>
      obtain ⟨line, hline, hrest⟩ := Option.bind_eq_some_iff.1 h
      obtain ⟨ending, hend, rfl⟩ := Text.eq_append_of_singleLine? hrest
      have hbehind : Line.afterMarkers '-' behind = ' ' :: (rest ++ ending) :=
        (List.append_eq_of_isPrefixOf?_eq_some hline).symm
      refine ⟨Text.not_mem_of_singleLine? hrest, Line.markerRun '-' behind, ending, ?_, hend, ?_⟩
      · exact Nat.le_of_not_lt hdashes
      · rw [← hbehind]
        exact Line.eq_replicate_append '-' behind
  · rintro ⟨hrest, dashes, ending, hdashes, hend, rfl⟩
    have hstops : ∀ c ∈ (' ' :: (rest ++ ending)).head?, (c == '-') = false := by
      rintro _ ⟨⟩
      rfl
    have hrun : ∀ c ∈ List.replicate dashes '-', (c == '-') = true := by simp
    have hspace : List.isPrefixOf? [' '] (' ' :: (rest ++ ending)) = some (rest ++ ending) :=
      List.isPrefixOf?_eq_some_iff_append_eq.2 rfl
    rw [afterDashes?, Text.takeWhile_run hrun hstops, Text.dropWhile_run hrun hstops,
      List.length_replicate, if_neg (Nat.not_lt.2 hdashes), hspace, Option.bind_some,
      Text.singleLine?_append hrest hend]

include hext in
/-- A title line is taken apart step by step. -/
theorem titleLine?_eq (line : Text) : titleLine? s line =
    (afterMarkersAndSpace? s.marker line).bind fun body =>
      if stemOf s body == [] then none
      else (List.isPrefixOf? ('.' :: s.extension ++ [' ']) (body.drop (stemOf s body).length)).bind
        fun behind => (afterDashes? behind).map (TitleLine.mk (stemOf s body)) := by
  have hending : ('.' :: s.extension).takeWhile (· != ' ') = '.' :: s.extension :=
    List.takeWhile_eq_self_iff.2 (Text.bne_of_not_mem (space_not_mem_name hext List.not_mem_nil))
  simp only [titleLine?, hending, Option.bind_eq_bind]
  refine congrArg _ (funext fun body => if_congr Iff.rfl rfl (congrArg _ (funext fun behind => ?_)))
  rw [afterDashes?]
  split
  · rfl
  · rw [Option.map_eq_bind, Option.bind_assoc]
    rfl

include hm hext in
/-- The lines that are taken apart as title lines are those that are put together as such. -/
theorem titleLine?_eq_some_iff {line : Text} {t : TitleLine} :
    titleLine? s line = some t ↔
      ∃ p : TitleParts, line = p.line s ∧ t = ⟨p.stem, p.rest⟩ := by
  rw [titleLine?_eq hext]
  constructor
  · intro htitle
    obtain ⟨body, hbody, hname⟩ := Option.bind_eq_some_iff.1 htitle
    obtain ⟨⟨markers, hmarkers, hline⟩, -⟩ := afterMarkersAndSpace?_eq_some_iff.1 hbody
    split at hname
    · simp at hname
    · next hstem =>
      obtain ⟨behind, hbehind, hrest⟩ := Option.bind_eq_some_iff.1 hname
      obtain ⟨rest, hdashed, rfl⟩ := Option.map_eq_some_iff.1 hrest
      obtain ⟨hbreak, dashes, ending, hdashes, hend, rfl⟩ := afterDashes?_eq_some_iff.1 hdashed
      obtain ⟨newline, hnewline⟩ : ∃ newline : Bool, ending = if newline then ['\n'] else [] := by
        rcases Text.isEnd_iff.1 hend with rfl | rfl
        · exact ⟨false, rfl⟩
        · exact ⟨true, rfl⟩
      have hsplit : body = stemOf s body ++ '.' :: s.extension ++
          ' ' :: (List.replicate dashes '-' ++ ' ' :: (rest ++ ending)) := by
        have hdrop := (List.append_eq_of_isPrefixOf?_eq_some hbehind).symm
        rw [List.append_assoc, List.singleton_append] at hdrop
        rw [List.append_assoc, ← hdrop]
        exact (List.prefix_iff_eq_append.1 (prefix_stemOf s body)).symm
      refine ⟨⟨markers, stemOf s body, dashes, rest, newline, hmarkers, by simpa using hstem,
        space_not_mem_stemOf s body, hdashes, hbreak⟩, ?_, rfl⟩
      rw [hline, TitleParts.line, TitleParts.ending, ← hnewline]
      exact congrArg (List.replicate markers s.marker ++ ' ' :: ·) hsplit
  · rintro ⟨p, rfl, rfl⟩
    have hbody : afterMarkersAndSpace? s.marker (p.line s) = some (p.stem ++ '.' :: s.extension ++
        ' ' :: (List.replicate p.dashes '-' ++ ' ' :: (p.rest ++ p.ending))) :=
      afterMarkersAndSpace?_eq_some_iff.2
        ⟨⟨p.markers, p.one_le_markers, rfl⟩, fun hspace => absurd hspace hm⟩
    have hdashed : afterDashes? (List.replicate p.dashes '-' ++ ' ' :: (p.rest ++ p.ending)) =
        some p.rest :=
      afterDashes?_eq_some_iff.2
        ⟨p.newline_not_mem_rest, p.dashes, p.ending, p.two_le_dashes, p.isEnd_ending, rfl⟩
    have hname (behind : Text) : List.isPrefixOf? ('.' :: s.extension ++ [' '])
        ('.' :: s.extension ++ ' ' :: behind) = some behind := by
      have hafter : List.isPrefixOf? ('.' :: s.extension ++ [' '])
          ('.' :: s.extension ++ [' '] ++ behind) = some behind :=
        List.isPrefixOf?_eq_some_iff_append_eq.2 rfl
      rwa [List.append_assoc, List.singleton_append] at hafter
    rw [hbody, Option.bind_some, stemOf_append hext p.space_not_mem_stem,
      if_neg (by simpa using p.stem_ne_nil), List.append_assoc, List.drop_left, hname,
      Option.bind_some, hdashed, Option.map_some]

/-! ## The title at a cursor -/

/-- A title line that is read is recorded, and the cursor moves on by one line. -/
theorem readTitle_of_titleLine? {c : Cursor} {line : Text} {t : TitleLine} (md : Metadata)
    (hend : c.atEnd = false) (hline : c.line c.position = .ok line)
    (ht : titleLine? s line = some t) :
    readTitle s c md = .ok (md.recordTitle t, { c with position := c.position + 1 }, true) := by
  have hadvance : c.advance 1 = { c with position := c.position + 1 } := by
    rw [Cursor.atEnd, decide_eq_false_iff_not] at hend
    rw [Cursor.advance, Int.min_eq_left (by omega)]
  rw [readTitle, Cursor.peek_eq_some_iff.2 ⟨hend, hline⟩]
  simp only [Except.map, Option.bind_some, ht, hadvance]

/-- A title is read from the current line, or nothing changes. -/
theorem readTitle_cases {c c' : Cursor} {md md' : Metadata} {found : Bool}
    (h : readTitle s c md = .ok (md', c', found)) :
    (∃ line t, c.atEnd = false ∧ c.line c.position = .ok line ∧ titleLine? s line = some t) ∨
      md' = md ∧ c' = c ∧ found = false := by
  rw [readTitle] at h
  cases hpeek : c.peek with
  | error e => simp [hpeek, Except.map] at h
  | ok line =>
    rw [hpeek, Except.map, Except.ok.injEq] at h
    cases ht : line.bind (titleLine? s) with
    | none =>
      simp only [ht, Prod.mk.injEq] at h
      exact .inr ⟨h.1.symm, h.2.1.symm, h.2.2.symm⟩
    | some t =>
      obtain ⟨line, rfl, ht⟩ := Option.bind_eq_some_iff.1 ht
      obtain ⟨hend, hline⟩ := Cursor.peek_eq_some_iff.1 hpeek
      exact .inl ⟨line, t, hend, hline, ht⟩

/-- Reading a title fails exactly where the cursor stands before the first line. -/
theorem readTitle_eq_error_iff {c : Cursor} {md : Metadata} {e : OutOfRange} :
    readTitle s c md = .error e ↔ c.atEnd = false ∧ c.line c.position = .error e := by
  rw [readTitle, Cursor.peek]
  cases c.atEnd with
  | true => simp [Except.map]
  | false => cases c.line c.position <;> simp [Except.map]

/-- A title is read exactly where the current line is put together as a title line, which is so in
one way only. The name is then the stem and the title what is left of the rest without its mode
annotation and the blanks around it, and the cursor moves on by one line. Where none is read,
nothing changes. Only a cursor whose position leads to no line fails. -/
theorem readTitle_iff_put_together (s : Settings) (c : Cursor) (md : Metadata)
    (hm : s.marker ≠ ' ') (hext : ' ' ∉ s.extension) :
    ((∃ md' c', readTitle s c md = .ok (md', c', true)) ↔
      c.atEnd = false ∧ ∃ p : TitleParts, c.line c.position = .ok (p.line s)) ∧
    (∀ p q : TitleParts, p.line s = q.line s → p = q) ∧
    (∀ p : TitleParts, c.atEnd = false → c.line c.position = .ok (p.line s) →
      (∃! kept, Line.Unannotated p.rest kept) ∧
      ∀ kept, Line.Unannotated p.rest kept → readTitle s c md = .ok
        ({ md with
            packageName := some p.stem
            title := if Text.trim kept = [] then none else some (Text.trim kept) },
          { c with position := c.position + 1 }, true)) ∧
    (∀ md' c', readTitle s c md = .ok (md', c', false) → md' = md ∧ c' = c) ∧
    ∀ e, readTitle s c md = .error e ↔ c.atEnd = false ∧ c.line c.position = .error e := by
  have hread (p : TitleParts) (hend : c.atEnd = false)
      (hline : c.line c.position = .ok (p.line s)) :=
    readTitle_of_titleLine? md hend hline ((titleLine?_eq_some_iff hm hext).2 ⟨p, rfl, rfl⟩)
  refine ⟨⟨?_, ?_⟩, fun p q h => TitleParts.line_injective hm hext h, ?_, ?_,
    fun _ => readTitle_eq_error_iff⟩
  · rintro ⟨md', c', hfound⟩
    rcases readTitle_cases hfound with ⟨line, t, hend, hline, ht⟩ | ⟨-, -, hnone⟩
    · obtain ⟨p, rfl, -⟩ := (titleLine?_eq_some_iff hm hext).1 ht
      exact ⟨hend, p, hline⟩
    · exact Bool.noConfusion hnone
  · rintro ⟨hend, p, hline⟩
    exact ⟨_, _, hread p hend hline⟩
  · intro p hend hline
    refine ⟨Line.existsUnique_unannotated p.rest, fun kept hkept => ?_⟩
    rw [hread p hend hline]
    simp only [recordTitle, TitleLine.title?, hkept.trim_eq p.newline_not_mem_rest, beq_iff_eq]
  · intro md' c' hnone
    rcases readTitle_cases hnone with ⟨line, t, hend, hline, ht⟩ | ⟨hmd, hc, -⟩
    · rw [readTitle_of_titleLine? md hend hline ht] at hnone
      simp at hnone
    · exact ⟨hmd, hc⟩

/-- A stem that holds the extension, a rest that goes on with dashes, and an annotation that holds a
third mark. -/
theorem readTitle_iff_put_together_marks :
    let c := Cursor.start [";;; a.el.el --- -- B -*- x -*- y -*- \n".toList]
    Settings.default.marker ≠ ' ' ∧ ' ' ∉ Settings.default.extension ∧
      readTitle .default c {} = .ok
        ({ packageName := some "a.el".toList, title := some "-- B".toList },
          { c with position := 1 }, true) := by
  intro c
  have hm : Settings.default.marker ≠ ' ' := by decide
  have hext : ' ' ∉ Settings.default.extension := by decide
  let p : TitleParts := ⟨3, "a.el".toList, 3, "-- B -*- x -*- y -*- ".toList, true,
    by decide, by decide, by decide, by decide, by decide⟩
  have hline : c.line c.position = .ok (p.line .default) := by decide
  have hkept : Line.Unannotated p.rest "-- B ".toList := by
    have hfirst : Line.FirstMark p.rest "-- B ".toList " x -*- y -*- ".toList := by decide
    have hends : Text.trimEnd " x -*- y -*- ".toList = " x -*- y ".toList ++ Line.modeMark := by
      decide
    exact .cut hfirst hends
  obtain ⟨-, -, htitle, -⟩ := readTitle_iff_put_together .default c {} hm hext
  exact ⟨hm, hext, (htitle p (by decide) hline).2 _ hkept⟩

end Metadata

end Commentary
