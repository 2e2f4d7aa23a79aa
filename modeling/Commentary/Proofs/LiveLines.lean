import Commentary.Proofs.Views

/-!
# The lines that reach a block

Of the lines of a body those are read that come before the Code line and stand under no license. The
blocks show these lines one to one and in their order, as far as they are comments and not blank:
each line of a block is the comment text of one of them, or that text without a heading's colon.
-/

namespace Commentary.Scan

/-- The lines of a body that are read: those before the Code line that stand under no license, where
`licensed` tells that a license has been opened before. A line that starts with three markers ends a
license, unless it opens another one. -/
def liveLines (m : Char) (licensed : Bool) : List Text → List Text
  | [] => []
  | line :: after =>
    if Line.opens m .code line then []
    else if (if Line.isTopLevel m line then Line.opens m .license line else licensed) then
      liveLines m true after
    else line :: liveLines m false after

/-- A line of a block shows a line of the body: it is the comment text of that line, or what a
heading leaves of it. -/
def Shows (m : Char) (line shown : Text) : Prop :=
  ∃ text, Line.commentText? m line = some text ∧ (shown = text ∨ text = shown ++ [':'])

variable {m : Char} {deep licensed : Bool} {line : Text} {lines after rest : List Text}
  {bs : List Block}

/-! ## Which lines are read -/

/-- From the Code line on no line is read. -/
theorem liveLines_of_code (h : Line.opens m .code line = true) :
    liveLines m licensed (line :: after) = [] := by
  rw [liveLines, if_pos h]

/-- A line that opens a license is not read, and a license is open behind it. -/
theorem liveLines_of_license (h : Line.opens m .license line = true) :
    liveLines m licensed (line :: after) = liveLines m true after := by
  have hcode : Line.opens m .code line = false := Line.opens_of_ne h (by decide)
  simp [liveLines, hcode, Line.isTopLevel_of_opens h, h]

/-- A line that opens neither code nor a license is read, unless a license goes on over it. -/
theorem liveLines_of_read (hcode : Line.opens m .code line = false)
    (hlicense : Line.opens m .license line = false)
    (hends : licensed = true → Line.isTopLevel m line = true) :
    liveLines m licensed (line :: after) = line :: liveLines m false after := by
  cases licensed with
  | true => simp [liveLines, hcode, hlicense, hends rfl]
  | false => simp [liveLines, hcode, hlicense]

/-- Under no license a line is read that opens neither the code nor a license. -/
theorem liveLines_of_plain (hcode : Line.opens m .code line = false)
    (hlicense : Line.opens m .license line = false) :
    liveLines m false (line :: after) = line :: liveLines m false after :=
  liveLines_of_read hcode hlicense fun hlicensed => Bool.noConfusion hlicensed

/-- A license hides a line that does not start with three markers. -/
theorem liveLines_of_hidden (h : Line.isTopLevel m line = false) :
    liveLines m true (line :: after) = liveLines m true after := by
  simp [liveLines, Line.opens_of_not_isTopLevel h .code, h]

/-- At a line that starts with three markers no earlier license counts. -/
theorem liveLines_of_isTopLevel (h : Line.isTopLevel m line = true) :
    liveLines m true (line :: after) = liveLines m false (line :: after) := by
  simp [liveLines, h]

/-- A license hides the lines up to the next one that starts with three markers. -/
theorem liveLines_true (m : Char) (lines : List Text) :
    liveLines m true lines = liveLines m false (lines.dropWhile (!Line.isTopLevel m ·)) := by
  induction lines with
  | nil => rfl
  | cons line lines ih =>
    cases htop : Line.isTopLevel m line with
    | true => rw [List.dropWhile_cons_of_neg (by simp [htop]), liveLines_of_isTopLevel htop]
    | false => rw [List.dropWhile_cons_of_pos (by simp [htop]), liveLines_of_hidden htop, ih]

/-- Lines that open neither code nor a license are all read. -/
theorem liveLines_append (h : ∀ line ∈ lines, Line.opens m .code line = false ∧
    Line.opens m .license line = false) :
    liveLines m false (lines ++ after) = lines ++ liveLines m false after := by
  induction lines with
  | nil => rfl
  | cons line lines ih =>
    obtain ⟨⟨hcode, hlicense⟩, hlater⟩ := List.forall_mem_cons.1 h
    rw [List.cons_append, liveLines_of_plain hcode hlicense, ih hlater, List.cons_append]

/-- Without code and licenses every line is read. -/
theorem liveLines_eq_self (h : ∀ line ∈ lines, Line.opens m .code line = false ∧
    Line.opens m .license line = false) : liveLines m false lines = lines := by
  have happend : liveLines m false (lines ++ []) = lines ++ liveLines m false [] :=
    liveLines_append h
  rwa [liveLines, List.append_nil] at happend

/-- The lines that are read are lines of the body. -/
theorem mem_of_mem_liveLines (h : line ∈ liveLines m licensed lines) : line ∈ lines := by
  induction lines generalizing licensed with
  | nil => exact h
  | cons first lines ih =>
    rw [liveLines] at h
    by_cases hcode : Line.opens m .code first = true
    · rw [if_pos hcode] at h
      exact absurd h List.not_mem_nil
    · rw [if_neg hcode] at h
      generalize (if Line.isTopLevel m first then Line.opens m .license first else licensed) =
        hidden at h
      cases hidden with
      | true => exact List.mem_cons_of_mem first (ih h)
      | false => exact List.mem_cons.2 ((List.mem_cons.1 h).imp_right ih)

/-! ## Lines that are changed one by one -/

section Change

variable {f : Text → Text}
  (hframe : ∀ line ∈ lines, Line.isTopLevel m (f line) = Line.isTopLevel m line ∧
    ∀ s, Line.opens m s (f line) = Line.opens m s line)
include hframe

/-- A change that keeps the markers and the sections keeps which lines are read. -/
theorem liveLines_map (licensed : Bool) :
    liveLines m licensed (lines.map f) = (liveLines m licensed lines).map f := by
  induction lines generalizing licensed with
  | nil => rfl
  | cons line lines ih =>
    obtain ⟨⟨htop, hopens⟩, hlater⟩ := List.forall_mem_cons.1 hframe
    simp only [List.map_cons, liveLines, htop, hopens, ih hlater]
    split
    · rfl
    · split <;> split <;> rfl

/-- If such a change cannot be seen on the lines that are read, the bodies look alike. -/
theorem readAlike_map (hlive : ∀ line ∈ liveLines m licensed lines, SameView m m line (f line)) :
    ReadAlike m m licensed lines (lines.map f) := by
  induction lines generalizing licensed with
  | nil => exact .nil
  | cons line lines ih =>
    obtain ⟨⟨htop, hopens⟩, hlater⟩ := List.forall_mem_cons.1 hframe
    cases hcode : Line.opens m .code line with
    | true => exact .code hcode ((hopens _).trans hcode)
    | false =>
      cases hlicense : Line.opens m .license line with
      | true =>
        rw [liveLines_of_license hlicense] at hlive
        exact .license hlicense ((hopens _).trans hlicense) (ih hlater hlive)
      | false =>
        by_cases hends : licensed = true → Line.isTopLevel m line = true
        · rw [liveLines_of_read hcode hlicense hends, List.forall_mem_cons] at hlive
          exact .seen hends hlive.1 (ih hlater hlive.2)
        · -- a license goes on over this line
          obtain ⟨rfl, hhidden⟩ := Classical.not_imp.1 hends
          rw [Bool.not_eq_true] at hhidden
          rw [liveLines_of_hidden hhidden] at hlive
          exact .hiddenLeft hhidden (.hiddenRight (htop.trans hhidden) (ih hlater hlive))

end Change

/-! ## What the blocks show of them -/

/-- The text of a heading is its title with a colon behind it. -/
theorem text_eq_of_heading? {text title : Text} (hbreak : '\n' ∉ text)
    (h : Line.heading? text = some title) : text = title ++ [':'] := by
  simp only [Line.heading?, Text.singleLine?_of_not_mem hbreak, Option.bind_eq_bind,
    Option.bind_some, Option.bind_eq_some_iff] at h
  obtain ⟨first, _, last, _, htitle⟩ := h
  split at htitle
  · next hshape =>
    simp only [Bool.and_eq_true, beq_iff_eq] at hshape
    obtain rfl := Option.some.inj htitle
    exact (List.dropLast_append_getLast? ':' hshape.1.1).symm
  · simp at htitle

/-- The title of a heading shows the line of the heading. -/
theorem shows_of_headingAt? {title : Text} (h : headingAt? m (line :: after) = some title) :
    Shows m line title := by
  simp only [headingAt?] at h
  split at h
  · obtain ⟨text, htext, hheading⟩ := Option.bind_eq_some_iff.1 h
    exact ⟨text, htext, .inr (text_eq_of_heading? (Line.not_mem_of_commentText? htext) hheading)⟩
  · simp at h

/-- The comment texts of members show them. -/
theorem forall₂_shows_filterMap (h : ∀ line ∈ lines, isMember m line = true) :
    List.Forall₂ (Shows m) lines (lines.filterMap (Line.commentText? m)) := by
  induction lines with
  | nil => exact .nil
  | cons line lines ih =>
    obtain ⟨hline, hlater⟩ := List.forall_mem_cons.1 h
    obtain ⟨text, htext⟩ := exists_text_of_isMember hline
    rw [List.filterMap_cons_some htext]
    exact .cons ⟨text, htext, .inl rfl⟩ (ih hlater)

/-- A blank line is no member of a block. -/
theorem isMember_of_isBlank (h : Line.isBlank m line = true) : isMember m line = false := by
  simp [isMember, h]

/-- A member continues a block if it opens none of the three sections. -/
theorem continuesBlock_iff : continuesBlock m line = true ↔ isMember m line = true ∧
    Line.opens m .commentary line = false ∧ Line.opens m .code line = false ∧
      Line.opens m .license line = false := by
  simp [continuesBlock, Line.opensSection, and_assoc]

/-- The blocks of a body show the members among its live lines, each once and in order. -/
theorem Reading.shows (h : Reading m deep lines bs rest) :
    List.Forall₂ (Shows m) ((liveLines m false lines).filter (isMember m))
      (bs.flatMap Block.lines) := by
  induction h with
  | nil => exact .nil
  | code hcode =>
    rw [liveLines_of_code hcode]
    exact .nil
  | blank hblank _ ih =>
    rw [liveLines_of_plain (Line.opens_of_isBlank hblank _) (Line.opens_of_isBlank hblank _),
      List.filter_cons_of_neg (by simp [isMember_of_isBlank hblank])]
    exact ih
  | license hlicense _ ih =>
    rw [liveLines_of_license hlicense, liveLines_true]
    exact ih
  | stray _ hcode hlicense htext _ ih =>
    rw [liveLines_of_plain hcode hlicense, List.filter_cons_of_neg (by simp [isMember, htext])]
    exact ih
  | heading hstart hheading _ ih =>
    rw [liveLines_of_plain hstart.notCode hstart.notLicense,
      List.filter_cons_of_pos hstart.member, List.flatMap_cons]
    exact .cons (shows_of_headingAt? hheading) ih
  | @block deep line text after _ _ hstart _ htext _ ih =>
    have hcontinues : ∀ l ∈ after.takeWhile (continuesBlock m), isMember m l = true ∧
        Line.opens m .commentary l = false ∧ Line.opens m .code l = false ∧
          Line.opens m .license l = false :=
      fun l hl => continuesBlock_iff.1 (List.mem_takeWhile_imp hl)
    have hmembers : (after.takeWhile (continuesBlock m)).filter (isMember m) =
        after.takeWhile (continuesBlock m) :=
      List.filter_eq_self.2 fun l hl => (hcontinues l hl).1
    -- the block takes up the line it starts with and those that continue it
    have hlive : liveLines m false after = after.takeWhile (continuesBlock m) ++
        liveLines m false (after.dropWhile (continuesBlock m)) := by
      conv => lhs; rw [← List.takeWhile_append_dropWhile (p := continuesBlock m) (l := after)]
      exact liveLines_append fun l hl => (hcontinues l hl).2.2
    rw [liveLines_of_plain hstart.notCode hstart.notLicense,
      List.filter_cons_of_pos hstart.member, hlive, List.filter_append, hmembers, List.flatMap_cons]
    exact .cons ⟨text, htext, .inl rfl⟩
      (List.rel_append (forall₂_shows_filterMap fun l hl => (hcontinues l hl).1) ih)

/-- A stricter test that lets as many lines pass lets the same lines pass. -/
theorem forall_of_length_filter_eq {p q : Text → Bool}
    (hstrict : ∀ line ∈ lines, q line = true → p line = true)
    (hlength : (lines.filter q).length = (lines.filter p).length) :
    ∀ line ∈ lines, p line = true → q line = true := by
  have hfilter : lines.filter q = (lines.filter p).filter q := by
    rw [List.filter_filter]
    refine List.filter_congr fun line hline => ?_
    cases hq : q line with
    | true => simp [hstrict line hline hq]
    | false => simp
  have hsublist : (lines.filter q).Sublist (lines.filter p) := by
    rw [hfilter]
    exact List.filter_sublist
  intro line hline hp
  have hmem : line ∈ lines.filter q := by
    rw [hsublist.eq_of_length hlength]
    exact List.mem_filter.2 ⟨hline, hp⟩
  exact (List.mem_filter.1 hmem).2

end Commentary.Scan
