import Commentary.Proofs.Reading
import Mathlib.Data.List.Forall2

/-!
# What a scan sees of a line

A scan asks a line four things: its comment text, whether it is blank, whether it starts with three
markers, and which section it opens. Two bodies whose lines answer alike are read alike, even where
the one is read with another marker than the other. Only the lines that are read count for that: the
text of a license and what follows the Code line may differ.
-/

namespace Commentary.Scan

/-- Two lines that a scan with marker `m` and one with marker `m'` cannot tell apart. -/
structure SameView (m m' : Char) (line line' : Text) : Prop where
  /-- The lines have the same comment text, or none. -/
  text : Line.commentText? m line = Line.commentText? m' line'
  /-- Both are blank, or none is. -/
  blank : Line.isBlank m line = Line.isBlank m' line'
  /-- Both start with three markers, or none does. -/
  topLevel : Line.isTopLevel m line = Line.isTopLevel m' line'
  /-- They open the same section, or none. -/
  opens (s : Line.Section) : Line.opens m s line = Line.opens m' s line'

namespace SameView

variable {m m' : Char} {line line' : Text}

/-- A line looks like itself. -/
theorem refl (m : Char) (line : Text) : SameView m m line line := ⟨rfl, rfl, rfl, fun _ => rfl⟩

/-- Of two lines that look alike, both are members of a block or none is. -/
theorem isMember_eq (h : SameView m m' line line') : isMember m line = isMember m' line' := by
  rw [isMember, isMember, h.text, h.blank]

/-- Of two lines that look alike, both continue a block or none does. -/
theorem continuesBlock_eq (h : SameView m m' line line') :
    continuesBlock m line = continuesBlock m' line' := by
  simp only [continuesBlock, Line.opensSection, h.isMember_eq, h.opens]

/-- Where a block starts, one starts at every line that looks alike. -/
theorem startsBlock (h : SameView m m' line line') (hstart : StartsBlock m line) :
    StartsBlock m' line' where
  member := h.isMember_eq ▸ hstart.member
  notCode := h.opens .code ▸ hstart.notCode
  notLicense := h.opens .license ▸ hstart.notLicense

end SameView

/-! ## Bodies that look alike -/

/-- Two bodies of which a scan reads the same, where `licensed` tells that a license has been opened
before. Lines that are read look alike, and licenses and the code begin at the same places; what a
license hides and what follows the Code line may be anything. -/
inductive ReadAlike (m m' : Char) : (licensed : Bool) → List Text → List Text → Prop
  | nil {licensed : Bool} : ReadAlike m m' licensed [] []
  | code {licensed : Bool} {line line' : Text} {after after' : List Text} :
      Line.opens m .code line = true → Line.opens m' .code line' = true →
      ReadAlike m m' licensed (line :: after) (line' :: after')
  | license {licensed : Bool} {line line' : Text} {after after' : List Text} :
      Line.opens m .license line = true → Line.opens m' .license line' = true →
      ReadAlike m m' true after after' →
      ReadAlike m m' licensed (line :: after) (line' :: after')
  | hiddenLeft {line : Text} {after lines' : List Text} : Line.isTopLevel m line = false →
      ReadAlike m m' true after lines' → ReadAlike m m' true (line :: after) lines'
  | hiddenRight {line' : Text} {lines after' : List Text} : Line.isTopLevel m' line' = false →
      ReadAlike m m' true lines after' → ReadAlike m m' true lines (line' :: after')
  | seen {licensed : Bool} {line line' : Text} {after after' : List Text} :
      (licensed = true → Line.isTopLevel m line = true) → SameView m m' line line' →
      ReadAlike m m' false after after' →
      ReadAlike m m' licensed (line :: after) (line' :: after')

variable {m m' : Char} {deep licensed : Bool} {line : Text} {lines lines' after rest : List Text}
  {bs : List Block}

/-- Lines that look alike one by one make bodies that look alike. -/
theorem ReadAlike.of_forall₂ (h : List.Forall₂ (SameView m m') lines lines') :
    ReadAlike m m' false lines lines' := by
  induction h with
  | nil => exact .nil
  | cons hline _ ih => exact .seen (fun hlicensed => Bool.noConfusion hlicensed) hline ih

namespace ReadAlike

/-- The same lines in front of bodies that look alike make bodies that look alike. -/
theorem append (lines : List Text) (h : ReadAlike m m false after rest) :
    ReadAlike m m false (lines ++ after) (lines ++ rest) := by
  induction lines with
  | nil => exact h
  | cons line lines ih =>
    exact .seen (fun hlicensed => Bool.noConfusion hlicensed) (.refl m line) ih

/-- A line that opens neither code nor a license is seen. -/
theorem exists_seen (h : ReadAlike m m' false (line :: after) lines')
    (hcode : Line.opens m .code line = false) (hlicense : Line.opens m .license line = false) :
    ∃ line' after', lines' = line' :: after' ∧ SameView m m' line line' ∧
      ReadAlike m m' false after after' := by
  cases h with
  | code hopens =>
    rw [hcode] at hopens
    exact Bool.noConfusion hopens
  | license hopens =>
    rw [hlicense] at hopens
    exact Bool.noConfusion hopens
  | seen _ hview hafter => exact ⟨_, _, rfl, hview, hafter⟩

/-- A body that is read like one that starts with the Code line does so too. -/
theorem exists_code (h : ReadAlike m m' false (line :: after) lines')
    (hcode : Line.opens m .code line = true) :
    ∃ line' after', lines' = line' :: after' ∧ Line.opens m' .code line' = true := by
  cases h with
  | code _ hopens' => exact ⟨_, _, rfl, hopens'⟩
  | license hopens => exact absurd (Line.section_eq_of_opens hcode hopens) (by decide)
  | seen _ hview => exact ⟨_, _, rfl, hview.opens .code ▸ hcode⟩

/-- A body that is read like one that starts with a license does so too. -/
theorem exists_license (h : ReadAlike m m' false (line :: after) lines')
    (hlicense : Line.opens m .license line = true) :
    ∃ line' after' licensed, lines' = line' :: after' ∧ Line.opens m' .license line' = true ∧
      ReadAlike m m' licensed after after' := by
  cases h with
  | code hopens => exact absurd (Line.section_eq_of_opens hlicense hopens) (by decide)
  | license _ hopens' hafter => exact ⟨_, _, true, rfl, hopens', hafter⟩
  | seen _ hview hafter => exact ⟨_, _, false, rfl, hview.opens .license ▸ hlicense, hafter⟩

/-- Where a license ends, bodies that look alike go on looking alike. -/
theorem dropWhile_not_isTopLevel (h : ReadAlike m m' licensed lines lines') :
    ReadAlike m m' false (lines.dropWhile (!Line.isTopLevel m ·))
      (lines'.dropWhile (!Line.isTopLevel m' ·)) := by
  have stays {m : Char} {line : Text} (htop : Line.isTopLevel m line = true) (after : List Text) :
      (line :: after).dropWhile (!Line.isTopLevel m ·) = line :: after :=
    List.dropWhile_cons_of_neg (by simp [htop])
  have goes {m : Char} {line : Text} (htop : Line.isTopLevel m line = false) (after : List Text) :
      (line :: after).dropWhile (!Line.isTopLevel m ·) =
        after.dropWhile (!Line.isTopLevel m ·) :=
    List.dropWhile_cons_of_pos (by simp [htop])
  induction h with
  | nil => exact .nil
  | code hopens hopens' =>
    rw [stays (Line.isTopLevel_of_opens hopens), stays (Line.isTopLevel_of_opens hopens')]
    exact .code hopens hopens'
  | license hopens hopens' hafter =>
    rw [stays (Line.isTopLevel_of_opens hopens), stays (Line.isTopLevel_of_opens hopens')]
    exact .license hopens hopens' hafter
  | hiddenLeft htop _ ih | hiddenRight htop _ ih =>
    rw [goes htop]
    exact ih
  | @seen _ line _ _ _ _ hview hafter ih =>
    cases htop : Line.isTopLevel m line with
    | true =>
      rw [stays htop, stays (hview.topLevel ▸ htop)]
      exact .seen (fun hlicensed => Bool.noConfusion hlicensed) hview hafter
    | false =>
      rw [goes htop, goes (hview.topLevel ▸ htop)]
      exact ih

/-- A look ahead finds the same in bodies that look alike. -/
theorem paragraphFollows_eq (h : ReadAlike m m' false lines lines') :
    paragraphFollows m lines = paragraphFollows m' lines' := by
  have atSection {m : Char} {s : Line.Section} {line : Text} (hopens : Line.opens m s line = true)
      (after : List Text) : paragraphFollows m (line :: after) = true := by
    rw [paragraphFollows_cons_of_not_blank (by simp [Line.isBlank_of_opens hopens])]
    exact Line.paragraph_of_opens hopens
  generalize hlicensed : false = licensed at h
  induction h with
  | nil => rfl
  | code hopens hopens' => rw [atSection hopens, atSection hopens']
  | license hopens hopens' => rw [atSection hopens, atSection hopens']
  | hiddenLeft | hiddenRight => exact Bool.noConfusion hlicensed
  | @seen _ line _ _ _ _ hview _ ih =>
    by_cases hblank : Line.isBlank m line = true
    · rw [paragraphFollows_cons_of_blank hblank,
        paragraphFollows_cons_of_blank (hview.blank ▸ hblank), ih rfl]
    · rw [paragraphFollows_cons_of_not_blank hblank,
        paragraphFollows_cons_of_not_blank (hview.blank ▸ hblank), hview.text]

/-- Of two bodies that are read alike, both start with a blank line or none does. -/
theorem any_isBlank_head?_eq (h : ReadAlike m m' false lines lines') :
    lines.head?.any (Line.isBlank m) = lines'.head?.any (Line.isBlank m') := by
  cases h with
  | nil => rfl
  | code hopens hopens' | license hopens hopens' =>
    exact (Line.isBlank_of_opens hopens).trans (Line.isBlank_of_opens hopens').symm
  | seen _ hview => exact hview.blank

/-- Of two bodies that are read alike, behind lines that look alike, both start with the same
heading or none does. -/
theorem headingAt?_eq {line' : Text} (h : ReadAlike m m' false lines lines')
    (hline : SameView m m' line line') :
    headingAt? m (line :: lines) = headingAt? m' (line' :: lines') := by
  rw [headingAt?, headingAt?, h.any_isBlank_head?_eq, h.paragraphFollows_eq, hline.text]

/-- A block has the same texts in bodies that look alike. -/
theorem filterMap_takeWhile_eq (h : ReadAlike m m' false lines lines') :
    (lines.takeWhile (continuesBlock m)).filterMap (Line.commentText? m) =
      (lines'.takeWhile (continuesBlock m')).filterMap (Line.commentText? m') := by
  have atSection {m : Char} {s : Line.Section} {line : Text} (hopens : Line.opens m s line = true)
      (after : List Text) : (line :: after).takeWhile (continuesBlock m) = [] :=
    List.takeWhile_cons_of_neg (by simp [continuesBlock_of_opens hopens])
  generalize hlicensed : false = licensed at h
  induction h with
  | nil => rfl
  | code hopens hopens' | license hopens hopens' => rw [atSection hopens, atSection hopens']; rfl
  | hiddenLeft | hiddenRight => exact Bool.noConfusion hlicensed
  | seen _ hview _ ih =>
    rw [List.takeWhile_cons, List.takeWhile_cons, hview.continuesBlock_eq]
    split
    · rw [List.filterMap_cons, List.filterMap_cons, hview.text, ih rfl]
    · rfl

/-- Behind a block, bodies that look alike go on looking alike. -/
theorem dropWhile_continuesBlock (h : ReadAlike m m' false lines lines') :
    ReadAlike m m' false (lines.dropWhile (continuesBlock m))
      (lines'.dropWhile (continuesBlock m')) := by
  have atSection {m : Char} {s : Line.Section} {line : Text} (hopens : Line.opens m s line = true)
      (after : List Text) : (line :: after).dropWhile (continuesBlock m) = line :: after :=
    List.dropWhile_cons_of_neg (by simp [continuesBlock_of_opens hopens])
  generalize hlicensed : false = licensed at h
  induction h with
  | nil => exact .nil
  | code hopens hopens' =>
    rw [atSection hopens, atSection hopens']
    exact .code hopens hopens'
  | license hopens hopens' hafter =>
    rw [atSection hopens, atSection hopens']
    exact .license hopens hopens' hafter
  | hiddenLeft | hiddenRight => exact Bool.noConfusion hlicensed
  | seen hseen hview hafter ih =>
    subst hlicensed
    rw [List.dropWhile_cons, List.dropWhile_cons, hview.continuesBlock_eq]
    split
    · exact ih rfl
    · exact .seen hseen hview hafter

end ReadAlike

/-- Bodies that look alike are read alike. -/
theorem Reading.transport (h : Reading m deep lines bs rest)
    (halike : ReadAlike m m' false lines lines') : ∃ rest', Reading m' deep lines' bs rest' := by
  induction h generalizing lines' with
  | nil =>
    cases halike
    exact ⟨_, .nil⟩
  | code hcode =>
    obtain ⟨line', after', rfl, hcode'⟩ := halike.exists_code hcode
    exact ⟨_, .code hcode'⟩
  | blank hblank _ ih =>
    obtain ⟨line', after', rfl, hview, hafter⟩ := halike.exists_seen
      (Line.opens_of_isBlank hblank _) (Line.opens_of_isBlank hblank _)
    obtain ⟨rest', h'⟩ := ih hafter
    exact ⟨rest', .blank (hview.blank ▸ hblank) h'⟩
  | license hlicense _ ih =>
    obtain ⟨line', after', licensed, rfl, hlicense', hafter⟩ := halike.exists_license hlicense
    obtain ⟨rest', h'⟩ := ih hafter.dropWhile_not_isTopLevel
    exact ⟨rest', .license hlicense' h'⟩
  | stray hblank hcode hlicense htext _ ih =>
    obtain ⟨line', after', rfl, hview, hafter⟩ := halike.exists_seen hcode hlicense
    obtain ⟨rest', h'⟩ := ih hafter
    exact ⟨rest', .stray (hview.blank ▸ hblank) (hview.opens .code ▸ hcode)
      (hview.opens .license ▸ hlicense) (hview.text ▸ htext) h'⟩
  | heading hstart hheading _ ih =>
    obtain ⟨line', after', rfl, hview, hafter⟩ :=
      halike.exists_seen hstart.notCode hstart.notLicense
    obtain ⟨rest', h'⟩ := ih hafter
    exact ⟨rest', .heading (hview.startsBlock hstart)
      (hafter.headingAt?_eq hview ▸ hheading) h'⟩
  | block hstart hheading htext _ ih =>
    obtain ⟨line', after', rfl, hview, hafter⟩ :=
      halike.exists_seen hstart.notCode hstart.notLicense
    obtain ⟨rest', h'⟩ := ih hafter.dropWhile_continuesBlock
    rw [hafter.filterMap_takeWhile_eq]
    exact ⟨rest', .block (hview.startsBlock hstart) (hafter.headingAt?_eq hview ▸ hheading)
      (hview.text ▸ htext) h'⟩

/-- Bodies that are read alike have the same blocks. -/
theorem blocks_body_eq (h : ReadAlike m m' false lines lines') :
    blocks m (ofBody lines) = blocks m' (ofBody lines') := by
  obtain ⟨bs, rest, hreading⟩ := exists_reading m false lines
  obtain ⟨rest', hreading'⟩ := hreading.transport h
  rw [ofBody, ofBody, hreading.blocks_eq, hreading'.blocks_eq]

/-- The lines behind the first Commentary line look alike if all lines do. -/
theorem forall₂_dropWhile_not_opens (h : List.Forall₂ (SameView m m') lines lines') :
    List.Forall₂ (SameView m m') (lines.dropWhile (!Line.opens m .commentary ·))
      (lines'.dropWhile (!Line.opens m' .commentary ·)) := by
  induction h with
  | nil => exact .nil
  | cons hline hlater ih =>
    rw [List.dropWhile_cons, List.dropWhile_cons, hline.opens]
    split
    · exact ih
    · exact .cons hline hlater

/-- Documents whose lines look alike have the same blocks. -/
theorem blocks_document_eq (h : List.Forall₂ (SameView m m') lines lines') :
    blocks m (ofDocument lines) = blocks m' (ofDocument lines') := by
  rw [blocks_ofDocument, blocks_ofDocument]
  apply blocks_body_eq
  rw [← List.drop_one, ← List.drop_one]
  exact .of_forall₂ (List.forall₂_drop 1 (forall₂_dropWhile_not_opens h))

end Commentary.Scan
