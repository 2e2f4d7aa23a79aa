import Commentary.Conversion
import Commentary.Proofs.Completion

/-!
# The blocks of a document as runs of lines

The blocks of a document are described without a scan, by the lines of its body alone. A line of the
body is a member if it is a comment, not blank, and under no license. Adjacent members form runs,
cut before every Commentary line, and each run is a block. The scan is shown to give these blocks by
an invariant on the places at which it looks for the next block.
-/

namespace Commentary.Grouping

/-- The body of a document: the lines behind its first Commentary line and before the next Code
line. -/
def bodyOf (m : Char) (lines : List Text) : List Text :=
  (lines.dropWhile (!Line.opens m .commentary ·)).tail.takeWhile (!Line.opens m .code ·)

/-- Whether the last of `lines` that starts with three markers opens a license. -/
def underLicense (m : Char) (lines : List Text) : Bool :=
  (lines.reverse.find? (Line.isTopLevel m)).any (Line.opens m .license)

/-- Whether the nearest line at or above line `i` that starts with three markers opens a license. -/
def isLicensed (m : Char) (body : List Text) (i : Nat) : Bool := underLicense m (body.take (i + 1))

/-- Whether line `i` is a comment, not blank and not licensed. -/
def isMemberAt (m : Char) (body : List Text) (i : Nat) : Bool :=
  body[i]?.any (Scan.isMember m) && !isLicensed m body i

/-- Whether a run is cut before line `i`, which is so at a Commentary line. -/
def isCutAt (m : Char) (body : List Text) (i : Nat) : Bool :=
  body[i]?.any (Line.opens m .commentary)

/-- Lines by their indices: from `start` on and before `stop`. -/
structure Run where
  /-- The first line. -/
  start : Nat
  /-- The line behind the last one. -/
  stop : Nat
  deriving DecidableEq, Repr

/-- A maximal run of adjacent members that is not cut inside. -/
structure IsRun (m : Char) (body : List Text) (r : Run) : Prop where
  /-- A run has a line. -/
  nonempty : r.start < r.stop
  /-- All of its lines are members. -/
  members : ∀ i, r.start ≤ i → i < r.stop → isMemberAt m body i = true
  /-- It is cut nowhere behind its first line. -/
  uncut : ∀ i, r.start < i → i < r.stop → isCutAt m body i = false
  /-- It cannot start earlier. -/
  left : ∀ i, i + 1 = r.start → isMemberAt m body i = true → isCutAt m body r.start = true
  /-- It cannot end later. -/
  right : isMemberAt m body r.stop = true → isCutAt m body r.stop = true

/-- The shape of a heading: no bullet mark, parenthesis or blank in front, and a colon at the end
behind a character that is not blank. -/
def hasHeadingShape (t : Text) : Bool :=
  t.head?.any (!Line.isHeadingStopper ·) && t.getLast? == some ':' &&
    t.dropLast.getLast?.any (!Text.isSpace ·)

/-- Whether line `i` is a heading: its text has the shape of one, the next line is blank, and the
first line behind it that is not blank is none, is no comment, or starts a paragraph. -/
def isHeadingAt (m : Char) (body : List Text) (i : Nat) : Bool :=
  (body[i]?.bind (Line.commentText? m)).any hasHeadingShape && body[i + 1]?.any (Line.isBlank m) &&
    ((body.drop (i + 1)).find? (!Line.isBlank m ·)).all fun line =>
      (Line.commentText? m line).all (Line.blockKind · == .paragraph)

/-- The comment texts of a run. -/
def Run.texts (m : Char) (body : List Text) (r : Run) : List Text :=
  ((body.drop r.start).take (r.stop - r.start)).filterMap (Line.commentText? m)

/-- The block of a run, where `deep` tells that a heading stands before it. A heading loses its
colon; any other block is what its first text says. -/
def Run.block (m : Char) (body : List Text) (deep : Bool) (r : Run) : Block :=
  if isHeadingAt m body r.start then
    ⟨.heading, (r.texts m body).map List.dropLast, some (Scan.nextLevel deep)⟩
  else ⟨Line.blockKind ((r.texts m body).headD []), r.texts m body, none⟩

/-- The blocks of runs, in a place where `deep` tells that a heading stands before them. -/
def blocksAfter (m : Char) (body : List Text) (deep : Bool) (runs : List Run) : List Block :=
  runs.mapIdx fun k r =>
    r.block m body (deep || (runs.take k).any fun earlier => isHeadingAt m body earlier.start)

/-- The first run makes the first block, and if that is a heading, the later ones lie deeper. -/
theorem blocksAfter_cons (m : Char) (body : List Text) (deep : Bool) (r : Run) (runs : List Run) :
    blocksAfter m body deep (r :: runs) =
      r.block m body deep :: blocksAfter m body (deep || isHeadingAt m body r.start) runs := by
  simp [blocksAfter, List.mapIdx_cons, Bool.or_assoc]

/-! ## Licenses -/

section Licensed

variable {m : Char} {body : List Text} {i : Nat} {line : Text}

/-- Only a line that starts with three markers can begin or end a license. -/
theorem underLicense_append (m : Char) (lines : List Text) (line : Text) :
    underLicense m (lines ++ [line]) =
      if Line.isTopLevel m line then Line.opens m .license line else underLicense m lines := by
  rw [underLicense, List.reverse_append, List.reverse_singleton, List.singleton_append,
    List.find?_cons]
  cases Line.isTopLevel m line <;> rfl

/-- A line that starts with three markers is licensed if it opens a license, any other one if the
lines before it leave one open. -/
theorem isLicensed_eq (h : body[i]? = some line) : isLicensed m body i =
    if Line.isTopLevel m line then Line.opens m .license line
    else underLicense m (body.take i) := by
  rw [isLicensed, List.take_add_one, h, Option.toList_some, underLicense_append]

/-- A line that starts with three markers is under no license but the one that it opens, and so is
any line that no license reaches. -/
theorem isLicensed_eq_opens (h : body[i]? = some line)
    (hfree : Line.isTopLevel m line = false → underLicense m (body.take i) = false) :
    isLicensed m body i = Line.opens m .license line := by
  rw [isLicensed_eq h]
  cases htop : Line.isTopLevel m line with
  | true => rfl
  | false => rw [hfree htop, Line.opens_of_not_isTopLevel htop, ite_self]

/-- Where no line starts with three markers, a license goes on as it was. -/
theorem isLicensed_succ (h : body[i + 1]? = some line) (htop : Line.isTopLevel m line = false) :
    isLicensed m body (i + 1) = isLicensed m body i := by
  rw [isLicensed_eq h, htop]
  rfl

/-- A licensed line is no member. -/
theorem isMemberAt_of_licensed (h : isLicensed m body i = true) : isMemberAt m body i = false := by
  rw [isMemberAt, h, Bool.not_true, Bool.and_false]

/-- A line that is blank or no comment is no member, wherever it stands. -/
theorem isMemberAt_of_not_member (h : body[i]? = some line) (hm : Scan.isMember m line = false) :
    isMemberAt m body i = false := by
  rw [isMemberAt, h, Option.any_some, hm, Bool.false_and]

/-- Under no license a line is a member if it is a comment and not blank. -/
theorem isMemberAt_of_not_licensed (h : body[i]? = some line) (hl : isLicensed m body i = false) :
    isMemberAt m body i = Scan.isMember m line := by
  rw [isMemberAt, h, Option.any_some, hl, Bool.not_false, Bool.and_true]

end Licensed

/-! ## Lists of runs -/

section Runs

variable {m : Char} {body : List Text} {p q : Nat}

/-- Two runs with the same first line are the same. -/
theorem IsRun.stop_eq {r r' : Run} (h : IsRun m body r) (h' : IsRun m body r')
    (hstart : r.start = r'.start) : r.stop = r'.stop := by
  have hne := h.nonempty
  have hne' := h'.nonempty
  rcases Nat.lt_trichotomy r.stop r'.stop with hlt | heq | hlt
  · have hcut := h.right (h'.members r.stop (by omega) hlt)
    rw [h'.uncut r.stop (by omega) hlt] at hcut
    exact absurd hcut Bool.false_ne_true
  · exact heq
  · have hcut := h'.right (h.members r'.stop (by omega) hlt)
    rw [h.uncut r'.stop (by omega) hlt] at hcut
    exact absurd hcut Bool.false_ne_true

/-- No run starts inside another one. -/
theorem IsRun.stop_le {r r' : Run} (h : IsRun m body r) (h' : IsRun m body r')
    (hlt : r.start < r'.start) : r.stop ≤ r'.start := by
  by_contra hinside
  have hmember := h.members (r'.start - 1) (by omega) (by omega)
  have hcut := h'.left (r'.start - 1) (by omega) hmember
  rw [h.uncut r'.start hlt (by omega)] at hcut
  exact Bool.false_ne_true hcut

/-- The runs from line `p` on, in order, and the blocks that they are. -/
def Found (m : Char) (body : List Text) (p : Nat) (deep : Bool) (bs : List Block) : Prop :=
  ∃ runs : List Run, runs.Pairwise (fun r later => r.stop ≤ later.start) ∧
    (∀ r, r ∈ runs ↔ IsRun m body r ∧ p ≤ r.start) ∧ bs = blocksAfter m body deep runs

variable {deep : Bool} {bs : List Block}

/-- Behind the body no run is found. -/
theorem Found.nil (hp : body.length ≤ p) : Found m body p deep [] := by
  refine ⟨[], List.Pairwise.nil, ?_, rfl⟩
  intro r
  simp only [List.not_mem_nil, false_iff, not_and]
  intro hr hstart
  have hmember := hr.members r.start (Nat.le_refl _) hr.nonempty
  rw [isMemberAt, List.getElem?_eq_none (by omega)] at hmember
  simp at hmember

/-- Lines that are no members are passed. -/
theorem Found.skip (hpq : p ≤ q) (hnone : ∀ i, p ≤ i → i < q → isMemberAt m body i = false)
    (h : Found m body q deep bs) : Found m body p deep bs := by
  obtain ⟨runs, hsorted, hmem, hbs⟩ := h
  refine ⟨runs, hsorted, ?_, hbs⟩
  intro r
  rw [hmem]
  constructor
  · rintro ⟨hr, hstart⟩
    exact ⟨hr, by omega⟩
  · rintro ⟨hr, hstart⟩
    refine ⟨hr, ?_⟩
    by_contra hlt
    have hmember := hr.members r.start (Nat.le_refl _) hr.nonempty
    rw [hnone r.start hstart (by omega)] at hmember
    exact Bool.false_ne_true hmember

/-- A run comes before the runs behind it. -/
theorem Found.cons (hrun : IsRun m body ⟨p, q⟩)
    (h : Found m body q (deep || isHeadingAt m body p) bs) :
    Found m body p deep (Run.block m body deep ⟨p, q⟩ :: bs) := by
  obtain ⟨runs, hsorted, hmem, rfl⟩ := h
  have hlt : p < q := hrun.nonempty
  refine ⟨⟨p, q⟩ :: runs, List.pairwise_cons.2 ⟨fun r hr => ((hmem r).1 hr).2, hsorted⟩, ?_,
    (blocksAfter_cons m body deep ⟨p, q⟩ runs).symm⟩
  intro r
  rw [List.mem_cons, hmem]
  constructor
  · rintro (rfl | ⟨hr, hstart⟩)
    · exact ⟨hrun, Nat.le_refl _⟩
    · exact ⟨hr, by omega⟩
  · rintro ⟨hr, hstart⟩
    rcases Nat.eq_or_lt_of_le hstart with heq | hbehind
    · left
      have hstop : q = r.stop := hrun.stop_eq hr heq
      rw [heq, hstop]
    · exact Or.inr ⟨hr, hrun.stop_le hr hbehind⟩

end Runs

/-! ## Places of a scan -/

section Places

variable {m : Char} {body tail : List Text} {p : Nat} {line : Text} {after : List Text}

/-- A line that does not open the code and stands where the body is left at `p` is line `p`. -/
private theorem getElem?_of_cons_eq (htail : ∀ line ∈ tail.head?, Line.opens m .code line = true)
    (h : line :: after = body.drop p ++ tail) (hcode : Line.opens m .code line = false) :
    body[p]? = some line ∧ after = body.drop (p + 1) ++ tail := by
  cases hdrop : body.drop p with
  | nil =>
    rw [hdrop, List.nil_append] at h
    rw [htail line (by simp [← h])] at hcode
    exact absurd hcode.symm Bool.false_ne_true
  | cons first later =>
    rw [hdrop, List.cons_append, List.cons.injEq] at h
    constructor
    · rw [h.1, ← List.head?_drop, hdrop, List.head?_cons]
    · rw [h.2, ← List.tail_drop, hdrop, List.tail_cons]

/-- The lines from `k` on that satisfy `f` end at a place within the body, if no line behind the
body can satisfy `f` first. -/
private theorem exists_stretch {f : Text → Bool} (htail : ∀ line ∈ tail.head?, f line = false)
    {k : Nat} (hk : k ≤ body.length) :
    ∃ q, k ≤ q ∧ q ≤ body.length ∧ (body.drop k ++ tail).dropWhile f = body.drop q ++ tail ∧
      (body.drop k ++ tail).takeWhile f = (body.drop k).take (q - k) ∧
      (∀ i line, k ≤ i → i < q → body[i]? = some line → f line = true) ∧
      ∀ line, body[q]? = some line → f line = false := by
  induction hn : body.length - k generalizing k with
  | zero =>
    have hlast : k = body.length := by omega
    refine ⟨k, Nat.le_refl _, hk, ?_, ?_, fun i line _ _ => by omega, ?_⟩
    all_goals rw [hlast]
    · cases tail with
      | nil => simp
      | cons first later => simp [htail first rfl]
    · cases tail with
      | nil => simp
      | cons first later => simp [htail first rfl]
    · simp
  | succ n ih =>
    have hlt : k < body.length := by omega
    rw [List.drop_eq_getElem_cons hlt, List.cons_append]
    by_cases hf : f body[k] = true
    · obtain ⟨q, hkq, hq, hdrop, htake, hall, hstop⟩ := ih (k := k + 1) (by omega) (by omega)
      refine ⟨q, by omega, hq, ?_, ?_, ?_, hstop⟩
      · rw [List.dropWhile_cons_of_pos hf, hdrop]
      · rw [List.takeWhile_cons_of_pos hf, htake, show q - k = q - (k + 1) + 1 by omega,
          List.take_succ_cons]
      · intro i line hi hiq hline
        rcases Nat.eq_or_lt_of_le hi with rfl | hi
        · rw [List.getElem?_eq_getElem hlt, Option.some.injEq] at hline
          exact hline ▸ hf
        · exact hall i line hi hiq hline
    · refine ⟨k, Nat.le_refl _, hk, ?_, ?_, fun i line _ _ => by omega, ?_⟩
      · rw [List.dropWhile_cons_of_neg hf, List.drop_eq_getElem_cons hlt, List.cons_append]
      · rw [List.takeWhile_cons_of_neg hf, Nat.sub_self, List.take_zero]
      · intro line hline
        rw [List.getElem?_eq_getElem hlt, Option.some.injEq] at hline
        simpa [← hline] using hf

/-- A place at which a scan can look for the next block. -/
structure Boundary (m : Char) (body : List Text) (p : Nat) : Prop where
  /-- A member here starts a run. -/
  start : ∀ i, i + 1 = p → isMemberAt m body i = true → isMemberAt m body p = true →
    isCutAt m body p = true
  /-- The line here is under no license but the one that it opens itself. -/
  clear : ∀ line, body[p]? = some line → isLicensed m body p = Line.opens m .license line

/-- Behind a line that is not licensed a scan stands at a boundary, unless it stands inside a run.
-/
theorem boundary_succ {i : Nat} (hl : isLicensed m body i = false)
    (h : isMemberAt m body i = true → isMemberAt m body (i + 1) = true →
      isCutAt m body (i + 1) = true) : Boundary m body (i + 1) := by
  refine ⟨?_, fun line hline => isLicensed_eq_opens hline fun _ => hl⟩
  intro j hj
  obtain rfl : j = i := by omega
  exact h

/-- A scan can look for a block at the start of a body. -/
theorem boundary_zero (m : Char) (body : List Text) : Boundary m body 0 :=
  ⟨by omega, fun line hline => isLicensed_eq_opens hline fun _ => rfl⟩

/-- A line that is no member and opens no license is passed. -/
private theorem found_of_pass {deep : Bool} {bs : List Block} (hb : Boundary m body p)
    (hline : body[p]? = some line) (hmember : Scan.isMember m line = false)
    (hlicense : Line.opens m .license line = false)
    (h : Boundary m body (p + 1) → Found m body (p + 1) deep bs) : Found m body p deep bs := by
  have hl : isLicensed m body p = false := by rw [hb.clear line hline, hlicense]
  have hnot := isMemberAt_of_not_member hline hmember
  have hnext : Boundary m body (p + 1) := by
    apply boundary_succ hl
    rw [hnot]
    intro hfalse
    exact absurd hfalse Bool.false_ne_true
  refine (h hnext).skip (Nat.le_succ p) ?_
  intro i hi hlt
  obtain rfl : i = p := by omega
  exact hnot

/-- A license reaches as far as no line starts with three markers. -/
private theorem isLicensed_of_stretch {q : Nat} (hq : q ≤ body.length)
    (hp : isLicensed m body p = true)
    (hall : ∀ i line, p + 1 ≤ i → i < q → body[i]? = some line → Line.isTopLevel m line = false)
    {i : Nat} (hi : p ≤ i) (hiq : i < q) : isLicensed m body i = true := by
  induction i, hi using Nat.le_induction with
  | base => exact hp
  | succ i hi ih =>
    have hline := List.getElem?_eq_getElem (l := body) (i := i + 1) (by omega)
    rw [isLicensed_succ hline (hall (i + 1) _ (by omega) hiq hline)]
    exact ih (by omega)

/-- Where no license is opened, none is there. -/
private theorem not_isLicensed_of_stretch {q : Nat} (hq : q ≤ body.length)
    (hp : isLicensed m body p = false)
    (hall : ∀ i line, p + 1 ≤ i → i < q → body[i]? = some line → Line.opens m .license line = false)
    {i : Nat} (hi : p ≤ i) (hiq : i < q) : isLicensed m body i = false := by
  induction i, hi using Nat.le_induction with
  | base => exact hp
  | succ i hi ih =>
    have hline := List.getElem?_eq_getElem (l := body) (i := i + 1) (by omega)
    rw [isLicensed_eq_opens hline fun _ => ih (by omega)]
    exact hall (i + 1) _ (by omega) hiq hline

end Places

/-! ## Headings -/

section Headings

variable {m : Char} {body tail : List Text} {p : Nat} {line text : Text}

/-- On a single line, a heading is what has the shape of one, and loses its colon. -/
theorem heading?_eq {t : Text} (h : '\n' ∉ t) :
    Line.heading? t = if hasHeadingShape t then some t.dropLast else none := by
  simp only [Line.heading?, Text.singleLine?_of_not_mem h, Option.bind_eq_bind, Option.bind_some,
    hasHeadingShape]
  cases t with
  | nil => rfl
  | cons c rest =>
    cases rest with
    | nil => simp
    | cons d rest =>
      obtain ⟨last, hlast⟩ : ∃ last, (c :: (d :: rest).dropLast).getLast? = some last :=
        ⟨_, List.getLast?_eq_some_getLast (List.cons_ne_nil _ _)⟩
      simp only [List.dropLast_cons_cons, List.head?_cons, Option.bind_some, hlast, Option.any_some]
      congr 1
      cases Line.isHeadingStopper c <;> simp

private theorem any_isBlank_head? (htail : ∀ line ∈ tail.head?, Line.opens m .code line = true) :
    (body.drop (p + 1) ++ tail).head?.any (Line.isBlank m) = body[p + 1]?.any (Line.isBlank m) := by
  rw [← List.head?_drop]
  cases body.drop (p + 1) with
  | cons => rfl
  | nil =>
    cases tail with
    | nil => rfl
    | cons first later => simp [Line.isBlank_of_opens (htail first rfl)]

/-- The line that decides about a heading lies in the body, or it is the Code line and decides as if
no line were left. -/
private theorem paragraphFollows_eq (htail : ∀ line ∈ tail.head?, Line.opens m .code line = true) :
    Scan.paragraphFollows m (body.drop (p + 1) ++ tail) =
      ((body.drop (p + 1)).find? (!Line.isBlank m ·)).all fun line =>
        (Line.commentText? m line).all (Line.blockKind · == .paragraph) := by
  rw [Scan.paragraphFollows, List.find?_not_eq_head?_dropWhile, List.dropWhile_append]
  cases (body.drop (p + 1)).dropWhile (Line.isBlank m) with
  | cons => rfl
  | nil =>
    cases tail with
    | nil => rfl
    | cons first later =>
      have hcode := htail first rfl
      simp [Line.isBlank_of_opens hcode, Line.paragraph_of_opens hcode]

/-- A scan reads a heading exactly where the rule for headings holds in the body. -/
theorem headingAt?_eq (htail : ∀ line ∈ tail.head?, Line.opens m .code line = true)
    (hline : body[p]? = some line) (htext : Line.commentText? m line = some text) :
    Scan.headingAt? m (line :: (body.drop (p + 1) ++ tail)) =
      if isHeadingAt m body p then some text.dropLast else none := by
  simp only [Scan.headingAt?, any_isBlank_head? htail, paragraphFollows_eq htail, htext,
    Option.bind_some, heading?_eq (Line.not_mem_of_commentText? htext), isHeadingAt, hline,
    Option.any_some]
  cases hasHeadingShape text <;> simp

/-- The line behind a heading is no member. -/
theorem not_isMemberAt_of_isHeadingAt (h : isHeadingAt m body p = true) :
    isMemberAt m body (p + 1) = false := by
  simp only [isHeadingAt, Bool.and_eq_true] at h
  cases hline : body[p + 1]? with
  | none => simp [isMemberAt, hline]
  | some line =>
    have hblank : Line.isBlank m line = true := by simpa [hline] using h.1.2
    exact isMemberAt_of_not_member hline (by simp [Scan.isMember, hblank])

/-- A heading is a run of its own. -/
theorem IsRun.stop_eq_of_isHeadingAt {r : Run} (h : IsRun m body r)
    (hheading : isHeadingAt m body r.start = true) : r.stop = r.start + 1 := by
  have hne := h.nonempty
  by_contra hstop
  have hmember := h.members (r.start + 1) (by omega) (by omega)
  rw [not_isMemberAt_of_isHeadingAt hheading] at hmember
  exact Bool.false_ne_true hmember

end Headings

/-! ## A scan finds the runs -/

section Scans

variable {m : Char} {body tail : List Text} {p : Nat} {line text : Text}

/-- A block that starts at a boundary is a heading of its own. -/
private theorem isRun_of_heading (hb : Boundary m body p) (hmember : isMemberAt m body p = true)
    (hheading : isHeadingAt m body p = true) : IsRun m body ⟨p, p + 1⟩ := by
  constructor
  · exact Nat.lt_succ_self p
  · intro i hi hlt
    obtain rfl : i = p := Nat.le_antisymm (Nat.le_of_lt_succ hlt) hi
    exact hmember
  · intro i hi hlt
    exact absurd hlt (Nat.not_lt_of_le hi)
  · intro i hi hbefore
    exact hb.start i hi hbefore hmember
  · intro hafter
    rw [not_isMemberAt_of_isHeadingAt hheading] at hafter
    exact absurd hafter Bool.false_ne_true

/-- A block that starts at a boundary and goes on with lines that continue it is a run. -/
private theorem isRun_of_stretch (hbody : ∀ line ∈ body, Line.opens m .code line = false)
    (hb : Boundary m body p) (hline : body[p]? = some line) (hstart : Scan.StartsBlock m line)
    {q : Nat} (hpq : p + 1 ≤ q) (hq : q ≤ body.length)
    (hall : ∀ i line, p + 1 ≤ i → i < q → body[i]? = some line → Scan.continuesBlock m line = true)
    (hstop : ∀ line, body[q]? = some line → Scan.continuesBlock m line = false) :
    IsRun m body ⟨p, q⟩ ∧ Boundary m body q := by
  have hp : isLicensed m body p = false := by rw [hb.clear line hline, hstart.notLicense]
  have hcontinues {i : Nat} {line : Text} (hi : p + 1 ≤ i) (hiq : i < q)
      (hline : body[i]? = some line) :
      Scan.isMember m line = true ∧ Line.opens m .commentary line = false ∧
        Line.opens m .license line = false := by
    have h := hall i line hi hiq hline
    simp only [Scan.continuesBlock, Line.opensSection, Bool.and_eq_true, Bool.not_eq_true',
      Bool.or_eq_false_iff] at h
    exact ⟨h.1, h.2.1.1, h.2.2⟩
  have hfree {i : Nat} (hi : p ≤ i) (hiq : i < q) : isLicensed m body i = false :=
    not_isLicensed_of_stretch hq hp (fun i line hi hiq hline => (hcontinues hi hiq hline).2.2)
      hi hiq
  have hmembers (i : Nat) (hi : p ≤ i) (hiq : i < q) : isMemberAt m body i = true := by
    rcases Nat.eq_or_lt_of_le hi with rfl | hlt
    · rw [isMemberAt_of_not_licensed hline hp, hstart.member]
    · have hi' := List.getElem?_eq_getElem (l := body) (i := i) (by omega)
      rw [isMemberAt_of_not_licensed hi' (hfree hi hiq), (hcontinues hlt hiq hi').1]
  -- a member behind the run opens a section, and that is neither the code nor a license
  have hright (hmember : isMemberAt m body q = true) : isCutAt m body q = true := by
    cases hq' : body[q]? with
    | none => simp [isMemberAt, hq'] at hmember
    | some last =>
      have hlicensed : isLicensed m body q = Line.opens m .license last := by
        apply isLicensed_eq_opens hq'
        intro _
        obtain ⟨k, rfl⟩ : ∃ k, q = k + 1 := ⟨q - 1, by omega⟩
        exact hfree (by omega) (by omega)
      have hcode := hbody last (List.mem_of_getElem? hq')
      have hends := hstop last hq'
      simp only [isMemberAt, hq', Option.any_some, hlicensed, Bool.and_eq_true,
        Bool.not_eq_true'] at hmember
      simpa [Scan.continuesBlock, Line.opensSection, hmember.1, hmember.2, hcode, isCutAt, hq']
        using hends
  refine ⟨⟨hpq, hmembers, ?_, ?_, hright⟩, ?_⟩
  · intro i hi hiq
    have hi' := List.getElem?_eq_getElem (l := body) (i := i) (Nat.lt_of_lt_of_le hiq hq)
    simp only [isCutAt, hi', Option.any_some]
    exact (hcontinues hi hiq hi').2.1
  · intro i hi hbefore
    exact hb.start i hi hbefore (hmembers p (Nat.le_refl _) hpq)
  · obtain ⟨k, rfl⟩ : ∃ k, q = k + 1 := ⟨q - 1, by omega⟩
    exact boundary_succ (hfree (by omega) (by omega)) fun _ => hright

/-- The texts of a run are the text of its first line and those of the lines that continue it. -/
private theorem texts_eq (hline : body[p]? = some line)
    (htext : Line.commentText? m line = some text) {q : Nat} (hpq : p + 1 ≤ q) :
    Run.texts m body ⟨p, q⟩ =
      text :: ((body.drop (p + 1)).take (q - (p + 1))).filterMap (Line.commentText? m) := by
  obtain ⟨hlt, hget⟩ := List.getElem?_eq_some_iff.1 hline
  simp only [Run.texts]
  rw [List.drop_eq_getElem_cons hlt, show q - p = q - (p + 1) + 1 by omega, List.take_succ_cons,
    List.filterMap_cons, hget, htext]

/-- From a boundary on, a reading finds the runs of the body in order. -/
theorem found_of_reading (hbody : ∀ line ∈ body, Line.opens m .code line = false)
    (htail : ∀ line ∈ tail.head?, Line.opens m .code line = true) {deep : Bool}
    {lines rest : List Text} {bs : List Block} (h : Scan.Reading m deep lines bs rest)
    (hp : p ≤ body.length) (hlines : lines = body.drop p ++ tail) (hb : Boundary m body p) :
    Found m body p deep bs := by
  -- the induction follows the reading, and `p` is the place in the body that it has come to
  induction h generalizing p with
  | nil =>
    have hnil := (List.append_eq_nil_iff.1 hlines.symm).1
    exact .nil (List.drop_eq_nil_iff.1 hnil)
  | @code deep line after hcode =>
    apply Found.nil
    rw [← List.drop_eq_nil_iff]
    cases hdrop : body.drop p with
    | nil => rfl
    | cons first later =>
      rw [hdrop, List.cons_append, List.cons.injEq] at hlines
      have hmem : first ∈ body := List.mem_of_mem_drop (i := p) (by simp [hdrop])
      rw [hlines.1, hbody first hmem] at hcode
      exact absurd hcode Bool.false_ne_true
  | blank hblank _ ih =>
    obtain ⟨hline, hafter⟩ := getElem?_of_cons_eq htail hlines (Line.opens_of_isBlank hblank .code)
    exact found_of_pass hb hline (by simp [Scan.isMember, hblank])
      (Line.opens_of_isBlank hblank .license) (ih (List.getElem?_eq_some_iff.1 hline).1 hafter)
  | @license deep line after _ _ hlicense _ ih =>
    have hcode : Line.opens m .code line = false := Line.opens_of_ne hlicense (by decide)
    obtain ⟨hline, hafter⟩ := getElem?_of_cons_eq htail hlines hcode
    have htop : ∀ line ∈ tail.head?, (!Line.isTopLevel m line) = false := by
      intro line hline
      rw [Line.isTopLevel_of_opens (htail line hline)]
      rfl
    obtain ⟨q, hpq, hq, hdrop, _, hall, hstop⟩ := exists_stretch (f := (!Line.isTopLevel m ·)) htop
      (List.getElem?_eq_some_iff.1 hline).1
    have hlicensed (i : Nat) (hi : p ≤ i) (hiq : i < q) : isMemberAt m body i = false := by
      apply isMemberAt_of_licensed
      refine isLicensed_of_stretch hq (by rw [hb.clear line hline, hlicense]) ?_ hi hiq
      intro i line hi hiq hline
      simpa using hall i line hi hiq hline
    refine (ih hq (by rw [hafter, hdrop]) ⟨?_, ?_⟩).skip (by omega) hlicensed
    · intro i hi hbefore
      rw [hlicensed i (by omega) (by omega)] at hbefore
      exact absurd hbefore Bool.false_ne_true
    · intro line hline
      apply isLicensed_eq_opens hline
      intro hnot
      simpa [hnot] using hstop line hline
  | stray _ hcode hlicense htext _ ih =>
    obtain ⟨hline, hafter⟩ := getElem?_of_cons_eq htail hlines hcode
    exact found_of_pass hb hline (by simp [Scan.isMember, htext]) hlicense
      (ih (List.getElem?_eq_some_iff.1 hline).1 hafter)
  | @heading deep line title after _ bs hstart hheading _ ih =>
    obtain ⟨hline, rfl⟩ := getElem?_of_cons_eq htail hlines hstart.notCode
    obtain ⟨text, htext⟩ := Scan.exists_text_of_isMember hstart.member
    have hl : isLicensed m body p = false := by rw [hb.clear line hline, hstart.notLicense]
    rw [headingAt?_eq htail hline htext] at hheading
    cases hat : isHeadingAt m body p with
    | false => simp [hat] at hheading
    | true =>
      simp only [hat, ite_true, Option.some.injEq] at hheading
      have hmember : isMemberAt m body p = true := by
        rw [isMemberAt_of_not_licensed hline hl, hstart.member]
      have hblock : Run.block m body deep ⟨p, p + 1⟩ =
          ⟨.heading, [title], some (Scan.nextLevel deep)⟩ := by
        simp [Run.block, hat, texts_eq hline htext (Nat.le_refl _), hheading]
      rw [← hblock]
      apply Found.cons (isRun_of_heading hb hmember hat)
      rw [hat, Bool.or_true]
      apply ih (List.getElem?_eq_some_iff.1 hline).1 rfl
      apply boundary_succ hl
      rw [not_isMemberAt_of_isHeadingAt hat]
      intro _ hfalse
      exact absurd hfalse Bool.false_ne_true
  | @block deep line text after _ bs hstart hheading htext _ ih =>
    obtain ⟨hline, rfl⟩ := getElem?_of_cons_eq htail hlines hstart.notCode
    have hlt := (List.getElem?_eq_some_iff.1 hline).1
    have hends : ∀ line ∈ tail.head?, Scan.continuesBlock m line = false := by
      intro line hline
      simp [Scan.continuesBlock, Line.opensSection, htail line hline]
    obtain ⟨q, hpq, hq, hdrop, htake, hall, hstop⟩ :=
      exists_stretch (f := Scan.continuesBlock m) hends hlt
    obtain ⟨hrun, hnext⟩ := isRun_of_stretch hbody hb hline hstart hpq hq hall hstop
    rw [headingAt?_eq htail hline htext] at hheading
    have hat : isHeadingAt m body p = false := by
      rw [Bool.eq_false_iff]
      intro hat
      simp [hat] at hheading
    have hblock : Run.block m body deep ⟨p, q⟩ =
        ⟨Line.blockKind text, text :: ((body.drop (p + 1) ++ tail).takeWhile
          (Scan.continuesBlock m)).filterMap (Line.commentText? m), none⟩ := by
      simp [Run.block, hat, texts_eq hline htext hpq, htake]
    rw [← hblock]
    apply Found.cons hrun
    rw [hat, Bool.or_false]
    exact ih hq hdrop hnext

end Scans

/-- The scan of a body up to its Code line gives the blocks of its runs. -/
theorem blocks_ofBody (m : Char) (lines : List Text) :
    let body := lines.takeWhile (!Line.opens m .code ·)
    ∃ runs : List Run, runs.Pairwise (fun r later => r.stop ≤ later.start) ∧
      (∀ r, r ∈ runs ↔ IsRun m body r) ∧
      Scan.blocks m (Scan.ofBody lines) = .ok (blocksAfter m body false runs) := by
  intro body
  obtain ⟨bs, rest, hreading⟩ := Scan.exists_reading m false lines
  have hbody : ∀ line ∈ body, Line.opens m .code line = false := by
    intro line hline
    simpa using List.mem_takeWhile_imp hline
  have htail : ∀ line ∈ (Scan.fromCode m lines).head?, Line.opens m .code line = true := by
    obtain ⟨_, _, _, hhead⟩ := Scan.exists_append_fromCode m lines
    exact hhead
  have hlines : lines = body.drop 0 ++ Scan.fromCode m lines :=
    List.takeWhile_append_dropWhile.symm
  obtain ⟨runs, hsorted, hmem, hbs⟩ := found_of_reading hbody htail hreading (Nat.zero_le _) hlines
    (boundary_zero m body)
  refine ⟨runs, hsorted, ?_, ?_⟩
  · intro r
    rw [hmem]
    exact and_iff_left (Nat.zero_le _)
  · rw [Scan.ofBody, hreading.blocks_eq, hbs]

/-- The blocks of a document are, in order, the maximal runs of adjacent members of its body, cut
before every Commentary line. A heading is a run of its own, of the second level if it is the first
one and of the third level otherwise. Without a Commentary line there are no blocks. -/
theorem blocks_eq_runs (s : Settings) (lines : List Text) (name : Option Text) :
    let doc := Document.ofLines s.markers lines name
    let body := bodyOf s.marker doc.lines
    (∃ runs : List Run, runs.Pairwise (fun r later => r.stop ≤ later.start) ∧
      (∀ r, r ∈ runs ↔ IsRun s.marker body r) ∧
      (∀ r ∈ runs, isHeadingAt s.marker body r.start = true → r.stop = r.start + 1) ∧
      doc.blocks s = .ok (blocksAfter s.marker body false runs)) ∧
    ((∀ line ∈ doc.lines, Line.opens s.marker .commentary line = false) →
      doc.blocks s = .ok []) := by
  intro doc body
  constructor
  · obtain ⟨runs, hsorted, hmem, hblocks⟩ := blocks_ofBody s.marker
      (doc.lines.dropWhile (!Line.opens s.marker .commentary ·)).tail
    refine ⟨runs, hsorted, hmem, ?_, ?_⟩
    · intro r hr hheading
      exact ((hmem r).1 hr).stop_eq_of_isHeadingAt hheading
    · rw [Document.blocks, Scan.blocks_ofDocument]
      exact hblocks
  · intro hnone
    have hdrop : doc.lines.dropWhile (!Line.opens s.marker .commentary ·) = [] := by
      rw [List.dropWhile_eq_nil_iff]
      intro line hline
      simp [hnone line hline]
    rw [Document.blocks, Scan.blocks_ofDocument, hdrop]
    exact Scan.Reading.nil.blocks_eq

end Commentary.Grouping
