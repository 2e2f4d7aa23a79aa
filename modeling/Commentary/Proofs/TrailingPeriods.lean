import Commentary.Pattern
import Commentary.Proofs.Blanks
import Commentary.Proofs.SectionLines
import Mathlib.Order.Bounds.Defs

/-!
# Periods at the end of a title

The pattern of trailing periods can hold at many places: wherever one period or blank or more are
followed by the end of the text, or by a newline that ends it. Main statement: taking out all that
it covers, from left to right, leaves the longest beginning that does not end in a period or a
blank. So the last run of periods and blanks goes as a whole, and all other periods stay in place.
-/

namespace Commentary

/-! ## Taking out what a pattern covers -/

/-- A text without the parts that are covered, found from left to right: `covered` tells how many
characters are covered at the start of a text, and the part found last covers `skip` more. -/
def Text.withoutCoveredFrom (covered : Text → Nat) : (skip : Nat) → Text → Text
  | _, [] => []
  | skip + 1, _ :: t => withoutCoveredFrom covered skip t
  | 0, c :: t =>
    match covered (c :: t) with
    | 0 => c :: withoutCoveredFrom covered 0 t
    | n + 1 => withoutCoveredFrom covered n t

namespace Pattern

/-- How many characters a pattern covers at the start of `t`; none if it does not hold there. -/
def covered (m : Char) (p : Pattern) (t : Text) : Nat := (match? m p t).elim 0 Found.stop

/-- A text without the parts that a pattern covers, for a pattern that may hold anywhere. -/
def erase (m : Char) (p : Pattern) (t : Text) : Text := Text.withoutCoveredFrom (covered m p) 0 t

end Pattern

/-- Nothing is left of a text that is covered as a whole. -/
theorem Text.withoutCoveredFrom_of_length_le {covered : Text → Nat} {skip : Nat} {t : Text}
    (h : t.length ≤ skip) : withoutCoveredFrom covered skip t = [] := by
  induction t generalizing skip with
  | nil => simp [withoutCoveredFrom]
  | cons c t ih =>
    cases skip with
    | zero => simp at h
    | succ skip =>
      rw [withoutCoveredFrom]
      exact ih (Nat.le_of_succ_le_succ h)

/-! ## The pattern of trailing periods -/

namespace Line

variable {c : Char} {n : Nat} {t : Text}

/-- The first `n` characters of `t` are periods and blanks, one of them at least, and behind them is
the end of `t` or the newline that ends it. -/
structure IsEndRun (t : Text) (n : Nat) : Prop where
  pos : 0 < n
  le_length : n ≤ t.length
  periods : ∀ c ∈ t.take n, c = '.' ∨ Text.isSpace c = true
  ends : Text.isEnd (t.drop n) = true

/-- An empty text, or one with a last character that is neither a period nor a blank. -/
def EndsShown (t : Text) : Prop := ∀ c ∈ t.getLast?, c ≠ '.' ∧ Text.isSpace c = false

/-- A character that may be dropped is a period or a blank. -/
theorem isPeriodOrSpace_iff : isPeriodOrSpace c = true ↔ c = '.' ∨ Text.isSpace c = true := by
  rw [isPeriodOrSpace, Bool.or_eq_true, beq_iff_eq]

/-- A character that stays is neither a period nor a blank. -/
theorem isPeriodOrSpace_eq_false_iff :
    isPeriodOrSpace c = false ↔ c ≠ '.' ∧ Text.isSpace c = false := by
  rw [isPeriodOrSpace, Bool.or_eq_false_iff, beq_eq_false_iff_ne]

/-- The newline behind a run is a blank itself, so that no other character is left. -/
theorem IsEndRun.all_isPeriodOrSpace (h : IsEndRun t n) : t.all isPeriodOrSpace = true := by
  have hrun : (t.take n).all isPeriodOrSpace = true :=
    List.all_eq_true.2 fun c hc => isPeriodOrSpace_iff.2 (h.periods c hc)
  have hend : (t.drop n).all isPeriodOrSpace = true := by
    rcases Text.isEnd_iff.1 h.ends with hnil | hnewline
    · rw [hnil]
      rfl
    · rw [hnewline]
      decide
  rw [← List.take_append_drop n t, List.all_append, hrun, hend]
  rfl

/-- A text of periods and blanks is a run that reaches its end. -/
theorem isEndRun_length (hne : t ≠ []) (hall : t.all isPeriodOrSpace = true) :
    IsEndRun t t.length where
  pos := List.length_pos_iff.2 hne
  le_length := Nat.le_refl _
  periods := fun c hc => isPeriodOrSpace_iff.1 (List.all_eq_true.1 hall c (List.mem_of_mem_take hc))
  ends := by rw [List.drop_length]; rfl

/-- The longest run covers the whole text, with the newline that ends it. -/
theorem isGreatest_isEndRun_iff : IsGreatest {k | IsEndRun t k} n ↔
    t ≠ [] ∧ t.all isPeriodOrSpace = true ∧ n = t.length := by
  constructor
  · rintro ⟨hrun, hgreatest⟩
    have hne : t ≠ [] := List.ne_nil_of_length_pos (Nat.lt_of_lt_of_le hrun.pos hrun.le_length)
    have hall := hrun.all_isPeriodOrSpace
    exact ⟨hne, hall, Nat.le_antisymm hrun.le_length (hgreatest (isEndRun_length hne hall))⟩
  · rintro ⟨hne, hall, rfl⟩
    exact ⟨isEndRun_length hne hall, fun k hk => hk.le_length⟩

end Line

namespace Pattern

variable {m : Char} {t : Text}

/-- The pattern of trailing periods covers as many characters as it can. -/
theorem match?_periods_eq_some_iff {found : Found} : match? m .periods t = some found ↔
    ∃ n, IsGreatest {k | Line.IsEndRun t k} n ∧ found = initial n [] := by
  simp only [Line.isGreatest_isEndRun_iff, match?, Option.ite_none_right_eq_some,
    Bool.and_eq_true, bne_iff_ne]
  constructor
  · rintro ⟨⟨hne, hall⟩, hfound⟩
    exact ⟨t.length, ⟨hne, hall, rfl⟩, (Option.some.inj hfound).symm⟩
  · rintro ⟨n, ⟨hne, hall, rfl⟩, rfl⟩
    exact ⟨⟨hne, hall⟩, rfl⟩

/-- The pattern covers a text of periods and blanks as a whole. -/
theorem covered_periods_of_all (hall : t.all Line.isPeriodOrSpace = true) :
    covered m .periods t = t.length := by
  cases t with
  | nil => rfl
  | cons c t => simp [covered, match?, hall, initial]

/-- The pattern covers nothing where another character follows. -/
theorem covered_periods_of_not_all (hall : t.all Line.isPeriodOrSpace = false) :
    covered m .periods t = 0 := by
  simp [covered, match?, hall]

/-- What is left without the covered parts: no place is covered before the last run, and the first
place of that run covers all of it. -/
theorem erase_periods (m : Char) (t : Text) : erase m .periods t = Line.withoutPeriods t := by
  induction t with
  | nil => rfl
  | cons c t ih =>
    rw [erase, Text.withoutCoveredFrom, Line.withoutPeriods]
    cases hall : (c :: t).all Line.isPeriodOrSpace with
    | true =>
      rw [covered_periods_of_all hall, List.length_cons,
        Text.dropEndWhile_eq_nil_iff.2 (List.all_eq_true.1 hall)]
      exact Text.withoutCoveredFrom_of_length_le (Nat.le_refl _)
    | false =>
      rw [covered_periods_of_not_all hall, Text.dropEndWhile_cons_of_not_all hall]
      exact congrArg (c :: ·) ih

/-- The newline at the end belongs to the run that is found first. -/
example : search? ';' .periods "a. b. .\n".toList = some ⟨4, 8, []⟩ ∧
    erase ';' .periods "a. b. .\n".toList = "a. b".toList := by
  decide

end Pattern

/-! ## What is left of a title -/

namespace Line

variable {c : Char} {i : Nat} {s t u : Text}

/-- A text without its last periods ends in a character that is shown, or is empty. -/
theorem endsShown_withoutPeriods (t : Text) : EndsShown (withoutPeriods t) := fun c hc =>
  isPeriodOrSpace_eq_false_iff.1 (Text.getLast?_dropEndWhile c hc)

/-- A character stays in its place if it, or one behind it, is neither a period nor a blank. -/
theorem getElem?_withoutPeriods_iff : (withoutPeriods t)[i]? = some c ↔
    t[i]? = some c ∧ ∃ d ∈ t.drop i, d ≠ '.' ∧ Text.isSpace d = false := by
  simp only [withoutPeriods, Text.getElem?_dropEndWhile_iff, isPeriodOrSpace_eq_false_iff]

/-- No longer beginning ends as it should: its last character would stay. -/
theorem EndsShown.length_le (hu : EndsShown u) (h : u <+: t) :
    u.length ≤ (withoutPeriods t).length := by
  obtain rfl | ⟨front, c, rfl⟩ := List.eq_nil_or_concat' u
  · exact Nat.zero_le _
  · obtain ⟨rest, rfl⟩ := h
    have hc : c ≠ '.' ∧ Text.isSpace c = false := hu c (by simp)
    have hstays : (withoutPeriods (front ++ [c] ++ rest))[front.length]? = some c :=
      getElem?_withoutPeriods_iff.2 ⟨by simp, c, by simp, hc⟩
    obtain ⟨hlt, -⟩ := List.getElem?_eq_some_iff.1 hstays
    rw [List.length_append, List.length_singleton]
    exact hlt

/-- Periods and blanks behind a text are dropped. -/
theorem withoutPeriods_append (hs : ∀ c ∈ s, c = '.' ∨ Text.isSpace c = true) (t : Text) :
    withoutPeriods (t ++ s) = withoutPeriods t := by
  have hall : s.all isPeriodOrSpace = true :=
    List.all_eq_true.2 fun c hc => isPeriodOrSpace_iff.2 (hs c hc)
  rw [withoutPeriods, Text.dropEndWhile_append, if_pos hall]
  rfl

/-- A title loses its last run of periods and blanks. The pattern of trailing periods covers the
longest run at each place; a title without all that it covers is the longest beginning that is empty
or ends in a character that is neither a period nor a blank. So a second time changes nothing, a
character stays in its place exactly if it is not part of the last run, and more periods and blanks
behind a title make no difference. -/
theorem withoutPeriods_erases_last_run (m : Char) (t : Text) :
    (∀ u found, Pattern.match? m .periods u = some found ↔
      ∃ n, IsGreatest {k | IsEndRun u k} n ∧ found = Pattern.initial n []) ∧
    withoutPeriods t = Pattern.erase m .periods t ∧
    (withoutPeriods t <+: t ∧ EndsShown (withoutPeriods t) ∧
      ∀ u, u <+: t → EndsShown u → u.length ≤ (withoutPeriods t).length) ∧
    withoutPeriods (withoutPeriods t) = withoutPeriods t ∧
    (∀ i c, (withoutPeriods t)[i]? = some c ↔
      t[i]? = some c ∧ ∃ d ∈ t.drop i, d ≠ '.' ∧ Text.isSpace d = false) ∧
    ∀ s, (∀ c ∈ s, c = '.' ∨ Text.isSpace c = true) →
      withoutPeriods (t ++ s) = withoutPeriods t := by
  refine ⟨fun _ _ => Pattern.match?_periods_eq_some_iff, (Pattern.erase_periods m t).symm,
    ⟨Text.prefix_dropEndWhile _ t, endsShown_withoutPeriods t, ?_⟩, ?_, ?_, ?_⟩
  · exact fun u hstarts hshown => hshown.length_le hstarts
  · exact List.rdropWhile_idempotent isPeriodOrSpace t
  · exact fun _ _ => getElem?_withoutPeriods_iff
  · exact fun s hs => withoutPeriods_append hs t

/-- Of the runs in a title with an abbreviation only the last one goes, line breaks included. -/
theorem withoutPeriods_erases_last_run_abbreviated :
    let t := "e.g. this. .\n".toList
    let s : Text := ['.', '\u2003', '\n']
    (['e', '.', 'g'] <+: t ∧ EndsShown ['e', '.', 'g'] ∧ 3 ≤ (withoutPeriods t).length) ∧
      (∀ c ∈ s, c = '.' ∨ Text.isSpace c = true) ∧
      withoutPeriods (t ++ s) = withoutPeriods t ∧ withoutPeriods t = "e.g. this".toList := by
  intro t s
  obtain ⟨-, -, ⟨-, -, hlongest⟩, -, -, happend⟩ := withoutPeriods_erases_last_run ';' t
  have hstarts : ['e', '.', 'g'] <+: t := by decide
  have hshown : EndsShown ['e', '.', 'g'] := by
    rintro _ ⟨⟩
    decide
  have hs : ∀ c ∈ s, c = '.' ∨ Text.isSpace c = true :=
    List.forall_mem_cons.2 ⟨.inl rfl, List.forall_mem_cons.2 ⟨.inr (by decide),
      List.forall_mem_singleton.2 (.inr (by decide))⟩⟩
  exact ⟨⟨hstarts, hshown, hlongest _ hstarts hshown⟩, hs, happend s hs, by decide⟩

end Line

end Commentary
