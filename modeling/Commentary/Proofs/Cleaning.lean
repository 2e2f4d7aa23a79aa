import Commentary.Conversion
import Commentary.Proofs.Legible
import Commentary.Proofs.LineParts
import Mathlib.Data.List.Forall2

/-!
# Cleaning lines twice

Cleaning trims a line before it turns the leading markers into the canonical one, so a canonical
marker that is blank can leave a blank at the end of a line. Main statement: a second cleaning
changes no line exactly if the canonical marker is visible or all markers are blank, and then lines
and the lines that cleaning makes of them are converted alike.
-/

namespace Commentary

namespace Markers

/-- `line` is `t` with canonical markers in place of its leading run of family members: the run is
as long as before, and what stands behind it is left as it is. -/
structure IsUnified (ms : Markers) (t line : Text) : Prop where
  /-- No character is added or lost. -/
  length_eq : line.length = t.length
  /-- The run has as many canonical markers as it had members. -/
  run_eq : line.takeWhile ms.contains =
    List.replicate (t.takeWhile ms.contains).length ms.canonical
  /-- Nothing behind the run is changed. -/
  rest_eq : line.dropWhile ms.contains = t.dropWhile ms.contains

/-- A family whose markers leave no blank where there was none: the canonical one is visible, or all
are blank. -/
def Settles (ms : Markers) : Prop :=
  Text.isSpace ms.canonical = false ∨ ∀ c ∈ ms.others, Text.isSpace c = true

variable {ms : Markers}

/-- The canonical marker is one of the markers. -/
theorem contains_canonical (ms : Markers) : ms.contains ms.canonical = true :=
  List.contains_iff_mem.2 ms.canonical_mem_toText

/-- Unifying changes the characters of the leading run and nothing else. -/
theorem isUnified_unify (ms : Markers) (t : Text) : ms.IsUnified t (ms.unify t) := by
  have hrun : ∀ c ∈ List.replicate (t.takeWhile ms.contains).length ms.canonical,
      ms.contains c = true := by
    intro c hc
    rw [List.eq_of_mem_replicate hc]
    exact ms.contains_canonical
  have hrest := Text.head?_dropWhile ms.contains t
  exact ⟨ms.length_unify t, Text.takeWhile_run hrun hrest, Text.dropWhile_run hrun hrest⟩

/-- A run that has been unified is not changed again. -/
theorem unify_unify (ms : Markers) (t : Text) : ms.unify (ms.unify t) = ms.unify t := by
  have h := ms.isUnified_unify t
  rw [unify, h.run_eq, h.rest_eq, List.length_replicate]
  rfl

/-! ## Lines that stay trimmed -/

/-- A line of blank markers only is trimmed away. -/
theorem cleanLine_eq_nil {line : Text} (hblank : ∀ c ∈ ms.toText, Text.isSpace c = true)
    (hall : ∀ c ∈ ms.cleanLine line, c = ms.canonical) : ms.cleanLine line = [] := by
  have hunified : ms.IsUnified (Text.trimEnd line) (ms.cleanLine line) := ms.isUnified_unify _
  have hmembers : ∀ c ∈ Text.trimEnd line, ms.contains c = true := by
    rw [← List.dropWhile_eq_nil_iff, ← hunified.rest_eq, List.dropWhile_eq_nil_iff]
    intro c hc
    rw [hall c hc]
    exact ms.contains_canonical
  have htrimmed : Text.isBlank (Text.trimEnd line) = true := by
    rw [Text.isBlank, List.all_eq_true]
    exact fun c hc => hblank c (mem_toText_of_contains (hmembers c hc))
  rw [Text.isBlank_trimEnd, ← Text.trimEnd_eq_nil_iff] at htrimmed
  rw [cleanLine, htrimmed]
  rfl

/-- With a settled family, cleaning leaves no blank at the end of a line. -/
theorem Settles.trimmed_cleanLine (h : ms.Settles) (line : Text) :
    (ms.cleanLine line).Trimmed := by
  intro c hc
  rcases ms.cleanLine_ends line with hall | ⟨d, hlast, hd⟩
  · -- the line is made of markers only, so it ends in the canonical one
    obtain rfl : c = ms.canonical := hall c (List.mem_of_getLast? hc)
    rcases h with hvisible | hblank
    · exact hvisible
    · by_contra hspace
      rw [Bool.not_eq_false] at hspace
      rw [cleanLine_eq_nil (List.forall_mem_cons.2 ⟨hspace, hblank⟩) hall] at hc
      simp at hc
  · obtain rfl : d = c := Option.some.inj (hlast.symm.trans hc)
    exact hd

/-- Where the markers settle, cleaning leaves a clean line as it is. -/
theorem Settles.cleanLine_cleanLine (h : ms.Settles) (line : Text) :
    ms.cleanLine (ms.cleanLine line) = ms.cleanLine line := by
  rw [cleanLine, (h.trimmed_cleanLine line).trimEnd_eq]
  exact ms.unify_unify _

/-- Where the markers settle, cleaning leaves clean lines as they are. -/
theorem Settles.cleanLines_cleanLines (h : ms.Settles) (lines : List Text) :
    ms.cleanLines (ms.cleanLines lines) = ms.cleanLines lines := by
  rw [cleanLines, cleanLines, List.map_map]
  exact List.map_congr_left fun line _ => h.cleanLine_cleanLine line

/-- Where the markers settle, the lines of a document make up the same document again. -/
theorem Settles.ofLines_lines (h : ms.Settles) (lines : List Text) (name : Option Text) :
    Document.ofLines ms (Document.ofLines ms lines name).lines name =
      Document.ofLines ms lines name :=
  congrArg (Document.mk · name) (h.cleanLines_cleanLines lines)

/-- A visible marker that stands for a blank one is cleaned to a blank, and then to nothing. -/
theorem cleanLine_singleton {c : Char} (hspace : Text.isSpace ms.canonical = true)
    (hc : c ∈ ms.others) (hvisible : Text.isSpace c = false) :
    ms.cleanLine [c] = [ms.canonical] ∧ ms.cleanLine [ms.canonical] = [] := by
  have hmember : ms.contains c = true := List.contains_iff_mem.2 (List.mem_cons_of_mem _ hc)
  constructor
  · simp [cleanLine, Text.trimEnd, Text.dropEndWhile, hvisible, unify, hmember]
  · simp [cleanLine, Text.trimEnd, Text.dropEndWhile, hspace, unify]

end Markers

/-- Cleaning keeps the number of lines, and each line is the trimmed one with canonical markers in
place of its leading run. A second cleaning changes nothing exactly if the family settles, and then
cleaned lines are converted and made into a document as the lines are that they come from. If the
canonical marker is blank and another marker is visible, some line is changed again. -/
theorem Markers.cleanLines_idempotent_iff (config : Config) :
    let ms := config.markers
    (∀ lines, (ms.cleanLines lines).length = lines.length ∧
      List.Forall₂ (fun raw line => ms.IsUnified (Text.trimEnd raw) line) lines
        (ms.cleanLines lines)) ∧
    ((∀ lines, ms.cleanLines (ms.cleanLines lines) = ms.cleanLines lines) ↔ ms.Settles) ∧
    (ms.Settles → ∀ lines name,
      (∀ tree, convert tree config (ms.cleanLines lines) name = convert tree config lines name) ∧
      Document.ofLines ms (Document.ofLines ms lines name).lines name =
        Document.ofLines ms lines name) ∧
    (Text.isSpace ms.canonical = true → (∃ c ∈ ms.others, Text.isSpace c = false) →
      ∃ line, ms.cleanLine (ms.cleanLine line) ≠ ms.cleanLine line) := by
  intro ms
  have hfails : Text.isSpace ms.canonical = true → (∃ c ∈ ms.others, Text.isSpace c = false) →
      ∃ line, ms.cleanLine (ms.cleanLine line) ≠ ms.cleanLine line := by
    rintro hspace ⟨c, hc, hvisible⟩
    obtain ⟨honce, htwice⟩ := cleanLine_singleton hspace hc hvisible
    refine ⟨[c], ?_⟩
    rw [honce, htwice]
    exact (List.cons_ne_nil _ _).symm
  refine ⟨fun lines => ⟨ms.length_cleanLines lines, ?_⟩, ⟨fun hstays => ?_, ?_⟩, ?_, hfails⟩
  · rw [Markers.cleanLines, List.forall₂_map_right_iff]
    exact List.forall₂_same.2 fun raw _ => ms.isUnified_unify _
  · by_contra hunsettled
    rw [Markers.Settles, not_or, Bool.not_eq_false] at hunsettled
    obtain ⟨hspace, hvisible⟩ := hunsettled
    obtain ⟨line, hline⟩ := hfails hspace (by simpa using hvisible)
    exact hline (List.cons.inj (hstays [line])).1
  · exact fun h => h.cleanLines_cleanLines
  · intro h lines name
    have hdoc := h.ofLines_lines lines name
    exact ⟨fun tree => congrArg (convertDocument tree config) hdoc, hdoc⟩

/-- A run of three different markers, one of them blank, and a family whose canonical marker is
blank. -/
theorem Markers.cleanLines_idempotent_iff_blank :
    let config : Config := { markers := ⟨';', ['#', ' ']⟩ }
    let lines := ["# ;a \t".toList, " # ".toList]
    Text.isSpace config.markers.canonical = false ∧
      config.markers.cleanLines lines = [";;;a".toList, ";;".toList] ∧
      convert .empty config [";;;a".toList, ";;".toList] none = convert .empty config lines none ∧
      ∃ line, (⟨' ', [';']⟩ : Markers).cleanLine ((⟨' ', [';']⟩ : Markers).cleanLine line) ≠
        (⟨' ', [';']⟩ : Markers).cleanLine line := by
  intro config lines
  have hcleaned : config.markers.cleanLines lines = [";;;a".toList, ";;".toList] := by decide
  obtain ⟨-, -, hsettled, -⟩ := Markers.cleanLines_idempotent_iff config
  obtain ⟨-, -, -, hfails⟩ := Markers.cleanLines_idempotent_iff { markers := ⟨' ', [';']⟩ }
  obtain ⟨hconvert, -⟩ := hsettled (.inl (by decide)) lines none
  rw [hcleaned] at hconvert
  exact ⟨by decide, hcleaned, hconvert .empty,
    hfails (by decide) ⟨';', List.mem_cons_self, by decide⟩⟩

end Commentary
