import Commentary.Proofs.Blanks
import Commentary.Proofs.Utf8RoundTrip
import Commentary.Storage

/-!
# How lines end

A conversion looks at the lines of a text without the blanks at their ends. So it makes no
difference how a line is ended, with a newline, a carriage return or both, nor which blanks stand
before the break. A file that is read with its newlines unified is converted like the text that was
written to it.
-/

namespace Commentary

namespace Text

/-- Put the first text of `pads` to the end of the first line of a text, the second one to the end
of the second line, and so on. -/
def padLines : (pads : List Text) → Text → Text
  | _, [] => []
  | pads, '\r' :: '\n' :: t => pads.headD [] ++ '\r' :: '\n' :: padLines pads.tail t
  | pads, c :: t =>
    if isBreak c then pads.headD [] ++ c :: padLines pads.tail t
    else if t == [] then c :: pads.headD []
    else c :: padLines pads t

/-- A text of blanks that end no line. -/
def IsPad (pad : Text) : Prop := ∀ c ∈ pad, isSpace c = true ∧ isBreak c = false

instance (pad : Text) : Decidable (IsPad pad) :=
  decidable_of_iff (pad.all fun c => isSpace c && !isBreak c) (by simp [IsPad])

variable {c : Char} {s t : Text}

/-! ## Lines, character by character -/

/-- A return and a newline end one line together. -/
theorem lines_return_newline (t : Text) : lines ('\r' :: '\n' :: t) = [] :: lines t := rfl

/-- A break ends a line, unless it is a carriage return with the newline still to come. -/
theorem lines_cons_of_isBreak (hc : isBreak c = true)
    (hpair : ∀ t', c = '\r' → t = '\n' :: t' → False) : lines (c :: t) = [] :: lines t := by
  rw [lines, if_pos hc]
  exact hpair

/-- A character that ends no line belongs to the first one. -/
theorem lines_cons_of_not_isBreak (hc : isBreak c = false) (t : Text) :
    lines (c :: t) = (c :: (lines t).headD []) :: (lines t).tail := by
  rw [lines, if_neg (by simp [hc])]
  · cases lines t with
    | nil => rfl
    | cons line rest => rfl
  · rintro _ rfl
    exact absurd hc (by decide)

/-- A text without breaks in front belongs to the first line. -/
theorem lines_append {u line : Text} {rest : List Text} (hs : ∀ c ∈ s, isBreak c = false)
    (hu : lines u = line :: rest) : lines (s ++ u) = (s ++ line) :: rest := by
  induction s with
  | nil => exact hu
  | cons c s ih =>
    obtain ⟨hc, hs⟩ := List.forall_mem_cons.1 hs
    rw [List.cons_append, lines_cons_of_not_isBreak hc, ih hs]
    rfl

/-- A text without line breaks is one line. -/
theorem lines_eq_singleton (hc : isBreak c = false) (hs : ∀ d ∈ s, isBreak d = false) :
    lines (c :: s) = [c :: s] := by
  induction s generalizing c with
  | nil => exact lines_cons_of_not_isBreak hc []
  | cons d s ih =>
    obtain ⟨hd, hs⟩ := List.forall_mem_cons.1 hs
    rw [lines_cons_of_not_isBreak hc, ih hd hs]
    rfl

/-! ## One spelling for newlines -/

/-- Unified newlines make the same lines. -/
theorem lines_unifyNewlines (t : Text) : lines (unifyNewlines t) = lines t := by
  fun_induction unifyNewlines t with
  | case1 => rfl
  | case2 t ih =>
    rw [lines_return_newline, ← ih]
    exact lines_cons_of_isBreak (by decide) fun _ h => absurd h (by decide)
  | case3 c t hpair ih =>
    by_cases hreturn : c = '\r'
    · have hbreak : isBreak c = true := by
        rw [hreturn]
        decide
      rw [lines_cons_of_isBreak hbreak hpair, ← ih, hreturn]
      exact lines_cons_of_isBreak (by decide) fun _ h => absurd h (by decide)
    · rw [if_neg (by simpa using hreturn)]
      cases hbreak : isBreak c with
      | true =>
        rw [lines_cons_of_isBreak hbreak fun _ h => absurd h hreturn, ih,
          lines_cons_of_isBreak hbreak hpair]
      | false => rw [lines_cons_of_not_isBreak hbreak, ih, lines_cons_of_not_isBreak hbreak]

/-! ## Blanks at the ends of lines -/

/-- A text may be trimmed behind its first character before it is trimmed as a whole. -/
theorem trimEnd_cons (c : Char) (t : Text) : trimEnd (c :: t) = trimEnd (c :: trimEnd t) := by
  obtain ⟨blanks, hblanks, ht⟩ := exists_eq_dropEndWhile_append isSpace t
  conv => lhs; rw [ht]
  exact trimEnd_append_blank (c :: trimEnd t) hblanks

/-- Trimmed lines stay alike behind a character that ends no line. -/
theorem map_trimEnd_lines_cons (hc : isBreak c = false)
    (h : (lines s).map trimEnd = (lines t).map trimEnd) :
    (lines (c :: s)).map trimEnd = (lines (c :: t)).map trimEnd := by
  rw [lines_cons_of_not_isBreak hc, lines_cons_of_not_isBreak hc]
  cases hs : lines s with
  | nil =>
    rw [hs] at h
    rw [List.map_eq_nil_iff.1 h.symm]
  | cons line rest =>
    cases ht : lines t with
    | nil => simp [hs, ht] at h
    | cons line' rest' =>
      rw [hs, ht, List.map_cons, List.map_cons, List.cons.injEq] at h
      simp only [List.headD_cons, List.tail_cons, List.map_cons]
      rw [trimEnd_cons, h.1, ← trimEnd_cons, h.2]

namespace IsPad

variable {pad : Text}

/-- Padding is trimmed away. -/
theorem trimEnd_append (h : IsPad pad) (t : Text) : trimEnd (t ++ pad) = trimEnd t :=
  trimEnd_append_blank t (List.all_eq_true.2 fun c hc => (h c hc).1)

/-- The first padding of a list is a padding, and so is none at all. -/
theorem headD {pads : List Text} (h : ∀ pad ∈ pads, IsPad pad) : IsPad (pads.headD []) := by
  cases pads with
  | nil => exact fun c hc => absurd hc List.not_mem_nil
  | cons pad pads => exact h pad List.mem_cons_self

/-- A pad right before a break leaves an empty line. -/
theorem map_trimEnd_lines_append (h : IsPad pad) {rest : List Text} (ht : lines t = [] :: rest) :
    (lines (pad ++ t)).map trimEnd = [] :: rest.map trimEnd := by
  have hline : trimEnd pad = [] := h.trimEnd_append []
  rw [lines_append (fun c hc => (h c hc).2) ht, List.append_nil, List.map_cons, hline]

/-- No pad starts with a newline. -/
theorem head?_append (h : IsPad pad) (hhead : (pad ++ t).head? = some '\n') :
    t.head? = some '\n' := by
  cases pad with
  | nil => exact hhead
  | cons c pad =>
    obtain rfl : c = '\n' := by simpa using hhead
    exact absurd (h _ List.mem_cons_self).2 (by decide)

end IsPad

section Pads

variable {pads : List Text} (hpads : ∀ pad ∈ pads, IsPad pad)
include hpads

/-- No newline comes in front of a text with pads, so a carriage return before it stays alone. -/
theorem head?_padLines (h : (padLines pads t).head? = some '\n') : t.head? = some '\n' := by
  fun_cases padLines pads t with
  | case1 => exact h
  | case2 _ t =>
    rw [padLines] at h
    exact absurd ((IsPad.headD hpads).head?_append h) (by simp)
  | case3 _ c t hpair hc =>
    rw [padLines, if_pos hc] at h
    · simpa using (IsPad.headD hpads).head?_append h
    · exact hpair
  | case4 _ c t hpair hc ht =>
    rw [padLines, if_neg hc, if_pos ht] at h
    · simpa using h
    · exact hpair
  | case5 _ c t hpair hc ht =>
    rw [padLines, if_neg hc, if_neg ht] at h
    · simpa using h
    · exact hpair

/-- Pads are gone once the ends of the lines are trimmed. -/
theorem map_trimEnd_lines_padLines (t : Text) :
    (lines (padLines pads t)).map trimEnd = (lines t).map trimEnd := by
  fun_induction padLines pads t with
  | case1 => rfl
  | case2 pads t ih =>
    rw [(IsPad.headD hpads).map_trimEnd_lines_append (lines_return_newline _),
      ih fun pad h => hpads pad (List.mem_of_mem_tail h)]
    rfl
  | case3 pads c t hpair hc ih =>
    have htail : ∀ pad ∈ pads.tail, IsPad pad := fun pad h => hpads pad (List.mem_of_mem_tail h)
    have hpair' : ∀ t', c = '\r' → padLines pads.tail t = '\n' :: t' → False := by
      intro t' hreturn hnewline
      obtain ⟨t'', rfl⟩ := List.head?_eq_some_iff.1 (head?_padLines htail (by rw [hnewline]; rfl))
      exact hpair t'' hreturn rfl
    rw [(IsPad.headD hpads).map_trimEnd_lines_append (lines_cons_of_isBreak hc hpair'), ih htail,
      lines_cons_of_isBreak hc hpair]
    rfl
  | case4 pads c t hpair hc ht =>
    have hpad := IsPad.headD hpads
    have hc : isBreak c = false := by simpa using hc
    obtain rfl : t = [] := by simpa using ht
    rw [lines_eq_singleton hc fun d hd => (hpad d hd).2, lines_eq_singleton hc (by simp)]
    exact congrArg (fun line => [line]) (hpad.trimEnd_append [c])
  | case5 pads c t hpair hc ht ih =>
    exact map_trimEnd_lines_cons (by simpa using hc) (ih hpads)

end Pads

end Text

/-- A conversion sees the lines of a text with their ends trimmed. -/
theorem convertText_congr {t t' : Text}
    (h : (Text.lines t).map Text.trimEnd = (Text.lines t').map Text.trimEnd) (tree : FileTree)
    (config : Config) (name : Option Text) :
    convertText tree config t name = convertText tree config t' name := by
  have hclean (t : Text) : config.markers.cleanLines (Text.lines t) =
      ((Text.lines t).map Text.trimEnd).map config.markers.unify :=
    (List.map_map ..).symm
  rw [convertText, convertText, Document.ofText, Document.ofText, Document.ofLines,
    Document.ofLines, hclean, hclean, h]

/-- The text of a file in UTF-8, with its newlines unified. -/
theorem readText_encode {tree : FileTree} {path t : Text}
    (h : tree.read path = .ok (Utf8.encode t)) :
    readText tree path "utf-8".toList = .ok (Text.unifyNewlines t) := by
  have hname : isEncodingName "utf-8".toList = true := by decide
  have hencoding : encodingOf "utf-8".toList = .ok .utf8 := by decide
  have hdecode : Encoding.decode .utf8 (Utf8.encode t) = .ok t := by
    rw [Encoding.decode, Encoding.decodeUtf8, Utf8.decode_encode]
    rfl
  simp only [readText, hname, Bool.not_true, Bool.false_eq_true, if_false, h, hencoding, hdecode]

/-- A file in UTF-8 is converted like its text. A text is converted alike with other newlines, and
with any blanks put to the ends of its lines. -/
theorem convert_of_line_endings (tree : FileTree) (config : Config) (t : Text) :
    (∀ path : Path, tree.read path.toText = .ok (Utf8.encode t) →
      convertFile tree config path "utf-8".toList =
        convertText tree config t (some path.name)) ∧
    ∀ name : Option Text,
      convertText tree config (Text.unifyNewlines t) name = convertText tree config t name ∧
      ∀ pads : List Text, (∀ pad ∈ pads, Text.IsPad pad) →
        convertText tree config (Text.padLines pads t) name = convertText tree config t name := by
  have hunified (name : Option Text) :
      convertText tree config (Text.unifyNewlines t) name = convertText tree config t name :=
    convertText_congr (by rw [Text.lines_unifyNewlines]) tree config name
  refine ⟨fun path hread => ?_, fun name => ⟨hunified name, fun pads hpads => ?_⟩⟩
  · rw [← hunified, convertFile, Document.load, readText_encode hread]
    rfl
  · exact convertText_congr (Text.map_trimEnd_lines_padLines hpads t) tree config name

/-- Mixed breaks and a last line without one, in a file and with blanks at the ends. -/
theorem convert_of_line_endings_mixed :
    let t := ";; \u00e9\r\r\n;; b\n\r;; c\u2028;; d".toList
    let tree : FileTree := ⟨[(["lib".toList], .directory),
      (["lib".toList, "a.el".toList], .file (Utf8.encode t))]⟩
    let path : Path := ⟨[], ["lib".toList, "a.el".toList]⟩
    let pads := ["\t".toList, [], "  ".toList, [], [], "\u3000\x1f".toList]
    tree.read path.toText = .ok (Utf8.encode t) ∧
    (∀ pad ∈ pads, Text.IsPad pad) ∧
    Text.padLines pads t = ";; \u00e9\t\r\r\n;; b  \n\r;; c\u2028;; d\u3000\x1f".toList ∧
    convertFile tree .default path "utf-8".toList =
      convertText tree .default t (some "a.el".toList) ∧
    convertText tree .default (Text.unifyNewlines t) (some "a.el".toList) =
      convertText tree .default t (some "a.el".toList) ∧
    convertText tree .default (Text.padLines pads t) (some "a.el".toList) =
      convertText tree .default t (some "a.el".toList) := by
  intro t tree path pads
  have hread : tree.read path.toText = .ok (Utf8.encode t) := by decide +kernel
  have hpads : ∀ pad ∈ pads, Text.IsPad pad := by decide +kernel
  obtain ⟨hfile, htext⟩ := convert_of_line_endings tree .default t
  obtain ⟨hunified, hpadded⟩ := htext (some "a.el".toList)
  exact ⟨hread, hpads, by decide +kernel, hfile path hread, hunified, hpadded pads hpads⟩

end Commentary
