import Commentary.Proofs.Spans
import Mathlib.Data.List.Chain

/-!
# The normal form of spans

The spans of a line are in normal form: none is empty, no two plain ones stand side by side, names
hold no quotes, and a plain one holds no quoted name. Put back between their quotes they give the
line. If a quoted name ends in an apostrophe only, no name can begin in a plain span and end behind
it, so spans in normal form are the spans of the line that they give.
-/

namespace Commentary.Inline

variable {s : Settings} {symmetric : Bool} {c : Char} {plain name t u : Text}
  {opened : Option Text} {l : List Span}

/-! ## Quoted names in a text -/

/-- A text that can stand between quotes. -/
structure IsName (name : Text) : Prop where
  ne_nil : name ≠ []
  quotable : ∀ c ∈ name, isQuotable c = true

/-- Somewhere in `t` a name stands between quotes. -/
def HoldsName (symmetric : Bool) (t : Text) : Prop :=
  ∃ before name close after, t = before ++ openQuote :: (name ++ close :: after) ∧ IsName name ∧
    closes symmetric close = true

/-- A quote that ends a name is not part of it. -/
theorem isQuotable_of_closes (h : closes symmetric c = true) : isQuotable c = false := by
  rw [closes, Bool.or_eq_true, Bool.and_eq_true, beq_iff_eq, beq_iff_eq] at h
  rcases h with rfl | ⟨-, rfl⟩ <;> rfl

/-- Everything but the two quotes and the newline may stand between quotes. -/
theorem isQuotable_iff :
    isQuotable c = true ↔ c ≠ openQuote ∧ c ≠ closeQuote ∧ c ≠ '\n' := by
  simp [isQuotable, and_assoc]

/-- No opening quote stands between quotes. -/
theorem ne_openQuote_of_isQuotable (h : isQuotable c = true) : c ≠ openQuote :=
  (isQuotable_iff.1 h).1

/-- A character that may stand between quotes does not end a name. -/
theorem closes_of_isQuotable (symmetric : Bool) (h : isQuotable c = true) :
    closes symmetric c = false := by
  by_contra hcloses
  rw [isQuotable_of_closes (by simpa using hcloses)] at h
  exact Bool.noConfusion h

/-- A name at the start of a text reaches up to the quote that closes it. -/
theorem quotedAt?_eq_some_iff : quotedAt? symmetric t = some name ↔
    ∃ close after, t = openQuote :: (name ++ close :: after) ∧ IsName name ∧
      closes symmetric close = true := by
  constructor
  · intro h
    cases t with
    | nil => exact absurd h (by simp [quotedAt?])
    | cons c t =>
      simp only [quotedAt?, Option.ite_none_right_eq_some, Bool.and_eq_true, beq_iff_eq, bne_iff_ne,
        Option.some_inj] at h
      obtain ⟨⟨⟨rfl, hne⟩, hclose⟩, rfl⟩ := h
      obtain ⟨close, after, hafter⟩ : ∃ close after, t.dropWhile isQuotable = close :: after := by
        cases hdrop : t.dropWhile isQuotable with
        | nil => exact absurd hclose (by simp [hdrop])
        | cons close after => exact ⟨close, after, rfl⟩
      refine ⟨close, after, ?_, ⟨hne, List.all_eq_true.1 List.all_takeWhile⟩, ?_⟩
      · rw [← hafter, List.takeWhile_append_dropWhile]
      · simpa [hafter] using hclose
  · rintro ⟨close, after, rfl, hname, hclose⟩
    have hstop : isQuotable close = false := isQuotable_of_closes hclose
    have htake : (name ++ close :: after).takeWhile isQuotable = name := by
      rw [List.takeWhile_append_of_pos hname.quotable, List.takeWhile_cons, hstop]
      exact List.append_nil name
    have hdrop : (name ++ close :: after).dropWhile isQuotable = close :: after := by
      rw [List.dropWhile_append_of_pos hname.quotable, List.dropWhile_cons, hstop]
      rfl
    simp [quotedAt?, htake, hdrop, hname.ne_nil, hclose]

/-- A quoted name stands at the start of a text, or further on. -/
theorem holdsName_cons : HoldsName symmetric (c :: t) ↔
    (∃ name, quotedAt? symmetric (c :: t) = some name) ∨ HoldsName symmetric t := by
  constructor
  · rintro ⟨before, name, close, after, ht, hname, hclose⟩
    cases before with
    | nil => exact .inl ⟨name, quotedAt?_eq_some_iff.2 ⟨close, after, ht, hname, hclose⟩⟩
    | cons b before =>
      exact .inr ⟨before, name, close, after, List.tail_eq_of_cons_eq ht, hname, hclose⟩
  · rintro (⟨name, h⟩ | ⟨before, name, close, after, rfl, hname, hclose⟩)
    · obtain ⟨close, after, ht, hname, hclose⟩ := quotedAt?_eq_some_iff.1 h
      exact ⟨[], name, close, after, ht, hname, hclose⟩
    · exact ⟨c :: before, name, close, after, rfl, hname, hclose⟩

/-- The search for a quoted name misses none. -/
theorem findQuoted?_eq_none_iff : findQuoted? symmetric t = none ↔ ¬ HoldsName symmetric t := by
  induction t with
  | nil => exact iff_of_true rfl (by rintro ⟨before, _, _, _, h, _⟩; simp at h)
  | cons c t ih =>
    rw [findQuoted?, holdsName_cons, not_or, ← ih]
    cases hat : quotedAt? symmetric (c :: t) with
    | none => simp
    | some name => simp

/-- A quoted name stays where more text follows. -/
theorem HoldsName.append (h : HoldsName symmetric t) (u : Text) :
    HoldsName symmetric (t ++ u) := by
  obtain ⟨before, name, close, after, rfl, hname, hclose⟩ := h
  exact ⟨before, name, close, after ++ u, by simp, hname, hclose⟩

/-- With one more character a text holds a name that it held before, or one that ends there. -/
theorem HoldsName.of_concat (h : HoldsName symmetric (t ++ [c])) : HoldsName symmetric t ∨
    ∃ before name, t = before ++ openQuote :: name ∧ IsName name ∧ closes symmetric c = true := by
  obtain ⟨before, name, close, after, ht, hname, hclose⟩ := h
  rcases List.eq_nil_or_concat' after with rfl | ⟨after, d, rfl⟩
  · have hparts : t ++ [c] = (before ++ openQuote :: name) ++ [close] := by simpa using ht
    obtain ⟨rfl, hlast⟩ := List.append_inj' hparts rfl
    obtain rfl := List.singleton_inj.1 hlast
    exact .inr ⟨before, name, rfl, hname, hclose⟩
  · have hparts : t ++ [c] = (before ++ openQuote :: (name ++ close :: after)) ++ [d] := by
      simpa using ht
    exact .inl ⟨before, name, close, after, (List.append_inj' hparts rfl).1, hname, hclose⟩

/-! ## Reading character by character -/

/-- What is known of a state in which spans are read: the name that is open is what stands behind
the last opening quote, if that may still become a name, and no quoted name is pending. -/
structure Scanned (symmetric : Bool) (plain : Text) (opened : Option Text) : Prop where
  quotable : ∀ name, opened = some name → ∀ c ∈ name, isQuotable c = true
  opened_eq : ∀ before name, pending plain opened = before ++ openQuote :: name →
    (∀ c ∈ name, isQuotable c = true) → opened = some name
  free : ¬ HoldsName symmetric (pending plain opened)

/-- A character closes the name that is open. -/
def ClosesName (symmetric : Bool) (opened : Option Text) (c : Char) : Prop :=
  ∃ name, opened = some name ∧ name ≠ [] ∧ closes symmetric c = true

/-- The beginning of a name that is open behind a character. -/
def openedAfter (c : Char) (opened : Option Text) : Option Text :=
  if c = openQuote then some [] else if isQuotable c then opened.map (· ++ [c]) else none

/-- Before anything is read no name is open and none is pending. -/
theorem scanned_nil (symmetric : Bool) : Scanned symmetric [] none where
  quotable := by simp
  opened_eq := by simp [pending]
  free := by rintro ⟨before, _, _, _, h, _⟩; simp [pending] at h

/-- A character that closes no name joins what is pending. -/
theorem exists_spansFrom_cons (plain : Text)
    (hclose : ¬ ClosesName s.symmetricQuotes opened c) :
    ∃ plain', pending plain' (openedAfter c opened) = pending plain opened ++ [c] ∧
      ∀ t, spansFrom s plain opened (c :: t) = spansFrom s plain' (openedAfter c opened) t := by
  cases opened with
  | none =>
    by_cases hopen : c = openQuote
    · exact ⟨plain, by simp [pending, openedAfter, hopen], by simp [spansFrom, openedAfter, hopen]⟩
    · exact ⟨plain ++ [c], by simp [pending, openedAfter, hopen],
        by simp [spansFrom, openedAfter, hopen]⟩
  | some name =>
    have hnot : ¬ (closes s.symmetricQuotes c && name != []) = true := by
      rw [Bool.and_eq_true, bne_iff_ne]
      rintro ⟨hcloses, hne⟩
      exact hclose ⟨name, rfl, hne, hcloses⟩
    by_cases hopen : c = openQuote
    · refine ⟨plain ++ openQuote :: name, by simp [pending, openedAfter, hopen], fun t => ?_⟩
      rw [spansFrom, if_neg hnot]
      simp [openedAfter, hopen]
    · by_cases hquotable : isQuotable c = true
      · refine ⟨plain, by simp [pending, openedAfter, hopen, hquotable], fun t => ?_⟩
        rw [spansFrom, if_neg hnot]
        simp [openedAfter, hopen, hquotable]
      · refine ⟨plain ++ openQuote :: name ++ [c], by simp [pending, openedAfter, hopen, hquotable],
          fun t => ?_⟩
        rw [spansFrom, if_neg hnot]
        simp [openedAfter, hopen, hquotable]

/-- Reading a character that closes no name keeps what is known. -/
theorem Scanned.step {plain' : Text} (h : Scanned symmetric plain opened)
    (hclose : ¬ ClosesName symmetric opened c)
    (hpending : pending plain' (openedAfter c opened) = pending plain opened ++ [c]) :
    Scanned symmetric plain' (openedAfter c opened) where
  quotable := by
    intro name hname
    rw [openedAfter] at hname
    split at hname
    · obtain rfl := Option.some_inj.1 hname
      simp
    · split at hname
      · next hquotable =>
        obtain ⟨old, hold, rfl⟩ := Option.map_eq_some_iff.1 hname
        intro d hd
        rcases List.mem_append.1 hd with hd | hd
        · exact h.quotable old hold d hd
        · rwa [List.mem_singleton.1 hd]
      · exact absurd hname (by simp)
  opened_eq := by
    intro before name hname hquotable
    rw [hpending] at hname
    rcases List.eq_nil_or_concat' name with rfl | ⟨name, d, rfl⟩
    · obtain rfl : c = openQuote := List.singleton_inj.1 (List.append_inj' hname rfl).2
      exact if_pos rfl
    · have hparts : pending plain opened ++ [c] = (before ++ openQuote :: name) ++ [d] := by
        simpa using hname
      obtain ⟨hold, hlast⟩ := List.append_inj' hparts rfl
      obtain rfl := List.singleton_inj.1 hlast
      have hc : isQuotable c = true := hquotable c (by simp)
      have hopened : opened = some name :=
        h.opened_eq before name hold fun d hd => hquotable d (by simp [hd])
      rw [openedAfter, if_neg (ne_openQuote_of_isQuotable hc), if_pos hc, hopened]
      rfl
  free := by
    rw [hpending]
    intro hholds
    rcases hholds.of_concat with hold | ⟨before, name, hname, hisName, hcloses⟩
    · exact h.free hold
    · have hopened := h.opened_eq before name hname hisName.quotable
      exact hclose ⟨name, hopened, hisName.ne_nil, hcloses⟩

/-- A text that completes no name is pending behind it. -/
theorem Scanned.exists_append (h : Scanned s.symmetricQuotes plain opened)
    (hfree : ¬ HoldsName s.symmetricQuotes (pending plain opened ++ u)) :
    ∃ plain' opened', pending plain' opened' = pending plain opened ++ u ∧
      ∀ rest, spansFrom s plain opened (u ++ rest) = spansFrom s plain' opened' rest := by
  induction u generalizing plain opened with
  | nil => exact ⟨plain, opened, by simp, fun rest => rfl⟩
  | cons c u ih =>
    have hclose : ¬ ClosesName s.symmetricQuotes opened c := by
      rintro ⟨name, rfl, hne, hcloses⟩
      exact hfree ⟨plain, name, c, u, by simp [pending], ⟨hne, h.quotable name rfl⟩, hcloses⟩
    obtain ⟨plain', hpending, hstep⟩ := exists_spansFrom_cons plain hclose
    have hsplit : pending plain opened ++ c :: u =
        pending plain' (openedAfter c opened) ++ u := by
      rw [hpending, List.append_assoc, List.singleton_append]
    rw [hsplit] at hfree
    obtain ⟨last, opened', hlast, hrun⟩ := ih (h.step hclose hpending) hfree
    exact ⟨last, opened', hlast.trans hsplit.symm, fun rest => (hstep _).trans (hrun rest)⟩

/-! ## Normal forms -/

/-- Spans as they are read from a line. -/
structure IsNormal (s : Settings) (l : List Span) : Prop where
  ne_nil : ∀ span ∈ l, span.content ≠ []
  apart : l.IsChain fun a b => ¬ (a.kind = .text ∧ b.kind = .text)
  unquoted : ∀ span ∈ l, span.kind ≠ .text →
    openQuote ∉ span.content ∧ closeQuote ∉ span.content ∧ '\n' ∉ span.content
  free : ∀ span ∈ l, span.kind = .text → findQuoted? s.symmetricQuotes span.content = none
  isKey : ∀ span ∈ l, span.kind ≠ .text →
    (span.kind = .key ↔ Key.isKey s.keyNames span.content = true)

/-- A span as it stands in a line whose quoted names end in an apostrophe. -/
def Span.quoted (span : Span) : Text :=
  match span.kind with
  | .text => span.content
  | _ => openQuote :: (span.content ++ [closeQuote])

/-- A text may stand between quotes if it has neither a quote nor a newline. -/
theorem forall_isQuotable_iff : (∀ c ∈ t, isQuotable c = true) ↔
    openQuote ∉ t ∧ closeQuote ∉ t ∧ '\n' ∉ t := by
  simp only [isQuotable_iff]
  constructor
  · intro h
    exact ⟨fun hmem => (h _ hmem).1 rfl, fun hmem => (h _ hmem).2.1 rfl,
      fun hmem => (h _ hmem).2.2 rfl⟩
  · rintro ⟨hopen, hclose, hnewline⟩ c hc
    refine ⟨?_, ?_, ?_⟩ <;> rintro rfl <;> contradiction

/-- A quoted name is no plain text. -/
theorem kind_nameSpan_ne (s : Settings) (name : Text) : (nameSpan s name).kind ≠ .text := by
  rw [nameSpan]
  split <;> exact SpanKind.noConfusion

/-- A quoted name is a key if it is recognized as one, and only then. -/
theorem kind_nameSpan_eq_key (s : Settings) (name : Text) :
    (nameSpan s name).kind = .key ↔ Key.isKey s.keyNames name = true := by
  rw [nameSpan]
  cases Key.isKey s.keyNames name <;> simp

/-- The empty list of spans is in normal form. -/
theorem isNormal_nil (s : Settings) : IsNormal s [] := by
  constructor <;> simp

/-- A name can stand in front of any spans. -/
theorem IsNormal.cons_name (h : IsNormal s l) (hname : IsName name) :
    IsNormal s (nameSpan s name :: l) where
  ne_nil := List.forall_mem_cons.2 ⟨hname.ne_nil, h.ne_nil⟩
  apart := h.apart.cons fun _ _ hboth => kind_nameSpan_ne s name hboth.1
  unquoted := List.forall_mem_cons.2 ⟨fun _ => forall_isQuotable_iff.1 hname.quotable, h.unquoted⟩
  free := List.forall_mem_cons.2 ⟨fun hkind => absurd hkind (kind_nameSpan_ne s name), h.free⟩
  isKey := List.forall_mem_cons.2 ⟨fun _ => kind_nameSpan_eq_key s name, h.isKey⟩

/-- Plain text without a quoted name can stand in front of spans that start with a name. -/
theorem IsNormal.plain_append (h : IsNormal s l) (hhead : ∀ a ∈ l.head?, a.kind ≠ .text)
    (hfree : ¬ HoldsName s.symmetricQuotes plain) : IsNormal s (plainSpans plain ++ l) := by
  rw [plainSpans]
  split
  · exact h
  · next hne =>
    have hne : plain ≠ [] := by simpa using hne
    exact {
      ne_nil := List.forall_mem_cons.2 ⟨hne, h.ne_nil⟩
      apart := h.apart.cons fun a ha hboth => hhead a ha hboth.2
      unquoted := List.forall_mem_cons.2 ⟨fun hkind => absurd rfl hkind, h.unquoted⟩
      free := List.forall_mem_cons.2 ⟨fun _ => findQuoted?_eq_none_iff.2 hfree, h.free⟩
      isKey := List.forall_mem_cons.2 ⟨fun hkind => absurd rfl hkind, h.isKey⟩ }

/-- Whatever is pending, the spans that are read are in normal form. -/
theorem Scanned.isNormal_spansFrom (h : Scanned s.symmetricQuotes plain opened) (t : Text) :
    IsNormal s (spansFrom s plain opened t) := by
  induction t generalizing plain opened with
  | nil =>
    have hplain := (isNormal_nil s).plain_append (by simp) h.free
    rwa [List.append_nil] at hplain
  | cons c t ih =>
    by_cases hclose : ClosesName s.symmetricQuotes opened c
    · obtain ⟨name, rfl, hne, hcloses⟩ := hclose
      rw [spansFrom, if_pos (by simp [hcloses, hne])]
      have hrest : IsNormal s (nameSpan s name :: spansFrom s [] none t) :=
        (ih (scanned_nil _)).cons_name ⟨hne, h.quotable name rfl⟩
      refine hrest.plain_append ?_ fun hholds => h.free (hholds.append _)
      simp [kind_nameSpan_ne]
    · obtain ⟨plain', hpending, hstep⟩ := exists_spansFrom_cons plain hclose
      rw [hstep]
      exact ih (h.step hclose hpending)

/-! ## Reading spans that have been put between quotes -/

/-- Behind an opening quote a name is read up to the quote that closes it. -/
theorem spansFrom_name {close : Char} (start : Text) (hname : ∀ c ∈ name, isQuotable c = true)
    (hne : start ++ name ≠ []) (hclose : closes s.symmetricQuotes close = true) (plain t : Text) :
    spansFrom s plain (some start) (name ++ close :: t) =
      plainSpans plain ++ nameSpan s (start ++ name) :: spansFrom s [] none t := by
  induction name generalizing start with
  | nil =>
    rw [List.append_nil] at hne ⊢
    rw [List.nil_append, spansFrom, if_pos (by simp [hclose, hne])]
  | cons c name ih =>
    obtain ⟨hc, hname⟩ := List.forall_mem_cons.1 hname
    have hopen : (c == openQuote) = false := by simpa using ne_openQuote_of_isQuotable hc
    rw [List.cons_append, spansFrom, closes_of_isQuotable _ hc]
    simp only [Bool.false_and, Bool.false_eq_true, if_false, hopen, hc, if_true]
    rw [ih (start ++ [c]) hname (by simp), List.append_assoc, List.singleton_append]

/-- Where only an apostrophe closes a name, an opening quote starts a name whatever is pending. -/
theorem spansFrom_quoted (hs : s.symmetricQuotes = false) (hname : IsName name) (plain : Text)
    (opened : Option Text) (t : Text) :
    spansFrom s plain opened (openQuote :: (name ++ closeQuote :: t)) =
      plainSpans (pending plain opened) ++ nameSpan s name :: spansFrom s [] none t := by
  have hopen : closes s.symmetricQuotes openQuote = false := by
    rw [hs]
    rfl
  have hclose : closes s.symmetricQuotes closeQuote = true := rfl
  have hread (plain : Text) : spansFrom s plain (some []) (name ++ closeQuote :: t) =
      plainSpans plain ++ nameSpan s name :: spansFrom s [] none t :=
    spansFrom_name [] hname.quotable hname.ne_nil hclose plain t
  cases opened with
  | none =>
    rw [spansFrom, if_pos (by decide), hread]
    simp [pending]
  | some start =>
    rw [spansFrom, hopen, Bool.false_and, if_neg Bool.false_ne_true, if_pos (by decide), hread]
    rfl

/-- Spans in normal form stay so without the first one. -/
theorem IsNormal.tail {span : Span} (h : IsNormal s (span :: l)) : IsNormal s l where
  ne_nil := (List.forall_mem_cons.1 h.ne_nil).2
  apart := h.apart.tail
  unquoted := (List.forall_mem_cons.1 h.unquoted).2
  free := (List.forall_mem_cons.1 h.free).2
  isKey := (List.forall_mem_cons.1 h.isKey).2

/-- A span of a normal form that is not plain is the span of its name. -/
theorem IsNormal.exists_name {span : Span} (h : IsNormal s (span :: l))
    (hkind : span.kind ≠ .text) : IsName span.content ∧ span = nameSpan s span.content ∧
      span.quoted = openQuote :: (span.content ++ [closeQuote]) := by
  have hne := h.ne_nil span List.mem_cons_self
  have hquotable := forall_isQuotable_iff.2 (h.unquoted span List.mem_cons_self hkind)
  have hkey := h.isKey span List.mem_cons_self hkind
  obtain ⟨kind, content⟩ := span
  refine ⟨⟨hne, hquotable⟩, ?_, ?_⟩
  · rw [nameSpan]
    cases kind with
    | text => exact absurd rfl hkind
    | code =>
      have hcode : Key.isKey s.keyNames content = false := by simpa using hkey
      rw [hcode]
      rfl
    | key => rw [hkey.1 rfl, if_pos rfl]
  · cases kind with
    | text => exact absurd rfl hkind
    | code => rfl
    | key => rfl

/-- Spans in normal form are read again from their line. Spans that start with a name are read as
they are behind anything that is pending. -/
theorem IsNormal.spansFrom_quoted (hs : s.symmetricQuotes = false) (h : IsNormal s l) :
    spans s (l.flatMap Span.quoted) = l ∧
      ((∀ a ∈ l.head?, a.kind ≠ .text) → ∀ plain opened,
        spansFrom s plain opened (l.flatMap Span.quoted) =
          plainSpans (pending plain opened) ++ l) := by
  induction l with
  | nil =>
    refine ⟨rfl, fun _ plain opened => ?_⟩
    rw [List.append_nil]
    rfl
  | cons span l ih =>
    obtain ⟨hread, hbehind⟩ := ih h.tail
    by_cases hkind : span.kind = .text
    · refine ⟨?_, fun hhead => absurd hkind (hhead span rfl)⟩
      have hlater : ∀ a ∈ l.head?, a.kind ≠ .text := fun a ha hboth =>
        List.isChain_cons.1 h.apart |>.1 a ha ⟨hkind, hboth⟩
      have hfree := findQuoted?_eq_none_iff.1 (h.free span List.mem_cons_self hkind)
      have hne := h.ne_nil span List.mem_cons_self
      obtain ⟨kind, content⟩ := span
      obtain rfl : kind = .text := hkind
      obtain ⟨plain, opened, hpending, hrun⟩ := (scanned_nil s.symmetricQuotes).exists_append hfree
      have hplain : plainSpans (pending plain opened) = [⟨.text, content⟩] := by
        rw [hpending]
        exact if_neg (by simpa [pending] using hne)
      calc spans s (content ++ l.flatMap Span.quoted)
          = spansFrom s plain opened (l.flatMap Span.quoted) := hrun _
        _ = plainSpans (pending plain opened) ++ l := hbehind hlater plain opened
        _ = ⟨.text, content⟩ :: l := by rw [hplain, List.singleton_append]
    · obtain ⟨hname, hspan, hquoted⟩ := h.exists_name hkind
      have hfront (plain : Text) (opened : Option Text) :
          spansFrom s plain opened ((span :: l).flatMap Span.quoted) =
            plainSpans (pending plain opened) ++ span :: l := by
        have hline : (span :: l).flatMap Span.quoted =
            openQuote :: (span.content ++ closeQuote :: l.flatMap Span.quoted) := by
          rw [List.flatMap_cons, hquoted]
          simp
        have hrest : spansFrom s [] none (l.flatMap Span.quoted) = l := hread
        rw [hline, Inline.spansFrom_quoted hs hname, hrest, ← hspan]
      exact ⟨hfront [] none, fun _ => hfront⟩

/-- With apostrophes only, a span stands for itself between its quotes. -/
theorem StandsFor.eq_quoted {span : Span} {part : Text} (h : StandsFor false span part) :
    part = span.quoted := by
  cases h with
  | plain => rfl
  | @name kind close t hkind hclose =>
    obtain rfl : close = closeQuote := by simpa [closes] using hclose
    cases kind with
    | text => exact absurd rfl hkind
    | code => rfl
    | key => rfl

/-- The spans of a line are in normal form and stand for the parts of the line in their order. If
only an apostrophe closes a name, reading a line and putting spans back between their quotes are
inverse to each other on lines and normal forms. -/
theorem spans_normal_lossless (s : Settings) :
    (∀ t : Text, IsNormal s (spans s t) ∧
      ∃ parts, List.Forall₂ (StandsFor s.symmetricQuotes) (spans s t) parts ∧ parts.flatten = t) ∧
    (s.symmetricQuotes = false →
      (∀ t : Text, (spans s t).flatMap Span.quoted = t) ∧
      ∀ l : List Span, IsNormal s l → spans s (l.flatMap Span.quoted) = l) := by
  refine ⟨fun t => ⟨(scanned_nil _).isNormal_spansFrom t, standsFor_spans s t⟩, fun hs => ?_⟩
  refine ⟨fun t => ?_, fun l h => (h.spansFrom_quoted hs).1⟩
  obtain ⟨parts, hparts, hflat⟩ := standsFor_spans s t
  rw [hs] at hparts
  have hquoted : parts = (spans s t).map Span.quoted := by
    rw [← List.forall₂_eq_eq_eq, List.forall₂_map_right_iff]
    exact hparts.flip.imp fun _ _ h => h.eq_quoted
  rw [List.flatMap_def, ← hquoted, hflat]

/-- Quotes that open nothing before a name, and an apostrophe right behind one. -/
theorem spans_normal_lossless_strays :
    let l : List Span := [⟨.text, "it's ``x".toList⟩, ⟨.code, "a b".toList⟩, ⟨.key, "C-x".toList⟩,
      ⟨.text, "'s ``".toList⟩]
    Settings.default.symmetricQuotes = false ∧ IsNormal .default l ∧
    l.flatMap Span.quoted = "it's ``x`a b'`C-x''s ``".toList ∧
    spans .default "it's ``x`a b'`C-x''s ``".toList = l := by
  intro l
  have hnormal : IsNormal .default l := by
    constructor <;> decide
  have hline : l.flatMap Span.quoted = "it's ``x`a b'`C-x''s ``".toList := by decide
  refine ⟨rfl, hnormal, hline, ?_⟩
  rw [← hline]
  exact ((spans_normal_lossless .default).2 rfl).2 l hnormal

end Commentary.Inline
