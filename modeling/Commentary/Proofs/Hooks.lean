import Commentary.Conversion
import Commentary.Proofs.Collapsing
import Mathlib.Data.List.Infix

/-!
# Calling hooks

Hooks are called one by one on the sink that holds the page, and each performs its actions in turn,
up to the first action that fails. A conversion ends as that run does. If no action fails, every
hook has been called, and the page is followed by what the actions hand over; otherwise the error is
that of the first hook that fails, and no hook behind it has been called.
-/

namespace Commentary

/-- The error that a hook ends in, if one of its actions fails. -/
def Hook.error? (h : Hook) : Option Error := h.findSome? (·.emission.error)

/-- What has come of calling hooks. -/
structure HookRun where
  /-- The hooks that have been called, in that order. -/
  called : List Hook
  /-- The sink as the last of them left it. -/
  sink : Sink
  /-- The error that the last of them ended in. -/
  error : Option Error
  deriving DecidableEq, Repr

/-- What a conversion makes of a run: its error, or the sink. -/
def HookRun.result (run : HookRun) : Except Error Sink :=
  match run.error with
  | some e => .error e
  | none => .ok run.sink

namespace Sink

/-- Perform actions one by one, up to the first one that fails. -/
def performUntilError (s : Sink) : List Action → Sink × Option Error
  | [] => (s, none)
  | a :: actions =>
    match s.perform a with
    | (after, none) => after.performUntilError actions
    | (after, some e) => (after, some e)

/-- Call hooks one by one, up to the first one that fails. -/
def callHooks (s : Sink) : List Hook → HookRun
  | [] => ⟨[], s, none⟩
  | h :: hooks =>
    match s.performUntilError h with
    | (after, none) =>
      let run := after.callHooks hooks
      { run with called := h :: run.called }
    | (after, some e) => ⟨[h], after, some e⟩

end Sink

/-! ## Emissions in a row -/

namespace Emission

/-- The first of several emissions comes before all the others. -/
theorem sequence_cons (e : Emission) (es : List Emission) :
    sequence (e :: es) = e.andThen (sequence es) := rfl

/-- The error of emissions in a row is the first one. -/
theorem error_sequence (es : List Emission) : (sequence es).error = es.findSome? error := by
  induction es with
  | nil => rfl
  | cons e es ih =>
    rw [sequence_cons, List.findSome?_cons]
    cases herror : e.error with
    | some _ => rw [andThen_of_error herror, herror]
    | none => rw [andThen_of_no_error herror, ih]

/-- Without an error, all tokens are handed over. -/
theorem tokens_sequence {es : List Emission} (h : ∀ e ∈ es, e.error = none) :
    (sequence es).tokens = es.flatMap tokens := by
  induction es with
  | nil => rfl
  | cons e es ih =>
    obtain ⟨he, hes⟩ := List.forall_mem_cons.1 h
    rw [sequence_cons, andThen_of_no_error he, List.flatMap_cons, ih hes]

end Emission

namespace Hook

/-- A hook fails with the error of its first action that fails. -/
theorem error_emission (h : Hook) : h.emission.error = h.error? := by
  rw [emission, Emission.error_sequence, List.findSome?_map]
  rfl

/-- A hook that does not fail hands over the tokens of all its actions. -/
theorem tokens_emission {h : Hook} (herror : h.error? = none) :
    h.emission.tokens = Sink.handed h := by
  rw [emission, Emission.tokens_sequence, List.flatMap_map]
  · rfl
  · intro e he
    obtain ⟨a, ha, rfl⟩ := List.mem_map.1 he
    exact List.findSome?_eq_none_iff.1 herror a ha

end Hook

/-- Hooks fail with the error of the first one that fails. -/
theorem error_hooksEmission (hooks : List Hook) :
    (hooksEmission hooks).error = hooks.findSome? Hook.error? := by
  rw [hooksEmission, Emission.error_sequence, List.findSome?_map]
  exact congrArg (hooks.findSome? ·) (funext Hook.error_emission)

/-- Hooks that do not fail hand over the tokens of all their actions. -/
theorem tokens_hooksEmission {hooks : List Hook} (h : ∀ hook ∈ hooks, hook.error? = none) :
    (hooksEmission hooks).tokens = Sink.handed hooks.flatten := by
  rw [hooksEmission, Emission.tokens_sequence, List.flatMap_map]
  · rw [Sink.handed, ← List.flatMap_id, List.flatMap_assoc]
    exact List.flatMap_congr fun hook hmem => Hook.tokens_emission (h hook hmem)
  · intro e he
    obtain ⟨hook, hmem, rfl⟩ := List.mem_map.1 he
    rw [Hook.error_emission]
    exact h hook hmem

/-! ## Hooks one by one -/

namespace Sink

/-- A hook that is performed action by action leaves what its emission leaves. -/
theorem performUntilError_eq (s : Sink) (h : Hook) :
    s.performUntilError h = (h.emission.into s, h.emission.error) := by
  induction h generalizing s with
  | nil => rfl
  | cons a actions ih =>
    have hcons : Hook.emission (a :: actions) = a.emission.andThen (Hook.emission actions) := rfl
    rw [performUntilError, perform, hcons]
    cases herror : a.emission.error with
    | some e => rw [Emission.andThen_of_error herror, herror]
    | none =>
      rw [Emission.andThen_of_no_error herror]
      dsimp only
      rw [ih, Emission.into, Emission.into, Emission.into, appendAll_append]

/-- Hooks that are called one by one leave what their emissions leave in a row. -/
theorem callHooks_eq (s : Sink) (hooks : List Hook) :
    (s.callHooks hooks).sink = (hooksEmission hooks).into s ∧
      (s.callHooks hooks).error = (hooksEmission hooks).error := by
  induction hooks generalizing s with
  | nil => exact ⟨rfl, rfl⟩
  | cons h hooks ih =>
    have hcons : hooksEmission (h :: hooks) = h.emission.andThen (hooksEmission hooks) := rfl
    rw [callHooks, performUntilError_eq, hcons]
    cases herror : h.emission.error with
    | some e =>
      rw [Emission.andThen_of_error herror]
      exact ⟨rfl, herror.symm⟩
    | none =>
      obtain ⟨hsink, hlater⟩ := ih (h.emission.into s)
      rw [Emission.andThen_of_no_error herror]
      exact ⟨hsink.trans (appendAll_append _ _ _).symm, hlater⟩

/-- Hooks that do not fail are all called, and then those behind them. -/
theorem called_callHooks_append (s : Sink) {before : List Hook}
    (h : ∀ hook ∈ before, hook.error? = none) (after : List Hook) :
    ∃ s', (s.callHooks (before ++ after)).called = before ++ (callHooks s' after).called := by
  induction before generalizing s with
  | nil => exact ⟨s, rfl⟩
  | cons hook before ih =>
    obtain ⟨hhook, hlater⟩ := List.forall_mem_cons.1 h
    obtain ⟨s', hcalled⟩ := ih (hook.emission.into s) hlater
    refine ⟨s', ?_⟩
    rw [List.cons_append, callHooks, performUntilError_eq, Hook.error_emission, hhook]
    exact congrArg (hook :: ·) hcalled

/-- No hook is called behind one that fails. -/
theorem called_callHooks_cons (s : Sink) {h : Hook} {e : Error} (herror : h.error? = some e)
    (after : List Hook) : (s.callHooks (h :: after)).called = [h] := by
  rw [callHooks, performUntilError_eq, Hook.error_emission, herror]

end Sink

/-! ## The page and its hooks -/

/-- With a footer, the page is made whatever the hooks are, and then they are called on it. -/
theorem exists_page {tree : FileTree} {config : Config} {doc : Document} {footer : Text}
    (hfooter : Footer.render tree config.toSettings doc.sourceName = .ok footer) :
    ∃ page : Sink, ∀ hooks : List Hook,
      emit tree { config with hooks := hooks } doc = (page.callHooks hooks).result := by
  obtain ⟨bs, _, hreading⟩ := Scan.exists_reading config.marker false
    (doc.lines.dropWhile (!Line.opens config.marker .commentary ·)).tail
  have hblocks : doc.blocks config.toSettings = .ok bs :=
    (Scan.blocks_ofDocument _ _).trans hreading.blocks_eq
  obtain ⟨ts, hts, _⟩ := blocksEmissionAfter_of_lines hreading.lines_ne_nil config.toSettings none
  have hbody : blocksEmission config.toSettings bs = .ofTokens ts := hts
  let tokens := (Metadata.ofDocument config.toSettings doc).tokens config.toSettings ++
    (ts ++ [.blank, .rule, .attribution footer])
  have hpage : pageEmission config.toSettings doc bs footer = .ofTokens tokens := by
    rw [pageEmission, hbody]
    rfl
  refine ⟨Sink.empty.appendAll tokens, fun hooks => ?_⟩
  obtain ⟨hsink, herror⟩ := (Sink.empty.appendAll tokens).callHooks_eq hooks
  rw [HookRun.result, herror, hsink]
  cases hfails : (hooksEmission hooks).error with
  | some e => simp only [emit, hblocks, hfooter, hpage, Emission.ofTokens_andThen, hfails]
  | none =>
    simp only [emit, hblocks, hfooter, hpage, Emission.ofTokens_andThen, hfails, Emission.into,
      Sink.appendAll_append]

/-- If the footer is rendered, the page without hooks is made, and a conversion ends as the run of
the hooks on it. If no hook fails, all have been called, the output starts with the page, and what
the sink keeps of the tokens that the actions hand over in their order follows. If a hook fails and
none before it does, the conversion fails with its error, and no hook behind it has been called. -/
theorem convertDocument_calls_hooks (tree : FileTree) (config : Config) (doc : Document)
    {footer : Text} (hfooter : Footer.render tree config.toSettings doc.sourceName = .ok footer) :
    ∃ page : Sink, emit tree { config with hooks := [] } doc = .ok page ∧
      convertDocument tree { config with hooks := [] } doc = .ok page.value ∧
      emit tree config doc = (page.callHooks config.hooks).result ∧
      ((∀ h ∈ config.hooks, h.error? = none) →
        (page.callHooks config.hooks).called = config.hooks ∧
        ∃ sink : Sink, emit tree config doc = .ok sink ∧
          sink.tokens = page.tokens ++
            Sink.kept page.refusesBlank (Sink.handed config.hooks.flatten) ∧
          convertDocument tree config doc = .ok sink.value ∧ page.value <+: sink.value) ∧
      ∀ before h after e, config.hooks = before ++ h :: after →
        (∀ g ∈ before, g.error? = none) → h.error? = some e →
        convertDocument tree config doc = .error e ∧
          (page.callHooks config.hooks).called = before ++ [h] := by
  obtain ⟨page, hpage⟩ := exists_page hfooter
  have hemit : emit tree config doc = (page.callHooks config.hooks).result := hpage config.hooks
  obtain ⟨hsink, herror⟩ := page.callHooks_eq config.hooks
  rw [error_hooksEmission] at herror
  refine ⟨page, hpage [], ?_, hemit, fun hquiet => ?_, ?_⟩
  · rw [convertDocument, hpage]
    rfl
  · obtain ⟨s', hcalled⟩ := page.called_callHooks_append hquiet []
    rw [Sink.callHooks, List.append_nil] at hcalled
    have hnone : (page.callHooks config.hooks).error = none :=
      herror.trans (List.findSome?_eq_none_iff.2 hquiet)
    have hok : emit tree config doc = .ok (page.callHooks config.hooks).sink := by
      rw [hemit, HookRun.result, hnone]
    have htokens : (page.callHooks config.hooks).sink.tokens = page.tokens ++
        Sink.kept page.refusesBlank (Sink.handed config.hooks.flatten) := by
      rw [hsink, Emission.into, tokens_hooksEmission hquiet, Sink.appendAll_eq]
    have hprefix : page.tokens <+: (page.callHooks config.hooks).sink.tokens := ⟨_, htokens.symm⟩
    exact ⟨hcalled, _, hok, htokens, by rw [convertDocument, hok]; rfl, hprefix.flatMap _⟩
  · intro before h after e hhooks hbefore hfails
    have hfirst : (page.callHooks config.hooks).error = some e := by
      rw [herror, hhooks, List.findSome?_append, List.findSome?_eq_none_iff.2 hbefore,
        List.findSome?_cons, hfails]
      rfl
    refine ⟨by rw [convertDocument, hemit, HookRun.result, hfirst]; rfl, ?_⟩
    obtain ⟨s', hcalled⟩ := page.called_callHooks_append hbefore (h :: after)
    rw [hhooks, hcalled, Sink.called_callHooks_cons s' hfails]

/-- Hooks that hand over blanks in a row, and a hook that fails between two others. -/
theorem convertDocument_calls_hooks_between :
    let doc : Document := ⟨[], none⟩
    let quiet : List Hook := [[.blank, .text ['a'], .blank], [.blank, .clearCopy, .rule]]
    let failing : List Hook := [[.text ['a']], [.blank, .fail (.hookFailed ['x']), .rule], [.rule]]
    (∃ footer, Footer.render .empty .default none = .ok footer) ∧
    ∃ page : Sink, emit .empty .default doc = .ok page ∧
      (∃ sink, emit .empty ⟨.default, quiet⟩ doc = .ok sink ∧
        sink.tokens = page.tokens ++ Sink.kept page.refusesBlank
          [.blank, .line ['a'], .blank, .blank, .rule]) ∧
      convertDocument .empty ⟨.default, failing⟩ doc = .error (.hookFailed ['x']) ∧
      (page.callHooks failing).called =
        [[.text ['a']], [.blank, .fail (.hookFailed ['x']), .rule]] := by
  intro doc quiet failing
  have hok : (Footer.render .empty .default none).isOk = true := by decide +kernel
  cases hfooter : Footer.render .empty .default none with
  | error => rw [hfooter] at hok; exact Bool.noConfusion hok
  | ok footer =>
    obtain ⟨page, hpage, _, _, hquiet, _⟩ :=
      convertDocument_calls_hooks .empty ⟨.default, quiet⟩ doc hfooter
    obtain ⟨page', hpage', _, _, _, hfailing⟩ :=
      convertDocument_calls_hooks .empty ⟨.default, failing⟩ doc hfooter
    obtain rfl : page' = page := Except.ok.inj (hpage'.symm.trans hpage)
    obtain ⟨_, sink, hsink, htokens, _⟩ := hquiet (by decide)
    obtain ⟨herror, hcalled⟩ := hfailing [[.text ['a']]] _ [[.rule]] _ rfl (by decide) rfl
    exact ⟨⟨footer, rfl⟩, page', hpage, ⟨sink, hsink, htokens⟩, herror, hcalled⟩

end Commentary
