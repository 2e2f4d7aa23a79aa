import Commentary.Conversion
import Commentary.Record.Check
import Commentary.Record.Print

/-!
# The record types

Documents, metadata, blocks, spans, tokens and configurations as records: how each is checked, and
the fields that it shows.
-/

namespace Commentary

open Record

/-- Named values, as a record shows them. -/
abbrev Fields := List (Text × Value)

/-- A document from its data. The lines are taken as they are. -/
def Document.check : Value → Checked Document :=
  record "SourceDocument" fun fields =>
    Document.mk
      <$> field fields "lines" (some []) (listOf .notTuple text)
      <*> field fields "source_name" (some none) optionalText

/-- A document under the name that its data gives it: a text, or null for none. -/
def Document.named (doc : Document) (name : Value) : Checked Document :=
  (Checked.inside (.field "source_name".toList) (optionalText name)).map fun name =>
    { doc with sourceName := name }

/-- The fields of a document. -/
def Document.fields (doc : Document) : Fields :=
  [("lines".toList, .ofTexts doc.lines), ("source_name".toList, .ofText? doc.sourceName)]

/-- Metadata from its data. -/
def Metadata.check : Value → Checked Metadata :=
  record "Metadata" fun fields =>
    Metadata.mk
      <$> field fields "title" (some none) optionalText
      <*> field fields "package_name" (some none) optionalText
      <*> field fields "author" (some none) optionalText
      <*> field fields "version" (some none) optionalText
      <*> field fields "url" (some none) optionalText
      <*> field fields "has_header_region" (some false) bool

/-- The fields of metadata. -/
def Metadata.fields (md : Metadata) : Fields :=
  [("title".toList, .ofText? md.title), ("package_name".toList, .ofText? md.packageName),
    ("author".toList, .ofText? md.author), ("version".toList, .ofText? md.version),
    ("url".toList, .ofText? md.url), ("has_header_region".toList, .bool md.hasCommentary)]

/-- A heading level by its number, or none. -/
def HeadingLevel.check (v : Value) : Checked (Option HeadingLevel) :=
  let refused : Checked (Option HeadingLevel) := .fault (.notAmong [['2'], ['3']])
  match v.whole?, v with
  | some 2, _ => .ok (some .two)
  | some 3, _ => .ok (some .three)
  | _, .null => .ok none
  | _, .int n => if fitsWord n then refused else .fault .tooLarge
  | _, _ => refused

/-- A block from its data. -/
def Block.check : Value → Checked Block :=
  record "Block" fun fields =>
    Block.mk
      <$> field fields "kind" none
        (oneOf [.heading, .paragraph, .bulletList, .codeBlock] BlockKind.name)
      <*> field fields "lines" (some []) (listOf .notList text)
      <*> field fields "level" (some none) HeadingLevel.check

/-- The fields of a block. -/
def Block.fields (b : Block) : Fields :=
  [("kind".toList, .text b.kind.name), ("lines".toList, .ofTexts b.lines),
    ("level".toList, b.level.elim .null fun level => .int level.toNat)]

/-- A span from its data. -/
def Inline.Span.check : Value → Checked Inline.Span :=
  record "InlineSpan" fun fields =>
    Inline.Span.mk
      <$> field fields "kind" none (oneOf [.text, .code, .key] Inline.SpanKind.name)
      <*> field fields "content" none text

/-- The fields of a span. -/
def Inline.Span.fields (span : Inline.Span) : Fields :=
  [("kind".toList, .text span.kind.name), ("content".toList, .text span.content)]

/-- A token from its data. -/
def Token.check : Value → Checked Token :=
  record "OutputToken" fun fields =>
    Token.mk
      <$> field fields "kind" none
        (oneOf [.header, .blank, .text, .rule, .attribution] TokenKind.name)
      <*> field fields "text" (some []) Record.text

/-- The fields of a token. -/
def Token.fields (t : Token) : Fields :=
  [("kind".toList, .text t.kind.name), ("text".toList, .text t.text)]

/-- Hand over a token of the given kind with a text from its data. -/
def Action.appendOf (kind : TokenKind) (t : Value) : Action :=
  match Token.check (.object [("kind".toList, .text kind.name), ("text".toList, t)]) with
  | .ok token => .append token
  | .faults list => .fail (.invalid list)

/-- The highest level of a header whose number signs fit into memory. -/
def highestLevel : Int := 0x100000000

/-- Hand over a header with level and title from their data. The title may be any value and is
printed. -/
def Action.headerOf (level title : Value) : Action :=
  match level.count? with
  | none => .fail .notANumber
  | some n =>
    if !fitsWord n then .fail .levelTooLarge
    else if highestLevel < n then .fail .outOfMemory
    else .header n title.print

/-- A family of markers from its text. -/
def Markers.check (v : Value) : Checked Markers :=
  match text v with
  | .faults list => .faults list
  | .ok t =>
    match Markers.ofText? t with
    | some ms => .ok ms
    | none => .fault .emptyText

/-- A configuration from its data; `hook?` tells what counts as a hook. -/
def Config.check (hook? : Value → Option Hook) : Value → Checked Config :=
  let hook := fun v => match hook? v with
    | some h => .ok h
    | none => .fault .notCallable
  record "ConversionConfig" fun fields =>
    let d := Settings.default
    (fun symmetric keys hooks markers extension tool url template directory =>
      ({ symmetricQuotes := symmetric, keyNames := keys, hooks := hooks, markers := markers,
         extension := extension, toolName := tool, toolUrl := url, footerTemplate := template,
         templateDir := directory } : Config))
      <$> field fields "translate_keys_within_symmetric_quotes" (some d.symmetricQuotes) bool
      <*> field fields "recognized_key_names" (some d.keyNames) (listOf .notSet text)
      <*> field fields "post_conversion_hooks" (some []) (listOf .notList hook)
      <*> field fields "comment_markers" (some d.markers) Markers.check
      <*> field fields "source_extension" (some d.extension) text
      <*> field fields "tool_name" (some d.toolName) text
      <*> field fields "tool_url" (some d.toolUrl) text
      <*> field fields "footer_template" (some d.footerTemplate) text
      <*> field fields "template_dir" (some d.templateDir) optionalText

/-- Texts without repetitions, in order. -/
def sortedSet (ts : List Text) : List Text := ts.eraseDups.mergeSort Text.le

/-- The fields of a configuration. Of the hooks their number is shown. -/
def Config.fields (c : Config) : Fields :=
  [("translate_keys_within_symmetric_quotes".toList, .bool c.symmetricQuotes),
    ("recognized_key_names".toList, .ofTexts (sortedSet c.keyNames)),
    ("post_conversion_hooks".toList, .int c.hooks.length),
    ("comment_markers".toList, .text c.markers.toText),
    ("source_extension".toList, .text c.extension),
    ("tool_name".toList, .text c.toolName),
    ("tool_url".toList, .text c.toolUrl),
    ("footer_template".toList, .text c.footerTemplate),
    ("template_dir".toList, .ofText? c.templateDir)]

/-- The record types. -/
inductive RecordKind where
  | config
  | document
  | metadata
  | block
  | span
  | token
  deriving DecidableEq, Repr

/-- The name of a record type. -/
def RecordKind.name : RecordKind → Text
  | .config => "ConversionConfig".toList
  | .document => "SourceDocument".toList
  | .metadata => "Metadata".toList
  | .block => "Block".toList
  | .span => "InlineSpan".toList
  | .token => "OutputToken".toList

/-- A record type by its name. -/
def RecordKind.ofName? (t : Text) : Option RecordKind :=
  [RecordKind.config, .document, .metadata, .block, .span, .token].find? (·.name == t)

/-- Whether the fields of a record stay as they were made. -/
def RecordKind.isFrozen (k : RecordKind) : Bool := k == .document

/-- The names that every record answers to without storing them. -/
def alwaysComputed : List Text := ["model_extra".toList, "model_fields_set".toList]

/-- The names that a record answers to without storing them. -/
def RecordKind.computed : RecordKind → List Text
  | .config => "canonical_marker".toList :: alwaysComputed
  | .block => "is_bullet_list".toList :: alwaysComputed
  | _ => alwaysComputed

/-- A name that belongs to no field and that a record never shows. -/
def isHidden (name : Text) : Bool := name.head? == some '_'

/-- A record as it is shown: its fields, and what follows from them. -/
structure Shown where
  /-- The fields. -/
  fields : Fields
  /-- What follows from the fields. -/
  derived : Fields

/-- Check a record of the given type and show it. -/
def RecordKind.show (k : RecordKind) (hook? : Value → Option Hook) (v : Value) : Checked Shown :=
  match k with
  | .config => (Config.check hook? v).map fun c =>
      ⟨c.fields, [("canonical_marker".toList, .text [c.marker])]⟩
  | .document => (Document.check v).map fun doc =>
      ⟨doc.fields, [("len".toList, .int doc.lines.length)]⟩
  | .metadata => (Metadata.check v).map fun md =>
      ⟨md.fields, [("declared".toList,
        .list (md.declared.map fun f => .list [.text f.1.label, .text f.2]))]⟩
  | .block => (Block.check v).map fun b =>
      ⟨b.fields, [("is_bullet_list".toList, .bool b.isBulletList)]⟩
  | .span => (Inline.Span.check v).map fun span =>
      ⟨span.fields, [("rendered".toList, .text span.render)]⟩
  | .token => (Token.check v).map fun t => ⟨t.fields, []⟩

/-- A value that a field of a configuration has been set to, as the field shows it. -/
def Config.shownAs (name : Text) (v : Value) : Value :=
  if name == "recognized_key_names".toList then
    (v.texts?.map fun ts => .ofTexts (ts.mergeSort Text.le)).getD v
  else if name == "post_conversion_hooks".toList then
    (v.list?.map fun hooks => .int hooks.length).getD v
  else v

/-- A value that a field has been set to, as the field shows it. -/
def RecordKind.shownAs (k : RecordKind) (name : Text) (v : Value) : Value :=
  if k == .config then Config.shownAs name v else v

/-- Set a field of a record. What it is set to is not checked, and a hidden name may be set at any
time. -/
def RecordKind.assign (k : RecordKind) (fields : Fields) (name : Text) (v : Value) :
    Except Error Fields :=
  if isHidden name then .ok fields
  else if k.isFrozen then .error (.invalid [⟨.frozen, [.field name]⟩])
  else if k.computed.contains name then .error .computedField
  else if (fields.lookup name).isNone then .error (.noSuchField k.name name)
  else .ok (fields.map fun f => if f.1 == name then (name, k.shownAs name v) else f)

/-- Set fields of a record one after the other. -/
def RecordKind.assignAll (k : RecordKind) : Fields → Fields → Except Error Fields
  | fields, [] => .ok fields
  | fields, (name, v) :: rest =>
    match k.assign fields name v with
    | .error e => .error e
    | .ok fields => k.assignAll fields rest

end Commentary
