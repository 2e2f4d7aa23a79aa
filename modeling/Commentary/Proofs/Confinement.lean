import Commentary.Conversion
import Commentary.Proofs.Header
import Commentary.Proofs.Views

/-!
# What a license and the code are kept from

A line that opens a section is a border: no block, no license and no look ahead for a heading
reaches past it. Behind a Code line the rest of the lines, and behind a License line the lines of
the license, have no part in the blocks, and as they have no part in the metadata either, they have
none in the output.
-/

namespace Commentary.Scan

variable {m : Char} {border : Text}

/-- What follows a Code line has no part in the blocks. -/
theorem blocks_append_code {lines : List Text} (hborder : Line.opens m .code border = true)
    (after after' : List Text) : blocks m (ofBody (lines ++ border :: after)) =
      blocks m (ofBody (lines ++ border :: after')) :=
  blocks_body_eq (.append lines (.code hborder hborder))

/-- Under a license, lines that do not start with three markers can be left out. -/
theorem readAlike_of_license {text text' after : List Text}
    (htext : ∀ line ∈ text, Line.isTopLevel m line = false)
    (htext' : ∀ line ∈ text', Line.isTopLevel m line = false)
    (hafter : ∀ line ∈ after.head?, Line.isTopLevel m line = true) :
    ReadAlike m m true (text ++ after) (text' ++ after) := by
  induction text with
  | cons line text ih =>
    obtain ⟨hline, hlater⟩ := List.forall_mem_cons.1 htext
    exact .hiddenLeft hline (ih hlater)
  | nil =>
    induction text' with
    | cons line text' ih =>
      obtain ⟨hline, hlater⟩ := List.forall_mem_cons.1 htext'
      exact .hiddenRight hline (ih hlater)
    | nil =>
      cases after with
      | nil => exact .nil
      | cons first later =>
        have hsame : ReadAlike m m false (later ++ []) (later ++ []) := .append later .nil
        rw [List.append_nil] at hsame
        exact .seen (fun _ => hafter first rfl) (.refl m first) hsame

/-- The lines of a license have no part in the blocks. -/
theorem blocks_append_license {lines text text' after : List Text}
    (hborder : Line.opens m .license border = true)
    (htext : ∀ line ∈ text, Line.isTopLevel m line = false)
    (htext' : ∀ line ∈ text', Line.isTopLevel m line = false)
    (hafter : ∀ line ∈ after.head?, Line.isTopLevel m line = true) :
    blocks m (ofBody (lines ++ border :: (text ++ after))) =
      blocks m (ofBody (lines ++ border :: (text' ++ after))) :=
  blocks_body_eq (.append lines
    (.license hborder hborder (readAlike_of_license htext htext' hafter)))

/-- The body of a document that has a Commentary line before a border goes over that border. -/
theorem tail_dropWhile_append {before : List Text}
    (h : ∃ line ∈ before, Line.opens m .commentary line = true) :
    ∃ lines, ∀ after, ((before ++ after).dropWhile (!Line.opens m .commentary ·)).tail =
      lines ++ after := by
  refine ⟨(before.dropWhile (!Line.opens m .commentary ·)).tail, fun after => ?_⟩
  have hne : before.dropWhile (!Line.opens m .commentary ·) ≠ [] := by
    intro hnil
    obtain ⟨line, hline, hopens⟩ := h
    simpa [hopens] using List.dropWhile_eq_nil_iff.1 hnil line hline
  rw [List.dropWhile_append, if_neg (by simpa using hne), List.tail_append_of_ne_nil hne]

end Commentary.Scan

namespace Commentary

/-- The output depends on the blocks, the metadata and the name of a document only. -/
theorem convertDocument_congr (tree : FileTree) (config : Config) {doc doc' : Document}
    (hblocks : doc.blocks config.toSettings = doc'.blocks config.toSettings)
    (hmetadata : Metadata.ofDocument config.toSettings doc =
      Metadata.ofDocument config.toSettings doc')
    (hname : doc.sourceName = doc'.sourceName) :
    convertDocument tree config doc = convertDocument tree config doc' := by
  simp only [convertDocument, emit, pageEmission, hblocks, hmetadata, hname]

variable {tree : FileTree} {config : Config} {name : Option Text} {before : List Text}

/-- Behind a Commentary line, lines that give the same blocks give the same output. -/
private theorem convert_append_congr
    (hbefore : ∃ line ∈ before,
      Line.opens config.marker .commentary (config.markers.cleanLine line) = true)
    {after after' : List Text}
    (hblocks : ∀ lines, Scan.blocks config.marker
        (Scan.ofBody (lines ++ config.markers.cleanLines after)) =
      Scan.blocks config.marker (Scan.ofBody (lines ++ config.markers.cleanLines after'))) :
    convert tree config (before ++ after) name = convert tree config (before ++ after') name := by
  have hclean (after : List Text) : config.markers.cleanLines (before ++ after) =
      config.markers.cleanLines before ++ config.markers.cleanLines after := List.map_append
  have hopens : ∃ line ∈ config.markers.cleanLines before,
      Line.opens config.marker .commentary line = true := by
    obtain ⟨line, hline, hopens⟩ := hbefore
    exact ⟨_, List.mem_map_of_mem hline, hopens⟩
  obtain ⟨lines, hbody⟩ := Scan.tail_dropWhile_append hopens
  apply convertDocument_congr
  · simp only [Document.blocks, Document.ofLines, Scan.blocks_ofDocument, hclean]
    rw [hbody, hbody, hblocks lines]
  · simp only [Document.ofLines, hclean]
    rw [Metadata.ofDocument_append hopens, Metadata.ofDocument_append hopens]
  · rfl

/-- Behind a Commentary line, the output depends neither on what follows a Code line nor on the text
of a license, whatever else the lines hold. -/
theorem convert_confined (tree : FileTree) (config : Config) (name : Option Text)
    {before : List Text}
    (hbefore : ∃ line ∈ before,
      Line.opens config.marker .commentary (config.markers.cleanLine line) = true) :
    (∀ (code : Text) (after after' : List Text),
      Line.opens config.marker .code (config.markers.cleanLine code) = true →
      convert tree config (before ++ [code] ++ after) name =
        convert tree config (before ++ [code] ++ after') name) ∧
    (∀ (license : Text) (text text' after : List Text),
      Line.opens config.marker .license (config.markers.cleanLine license) = true →
      (∀ line ∈ text, Line.isTopLevel config.marker (config.markers.cleanLine line) = false) →
      (∀ line ∈ text', Line.isTopLevel config.marker (config.markers.cleanLine line) = false) →
      (∀ line ∈ after.head?, Line.isTopLevel config.marker (config.markers.cleanLine line) = true) →
      convert tree config (before ++ [license] ++ text ++ after) name =
        convert tree config (before ++ [license] ++ text' ++ after) name) := by
  constructor
  · intro code after after' hcode
    rw [List.append_assoc, List.append_assoc]
    apply convert_append_congr hbefore
    intro lines
    exact Scan.blocks_append_code hcode _ _
  · intro license text text' after hlicense htext htext' hafter
    rw [List.append_assoc, List.append_assoc, List.append_assoc, List.append_assoc]
    apply convert_append_congr hbefore
    intro lines
    have hclean {text : List Text} (h : ∀ line ∈ text,
        Line.isTopLevel config.marker (config.markers.cleanLine line) = false) :
        ∀ line ∈ config.markers.cleanLines text, Line.isTopLevel config.marker line = false := by
      intro line hline
      obtain ⟨raw, hraw, rfl⟩ := List.mem_map.1 hline
      exact h raw hraw
    have hhead : ∀ line ∈ (config.markers.cleanLines after).head?,
        Line.isTopLevel config.marker line = true := by
      intro line hline
      rw [Markers.cleanLines, List.head?_map] at hline
      obtain ⟨raw, hraw, rfl⟩ := Option.map_eq_some_iff.1 hline
      exact hafter raw hraw
    have hsplit (text : List Text) : config.markers.cleanLines ([license] ++ (text ++ after)) =
        config.markers.cleanLine license ::
          (config.markers.cleanLines text ++ config.markers.cleanLines after) := by
      simp [Markers.cleanLines]
    rw [hsplit, hsplit]
    exact Scan.blocks_append_license hlicense (hclean htext) (hclean htext') hhead

/-- A Code line and a License line that are met within a paragraph. -/
theorem convert_confined_in_paragraph :
    let before := [";;; Commentary:".toList, ";; Usage:".toList]
    (∃ line ∈ before, Line.opens ';' .commentary (Config.default.markers.cleanLine line) = true) ∧
    convert .empty .default
        (before ++ [";;; Code: ".toList] ++ [";;".toList, ";; - one".toList]) none =
      convert .empty .default (before ++ [";;; Code: ".toList] ++ []) none ∧
    convert .empty .default (before ++ [";;; License:".toList] ++
        [";; Free.".toList, ";;".toList] ++ [";;; Change:".toList]) none =
      convert .empty .default (before ++ [";;; License:".toList] ++ [] ++ [";;; Change:".toList])
        none := by
  intro before
  have hbefore : ∃ line ∈ before, Line.opens Config.default.marker .commentary
      (Config.default.markers.cleanLine line) = true :=
    ⟨";;; Commentary:".toList, by decide, by decide⟩
  have hconfined := convert_confined .empty .default none hbefore
  refine ⟨hbefore, hconfined.1 _ _ _ (by decide), hconfined.2 _ _ _ _ (by decide) (by decide)
    (by decide) ?_⟩
  intro line hline
  obtain rfl := Option.some.inj hline
  decide

end Commentary
