import Commentary.Error
import Commentary.Settings
import Commentary.Template

/-!
# The footer

The last line of the output, written from a template. A template is looked up by name in a directory,
or it is the built-in one.
-/

namespace Commentary.Footer

/-- The name of the built-in template. -/
def builtInName : Text := "footer.md.j2".toList

/-- The built-in template. -/
def builtIn : Text :=
  ("\x7b% if source_name %\x7dConverted from `\x7b\x7b source_name \x7d\x7d` by " ++
    "[*\x7b\x7b tool_name \x7d\x7d*](\x7b\x7b tool_url \x7d\x7d).\x7b% else %\x7d" ++
    "Converted by [*\x7b\x7b tool_name \x7d\x7d*](\x7b\x7b tool_url \x7d\x7d).\x7b% endif %\x7d").toList

/-- The names of a template's name; none of them may go up. -/
def nameParts? (name : Text) : Option (List Text) :=
  let parts := List.splitOn '/' name
  if parts.contains FileTree.upName then none
  else some (parts.filter fun part => part != [] && part != ['.'])

/-- The text of the template that the settings ask for. Files are read as UTF-8. -/
def source (tree : FileTree) (s : Settings) : Except Error Text :=
  match nameParts? s.footerTemplate with
  | none => .error .templateMissing
  | some parts =>
    let directory := s.templateDir.getD []
    if directory == [] then
      if parts == [builtInName] then .ok builtIn else .error .templateMissing
    else
      let path := parts.foldl Path.child (Path.ofText directory)
      match tree.read path.toText with
      | .error _ => .error .templateMissing
      | .ok content =>
        match Encoding.utf8.decode content with
        | .error e => .error (.undecodable e)
        | .ok t => .ok t

/-- What a template prints of itself. -/
def selfText (s : Settings) : Text :=
  "<TemplateReference ".toList ++ Text.quoted s.footerTemplate ++ ['>']

/-- The values that a template can print. -/
def value (s : Settings) (sourceName : Value) (name : Text) : Option Value :=
  if name == "source_name".toList then some sourceName
  else if name == "self".toList then some (.text (selfText s))
  else if name == "tool_name".toList then some (.text s.toolName)
  else if name == "tool_url".toList then some (.text s.toolUrl)
  else none

/-- The footer with a source name of any shape. -/
def renderValue (tree : FileTree) (s : Settings) (sourceName : Value) : Except Error Text :=
  match source tree s with
  | .error e => .error e
  | .ok t =>
    match Template.parse? t with
    | none => .error .templateMalformed
    | some template => .ok (Text.trim (template.render (value s sourceName)))

/-- The footer of a document. -/
def render (tree : FileTree) (s : Settings) (sourceName : Option Text) : Except Error Text :=
  renderValue tree s (.ofText? sourceName)

end Commentary.Footer
