import Commentary.Conversion

/-!
# Reading and writing files

Source files are read with all newlines alike; output is written as it is. A file that is opened for
writing is empty from then on, so a text that cannot be encoded leaves an empty file behind. The
encodings are those of `Encoding`; any other name is an error, and the file that was to be written
is left empty.
-/

namespace Commentary

/-- A name of an encoding that can be asked for at all. -/
def isEncodingName (name : Text) : Bool := !name.contains '\x00'

/-- The encoding of texts that has the given name. A name that `Encoding.ofName?` does not know is
that of no encoding, or of one of bytes. -/
def encodingOf (name : Text) : Except Error Encoding :=
  match Encoding.ofName? name with
  | some enc => .ok enc
  | none => .error (if Encoding.isBinary name then .binaryEncoding name else .unknownEncoding name)

/-- The text of the file that a path leads to. -/
def readText (tree : FileTree) (path encoding : Text) : Except Error Text :=
  if !isEncodingName encoding then .error .nullInEncoding
  else match tree.read path with
    | .error e => .error (.file ⟨e, path⟩)
    | .ok content =>
      match encodingOf encoding with
      | .error e => .error e
      | .ok enc =>
        match enc.decode content with
        | .error e => .error (.undecodable e)
        | .ok t => .ok (Text.unifyNewlines t)

/-- Write a text to the file that a path leads to; its directory is made if it is missing. -/
def writeText (tree : FileTree) (path text encoding : Text) : FileTree × Except Error Unit :=
  match tree.makeDirectories (Path.ofText path).parent with
  | (tree, some e) => (tree, .error (.file e))
  | (tree, none) =>
    if !isEncodingName encoding then (tree, .error .nullInEncoding)
    else match tree.writable path with
      | .error e => (tree, .error (.file ⟨e, path⟩))
      | .ok place =>
        match encodingOf encoding with
        | .error e => (tree.put place (.file []), .error e)
        | .ok enc =>
          match enc.encode text with
          | .error e => (tree.put place (.file []), .error (.unencodable e))
          | .ok content => (tree.put place (.file content), .ok ())

/-- Write what a sink holds. Without `overwrite` an existing path is left alone. -/
def Sink.save (sink : Sink) (tree : FileTree) (path : Path) (overwrite : Bool) (encoding : Text) :
    FileTree × Except Error Unit :=
  match tree.pathExists path.toText with
  | .error e => (tree, .error (.file ⟨e, path.toText⟩))
  | .ok found =>
    if found && !overwrite then (tree, .error (.targetExists path.toText))
    else writeText tree path.toText sink.value encoding

/-- The document of a source file, named after the file. -/
def Document.load (tree : FileTree) (ms : Markers) (path : Path) (encoding : Text) :
    Except Error Document :=
  (readText tree path.toText encoding).map fun text => .ofText ms text (some path.name)

/-- A source file in Markdown. -/
def convertFile (tree : FileTree) (config : Config) (path : Path) (encoding : Text) :
    Except Error Text :=
  match Document.load tree config.markers path encoding with
  | .error e => .error e
  | .ok doc => convertDocument tree config doc

end Commentary
