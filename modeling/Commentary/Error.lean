import Commentary.Encoding
import Commentary.FileTree
import Commentary.Index
import Commentary.Record.Fault

/-!
# Errors

Everything that can end a conversion, a write or a run, with the words for it.
-/

namespace Commentary

/-- Why an operation ended without a result. -/
inductive Error where
  /-- The data of a record is at fault. -/
  | invalid (faults : List Fault)
  /-- A record has no such field. -/
  | noSuchField (record field : Text)
  /-- A field that follows from others was to be set. -/
  | computedField
  /-- A hook gave up. -/
  | hookFailed (reason : Text)
  /-- A heading block has no line to take its title from. -/
  | emptyHeading
  /-- A line or a cursor was asked for that is not there. -/
  | outOfRange (reason : OutOfRange)
  /-- A line was to be cleaned by an empty family of markers. -/
  | noMarker
  /-- A block was to be read where no comment line stands. -/
  | noCommentText
  /-- A line or a text was given as a value of another shape. -/
  | notText
  /-- A header's level was given as a value that is no whole number. -/
  | notANumber
  /-- A header's level does not fit into a word. -/
  | levelTooLarge
  /-- A text would not fit into memory. -/
  | outOfMemory
  /-- The footer's template is not there. -/
  | templateMissing
  /-- The footer's template is malformed. -/
  | templateMalformed
  /-- A path cannot be used. -/
  | file (e : FileError)
  /-- A file would be overwritten. -/
  | targetExists (path : Text)
  /-- A file's bytes cannot be read. -/
  | undecodable (e : DecodeError)
  /-- A text's characters cannot be written. -/
  | unencodable (e : EncodeError)
  /-- No encoding has that name. -/
  | unknownEncoding (name : Text)
  /-- The name is that of an encoding of bytes and not of texts. -/
  | binaryEncoding (name : Text)
  /-- The name of an encoding holds a null character. -/
  | nullInEncoding
  deriving DecidableEq, Repr

/-- What is said of an error. -/
def Error.message : Error → Text
  | .invalid faults => List.intercalate ['\n'] (faults.map (·.kind.message))
  | .noSuchField record field =>
    '\x22' :: record ++ "\" object has no field \"".toList ++ field ++ ['\x22']
  | .computedField => "the field follows from others".toList
  | .hookFailed reason => reason
  | .emptyHeading => OutOfRange.outside.message
  | .outOfRange reason => reason.message
  | .noMarker => "string index out of range".toList
  | .noCommentText => "no comment text".toList
  | .notText => "a text was expected".toList
  | .notANumber => "a whole number was expected".toList
  | .levelTooLarge => tooLargeMessage
  | .outOfMemory => []
  | .templateMissing => "template not found".toList
  | .templateMalformed => "template malformed".toList
  | .file e => e.message
  | .targetExists path => path ++ " already exists".toList
  | .undecodable e => e.message
  | .unencodable e => e.message
  | .unknownEncoding name => "unknown encoding: ".toList ++ name
  | .binaryEncoding name =>
    '\x27' :: name ++
      "' is not a text encoding; use codecs.open() to handle arbitrary codecs".toList
  | .nullInEncoding => "embedded null character".toList

end Commentary
