import CubeAssessment.Configuration.Decode

/-! # Loading configurations

What becomes of a configuration file, given its content: the bytes of the file, or nothing when
there is no such file. -/

namespace CubeAssessment

/-- Why a file cannot be read as text. -/
inductive ReadFailure where
  /-- There is no such file. -/
  | notFound
  /-- The file is not UTF-8. -/
  | invalidData
  deriving DecidableEq, Repr

/-- Why a configuration file cannot be loaded. -/
inductive LoadError where
  /-- It cannot be read. -/
  | unreadable (failure : ReadFailure)
  /-- Its text is no configuration. -/
  | config (cause : ConfigError)
  deriving DecidableEq, Repr

namespace Config

/-- **Load a configuration file.** -/
def load (content : Option ByteArray) : Except LoadError Config :=
  match content with
  | none => .error (.unreadable .notFound)
  | some bytes =>
      match String.fromUTF8? bytes with
      | none => .error (.unreadable .invalidData)
      | some text => (parse text).mapError .config

/-- **Load the user's configuration file**; when there is none, the default configuration holds. -/
def loadUser (content : Option ByteArray) : Except LoadError Config :=
  match content with
  | none => .ok default
  | some bytes => load (some bytes)

end Config

end CubeAssessment
