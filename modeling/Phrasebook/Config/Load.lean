/-
This file loads configurations from files. The path is the one that the caller
gives, or else the one that the environment gives, or else the usual name in the
working directory. A configuration that is loaded is an allowed one, and its
relative paths are meant from the directory of its file.
-/

import Phrasebook.Config.Reader
import Phrasebook.Config.Validation

namespace Phrasebook

namespace Config

/-- The usual name of a configuration file. -/
def usualPath : FilePath := ⟨"hub-strings.toml"⟩

/-- The greatest size of a configuration file in bytes. -/
def maxFileBytes : Nat := 1024 * 1024

/-- The path of the configuration file. -/
def choosePath (given fromEnvironment : Option FilePath) : FilePath :=
  (given.or fromEnvironment).getD usualPath

/-- Refuses a path that is too long, or that has a component that is. -/
def checkFilePath (path : FilePath) : Except ConfigFault Unit :=
  if maxPathBytes < path.text.utf8ByteSize then .error .pathTooLong
  else if hasLongComponent path then .error .pathComponentTooLong
  else .ok ()

/-- The text in the bytes of a configuration file. -/
def decode (bytes : ByteArray) : Except ConfigFault String :=
  if maxFileBytes < bytes.size then .error .fileTooLarge
  else
    match String.fromUTF8? bytes with
    | none => .error .notUtf8
    | some text => .ok text

/-- Loads the configuration at a path. -/
def loadFrom (files : FileSystem) (path : FilePath) : Except ConfigError Config :=
  match checkFilePath path with
  | .error fault => .error (.invalid fault)
  | .ok () =>
    match files.read path with
    | .error fault => .error (.unreadable path fault)
    | .ok bytes =>
      match decode bytes with
      | .error fault => .error (.invalid fault)
      | .ok text =>
        match ofToml text with
        | .error error => .error error
        | .ok config =>
          let placed := { config with sourceDirectory := path.parent? }
          match placed.validate with
          | .error fault => .error (.invalid fault)
          | .ok () => .ok placed

/-- Loads the configuration at the path that is chosen. -/
def loadChosen (files : FileSystem) (given fromEnvironment : Option FilePath) :
    Except ConfigError Config :=
  loadFrom files (choosePath given fromEnvironment)

end Config

end Phrasebook
