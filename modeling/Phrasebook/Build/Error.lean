/-
This file lists what can keep a configuration from becoming a catalog.
-/

import Phrasebook.Config.Error
import Phrasebook.Load.Error
import Phrasebook.Resolve.Error

namespace Phrasebook

/-- Why no catalog was built. -/
inductive BuildError
  /-- The configuration is not usable. -/
  | config (error : ConfigError)
  /-- The document at a path cannot be read. -/
  | unreadable (path : FilePath) (fault : FileFault)
  /-- The document at a path makes no table. -/
  | load (path : FilePath) (error : LoadError)
  /-- Some references lead nowhere or in circles, or go too far. -/
  | validation (problems : List ResolveError)
deriving DecidableEq

/-- The sentence that tells a person about the error. -/
def BuildError.message : BuildError → String
  | .config error => error.message
  | .unreadable path fault => "failed to read `" ++ path.text ++ "`: " ++ fault.message
  | .load path error => "failed to load `" ++ path.text ++ "`: " ++ error.message
  | .validation problems =>
    "catalog has " ++ toString problems.length ++ " invalid reference(s); first: " ++
      (problems.head?.map ResolveError.message).getD ""

end Phrasebook
