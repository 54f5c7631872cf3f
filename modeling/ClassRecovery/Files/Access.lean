import ClassRecovery.Error

/-!
# Access to files

An extraction reads and writes whole texts, and nothing else of the world around it.
-/

set_option autoImplicit false

namespace ClassRecovery

/-- How texts are read and written. -/
structure Files (m : Type → Type) where
  readText : String → m (Except FileError String)
  writeText : String → String → m (Except FileError Unit)

end ClassRecovery
