import ChipEight.Yaml.Reading
import ChipEight.Yaml.Writing

/-!
# Formats

Whatever is kept in files as a document, is written and read in one format.  The format is
YAML, but for those who keep documents it makes no difference which one it is.
-/

namespace ChipEight.Yaml

/-- How documents are written to files, and how they are read from them. -/
structure Format where
  write : Value → String
  read : List UInt8 → Except Problem Value

/-- YAML, read within some limits. -/
def Format.standard (limits : Limits) : Format := ⟨Yaml.write, Yaml.read limits⟩

end ChipEight.Yaml
