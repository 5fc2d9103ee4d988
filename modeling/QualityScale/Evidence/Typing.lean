import QualityScale.Catalog
import QualityScale.Text.Blank

/-!
# Evidence of strict typing

The checkout lists the modules that are typed strictly, one pattern a line.
-/

namespace QualityScale.Evidence

/-- The line that lists all modules of an integration. -/
def strictTypingLine (domain : String) : String :=
  s!"homeassistant.components.{domain}.*"

/-- The modules of the integration are listed as strictly typed. -/
def strictTyping : Validator := fun config files i _ =>
  let wanted := strictTypingLine i.domain
  let listed (text : String) := (Text.lines text.toList).any (Text.trim · == wanted.toList)
  if (files.text config.strictTypingFile).toOption.any listed then []
  else
    ["Integration does not have strict typing enabled (is missing " ++
      s!"`{wanted}` from .strict-typing)"]

end QualityScale.Evidence
