import Registrar.DomainName.Label

namespace Registrar.DomainName

/-!
# Domain names

A domain name in any script has a form in ASCII. Names that readers take for the same
one have the same form.

* `normal?` — the name with its characters replaced, in composed form;
* `toAscii?` — the form in ASCII.
-/

/-- A name with its characters replaced, in composed form. -/
def normal? (name : List Char) : Option (List Char) :=
  (name.mapM mapped?).map fun texts => Text.composed texts.flatten

/-- The form of a name in ASCII; `isForbidden` are the ASCII characters that it must not
    hold. -/
def toAscii? (isForbidden : Char → Bool) (name : List Char) : Option (List Char) := do
  let name ← normal? name
  if name.any isForbidden then none
  let labels ← (Text.splitAll '.' name).mapM readLabel?
  if labels.any hasRightToLeft && !labels.all directionFits then none
  return ['.'].intercalate (labels.map asciiLabel)

end Registrar.DomainName
