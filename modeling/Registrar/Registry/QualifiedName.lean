import Registrar.Registry.Fault
import Registrar.Text.Split

namespace Registrar.Registry

/-!
# Qualified names

A name within a namespace, written `name.namespace`, or a name below such a name,
written `subdomain.name.namespace`.

* `Label` — a text without dots that is not empty;
* `QualifiedName` — two or three labels;
* `QualifiedName.parse` / `QualifiedName.toText` — the labels with dots between
  them;
* `QualifiedName.parseTopLevel` — a name that an operation of the registry can
  act on.
-/

/-- Whether the text can stand between two dots. -/
def isLabel (text : List Char) : Bool := !text.isEmpty && !text.contains '.'

/-- A text without dots that is not empty. -/
structure Label where
  text : String
  valid : isLabel text.toList = true
deriving DecidableEq

/-- The label with the given characters. -/
def Label.ofChars? (text : List Char) : Option Label :=
  if h : isLabel text = true then some ⟨String.ofList text, by simpa using h⟩ else none

/-- A name within a namespace, or a name below such a name. -/
structure QualifiedName where
  subdomain : Option Label
  name : Label
  space : Label
deriving DecidableEq

namespace QualifiedName

/-- The labels with dots between them. -/
def toText (qualified : QualifiedName) : String :=
  let name := qualified.name.text ++ "." ++ qualified.space.text
  match qualified.subdomain with
  | some subdomain => subdomain.text ++ "." ++ name
  | none => name

/-- The name that a text stands for: two or three labels, all of them with
    characters. -/
def parse (text : String) : Except RegistryFault QualifiedName :=
  match (Text.splitAll '.' text.toList).mapM Label.ofChars? with
  | none => .error (.invalid (.emptyLabel text))
  | some [name, space] => .ok ⟨none, name, space⟩
  | some [subdomain, name, space] => .ok ⟨some subdomain, name, space⟩
  | some _ => .error (.invalid (.labelCount text))

/-- Refuses a name below a name, which the operation cannot act on. -/
def ensureTopLevel (qualified : QualifiedName) (operation : String) :
    Except RegistryFault Unit :=
  if qualified.subdomain.isSome then
    .error (.invalid (.subdomain operation qualified.toText))
  else .ok ()

/-- The name of two labels that a text stands for. -/
def parseTopLevel (operation text : String) : Except RegistryFault QualifiedName := do
  let qualified ← parse text
  qualified.ensureTopLevel operation
  return qualified

end QualifiedName

end Registrar.Registry
