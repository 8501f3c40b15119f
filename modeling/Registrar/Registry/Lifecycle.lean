import Registrar.Registry.Fault

namespace Registrar.Registry

/-!
# The way of a registration

A namespace is preordered, revealed and then ready; a name is preordered and then
registered, as registering it discloses it.

* `Registration` — what is registered and how far it has come;
* `Registration.next?` — the step that may come next;
* `Registration.functionOf` — the function of the registry that takes a step;
* `Registration.attempt` — tries a step, which is taken if it is the next one;
* `Registration.advance` — the registration after a step that is taken.
-/

/-- What is registered. -/
inductive RegistrationKind where
  | space | name
deriving DecidableEq

/-- How a message calls the kind. -/
def RegistrationKind.text : RegistrationKind → String
  | space => "namespace"
  | name => "name"

/-- How far a registration has come. -/
inductive Phase where
  | unregistered | preordered | revealed | ready | registered
deriving DecidableEq

/-- How a message calls the phase. -/
def Phase.text : Phase → String
  | unregistered => "unregistered"
  | preordered => "preordered"
  | revealed => "revealed"
  | ready => "ready"
  | registered => "registered"

/-- Whether no step follows the phase. -/
def Phase.isTerminal : Phase → Bool
  | ready | registered => true
  | _ => false

/-- What takes a registration further. -/
inductive Step where
  | preorder | reveal | ready | register
deriving DecidableEq

/-- How a message calls the step. -/
def Step.text : Step → String
  | preorder => "preorder"
  | reveal => "reveal"
  | ready => "ready"
  | register => "register"

/-- The phase that a step leads to. -/
def Step.phase : Step → Phase
  | preorder => .preordered
  | reveal => .revealed
  | ready => .ready
  | register => .registered

/-- What is registered and how far it has come. -/
structure Registration where
  kind : RegistrationKind
  phase : Phase
deriving DecidableEq

namespace Registration

/-- A registration that has not begun. -/
def new (kind : RegistrationKind) : Registration := ⟨kind, .unregistered⟩

/-- The step that may come next, if one follows. -/
def next? (registration : Registration) : Option Step :=
  match registration.kind, registration.phase with
  | _, .unregistered => some .preorder
  | .space, .preordered => some .reveal
  | .space, .revealed => some .ready
  | .name, .preordered => some .register
  | _, _ => none

/-- The function of the registry that takes a step. -/
def functionOf (registration : Registration) (step : Step) : Except RegistryFault String :=
  match registration.kind, step with
  | .space, .preorder => .ok "namespace-preorder"
  | .space, .reveal => .ok "namespace-reveal"
  | .space, .ready => .ok "namespace-ready"
  | .name, .preorder => .ok "name-preorder"
  | .name, .register => .ok "name-register"
  | kind, step => .error (.invalid (.noStep kind.text step.text))

/-- What comes of trying a step, and the registration afterwards. -/
def attempt (registration : Registration) (step : Step) :
    Except RegistryFault Phase × Registration :=
  if registration.next? = some step then
    (.ok step.phase, { registration with phase := step.phase })
  else
    (.error (.invalid (.outOfTurn step.text registration.kind.text registration.phase.text)),
      registration)

/-- The registration after a step, if the step is the next one. -/
def advance (registration : Registration) (step : Step) : Except RegistryFault Registration :=
  match registration.attempt step with
  | (.ok _, next) => .ok next
  | (.error fault, _) => .error fault

end Registration

end Registrar.Registry
