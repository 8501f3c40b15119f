import Registrar.Registry.Lifecycle

namespace Registrar.Registry

/-!
# Registrations keep to their way

Steps are tried in any order, and those out of turn are refused in between. Whatever is tried,
the steps that are taken are the first ones of the kind, and how many they are says the rest.

* `RegistrationKind.steps`, `RegistrationKind.phases` — the way of a kind;
* `Registration.run` — steps tried one after another, and those of them that are taken;
* `Registration.At` — a registration that has come a number of steps along its way;
* `Registration.attempt_cases` — what one attempt does to it;
* `Registration.run_of_at` — what a whole run does, by induction on the steps;
* `Registration.run_new_outcome` — the outcome of every run from the beginning.
-/

/-! ### The way of a kind -/

/-- The steps of a kind, in the order they are taken. -/
def RegistrationKind.steps : RegistrationKind → List Step
  | space => [.preorder, .reveal, .ready]
  | name => [.preorder, .register]

/-- The phases of a kind, the one before its first step and the one after each step. -/
def RegistrationKind.phases : RegistrationKind → List Phase
  | space => [.unregistered, .preordered, .revealed, .ready]
  | name => [.unregistered, .preordered, .registered]

namespace Registration

/-- The registration after steps that are tried one after another, and those of them that are
    taken. -/
def run (registration : Registration) : List Step → Registration × List Step
  | [] => (registration, [])
  | step :: steps =>
    match registration.attempt step with
    | (.ok _, next) => ((next.run steps).1, step :: (next.run steps).2)
    | (.error _, next) => next.run steps

/-- The registration is one of the kind that has come a number of steps along its way. -/
structure At (kind : RegistrationKind) (count : Nat) (registration : Registration) : Prop where
  kind_eq : registration.kind = kind
  phase_eq : kind.phases[count]? = some registration.phase

variable {kind : RegistrationKind} {count : Nat} {registration : Registration} {step : Step}

/-! ### Along the way -/

theorem at_new (kind : RegistrationKind) : At kind 0 (new kind) := by
  cases kind <;> exact ⟨rfl, rfl⟩

/-- What holds at each place of the two ways holds at every place of a way. -/
theorem At.cases {P : Nat → Registration → Prop} (h : At kind count registration)
    (space : kind = .space → P 0 ⟨.space, .unregistered⟩ ∧ P 1 ⟨.space, .preordered⟩ ∧
      P 2 ⟨.space, .revealed⟩ ∧ P 3 ⟨.space, .ready⟩)
    (name : kind = .name → P 0 ⟨.name, .unregistered⟩ ∧ P 1 ⟨.name, .preordered⟩ ∧
      P 2 ⟨.name, .registered⟩) : P count registration := by
  obtain ⟨found, phase⟩ := registration
  obtain ⟨rfl, hphase⟩ := h
  cases found with
  | space =>
    obtain ⟨hzero, hone, htwo, hthree⟩ := space rfl
    match count with
    | 0 => cases hphase; exact hzero
    | 1 => cases hphase; exact hone
    | 2 => cases hphase; exact htwo
    | 3 => cases hphase; exact hthree
    | _ + 4 => cases hphase
  | name =>
    obtain ⟨hzero, hone, htwo⟩ := name rfl
    match count with
    | 0 => cases hphase; exact hzero
    | 1 => cases hphase; exact hone
    | 2 => cases hphase; exact htwo
    | _ + 3 => cases hphase

/-- The next step of a registration is the one at its place of the way. -/
theorem At.next?_eq (h : At kind count registration) :
    registration.next? = kind.steps[count]? := by
  refine h.cases (P := fun count registration => registration.next? = kind.steps[count]?) ?_ ?_
  · rintro rfl
    exact ⟨rfl, rfl, rfl, rfl⟩
  · rintro rfl
    exact ⟨rfl, rfl, rfl⟩

/-- The next step leads to the next place. -/
theorem At.succ (h : At kind count registration) (hnext : registration.next? = some step) :
    At kind (count + 1) { registration with phase := step.phase } := by
  rw [h.next?_eq] at hnext
  refine ⟨h.kind_eq, ?_⟩
  -- the step that comes next leads to the phase behind the present one
  have hphase : ∀ count, kind.steps[count]? = some step →
      kind.phases[count + 1]? = some step.phase := by
    cases kind with
    | space =>
      rintro (_ | _ | _ | _) ⟨⟩ <;> rfl
    | name =>
      rintro (_ | _ | _) ⟨⟩ <;> rfl
  exact hphase count hnext

/-- No step follows exactly the phases at the end of a way. -/
theorem At.next?_eq_none_iff (h : At kind count registration) :
    registration.next? = none ↔ registration.phase.isTerminal = true := by
  refine h.cases (P := fun _ registration =>
    registration.next? = none ↔ registration.phase.isTerminal = true) ?_ ?_
  · rintro rfl
    decide
  · rintro rfl
    decide

/-- No phase is come to but those of the way. -/
theorem At.phase_ne {phase : Phase} (h : At kind count registration)
    (hphase : phase ∉ kind.phases) : registration.phase ≠ phase := by
  rintro rfl
  exact hphase (List.mem_of_getElem? h.phase_eq)

/-- The registry has a function for each step of the way, named for the kind and the step. -/
theorem functionOf_eq (registration : Registration) (h : step ∈ registration.kind.steps) :
    registration.functionOf step = .ok (registration.kind.text ++ "-" ++ step.text) := by
  obtain ⟨kind, phase⟩ := registration
  cases kind with
  | space =>
    simp only [RegistrationKind.steps, List.mem_cons, List.not_mem_nil, or_false] at h
    rcases h with rfl | rfl | rfl <;> rfl
  | name =>
    simp only [RegistrationKind.steps, List.mem_cons, List.not_mem_nil, or_false] at h
    rcases h with rfl | rfl <;> rfl

/-! ### Attempts -/

/-- **An attempt** takes the next step, and refuses any other and leaves the registration as
    it is. -/
theorem attempt_cases (registration : Registration) (step : Step) :
    (registration.next? = some step ∧
      registration.attempt step = (.ok step.phase, { registration with phase := step.phase })) ∨
    (registration.next? ≠ some step ∧
      ∃ fault, registration.attempt step = (.error fault, registration)) := by
  unfold attempt
  by_cases h : registration.next? = some step
  · exact .inl ⟨h, if_pos h⟩
  · exact .inr ⟨h, _, if_neg h⟩

/-- Only the next step succeeds, and leads to its own phase. -/
theorem attempt_eq_ok_iff {phase : Phase} :
    (registration.attempt step).1 = .ok phase ↔
      registration.next? = some step ∧ phase = step.phase := by
  obtain ⟨hnext, hattempt⟩ | ⟨hnext, fault, hattempt⟩ := attempt_cases registration step
  · simp [hattempt, hnext, eq_comm]
  · simp [hattempt, hnext]

/-- An attempt that is refused changes nothing. -/
theorem attempt_of_error {fault : RegistryFault}
    (h : (registration.attempt step).1 = .error fault) :
    (registration.attempt step).2 = registration := by
  obtain ⟨-, hattempt⟩ | ⟨-, refusal, hattempt⟩ := attempt_cases registration step
  · rw [hattempt] at h
    cases h
  · rw [hattempt]

/-! ### Runs -/

/-- **A run** takes the next steps of the way and no others, and comes as many places
    further. -/
theorem run_of_at (steps : List Step) (h : At kind count registration) :
    (registration.run steps).2 <+: kind.steps.drop count ∧
      At kind (count + (registration.run steps).2.length) (registration.run steps).1 := by
  induction steps generalizing count registration with
  | nil => exact ⟨List.nil_prefix, h⟩
  | cons step steps ih =>
    obtain ⟨hnext, hattempt⟩ | ⟨-, fault, hattempt⟩ := attempt_cases registration step
    · -- the step that is taken stands at the place, and the rest of the way behind it
      have hway : kind.steps.drop count = step :: kind.steps.drop (count + 1) := by
        rw [h.next?_eq] at hnext
        obtain ⟨hlt, hstep⟩ := List.getElem?_eq_some_iff.1 hnext
        rw [List.drop_eq_getElem_cons hlt, hstep]
      obtain ⟨htaken, hat⟩ := ih (h.succ hnext)
      simp only [run, hattempt, hway, List.length_cons]
      refine ⟨List.cons_prefix_cons.2 ⟨rfl, htaken⟩, ?_⟩
      rwa [Nat.add_right_comm] at hat
    · simp only [run, hattempt]
      exact ih h

/-- Where no step follows, nothing changes any more. -/
theorem run_of_next?_eq_none (h : registration.next? = none) (steps : List Step) :
    registration.run steps = (registration, []) := by
  induction steps with
  | nil => rfl
  | cons step steps ih =>
    obtain ⟨hnext, -⟩ | ⟨-, fault, hattempt⟩ := attempt_cases registration step
    · cases h.symm.trans hnext
    · simp only [run, hattempt, ih]

/-- **Registrations keep to their way.** Whatever steps are tried from the beginning of a
    registration, those that are taken are the first ones of its kind, in their order, and for
    each of them the registry has a function. The kind stays, and the phase is the one that as
    many steps lead to. The next step is the one of the way that follows those taken; it alone
    is taken, and any other is refused and changes nothing. None follows exactly in the phases
    that are terminal, where all further steps are refused. So a name is never revealed or
    ready, and a namespace never registered. -/
theorem run_new_outcome (kind : RegistrationKind) (steps : List Step) :
    ∃ registration taken, (new kind).run steps = (registration, taken) ∧
      taken <+: kind.steps ∧
      (∀ step ∈ taken, registration.functionOf step = .ok (kind.text ++ "-" ++ step.text)) ∧
      registration.kind = kind ∧
      kind.phases[taken.length]? = some registration.phase ∧
      registration.next? = kind.steps[taken.length]? ∧
      (∀ step phase, (registration.attempt step).1 = .ok phase ↔
        registration.next? = some step ∧ phase = step.phase) ∧
      (∀ step fault, (registration.attempt step).1 = .error fault →
        (registration.attempt step).2 = registration) ∧
      (registration.next? = none ↔ registration.phase.isTerminal = true) ∧
      (registration.phase.isTerminal = true →
        ∀ further, registration.run further = (registration, [])) ∧
      (kind = .name → registration.phase ≠ .revealed ∧ registration.phase ≠ .ready) ∧
      (kind = .space → registration.phase ≠ .registered) := by
  obtain ⟨htaken, hat⟩ := run_of_at steps (at_new kind)
  -- the rest is said of the state that is reached, whatever steps led there
  generalize (new kind).run steps = outcome at htaken hat
  obtain ⟨registration, taken⟩ := outcome
  rw [Nat.zero_add] at hat
  replace htaken : taken <+: kind.steps := htaken
  replace hat : At kind taken.length registration := hat
  refine ⟨registration, taken, rfl, htaken, ?_, hat.kind_eq, hat.phase_eq, hat.next?_eq,
    fun step phase => attempt_eq_ok_iff, fun step fault => attempt_of_error,
    hat.next?_eq_none_iff, fun hterminal => ?_, ?_, ?_⟩
  · intro step hstep
    have hmem : step ∈ registration.kind.steps := hat.kind_eq ▸ htaken.subset hstep
    rw [functionOf_eq registration hmem, hat.kind_eq]
  · exact run_of_next?_eq_none (hat.next?_eq_none_iff.2 hterminal)
  · rintro rfl
    exact ⟨hat.phase_ne (by decide), hat.phase_ne (by decide)⟩
  · rintro rfl
    exact hat.phase_ne (by decide)

/-- Steps for a name in which each one that is taken stands between others that are refused. -/
def sampleSteps : List Step := [.reveal, .preorder, .preorder, .register, .ready]

/-- A name is preordered and registered, and refuses what is for namespaces. -/
theorem run_new_outcome_sampleSteps :
    ∃ registration, (new .name).run sampleSteps = (registration, [.preorder, .register]) ∧
      registration.functionOf .register = .ok "name-register" ∧
      registration.phase.isTerminal = true ∧
      (∃ fault, registration.attempt .register = (.error fault, registration)) ∧
      registration.run [.reveal, .register] = (registration, []) ∧
      registration.phase ≠ .revealed ∧ registration.phase ≠ .ready := by
  obtain ⟨registration, taken, hrun, -, hfunction, -, -, -, -, hrefused, -, hfurther, hname, -⟩ :=
    run_new_outcome .name sampleSteps
  have hvalue : (new .name).run sampleSteps = (⟨.name, .registered⟩, [.preorder, .register]) := by
    decide
  obtain ⟨rfl, rfl⟩ := Prod.mk.inj (hvalue.symm.trans hrun)
  have hterminal : Phase.registered.isTerminal = true := rfl
  refine ⟨_, hvalue, hfunction .register (by decide), hterminal, ⟨_, Prod.ext rfl ?_⟩,
    hfurther hterminal _, hname rfl⟩
  exact hrefused .register _ rfl

end Registration

end Registrar.Registry
