import Mathlib.Logic.Basic

/-!
# Runs of a deterministic event system

`step` advances a state by one event; a run is a list of events. Invariants over
every state a run reaches are derived from one step, and a step condition that
is exactly what an invariant needs is equivalent to it over whole runs
(`allReached_iff_eachStep`).
-/
set_option autoImplicit false

namespace PerformancePanel.Library.Runs

variable {σ ε : Type*} (step : σ → ε → σ)

def run (s : σ) (events : List ε) : σ := events.foldl step s

@[simp] theorem run_nil (s : σ) : run step s [] = s := rfl

@[simp] theorem run_cons (s : σ) (e : ε) (events : List ε) :
    run step s (e :: events) = run step (step s e) events := rfl

theorem run_append (s : σ) (first rest : List ε) :
    run step s (first ++ rest) = run step (run step s first) rest := by
  simp [run]

/-- `P` holds in the first state and in every state the run reaches. -/
def AllReached (P : σ → Prop) : σ → List ε → Prop
  | s, [] => P s
  | s, e :: events => P s ∧ AllReached P (step s e) events

/-- `C` holds of every step: of the state before it and its event. -/
def EachStep (C : σ → ε → Prop) : σ → List ε → Prop
  | _, [] => True
  | s, e :: events => C s e ∧ EachStep C (step s e) events

variable {step}

theorem AllReached.first {P : σ → Prop} {s : σ} {events : List ε}
    (h : AllReached step P s events) : P s := by
  cases events with
  | nil => exact h
  | cons e events => exact h.1

theorem AllReached.last {P : σ → Prop} {s : σ} {events : List ε}
    (h : AllReached step P s events) : P (run step s events) := by
  induction events generalizing s with
  | nil => exact h
  | cons e events ih => exact ih h.2

theorem AllReached.mono {P Q : σ → Prop} {s : σ} {events : List ε}
    (h : AllReached step P s events) (imp : ∀ s, P s → Q s) : AllReached step Q s events := by
  induction events generalizing s with
  | nil => exact imp s h
  | cons e events ih => exact ⟨imp s h.1, ih h.2⟩

theorem EachStep.mono {C D : σ → ε → Prop} {s : σ} {events : List ε} (h : EachStep step C s events)
    (imp : ∀ s e, C s e → D s e) : EachStep step D s events := by
  induction events generalizing s with
  | nil => trivial
  | cons e events ih => exact ⟨imp s e h.1, ih h.2⟩

/-- A step condition that holds wherever the invariant does is met by every step. -/
theorem eachStep_of_invariant {P : σ → Prop} {C : σ → ε → Prop} (keeps : ∀ s e, P s → P (step s e))
    (holds : ∀ s e, P s → C s e) {s : σ} (start : P s) (events : List ε) :
    EachStep step C s events := by
  induction events generalizing s with
  | nil => trivial
  | cons e events ih => exact ⟨holds s e start, ih (keeps s e start)⟩

/-- A step condition that keeps the invariant keeps it in every state reached. -/
theorem allReached_of_steps {P : σ → Prop} {C : σ → ε → Prop}
    (keeps : ∀ s e, P s → C s e → P (step s e)) {s : σ} {events : List ε}
    (start : P s) (steps : EachStep step C s events) : AllReached step P s events := by
  induction events generalizing s with
  | nil => exact start
  | cons e events ih => exact ⟨start, ih (keeps s e start steps.1) steps.2⟩

/-- An invariant kept by every step holds in every state reached. -/
theorem allReached_of_invariant {P : σ → Prop} (keeps : ∀ s e, P s → P (step s e))
    {s : σ} (start : P s) (events : List ε) : AllReached step P s events := by
  induction events generalizing s with
  | nil => exact start
  | cons e events ih => exact ⟨start, ih (keeps s e start)⟩

/-- An invariant kept by the events that meet `Rule` holds in every state a run of such
events reaches. -/
theorem allReached_of_rule {P : σ → Prop} {Rule : ε → Prop}
    (keeps : ∀ s e, P s → Rule e → P (step s e)) {s : σ} (start : P s) {events : List ε}
    (rule : ∀ e ∈ events, Rule e) : AllReached step P s events := by
  induction events generalizing s with
  | nil => exact start
  | cons e events ih =>
    have next : P (step s e) := keeps s e start (rule e List.mem_cons_self)
    exact ⟨start, ih next fun e' member => rule e' (List.mem_cons_of_mem e member)⟩

/-- In a run whose steps all meet the rule `R`: when `C` is enough for a step to keep `P`,
and a step that keeps the weaker `Q` met `C`, the run stays in `Q` exactly when each of its
steps meets `C`. `J` collects what every run keeps anyway. -/
theorem allReached_iff_eachStep_of_rule {P Q J : σ → Prop} {R C : σ → ε → Prop}
    (always : ∀ s e, J s → J (step s e)) (weaker : ∀ s, P s → Q s)
    (enough : ∀ s e, J s → P s → R s e → C s e → P (step s e))
    (needed : ∀ s e, J s → P s → R s e → Q (step s e) → C s e)
    {s : σ} (invariant : J s) (start : P s) {events : List ε} (rule : EachStep step R s events) :
    AllReached step Q s events ↔ EachStep step C s events := by
  induction events generalizing s with
  | nil => exact ⟨fun _ => trivial, fun _ => weaker s start⟩
  | cons e events ih =>
    constructor
    · intro ⟨_, rest⟩
      have met : C s e := needed s e invariant start rule.1 rest.first
      have next : P (step s e) := enough s e invariant start rule.1 met
      exact ⟨met, (ih (always s e invariant) next rule.2).mp rest⟩
    · intro ⟨met, rest⟩
      have next : P (step s e) := enough s e invariant start rule.1 met
      exact ⟨weaker s start, (ih (always s e invariant) next rule.2).mpr rest⟩

theorem eachStep_trivial {s : σ} {events : List ε} : EachStep step (fun _ _ => True) s events := by
  induction events generalizing s with
  | nil => trivial
  | cons e events ih => exact ⟨trivial, ih⟩

/-- The same for every run. -/
theorem allReached_iff_eachStep {P Q J : σ → Prop} {C : σ → ε → Prop}
    (always : ∀ s e, J s → J (step s e)) (weaker : ∀ s, P s → Q s)
    (enough : ∀ s e, J s → P s → C s e → P (step s e))
    (needed : ∀ s e, J s → P s → Q (step s e) → C s e)
    {s : σ} (invariant : J s) (start : P s) (events : List ε) :
    AllReached step Q s events ↔ EachStep step C s events :=
  allReached_iff_eachStep_of_rule always weaker (fun s e kept holds _ => enough s e kept holds)
    (fun s e kept holds _ => needed s e kept holds) invariant start eachStep_trivial

/-- Two step conditions that agree where the invariant holds agree over whole runs. -/
theorem eachStep_congr {J : σ → Prop} {Rule : ε → Prop} {C D : σ → ε → Prop}
    (always : ∀ s e, J s → J (step s e)) (same : ∀ s e, J s → Rule e → (C s e ↔ D s e))
    {s : σ} (invariant : J s) {events : List ε} (rule : ∀ e ∈ events, Rule e) :
    EachStep step C s events ↔ EachStep step D s events := by
  induction events generalizing s with
  | nil => exact Iff.rfl
  | cons e events ih =>
    have first : C s e ↔ D s e := same s e invariant (rule e List.mem_cons_self)
    have rest := ih (always s e invariant) fun e' member => rule e' (List.mem_cons_of_mem e member)
    exact and_congr first rest

/-- A refinement lifts to runs: where every step of the events that meet `Rule` keeps the
invariant and does on the abstraction what the abstract system does on some events, so
does the run. -/
theorem run_refines {τ δ : Type*} {step' : τ → δ → τ} (abstraction : σ → τ) (meaning : ε → List δ)
    {Inv : σ → Prop} {Rule : ε → Prop}
    (refines : ∀ s e, Inv s → Rule e → Inv (step s e) ∧
      abstraction (step s e) = run step' (abstraction s) (meaning e))
    {s : σ} (start : Inv s) {events : List ε} (rule : ∀ e ∈ events, Rule e) :
    Inv (run step s events) ∧
      abstraction (run step s events) = run step' (abstraction s) (events.flatMap meaning) := by
  induction events generalizing s with
  | nil => exact ⟨start, rfl⟩
  | cons e events ih =>
    obtain ⟨next, same⟩ := refines s e start (rule e List.mem_cons_self)
    have rest := ih next fun e' member => rule e' (List.mem_cons_of_mem e member)
    refine ⟨rest.1, ?_⟩
    rw [run_cons, rest.2, same, List.flatMap_cons, run_append]

/-- A relation that every step of the events that meet `Rule` keeps is kept by runs. -/
theorem run_related {τ : Type*} {step' : τ → ε → τ} {R : σ → τ → Prop} {Rule : ε → Prop}
    (keeps : ∀ s t e, R s t → Rule e → R (step s e) (step' t e)) {s : σ} {t : τ} (start : R s t)
    {events : List ε} (rule : ∀ e ∈ events, Rule e) :
    R (run step s events) (run step' t events) := by
  induction events generalizing s t with
  | nil => exact start
  | cons e events ih =>
    have next : R (step s e) (step' t e) := keeps s t e start (rule e List.mem_cons_self)
    exact ih next fun e' member => rule e' (List.mem_cons_of_mem e member)

/-- What a view shows is decided by the events that are its own: the others leave it, and
these do to it what it alone decides. -/
theorem run_view {ν : Type*} (view : σ → ν) (mine : ε → Bool) {Inv : σ → Prop}
    (keeps : ∀ s e, Inv s → Inv (step s e))
    (others : ∀ s e, Inv s → mine e = false → view (step s e) = view s)
    (own : ∀ s s' e, Inv s → Inv s' → mine e = true → view s = view s' →
      view (step s e) = view (step s' e))
    {s s' : σ} (inv : Inv s) (inv' : Inv s') (same : view s = view s') (events : List ε) :
    view (run step s events) = view (run step s' (events.filter mine)) := by
  induction events generalizing s s' with
  | nil => exact same
  | cons e events ih =>
    cases owned : mine e with
    | true =>
      rw [List.filter_cons_of_pos owned]
      exact ih (keeps s e inv) (keeps s' e inv') (own s s' e inv inv' owned same)
    | false =>
      rw [List.filter_cons_of_neg (by simp [owned])]
      exact ih (keeps s e inv) inv' ((others s e inv owned).trans same)

/-- A partial system that simulates a total one runs to the end of every history whose events
meet `Rule`. -/
theorem foldlM_simulates {τ δ : Type*} {step : σ → ε → Option σ} {step' : τ → δ → τ}
    (meaning : ε → δ) {R : σ → τ → Prop} {Rule : ε → Prop}
    (simulates : ∀ s t e, R s t → Rule e → ∃ s', step s e = some s' ∧ R s' (step' t (meaning e)))
    {s : σ} {t : τ} (start : R s t) {events : List ε} (rule : ∀ e ∈ events, Rule e) :
    ∃ s', events.foldlM step s = some s' ∧ R s' (run step' t (events.map meaning)) := by
  induction events generalizing s t with
  | nil => exact ⟨s, rfl, start⟩
  | cons e events ih =>
    obtain ⟨next, stepped, related⟩ := simulates s t e start (rule e List.mem_cons_self)
    obtain ⟨last, ran, final⟩ := ih related fun e' member => rule e' (List.mem_cons_of_mem e member)
    refine ⟨last, ?_, final⟩
    rw [List.foldlM_cons, stepped]
    exact ran

/-! ## Families of components -/

section family
variable {ι τ δ : Type*} (step' : τ → δ → τ) (part : ι → ε → List δ)

/-- A family of components each of which takes its own part of an event. -/
def familyStep (family : ι → τ) (e : ε) : ι → τ := fun i => run step' (family i) (part i e)

/-- In a run of the family every component makes a run of its own. -/
theorem run_familyStep (family : ι → τ) (events : List ε) (i : ι) :
    run (familyStep step' part) family events i = run step' (family i)
      (events.flatMap (part i)) := by
  induction events generalizing family with
  | nil => rfl
  | cons e events ih =>
    rw [run_cons, ih, List.flatMap_cons, run_append]
    rfl

end family

end PerformancePanel.Library.Runs
