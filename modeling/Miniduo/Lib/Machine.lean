import Mathlib.Tactic

/-!
# Machines whose actions are offered by an environment

A machine says which actions its environment may take in a state, and what each of them does; an
action may fault. This file has the runs of such a machine, conditions on the steps of a run, and
the induction rules for both:

* `Run.invariant`: what every step that meets a condition preserves holds at the end of a run whose
  steps meet it, and `Run.preserves` is the rule without a condition;
* `Run.allSteps`: an invariant that entails a condition on the next step entails it of all steps;
* `Run.history`: what every step preserves may speak of the actions so far and of what they have put
  out.
-/

structure Machine (σ ι ε : Type*) where
  /-- The environment may take the action in the state. -/
  allowed : σ → ι → Prop
  exec : σ → ι → Except ε σ

namespace Machine

variable {σ ι ε : Type*} {M : Machine σ ι ε}

/-- The actions take the first state to the second; each is allowed and none faults. -/
inductive Run (M : Machine σ ι ε) : σ → List ι → σ → Prop
  | nil (s : σ) : Run M s [] s
  | cons {s s' s'' : σ} {i : ι} {is : List ι} (hallowed : M.allowed s i)
      (hexec : M.exec s i = .ok s') (hrest : Run M s' is s'') : Run M s (i :: is) s''

/-- Every action meets the condition in the state in which it is taken. -/
def AllSteps (M : Machine σ ι ε) (P : σ → ι → Prop) : σ → List ι → Prop
  | _, [] => True
  | s, i :: is => P s i ∧ ∀ s', M.exec s i = .ok s' → AllSteps M P s' is

section
variable {P Q : σ → ι → Prop} {I : σ → Prop} {s s' : σ} {is : List ι}

/-- **Invariants.** -/
theorem Run.invariant (h : M.Run s is s') (hsteps : M.AllSteps P s is) (hI : I s)
    (hstep : ∀ s i s', I s → P s i → M.allowed s i → M.exec s i = .ok s' → I s') : I s' := by
  induction h with
  | nil => exact hI
  | cons hallowed hexec _ ih =>
    obtain ⟨hP, hrest⟩ := hsteps
    exact ih (hrest _ hexec) (hstep _ _ _ hI hP hallowed hexec)

/-- **Conditions on steps.** -/
theorem Run.allSteps (h : M.Run s is s') (hsteps : M.AllSteps P s is) (hI : I s)
    (hstep : ∀ s i s', I s → P s i → M.allowed s i → M.exec s i = .ok s' → I s')
    (hQ : ∀ s i, I s → P s i → M.allowed s i → Q s i) : M.AllSteps Q s is := by
  induction h with
  | nil => trivial
  | @cons s s₁ _ i is hallowed hexec _ ih =>
    obtain ⟨hP, hrest⟩ := hsteps
    refine ⟨hQ _ _ hI hP hallowed, fun s₂ hexec' => ?_⟩
    have hs : s₁ = s₂ := Except.ok.inj (hexec.symm.trans hexec')
    subst hs
    exact ih (hrest _ hexec) (hstep _ _ _ hI hP hallowed hexec)

/-- **Two conditions on steps**, the runs included that a fault ends: where the steps meet a third
condition that keeps an invariant, what holds step by step under the invariant holds of all. -/
theorem AllSteps.iff_of_invariant {R : σ → ι → Prop}
    (hstep : ∀ s i s', I s → P s i → M.exec s i = .ok s' → I s')
    (hiff : ∀ s i, I s → P s i → (Q s i ↔ R s i)) :
    ∀ {s : σ} {is : List ι}, I s → M.AllSteps P s is →
      (M.AllSteps Q s is ↔ M.AllSteps R s is) := by
  intro s is
  induction is generalizing s with
  | nil => exact fun _ _ => Iff.rfl
  | cons i is ih =>
    rintro hI ⟨hP, hrest⟩
    exact and_congr (hiff s i hI hP)
      (forall_congr' fun s' => forall_congr' fun hexec =>
        ih (hstep s i s' hI hP hexec) (hrest s' hexec))

/-- A step that returns is followed by the steps of its result. -/
lemma allSteps_cons_iff {i : ι} (hexec : M.exec s i = .ok s') :
    M.AllSteps P s (i :: is) ↔ P s i ∧ M.AllSteps P s' is := by
  show P s i ∧ (∀ s₁, M.exec s i = .ok s₁ → M.AllSteps P s₁ is) ↔ _
  refine and_congr_right fun _ => ⟨fun h => h s' hexec, fun h s₁ hexec₁ => ?_⟩
  rw [hexec, Except.ok.injEq] at hexec₁
  exact hexec₁ ▸ h

/-- A run is followed by the steps of its last state. -/
lemma allSteps_append_iff {js : List ι} (h : M.Run s is s') :
    M.AllSteps P s (is ++ js) ↔ M.AllSteps P s is ∧ M.AllSteps P s' js := by
  induction h with
  | nil => exact (true_and _).symm ▸ Iff.rfl
  | cons _ hexec _ ih =>
    rw [List.cons_append, allSteps_cons_iff hexec, allSteps_cons_iff hexec, ih, and_assoc]

/-- A condition on all steps holds of the step that comes after a run. -/
lemma AllSteps.last {i : ι} (h : M.Run s is s') (hsteps : M.AllSteps P s (is ++ [i])) : P s' i :=
  ((allSteps_append_iff h).mp hsteps).2.1

lemma AllSteps.and :
    ∀ {s : σ}, M.AllSteps P s is → M.AllSteps Q s is →
      M.AllSteps (fun s i => P s i ∧ Q s i) s is := by
  induction is with
  | nil => exact fun _ _ => trivial
  | cons i is ih =>
    exact fun hP hQ => ⟨⟨hP.1, hQ.1⟩, fun s' hexec => ih (hP.2 s' hexec) (hQ.2 s' hexec)⟩

/-- A condition on actions alone. -/
lemma AllSteps.of_mem {P : ι → Prop} :
    ∀ {s : σ} {is : List ι}, (∀ i ∈ is, P i) → M.AllSteps (fun _ => P) s is := by
  intro s is
  induction is generalizing s with
  | nil => exact fun _ => trivial
  | cons i is ih =>
    exact fun h => ⟨h i List.mem_cons_self, fun _ _ => ih fun j hj => h j (List.mem_cons_of_mem i hj)⟩

lemma AllSteps.of_forall (h : ∀ s i, P s i) : ∀ {s : σ} {is : List ι}, M.AllSteps P s is := by
  intro s is
  induction is generalizing s with
  | nil => trivial
  | cons i is ih => exact ⟨h s i, fun _ _ => ih⟩

end

/-- **Invariants** of every step. -/
theorem Run.preserves {I : σ → Prop} {s s' : σ} {is : List ι} (h : M.Run s is s') (hI : I s)
    (hstep : ∀ s i s', I s → M.allowed s i → M.exec s i = .ok s' → I s') : I s' :=
  h.invariant (P := fun _ _ => True) (.of_forall fun _ _ => trivial) hI
    fun s i s' hI _ => hstep s i s' hI

/-! ## Histories -/

lemma run_append_iff {s s'' : σ} {is js : List ι} :
    M.Run s (is ++ js) s'' ↔ ∃ s', M.Run s is s' ∧ M.Run s' js s'' := by
  induction is generalizing s with
  | nil =>
    constructor
    · exact fun h => ⟨s, .nil s, h⟩
    · rintro ⟨s', ⟨⟩, h⟩
      exact h
  | cons i is ih =>
    constructor
    · rintro (_ | ⟨hallowed, hexec, hrest⟩)
      obtain ⟨s', hfirst, hlast⟩ := ih.mp hrest
      exact ⟨s', .cons hallowed hexec hfirst, hlast⟩
    · rintro ⟨s', _ | ⟨hallowed, hexec, hfirst⟩, hlast⟩
      exact .cons hallowed hexec (ih.mpr ⟨s', hfirst, hlast⟩)

lemma Run.append {s s' s'' : σ} {is js : List ι} (h : M.Run s is s') (h' : M.Run s' js s'') :
    M.Run s (is ++ js) s'' := run_append_iff.mpr ⟨s', h, h'⟩

lemma run_singleton_iff {s s' : σ} {i : ι} :
    M.Run s [i] s' ↔ M.allowed s i ∧ M.exec s i = .ok s' := by
  constructor
  · rintro (_ | ⟨hallowed, hexec, ⟨⟩⟩)
    exact ⟨hallowed, hexec⟩
  · exact fun ⟨hallowed, hexec⟩ => .cons hallowed hexec (.nil s')

variable {ο : Type*}

/-- What the actions put out, up to one that faults. -/
def outputs (M : Machine σ ι ε) (out : σ → ι → List ο) : σ → List ι → List ο
  | _, [] => []
  | s, i :: is =>
    out s i ++
      match M.exec s i with
      | .ok s' => M.outputs out s' is
      | .error _ => []

lemma outputs_cons {out : σ → ι → List ο} {s s' : σ} {i : ι} (hexec : M.exec s i = .ok s')
    (is : List ι) : M.outputs out s (i :: is) = out s i ++ M.outputs out s' is := by
  rw [outputs, hexec]

lemma Run.outputs_append {out : σ → ι → List ο} {s s' : σ} {is : List ι} (h : M.Run s is s')
    (js : List ι) : M.outputs out s (is ++ js) = M.outputs out s is ++ M.outputs out s' js := by
  induction h with
  | nil => rfl
  | cons _ hexec _ ih =>
    rw [List.cons_append, outputs_cons hexec, outputs_cons hexec, ih, List.append_assoc]

/-- Actions that put nothing out. -/
lemma outputs_eq_nil {out : σ → ι → List ο} {is : List ι} (h : ∀ i ∈ is, ∀ s, out s i = []) :
    ∀ s, M.outputs out s is = [] := by
  induction is with
  | nil => exact fun s => rfl
  | cons i is ih =>
    intro s
    rw [outputs, h i List.mem_cons_self s, List.nil_append]
    split
    · exact ih (fun j hj => h j (List.mem_cons_of_mem i hj)) _
    · rfl

/-- **Invariants about the history.** -/
theorem Run.history {R : List ι → List ο → σ → Prop} {s s' : σ} {is : List ι}
    (h : M.Run s is s') (out : σ → ι → List ο) (hR : R [] [] s)
    (hstep : ∀ is os s i s', R is os s → M.allowed s i → M.exec s i = .ok s' →
      R (is ++ [i]) (os ++ out s i) s') : R is (M.outputs out s is) s' := by
  -- the induction is for a run that has a past
  have hpast : ∀ (is₀ : List ι) (os₀ : List ο), R is₀ os₀ s →
      R (is₀ ++ is) (os₀ ++ M.outputs out s is) s' := by
    clear hR
    induction h with
    | nil =>
      intro is₀ os₀ hR
      simpa [outputs] using hR
    | @cons s s₁ _ i is hallowed hexec _ ih =>
      intro is₀ os₀ hR
      have hrest := ih _ _ (hstep is₀ os₀ s i s₁ hR hallowed hexec)
      rwa [List.append_assoc, List.singleton_append, List.append_assoc, ← outputs_cons hexec] at hrest
  exact hpast [] [] hR

/-! ## Replaying a list of actions -/

/-- The state that a list of actions leads to, when each of them is allowed and returns. -/
def replay (M : Machine σ ι ε) [∀ s i, Decidable (M.allowed s i)] : σ → List ι → Option σ
  | s, [] => some s
  | s, i :: is =>
    if M.allowed s i then
      match M.exec s i with
      | .ok s' => M.replay s' is
      | .error _ => none
    else none

lemma Run.of_replay [∀ s i, Decidable (M.allowed s i)] {is : List ι} :
    ∀ {s s' : σ}, M.replay s is = some s' → M.Run s is s' := by
  induction is with
  | nil =>
    intro s s' h
    rw [replay, Option.some.injEq] at h
    subst h
    exact .nil s
  | cons i is ih =>
    intro s s' h
    rw [replay] at h
    split at h
    · rename_i hallowed
      split at h
      · rename_i s₁ hexec
        exact .cons hallowed hexec (ih h)
      · cases h
    · cases h

/-- What a replay finds at its end holds at the end of a run. -/
lemma Run.of_replay_map (M : Machine σ ι ε) [∀ s i, Decidable (M.allowed s i)] (s : σ)
    (is : List ι) (f : σ → Bool) (h : (M.replay s is).map f = some true) :
    ∃ s', M.Run s is s' ∧ f s' = true := by
  obtain ⟨s', hs', hf⟩ := Option.map_eq_some_iff.mp h
  exact ⟨s', .of_replay hs', hf⟩

/-- A condition on steps can be tested along a run. -/
def decidableAllSteps {P : σ → ι → Prop} [∀ s i, Decidable (P s i)] :
    ∀ s is, Decidable (M.AllSteps P s is)
  | _, [] => isTrue trivial
  | s, i :: is =>
    match hexec : M.exec s i with
    | .error _ => decidable_of_iff (P s i)
        ⟨fun h => ⟨h, fun s' hok => by rw [hexec] at hok; cases hok⟩, fun h => h.1⟩
    | .ok s₁ =>
      have := decidableAllSteps (P := P) s₁ is
      decidable_of_iff (P s i ∧ M.AllSteps P s₁ is)
        ⟨fun h => ⟨h.1, fun s' hok => by
            rw [hexec, Except.ok.injEq] at hok
            exact hok ▸ h.2⟩,
          fun h => ⟨h.1, h.2 s₁ hexec⟩⟩

instance {P : σ → ι → Prop} [∀ s i, Decidable (P s i)] {s : σ} {is : List ι} :
    Decidable (M.AllSteps P s is) := decidableAllSteps s is

end Machine
