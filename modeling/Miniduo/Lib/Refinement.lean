import Miniduo.Lib.Machine

/-!
# Data refinement of an operation machine

A concrete machine answers each operation with an output and a new state, or faults. An
abstract machine answers every operation. The concrete one refines the abstract one, along a
relation between their states, when every operation that meets its side condition is answered
alike and leads to related states; `refines_run` carries this to whole sequences.
-/

namespace Refinement

variable {σ τ ι ο ε : Type*}

/-- A concrete machine run over a list of operations, collecting the outputs. -/
def run (f : σ → ι → Except ε (σ × ο)) : σ → List ι → Except ε (σ × List ο)
  | s, [] => .ok (s, [])
  | s, i :: is =>
    match f s i with
    | .error e => .error e
    | .ok (s', o) =>
      match run f s' is with
      | .error e => .error e
      | .ok (s'', os) => .ok (s'', o :: os)

/-- An abstract machine run over a list of operations. -/
def specRun (g : τ → ι → τ × ο) : τ → List ι → τ × List ο
  | t, [] => (t, [])
  | t, i :: is => ((specRun g (g t i).1 is).1, (g t i).2 :: (specRun g (g t i).1 is).2)

/-- The operations as actions, each offered in every state, without their outputs. -/
def machine (f : σ → ι → Except ε (σ × ο)) : Machine σ ι ε where
  allowed _ _ := True
  exec s i := (f s i).map Prod.fst

/-- Every operation of the run meets the side condition `P` in the state it is applied to. -/
abbrev AllSteps (P : σ → ι → Prop) (f : σ → ι → Except ε (σ × ο)) (s : σ) (is : List ι) : Prop :=
  (machine f).AllSteps P s is

lemma machine_exec_ok {f : σ → ι → Except ε (σ × ο)} {s s' : σ} {i : ι} {o : ο}
    (h : f s i = .ok (s', o)) : (machine f).exec s i = .ok s' := congrArg (Except.map Prod.fst) h

@[simp] lemma run_nil (f : σ → ι → Except ε (σ × ο)) (s : σ) : run f s [] = .ok (s, []) := rfl

lemma run_cons_ok {f : σ → ι → Except ε (σ × ο)} {s s' : σ} {i : ι} {o : ο}
    (h : f s i = .ok (s', o)) (is : List ι) :
    run f s (i :: is) = (run f s' is).map fun r => (r.1, o :: r.2) := by
  simp only [run, h]
  cases run f s' is <;> rfl

/-- **Refinement of runs.** If every operation that meets `P` preserves the relation `R` and
answers as the abstract machine does, then so does every run whose operations all meet `P`, and
none of its operations faults. -/
theorem refines_run {f : σ → ι → Except ε (σ × ο)} {g : τ → ι → τ × ο} {P : σ → ι → Prop}
    {R : σ → τ → Prop}
    (hstep : ∀ s t i, R s t → P s i → ∃ s', f s i = .ok (s', (g t i).2) ∧ R s' (g t i).1)
    {is : List ι} :
    ∀ {s : σ} {t : τ}, R s t → AllSteps P f s is →
      ∃ s', run f s is = .ok (s', (specRun g t is).2) ∧ R s' (specRun g t is).1 := by
  induction is with
  | nil => intro s t hR _; exact ⟨s, rfl, hR⟩
  | cons i is ih =>
    intro s t hR hP
    obtain ⟨s₁, hf, hR₁⟩ := hstep s t i hR hP.1
    obtain ⟨s', hrun, hR'⟩ := ih hR₁ (hP.2 _ (machine_exec_ok hf))
    refine ⟨s', ?_, hR'⟩
    rw [run_cons_ok hf, hrun]
    rfl

end Refinement
