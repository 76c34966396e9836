import Miniduo.Lib.Machine

/-!
# Simulation of one machine by another

A machine implements another one when each of its actions amounts to some actions, perhaps none, of
the other. `Simulation.run` carries this to runs, conditions on steps included: where the actions of
the concrete machine meet `P`, those of the abstract one meet `Q`.
-/

namespace Machine

variable {σ τ ι κ ε δ : Type*} {M : Machine σ ι ε} {A : Machine τ κ δ}

lemma Run.allSteps_append {Q : τ → κ → Prop} {t t' : τ} {ks ls : List κ} (h : A.Run t ks t')
    (hks : A.AllSteps Q t ks) (hls : A.AllSteps Q t' ls) : A.AllSteps Q t (ks ++ ls) := by
  induction h with
  | nil => exact hls
  | cons _ hexec _ ih =>
    rw [List.cons_append, allSteps_cons_iff hexec]
    exact ⟨hks.1, ih (hks.2 _ hexec) hls⟩

/-- Some actions of the abstract machine, all of which meet `Q`, lead to a state that stands in the
relation. -/
def Matches (A : Machine τ κ δ) (Q : τ → κ → Prop) (R : τ → Prop) (t : τ) : Prop :=
  ∃ ks t', A.Run t ks t' ∧ A.AllSteps Q t ks ∧ R t'

/-- Each action that meets `P` is matched. -/
def Simulation (M : Machine σ ι ε) (A : Machine τ κ δ) (P : σ → ι → Prop) (Q : τ → κ → Prop)
    (R : σ → τ → Prop) : Prop :=
  ∀ ⦃s t i s'⦄, R s t → P s i → M.allowed s i → M.exec s i = .ok s' → A.Matches Q (R s') t

variable {P : σ → ι → Prop} {Q : τ → κ → Prop} {R R' : σ → τ → Prop} {S : τ → Prop}
  {s s' : σ} {t t' : τ} {is : List ι} {k : κ}

/-- The abstract machine does nothing. -/
lemma Matches.stay (h : S t) : A.Matches Q S t := ⟨[], t, .nil t, trivial, h⟩

lemma Matches.step (hallowed : A.allowed t k) (hexec : A.exec t k = .ok t') (hQ : Q t k)
    (h : S t') : A.Matches Q S t := by
  refine ⟨[k], t', run_singleton_iff.mpr ⟨hallowed, hexec⟩, ?_, h⟩
  rw [allSteps_cons_iff hexec]
  exact ⟨hQ, trivial⟩

/-- **Simulation of runs.** -/
theorem Simulation.run (h : M.Simulation A P Q R) (hrun : M.Run s is s')
    (hsteps : M.AllSteps P s is) (hR : R s t) : A.Matches Q (R s') t := by
  induction hrun generalizing t with
  | nil s => exact .stay hR
  | cons hallowed hexec _ ih =>
    obtain ⟨ks, t₁, hfirst, hQ, hR₁⟩ := h hR hsteps.1 hallowed hexec
    obtain ⟨ls, t', hrest, hQ', hR'⟩ := ih (hsteps.2 _ hexec) hR₁
    exact ⟨ks ++ ls, t', hfirst.append hrest, hfirst.allSteps_append hQ hQ', hR'⟩

end Machine
