import Mathlib.Data.List.Induction
import Mathlib.Logic.Relation

/-!
# Labelled runs of a transition relation

`Trace step s es t` says that the labels `es`, taken in order from state `s`, lead to `t`.
The constructor `snoc` adds the latest step at the end, so an induction on a trace is an
induction on time.

* `Trace.invariant`: a property of the state and the history so far, true at the start and kept
  by every step, holds at the end of every trace;
* `GuardedTrace`: the runs in which every step also meets a condition on the history before it.
-/

namespace QuadraA.Lib

universe u v w

variable {σ : Type u} {ε : Type v} {τ : Type w}

/-- The runs of a labelled transition relation, with the labels in order of occurrence. -/
inductive Trace (step : σ → ε → σ → Prop) (s : σ) : List ε → σ → Prop
  | nil : Trace step s [] s
  | snoc {es : List ε} {t u : σ} {e : ε} :
      Trace step s es t → step t e u → Trace step s (es ++ [e]) u

namespace Trace

variable {step step' : σ → ε → σ → Prop} {s t : σ} {es : List ε}

/-- **Run invariant.**  What holds at the start and is kept by every step holds at the end. -/
theorem invariant (I : List ε → σ → Prop) (hinit : I [] s)
    (hstep : ∀ {es t e u}, Trace step s es t → I es t → step t e u → I (es ++ [e]) u)
    (h : Trace step s es t) : I es t := by
  induction h with
  | nil => exact hinit
  | snoc htrace hlast ih => exact hstep htrace ih hlast

/-- A run of the smaller relation is a run of the larger one. -/
theorem mono (hsub : ∀ {t e u}, step t e u → step' t e u) (h : Trace step s es t) :
    Trace step' s es t := by
  induction h with
  | nil => exact nil
  | snoc _ hlast ih => exact snoc ih (hsub hlast)

/-- **Run refinement.**  An observation that every step transforms as its label says is, at the
end of the run, the fold of the labels. -/
theorem fold (obs : σ → τ) (apply : τ → ε → τ)
    (hstep : ∀ {t e u}, step t e u → obs u = apply (obs t) e)
    (h : Trace step s es t) : obs t = es.foldl apply (obs s) := by
  induction h with
  | nil => rfl
  | snoc _ hlast ih => rw [List.foldl_append, ← ih, hstep hlast]; rfl

/-- One step is a run. -/
theorem single {e : ε} (h : step s e t) : Trace step s [e] t := snoc nil h

/-- A run with one label is one step. -/
theorem of_singleton {e : ε} (h : Trace step s [e] t) : step s e t := by
  generalize hes : [e] = es at h
  cases h with
  | nil => cases hes
  | snoc htrace hlast =>
    obtain ⟨hnil, he⟩ := List.append_inj' ((List.nil_append [e]).trans hes) rfl
    obtain rfl : e = _ := by simpa using he
    cases htrace with
    | nil => exact hlast
    | snoc => simp at hnil

/-- Steps that a partial function computes, one after the other, are a run. -/
theorem of_foldlM {next : σ → ε → Option σ} (h : es.foldlM next s = some t) :
    Trace (fun s e t => next s e = some t) s es t := by
  induction es using List.reverseRecOn generalizing t with
  | nil =>
    cases h
    exact nil
  | append_singleton es e ih =>
    rw [List.foldlM_append] at h
    obtain ⟨u, hu, hlast⟩ := Option.bind_eq_some_iff.mp h
    rw [List.foldlM_cons] at hlast
    obtain ⟨v, hv, hnil⟩ := Option.bind_eq_some_iff.mp hlast
    cases hnil
    exact snoc (ih hu) hv

/-- Runs compose. -/
theorem append {u : σ} {fs : List ε} (h : Trace step s es t) (h' : Trace step t fs u) :
    Trace step s (es ++ fs) u := by
  induction h' with
  | nil => simpa using h
  | snoc _ hlast ih => rw [← List.append_assoc]; exact snoc ih hlast

/-- A run can be cut at any point of its label list. -/
theorem of_append {u : σ} {fs : List ε} (h : Trace step s (es ++ fs) u) :
    ∃ t, Trace step s es t ∧ Trace step t fs u := by
  induction fs using List.reverseRecOn generalizing u with
  | nil => exact ⟨u, by simpa using h, nil⟩
  | append_singleton fs e ih =>
    rw [← List.append_assoc] at h
    generalize hg : es ++ fs ++ [e] = gs at h
    cases h with
    | nil => simp at hg
    | snoc htrace hlast =>
      obtain ⟨hes, he⟩ := List.append_inj' hg rfl
      obtain rfl : e = _ := by simpa using he
      subst hes
      obtain ⟨t, hleft, hright⟩ := ih htrace
      exact ⟨t, hleft, snoc hright hlast⟩

end Trace

/-- The runs in which every step meets a condition on the history before it, its label and the
state it leads to. -/
inductive GuardedTrace (step : σ → ε → σ → Prop) (guard : List ε → ε → σ → Prop) (s : σ) :
    List ε → σ → Prop
  | nil : GuardedTrace step guard s [] s
  | snoc {es : List ε} {t u : σ} {e : ε} :
      GuardedTrace step guard s es t → step t e u → guard es e u →
        GuardedTrace step guard s (es ++ [e]) u

namespace GuardedTrace

variable {step : σ → ε → σ → Prop} {guard : List ε → ε → σ → Prop} {s t : σ} {es : List ε}

/-- A guarded run is a run. -/
theorem trace (h : GuardedTrace step guard s es t) : Trace step s es t := by
  induction h with
  | nil => exact .nil
  | snoc _ hlast _ ih => exact .snoc ih hlast

/-- **Run invariant** of the guarded runs. -/
theorem invariant (I : List ε → σ → Prop) (hinit : I [] s)
    (hstep : ∀ {es t e u}, GuardedTrace step guard s es t → I es t → step t e u → guard es e u →
      I (es ++ [e]) u)
    (h : GuardedTrace step guard s es t) : I es t := by
  induction h with
  | nil => exact hinit
  | snoc htrace hlast hguard ih => exact hstep htrace ih hlast hguard

end GuardedTrace

end QuadraA.Lib
