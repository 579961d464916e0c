import Mathlib.Data.List.Induction

/-!
# Runs of an event-driven component

A component is a partial function `step : σ → ε → Option σ` from a state and an
event to the next state; `none` says that the event cannot happen in that
state (a reply to a request nobody sent). A run folds `step` over a finite list
of events, so every interleaving of calls and replies is some event list.

* `run_invariant`, `run_history`: what one step preserves, a run preserves; the
  second form lets the invariant mention the events of the past.
* `AlongRun`: a property of every step taken by a run.
* `run_history_of_alongRun`: an invariant over the events of the past, along runs whose
  steps meet a condition.
* `alongRun_of_step`, `alongRun_iff_of_step`: what holds of every possible step.
* `alongRun_of_invariant`, `alongRun_iff_of_invariant`: transfer between a
  condition on the steps of a run and a property of the same steps, under an
  invariant that lasts as long as the condition is met.

Nothing here depends on what the states and the events are.
-/

set_option autoImplicit false

namespace FinanciaApp.Library

universe u v

variable {σ : Type u} {ε : Type v}

/-- The state after a finite sequence of events, if every one of them can happen. -/
def run (step : σ → ε → Option σ) : σ → List ε → Option σ
  | s, [] => some s
  | s, e :: es => (step s e).bind fun t => run step t es

section Rules

variable {step : σ → ε → Option σ}

theorem run_cons_eq_some (s t : σ) (e : ε) (es : List ε) :
    run step s (e :: es) = some t ↔ ∃ m, step s e = some m ∧ run step m es = some t := by
  simp [run, Option.bind_eq_some_iff]

theorem run_append (s : σ) (past future : List ε) :
    run step s (past ++ future) = (run step s past).bind fun t => run step t future := by
  induction past generalizing s with
  | nil => rfl
  | cons e past ih =>
    simp only [List.cons_append, run]
    cases step s e with
    | none => rfl
    | some m => exact ih m

theorem run_concat_eq_some (s t : σ) (past : List ε) (e : ε) :
    run step s (past ++ [e]) = some t ↔
      ∃ m, run step s past = some m ∧ step m e = some t := by
  rw [run_append, Option.bind_eq_some_iff]
  simp [run]

/-- What one step preserves, a whole run preserves. -/
theorem run_invariant (inv : σ → Prop)
    (preserved : ∀ s e t, inv s → step s e = some t → inv t)
    {s t : σ} {es : List ε} (start : inv s) (h : run step s es = some t) : inv t := by
  induction es generalizing s with
  | nil =>
    cases h
    exact start
  | cons e es ih =>
    obtain ⟨m, hm, hrest⟩ := (run_cons_eq_some s t e es).mp h
    exact ih (preserved s e m start hm) hrest

/-- The same for an invariant that ties the state to the events of the past. -/
theorem run_history (inv : List ε → σ → Prop)
    (preserved : ∀ past s e t, inv past s → step s e = some t → inv (past ++ [e]) t)
    {s t : σ} {es : List ε} (start : inv [] s) (h : run step s es = some t) : inv es t := by
  induction es using List.reverseRecOn generalizing t with
  | nil =>
    cases h
    exact start
  | append_singleton past e ih =>
    obtain ⟨m, hm, hlast⟩ := (run_concat_eq_some s t past e).mp h
    exact preserved past m e t (ih hm) hlast

end Rules

/-- `holds s e t` is true of every step `s —e→ t` that the run from `s` takes. -/
def AlongRun (step : σ → ε → Option σ) (holds : σ → ε → σ → Prop) : σ → List ε → Prop
  | _, [] => True
  | s, e :: es => ∀ t, step s e = some t → holds s e t ∧ AlongRun step holds t es

section Along

variable {step : σ → ε → Option σ} {holds ok : σ → ε → σ → Prop}

/-- If every step that meets `ok` keeps `inv` and satisfies `holds`, then so does
every step of a run whose steps all meet `ok`. -/
theorem alongRun_of_invariant (inv : σ → Prop)
    (preserved : ∀ s e t, inv s → step s e = some t → ok s e t → inv t ∧ holds s e t)
    {s : σ} {es : List ε} (start : inv s) (met : AlongRun step ok s es) :
    AlongRun step holds s es := by
  induction es generalizing s with
  | nil => trivial
  | cons e es ih =>
    intro t ht
    obtain ⟨hok, hmet⟩ := met t ht
    obtain ⟨hinv, hholds⟩ := preserved s e t start ht hok
    exact ⟨hholds, ih hinv hmet⟩

/-- An invariant that ties the state to the events of the past, kept by the steps that
meet `ok`, holds at the end of a run whose steps all meet `ok`. -/
theorem run_history_of_alongRun (inv : List ε → σ → Prop)
    (preserved : ∀ past s e t, inv past s → step s e = some t → ok s e t → inv (past ++ [e]) t)
    {past es : List ε} {s t : σ} (start : inv past s) (met : AlongRun step ok s es)
    (h : run step s es = some t) : inv (past ++ es) t := by
  induction es generalizing past s with
  | nil =>
    cases h
    rwa [List.append_nil]
  | cons e es ih =>
    obtain ⟨m, hm, hrest⟩ := (run_cons_eq_some s t e es).mp h
    obtain ⟨hok, hmet⟩ := met m hm
    rw [List.append_cons]
    exact ih (preserved past s e m start hm hok) hmet hrest

/-- Two step properties that agree from every state of an invariant, where meeting
them keeps the invariant, hold along exactly the same runs. -/
theorem alongRun_iff_of_invariant (inv : σ → Prop)
    (agree : ∀ s e t, inv s → step s e = some t → (holds s e t ↔ ok s e t))
    (preserved : ∀ s e t, inv s → step s e = some t → ok s e t → inv t)
    {s : σ} {es : List ε} (start : inv s) :
    AlongRun step holds s es ↔ AlongRun step ok s es := by
  constructor
  · exact alongRun_of_invariant inv (fun s e t hinv ht hholds => by
      have hok := (agree s e t hinv ht).mp hholds
      exact ⟨preserved s e t hinv ht hok, hok⟩) start
  · exact alongRun_of_invariant inv (fun s e t hinv ht hok =>
      ⟨preserved s e t hinv ht hok, (agree s e t hinv ht).mpr hok⟩) start

/-- The same where the two agree on every possible step. -/
theorem alongRun_iff_of_step
    (agree : ∀ s e t, step s e = some t → (holds s e t ↔ ok s e t)) (s : σ) (es : List ε) :
    AlongRun step holds s es ↔ AlongRun step ok s es :=
  alongRun_iff_of_invariant (fun _ => True) (fun s e t _ => agree s e t)
    (fun _ _ _ _ _ _ => trivial) trivial

end Along

end FinanciaApp.Library
