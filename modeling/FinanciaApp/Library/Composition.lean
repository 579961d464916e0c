import FinanciaApp.Library.Runs
import Mathlib.Data.List.Perm.Basic

/-!
# Components that drive another one

A composed system contains a component with its own `step`. Where each step of the whole is
matched by a run of the component on the events it `emit`s, a run of the whole is matched by a
run on all of them, the `trace` (`run_trace`, `run_trace_on`); so whatever holds of every run of
the component holds of it inside the whole.

`run_invariant_on` is `run_invariant` for runs on some of the events only.

`Interleaves parts whole`: the whole consists of the parts, each in its own order. What is
appended to a part and to the whole keeps it (`interleaves_append`).
-/

set_option autoImplicit false

namespace FinanciaApp.Library

universe u v w x

theorem run_singleton {σ : Type u} {ε : Type v} (step : σ → ε → Option σ) (s : σ) (e : ε) :
    run step s [e] = step s e := by
  cases taken : step s e <;> simp [run, taken]

section Traces

variable {σ : Type u} {ε : Type v} {τ : Type w} {δ : Type x}
variable (step : σ → ε → Option σ) (emit : σ → ε → σ → List δ)

/-- What the steps of a run emit, one after the other. -/
def trace : σ → List ε → List δ
  | _, [] => []
  | s, e :: es =>
    match step s e with
    | some t => emit s e t ++ trace t es
    | none => []

variable {step emit} {component : τ → δ → Option τ} (part : σ → τ)

/-- A run of the whole is matched by the run of the component on its trace, where an invariant
of the whole may be used to match the steps. -/
theorem run_trace_on (inv : σ → Prop)
    (preserved : ∀ s e t, inv s → step s e = some t → inv t)
    (matched : ∀ s e t, inv s → step s e = some t →
      run component (part s) (emit s e t) = some (part t))
    {s t : σ} {es : List ε} (start : inv s) (h : run step s es = some t) :
    run component (part s) (trace step emit s es) = some (part t) := by
  induction es generalizing s with
  | nil =>
    cases h
    rfl
  | cons e es ih =>
    obtain ⟨m, hm, hrest⟩ := (run_cons_eq_some s t e es).mp h
    simp only [trace, hm]
    rw [run_append, matched s e m start hm]
    exact ih (preserved s e m start hm) hrest

theorem run_trace
    (matched : ∀ s e t, step s e = some t → run component (part s) (emit s e t) = some (part t))
    {s t : σ} {es : List ε} (h : run step s es = some t) :
    run component (part s) (trace step emit s es) = some (part t) :=
  run_trace_on part (fun _ => True) (fun _ _ _ _ _ => trivial) (fun s e t _ => matched s e t)
    trivial h

theorem trace_concat {s m t : σ} {past : List ε} {e : ε} (reached : run step s past = some m)
    (taken : step m e = some t) :
    trace step emit s (past ++ [e]) = trace step emit s past ++ emit m e t := by
  induction past generalizing s with
  | nil =>
    cases reached
    simp only [List.nil_append, trace, taken, List.append_nil]
  | cons first past ih =>
    obtain ⟨next, hnext, hrest⟩ := (run_cons_eq_some s m first past).mp reached
    simp only [List.cons_append, trace, hnext, ih hrest, List.append_assoc]

end Traces

/-- What steps on some events preserve, a run on such events preserves. -/
theorem run_invariant_on {σ : Type u} {ε : Type v} {step : σ → ε → Option σ} (allowed : ε → Prop)
    (inv : σ → Prop)
    (preserved : ∀ s e t, allowed e → inv s → step s e = some t → inv t) {s t : σ} {es : List ε}
    (all : ∀ e ∈ es, allowed e) (start : inv s) (h : run step s es = some t) : inv t := by
  induction es generalizing s with
  | nil =>
    cases h
    exact start
  | cons e es ih =>
    obtain ⟨m, hm, hrest⟩ := (run_cons_eq_some s t e es).mp h
    have next := preserved s e m (all e List.mem_cons_self) start hm
    exact ih (fun e' there => all e' (List.mem_cons_of_mem _ there)) next hrest

section Interleavings

variable {α : Type u}

/-- The whole has the elements of the parts, those of a part in their order. -/
structure Interleaves (parts : List (List α)) (whole : List α) : Prop where
  perm : whole.Perm parts.flatten
  ordered : ∀ part ∈ parts, part.Sublist whole

theorem interleaves_nil (parts : List (List α)) (empty : ∀ part ∈ parts, part = []) :
    Interleaves parts [] where
  perm := by
    rw [List.flatten_eq_nil_iff.mpr empty]
  ordered := fun part there => by
    rw [empty part there]

/-- What is appended to one part and to the whole. -/
theorem interleaves_append (before after : List (List α)) {part whole : List α}
    (more : List α) (h : Interleaves (before ++ part :: after) whole) :
    Interleaves (before ++ (part ++ more) :: after) (whole ++ more) where
  perm := by
    refine (h.perm.append_right more).trans ?_
    simp only [List.flatten_append, List.flatten_cons, List.append_assoc]
    apply List.Perm.append_left
    exact List.perm_append_comm.append_left part
  ordered := by
    intro other there
    rcases List.mem_append.mp there with isBefore | isAfter
    · exact (h.ordered other (List.mem_append_left _ isBefore)).trans
        (List.sublist_append_left _ _)
    · rcases List.mem_cons.mp isAfter with rfl | isLater
      · have old := h.ordered part (List.mem_append_right _ List.mem_cons_self)
        exact old.append_right more
      · have old := h.ordered other (List.mem_append_right _ (List.mem_cons_of_mem _ isLater))
        exact old.trans (List.sublist_append_left _ _)

end Interleavings

end FinanciaApp.Library
