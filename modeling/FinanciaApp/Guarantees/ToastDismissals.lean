import FinanciaApp.Library.Runs
import FinanciaApp.Source.CPKToastView

/-!
# The delayed dismissals of a toast

A dismissal hides whatever is shown when it is executed. So it hides a later presentation if one
starts while it is still scheduled.
-/

set_option autoImplicit false

namespace FinanciaApp.Guarantees

open Library Source Source.CPKToastView

/-- A delayed dismissal does not hide a presentation after the one it was scheduled in. -/
def HidesNoLater (toast : CPKToastView) (event : Event) (next : CPKToastView) : Prop :=
  ∀ index scheduledIn, event = .dismissAfterDelay index →
    toast.scheduled[index]? = some scheduledIn → toast.isPresented = true →
    next.isPresented = false → toast.presentation ≤ scheduledIn

/-- None of the scheduled dismissals would, if it was executed now. -/
def NoneHidesLater (toast : CPKToastView) : Prop :=
  ∀ event next, step toast event = some next → HidesNoLater toast event next

/-- A presentation starts when no dismissal is scheduled any more. -/
def StartsAlone (toast : CPKToastView) (event : Event) : Prop :=
  event = .present → toast.isPresented = false → toast.scheduled = []

theorem noneHidesLater_iff (toast : CPKToastView) :
    NoneHidesLater toast ↔
      (toast.isPresented = true →
        ∀ scheduledIn ∈ toast.scheduled, toast.presentation ≤ scheduledIn) := by
  constructor
  · intro none_hides presented scheduledIn member
    obtain ⟨index, found⟩ := List.getElem?_of_mem member
    have executed : step toast (.dismissAfterDelay index) =
        some (dismiss { toast with scheduled := toast.scheduled.eraseIdx index }) := by
      rw [step, deliver, found]
      rfl
    exact none_hides _ _ executed index scheduledIn rfl found presented rfl
  · intro current event next _ index scheduledIn _ found presented _
    exact current presented scheduledIn (List.mem_of_getElem? found)

/-- Dismissals are scheduled during presentations up to this one, and none hides a later one. -/
structure DismissalsKept (toast : CPKToastView) : Prop where
  past : ∀ scheduledIn ∈ toast.scheduled, scheduledIn ≤ toast.presentation
  current : toast.isPresented = true →
    ∀ scheduledIn ∈ toast.scheduled, toast.presentation ≤ scheduledIn

section Steps

variable {toast next : CPKToastView} {event : Event}

/-- A step schedules nothing for a later presentation. -/
theorem past_step (past : ∀ scheduledIn ∈ toast.scheduled, scheduledIn ≤ toast.presentation)
    (stepped : step toast event = some next) :
    ∀ scheduledIn ∈ next.scheduled, scheduledIn ≤ next.presentation := by
  cases event with
  | present =>
    cases stepped
    unfold present
    split
    · exact past
    · intro scheduledIn member
      exact Nat.le_succ_of_le (past scheduledIn member)
  | dismiss =>
    cases stepped
    exact past
  | body =>
    cases stepped
    unfold body
    split
    · intro scheduledIn member
      cases List.mem_append.mp member with
      | inl earlier => exact past scheduledIn earlier
      | inr now => exact Nat.le_of_eq (List.mem_singleton.mp now)
    · exact past
  | dismissAfterDelay index =>
    obtain ⟨⟨executed, rest⟩, found, rfl⟩ := Option.map_eq_some_iff.mp stepped
    intro scheduledIn member
    exact past scheduledIn (deliver_rest_subset found scheduledIn member)

theorem noneHidesLater_step_iff (kept : DismissalsKept toast)
    (stepped : step toast event = some next) :
    NoneHidesLater next ↔ StartsAlone toast event := by
  rw [noneHidesLater_iff]
  cases event with
  | present =>
    cases stepped
    cases presented : toast.isPresented with
    | true =>
      have same : toast.present = toast := if_pos presented
      rw [same]
      exact iff_of_true kept.current fun _ hidden => by
        rw [presented] at hidden
        cases hidden
    | false =>
      have started : toast.present =
          { toast with isPresented := true, presentation := toast.presentation + 1 } :=
        if_neg (by rw [presented]; exact Bool.false_ne_true)
      rw [started]
      constructor
      · intro current _ _
        refine List.eq_nil_iff_forall_not_mem.mpr fun scheduledIn member => ?_
        have later := current rfl scheduledIn member
        have earlier := kept.past scheduledIn member
        dsimp only at later
        omega
      · intro alone _ scheduledIn member
        rw [alone rfl presented] at member
        cases member
  | dismiss =>
    cases stepped
    exact iff_of_true nofun nofun
  | body =>
    cases stepped
    refine iff_of_true (fun presented scheduledIn member => ?_) nofun
    unfold body at presented member ⊢
    split at member
    · rename_i shown
      rw [if_pos shown]
      cases List.mem_append.mp member with
      | inl earlier => exact kept.current shown scheduledIn earlier
      | inr now => exact Nat.le_of_eq (List.mem_singleton.mp now).symm
    · rename_i hidden
      rw [if_neg hidden] at presented
      exact absurd presented hidden
  | dismissAfterDelay index =>
    obtain ⟨⟨executed, rest⟩, found, rfl⟩ := Option.map_eq_some_iff.mp stepped
    exact iff_of_true nofun nofun

end Steps

/-- In no state of a run can a delayed dismissal hide a later presentation, exactly when every
presentation of the run starts with no dismissal scheduled. -/
theorem hidesNoLater_iff_startsAlone (isPresented : Bool) (events : List Event) :
    AlongRun step (fun toast event next => HidesNoLater toast event next ∧ NoneHidesLater next)
        (new isPresented) events ↔
      AlongRun step (fun toast event _ => StartsAlone toast event) (new isPresented) events := by
  refine alongRun_iff_of_invariant DismissalsKept ?_ ?_ ⟨nofun, fun _ => nofun⟩
  · intro toast event next kept stepped
    rw [noneHidesLater_step_iff kept stepped]
    refine and_iff_right ?_
    exact (noneHidesLater_iff toast).mpr kept.current event next stepped
  · intro toast event next kept stepped alone
    exact ⟨past_step kept.past stepped,
      (noneHidesLater_iff next).mp ((noneHidesLater_step_iff kept stepped).mpr alone)⟩

/-- A toast is dismissed and presented again while the dismissal of the first presentation is
still scheduled. -/
def presentedAgain : List Event :=
  [.present, .body, .dismiss, .body, .present, .body, .dismissAfterDelay 0]

theorem second_presentation_hidden :
    ¬(∀ isPresented events, AlongRun step HidesNoLater (new isPresented) events) ∧
    run step (new false) presentedAgain = some ⟨false, 2, [2]⟩ := by
  refine ⟨fun claimed => ?_, rfl⟩
  have kept := claimed false presentedAgain
  have last := ((((((kept _ rfl).2 _ rfl).2 _ rfl).2 _ rfl).2 _ rfl).2 _ rfl).2 _ rfl
  exact absurd (last.1 0 1 rfl rfl rfl rfl) (by decide)

end FinanciaApp.Guarantees
