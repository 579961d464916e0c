import Mathlib.Data.List.Flatten
import Mathlib.Data.List.Induction
import Mathlib.Data.List.Nodup
import Mathlib.Data.List.Perm.Subperm
import FinanciaApp.Source.ATCInAppPurchaseManager

/-!
# Premium purchases

`paymentQueue(_:updatedTransactions:)` looks at the first premium transaction of a batch
only. The transactions that it finishes are therefore a sublist of the settled ones that
are delivered, and all of them exactly where nothing settled stands behind the first.
-/

set_option autoImplicit false

namespace FinanciaApp.Guarantees

open Source Source.ATCInAppPurchaseManager

universe u v

/-- Sublists of the parts make up the whole exactly when each of them is its part. -/
theorem flatMap_eq_iff_of_sublist {α : Type u} {β : Type v} {f g : α → List β}
    (parts : ∀ x, (f x).Sublist (g x)) (xs : List α) :
    xs.flatMap f = xs.flatMap g ↔ ∀ x ∈ xs, f x = g x := by
  induction xs with
  | nil => simp
  | cons x xs ih =>
    have tail := List.Sublist.flatMap_right xs fun x (_ : x ∈ xs) => parts x
    rw [List.flatMap_cons, List.flatMap_cons, List.forall_mem_cons, ← ih]
    constructor
    · intro whole
      have length := congrArg List.length whole
      rw [List.length_append, List.length_append] at length
      have first := (parts x).length_le
      have rest := tail.length_le
      exact ⟨(parts x).eq_of_length_le (by omega), tail.eq_of_length_le (by omega)⟩
    · rintro ⟨first, rest⟩
      rw [first, rest]

/-- The settled premium transactions that an event delivers. -/
def settledPremium : Event → List SKPaymentTransaction
  | .updatedTransactions transactions => (premiumTransactions transactions).filter isSettled
  | _ => []

/-- The purchased, restored or failed premium transactions of a run, in order of delivery. -/
def delivered (es : List Event) : List SKPaymentTransaction := es.flatMap settledPremium

/-- The settled transactions that come first in their batch. -/
def handled (e : Event) : List SKPaymentTransaction := (firstPremium e).toList.filter isSettled

theorem handled_sublist (e : Event) : (handled e).Sublist (settledPremium e) := by
  cases e with
  | updatedTransactions transactions =>
    refine List.Sublist.filter isSettled ?_
    cases premium : premiumTransactions transactions with
    | nil => simp [firstPremium, premium]
    | cons first rest => simp [firstPremium, premium]
  | _ => exact List.nil_sublist _

/-- Behind the first premium transaction of a batch, nothing is settled. -/
def NothingSettledBehind (e : Event) : Prop :=
  ∀ transactions, e = .updatedTransactions transactions →
    ∀ x ∈ (premiumTransactions transactions).tail, isSettled x = false

theorem handled_eq_iff (e : Event) : handled e = settledPremium e ↔ NothingSettledBehind e := by
  cases e with
  | updatedTransactions transactions =>
    cases premium : premiumTransactions transactions with
    | nil => simp [handled, settledPremium, firstPremium, NothingSettledBehind, premium]
    | cons first rest =>
      have behind : handled (.updatedTransactions transactions) =
          settledPremium (.updatedTransactions transactions) ↔ rest.filter isSettled = [] := by
        simp only [handled, settledPremium, firstPremium, premium, List.head?_cons,
          Option.toList_some, List.filter_cons, List.filter_nil]
        split
        · exact ⟨fun same => (List.cons.inj same).2.symm, fun none => by rw [none]⟩
        · exact eq_comm
      rw [behind]
      simp [NothingSettledBehind, premium]
  | _ => simp [handled, settledPremium, firstPremium, NothingSettledBehind]

section Runs

/-- The manager after a sequence of events. -/
def after (defaults : UserDefaults) (es : List Event) : System :=
  es.foldl step (.new defaults)

theorem after_concat (defaults : UserDefaults) (es : List Event) (e : Event) :
    after defaults (es ++ [e]) = step (after defaults es) e := by
  simp [after]

/-- What is finished in a run is what came first in its batch. -/
theorem after_finished (defaults : UserDefaults) (es : List Event) :
    (after defaults es).finished = es.flatMap handled := by
  induction es using List.reverseRecOn with
  | nil => rfl
  | append_singleton es e ih =>
    rw [after_concat, (step_spec _ e).1, ih, List.flatMap_append, List.flatMap_singleton]
    rfl

theorem after_isVIPUpgraded (defaults : UserDefaults) (es : List Event) :
    isVIPUpgraded (after defaults es) =
      (isVIPUpgraded (.new defaults) || es.any fun e => (firstPremium e).any isPaid) := by
  induction es using List.reverseRecOn with
  | nil => simp [after]
  | append_singleton es e ih =>
    rw [after_concat, (step_spec _ e).2, ih, List.any_append]
    simp [Bool.or_assoc]

/-- How often a settled transaction came first in its batch. -/
theorem count_handled {x : SKPaymentTransaction} (settled : isSettled x = true) (es : List Event) :
    (es.flatMap handled).count x = es.countP fun e => firstPremium e = some x := by
  induction es with
  | nil => rfl
  | cons e es ih =>
    rw [List.flatMap_cons, List.count_append, ih, List.countP_cons, Nat.add_comm]
    congr 1
    unfold handled
    cases firstPremium e with
    | none => simp
    | some first =>
      by_cases same : first = x
      · simp [same, settled]
      · have absent : x ∉ [first].filter isSettled := by
          intro member
          exact same (List.mem_singleton.mp (List.mem_filter.mp member).1).symm
        simp [same, List.count_eq_zero.mpr absent]

/-- The customer gets what was paid for, and every settled premium transaction is passed to
`finishTransaction` exactly once. -/
structure PremiumDelivered (defaults : UserDefaults) (es : List Event) : Prop where
  upgraded : ∀ x ∈ delivered es, isPaid x = true → isVIPUpgraded (after defaults es) = true
  finishedOnce : ∀ x ∈ delivered es, (after defaults es).finished.count x = 1

/-- Every settled premium transaction comes first, among the premium ones, in exactly one
batch. -/
def FirstOfOneBatch (es : List Event) : Prop :=
  ∀ x ∈ delivered es, es.countP (fun e => firstPremium e = some x) = 1

theorem isSettled_of_mem_delivered {x : SKPaymentTransaction} {es : List Event}
    (member : x ∈ delivered es) : isSettled x = true := by
  obtain ⟨e, -, there⟩ := List.mem_flatMap.mp member
  cases e with
  | updatedTransactions transactions => exact (List.mem_filter.mp there).2
  | _ => cases there

theorem premiumDelivered_iff (defaults : UserDefaults) (es : List Event) :
    PremiumDelivered defaults es ↔ FirstOfOneBatch es := by
  have once : ∀ x ∈ delivered es, ((after defaults es).finished.count x =
      es.countP fun e => firstPremium e = some x) := by
    intro x member
    rw [after_finished]
    exact count_handled (isSettled_of_mem_delivered member) es
  constructor
  · intro kept x member
    rw [← once x member]
    exact kept.finishedOnce x member
  · intro first
    refine ⟨?_, fun x member => (once x member).trans (first x member)⟩
    intro x member paid
    have found : 0 < es.countP fun e => firstPremium e = some x := by
      rw [first x member]
      exact Nat.one_pos
    obtain ⟨e, there, isFirst⟩ := List.countP_pos_iff.mp found
    rw [after_isVIPUpgraded, Bool.or_eq_true, List.any_eq_true]
    refine .inr ⟨e, there, ?_⟩
    rw [of_decide_eq_true isFirst]
    exact paid

/-- Where no settled transaction is delivered twice, all of them are finished exactly where
none stands behind another premium transaction. -/
theorem firstOfOneBatch_iff {es : List Event} (distinct : (delivered es).Nodup) :
    FirstOfOneBatch es ↔ ∀ e ∈ es, NothingSettledBehind e := by
  have sublist : (es.flatMap handled).Sublist (delivered es) :=
    List.Sublist.flatMap_right es fun e _ => handled_sublist e
  calc FirstOfOneBatch es
      ↔ es.flatMap handled = delivered es := by
        constructor
        · intro first
          refine sublist.eq_of_length_le (List.Nodup.subperm distinct ?_).length_le
          intro x member
          rw [← List.count_pos_iff, count_handled (isSettled_of_mem_delivered member),
            first x member]
          exact Nat.one_pos
        · intro all x member
          rw [← count_handled (isSettled_of_mem_delivered member), all]
          exact List.count_eq_one_of_mem distinct member
    _ ↔ ∀ e ∈ es, handled e = settledPremium e := flatMap_eq_iff_of_sublist handled_sublist es
    _ ↔ ∀ e ∈ es, NothingSettledBehind e :=
        forall₂_congr fun e _ => handled_eq_iff e

/-- For every run, from any defaults: each paid premium transaction upgrades and each
settled one is finished exactly once if and only if each of them comes first in exactly one
batch. Where, as by the payment queue, none is delivered again once it is settled, this
says that no batch has a settled premium transaction behind another premium one. -/
theorem premium_delivered_iff (defaults : UserDefaults) (es : List Event) :
    (PremiumDelivered defaults es ↔ FirstOfOneBatch es) ∧
      ((delivered es).Nodup →
        (PremiumDelivered defaults es ↔ ∀ e ∈ es, NothingSettledBehind e)) :=
  ⟨premiumDelivered_iff defaults es, fun distinct =>
    (premiumDelivered_iff defaults es).trans (firstOfOneBatch_iff distinct)⟩

end Runs

/-- A premium transaction without an error. -/
def premium (identity : Nat) (transactionState : SKPaymentTransactionState) :
    SKPaymentTransaction :=
  ⟨identity, premiumIdentifier, transactionState, none⟩

theorem premium_delivered_iff_one_by_one :
    PremiumDelivered (fun _ => none)
        [.updatedTransactions [premium 1 .failed], .updatedTransactions [premium 2 .purchased]] ↔
      ∀ e ∈ [Event.updatedTransactions [premium 1 .failed],
        .updatedTransactions [premium 2 .purchased]], NothingSettledBehind e :=
  (premium_delivered_iff (fun _ => none) _).2 (by decide)

/-- The purchase behind a failed attempt of the same batch is neither delivered nor
finished. -/
theorem purchase_behind_failure_lost :
    ¬ ∀ (defaults : UserDefaults) (es : List Event), PremiumDelivered defaults es := by
  intro claim
  have kept := claim (fun _ => none)
    [.updatedTransactions [premium 1 .failed, premium 2 .purchased]]
  have upgraded := kept.upgraded (premium 2 .purchased) (by decide) rfl
  exact absurd upgraded (by decide)

end FinanciaApp.Guarantees
