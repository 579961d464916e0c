import FinanciaApp.Source.ATCPersistentStore

/-!
# In-app purchases

`Core/ThirdParty/InAppPurchase/ATCInAppPurchaseManager.swift` and
`ATCInAppPurchaseProtocol.swift`. The payment queue delivers transactions in batches; a
transaction is the object as it is when it is delivered, told apart from the others by its
identity. Products are their identifiers, errors their descriptions.
-/

set_option autoImplicit false

namespace FinanciaApp.Source

/-- `SKPaymentTransactionState`; a state that later systems add is `unknown`. -/
inductive SKPaymentTransactionState where
  | purchasing
  | purchased
  | failed
  | restored
  | deferred
  | unknown (rawValue : Int)
  deriving DecidableEq, Repr

structure SKPaymentTransaction where
  identity : Nat
  productIdentifier : String
  transactionState : SKPaymentTransactionState
  error : Option String
  deriving DecidableEq, Repr

inductive ATCPurchaseStatus where
  | success
  | failed (error : Option String)
  deriving DecidableEq, Repr

namespace ATCInAppPurchaseManager

def premiumIdentifier : String := "com.instaswipey.Premium"

/-- The manager with the user defaults, the transactions passed to `finishTransaction`, the
payments and the product requests sent, and the statuses that `completion` received. -/
structure System where
  hasCompletion : Bool
  subscription : Option String
  defaults : UserDefaults
  finished : List SKPaymentTransaction
  payments : List String
  productsRequests : Nat
  restores : Nat
  statuses : List ATCPurchaseStatus

/-- `init`. -/
def System.new (defaults : UserDefaults) : System where
  hasCompletion := false
  subscription := none
  defaults := defaults
  finished := []
  payments := []
  productsRequests := 0
  restores := 0
  statuses := []

def isVIPUpgraded (s : System) : Bool :=
  match s.defaults premiumIdentifier with
  | some (.bool value) => value
  | _ => false

/-- `completion?(status)`. -/
def System.complete (s : System) (status : ATCPurchaseStatus) : System :=
  if s.hasCompletion then { s with statuses := s.statuses ++ [status] } else s

def System.finishTransaction (s : System) (transaction : SKPaymentTransaction) : System :=
  { s with finished := s.finished ++ [transaction] }

def fetchAvailableProducts (s : System) : System :=
  if !isVIPUpgraded s then { s with productsRequests := s.productsRequests + 1 } else s

def upgradeVIP (s : System) : System :=
  match s.subscription with
  | some subscription => { s with payments := s.payments ++ [subscription] }
  | none => fetchAvailableProducts s

/-- `productsRequest(_:didReceive:)`. -/
def didReceiveProducts (products : List String) (s : System) : System :=
  { s with subscription := products.find? fun product => product = premiumIdentifier }

/-- The premium transactions of a batch. -/
def premiumTransactions (transactions : List SKPaymentTransaction) : List SKPaymentTransaction :=
  transactions.filter fun transaction => transaction.productIdentifier = premiumIdentifier

/-- `paymentQueue(_:updatedTransactions:)`. -/
def updatedTransactions (transactions : List SKPaymentTransaction) (s : System) : System :=
  match (premiumTransactions transactions).head? with
  | none => s
  | some premiumTransaction =>
    match premiumTransaction.transactionState with
    | .purchased | .restored =>
      ({ s with
        defaults := Function.update s.defaults premiumIdentifier (some (.bool true))
          }.finishTransaction premiumTransaction).complete .success
    | .failed =>
      (s.finishTransaction premiumTransaction).complete (.failed premiumTransaction.error)
    | .deferred | .purchasing => s.complete (.failed none)
    | .unknown _ => s

inductive Event where
  | setCompletion (isSet : Bool)
  | upgradeVIP
  | fetchAvailableProducts
  | restoreCompletedTransactions
  | didReceiveProducts (products : List String)
  | productsRequestFailed
  | updatedTransactions (transactions : List SKPaymentTransaction)
  | restoreFailed (error : String)

def step (s : System) : Event → System
  | .setCompletion isSet => { s with hasCompletion := isSet }
  | .upgradeVIP => upgradeVIP s
  | .fetchAvailableProducts => fetchAvailableProducts s
  | .restoreCompletedTransactions => { s with restores := s.restores + 1 }
  | .didReceiveProducts products => didReceiveProducts products s
  | .productsRequestFailed => s.complete (.failed none)
  | .updatedTransactions transactions => updatedTransactions transactions s
  | .restoreFailed error => s.complete (.failed (some error))

/-! ## What a step finishes and stores -/

/-- The customer has paid. -/
def isPaid (transaction : SKPaymentTransaction) : Bool :=
  match transaction.transactionState with
  | .purchased | .restored => true
  | _ => false

/-- Purchased, restored or failed: a transaction that is to be finished. -/
def isSettled (transaction : SKPaymentTransaction) : Bool :=
  match transaction.transactionState with
  | .purchased | .restored | .failed => true
  | _ => false

/-- The first premium transaction that an event delivers. -/
def firstPremium : Event → Option SKPaymentTransaction
  | .updatedTransactions transactions => (premiumTransactions transactions).head?
  | _ => none

@[simp] theorem complete_finished (s : System) (status : ATCPurchaseStatus) :
    (s.complete status).finished = s.finished := by
  unfold System.complete
  split <;> rfl

@[simp] theorem complete_defaults (s : System) (status : ATCPurchaseStatus) :
    (s.complete status).defaults = s.defaults := by
  unfold System.complete
  split <;> rfl

@[simp] theorem isVIPUpgraded_complete (s : System) (status : ATCPurchaseStatus) :
    isVIPUpgraded (s.complete status) = isVIPUpgraded s := by
  rw [isVIPUpgraded, complete_defaults, isVIPUpgraded]

@[simp] theorem fetchAvailableProducts_finished (s : System) :
    (fetchAvailableProducts s).finished = s.finished := by
  unfold fetchAvailableProducts
  split <;> rfl

@[simp] theorem fetchAvailableProducts_defaults (s : System) :
    (fetchAvailableProducts s).defaults = s.defaults := by
  unfold fetchAvailableProducts
  split <;> rfl

/-- What a batch does to the finished transactions and to the upgrade. -/
theorem updatedTransactions_spec (transactions : List SKPaymentTransaction) (s : System) :
    (updatedTransactions transactions s).finished =
        s.finished ++ (premiumTransactions transactions).head?.toList.filter isSettled ∧
      isVIPUpgraded (updatedTransactions transactions s) =
        (isVIPUpgraded s || (premiumTransactions transactions).head?.any isPaid) := by
  unfold updatedTransactions
  cases (premiumTransactions transactions).head? with
  | none => simp
  | some first =>
    obtain ⟨identity, productIdentifier, transactionState, error⟩ := first
    cases transactionState with
    | purchasing => simp [isSettled, isPaid]
    | purchased =>
      simp [List.filter_cons, isSettled, isPaid, System.finishTransaction, isVIPUpgraded]
    | failed =>
      simp [List.filter_cons, isSettled, isPaid, System.finishTransaction, isVIPUpgraded]
    | restored =>
      simp [List.filter_cons, isSettled, isPaid, System.finishTransaction, isVIPUpgraded]
    | deferred => simp [isSettled, isPaid]
    | unknown rawValue => simp [isSettled, isPaid]

/-- Only the first premium transaction of a batch is finished, if it is settled, and only
it upgrades, if it is paid. -/
theorem step_spec (s : System) (e : Event) :
    (step s e).finished = s.finished ++ (firstPremium e).toList.filter isSettled ∧
      isVIPUpgraded (step s e) = (isVIPUpgraded s || (firstPremium e).any isPaid) := by
  have idle {t : System} (finished : t.finished = s.finished) (defaults : t.defaults = s.defaults) :
      t.finished = s.finished ++ (none : Option SKPaymentTransaction).toList.filter isSettled ∧
        isVIPUpgraded t = (isVIPUpgraded s || (none : Option SKPaymentTransaction).any isPaid) := by
    simp [finished, isVIPUpgraded, defaults]
  cases e with
  | updatedTransactions transactions => exact updatedTransactions_spec transactions s
  | upgradeVIP =>
    refine idle ?_ ?_
    · simp only [step, upgradeVIP]
      split <;> simp
    · simp only [step, upgradeVIP]
      split <;> simp
  | fetchAvailableProducts => exact idle (by simp [step]) (by simp [step])
  | productsRequestFailed => exact idle (by simp [step]) (by simp [step])
  | restoreFailed error => exact idle (by simp [step]) (by simp [step])
  | _ => exact idle rfl rfl

end ATCInAppPurchaseManager

end FinanciaApp.Source
