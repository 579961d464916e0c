import FinanciaApp.Library.FailableMaps
import FinanciaApp.Source.ATCDiskPersistenceStore
import FinanciaApp.Source.ATCPersistentStore

/-!
# The watchlist button

`Core/Finance/Models/ATCFinanceAsset.swift` and the watchlist part of
`FinanceApp/FinanceApp/AssetDetails/AssetDetailsViewController.swift:136-158`. A screen
is the asset it was opened for and the icon of its button. `Watchlist` is the app with
its asset-details screens, in the order in which they were opened, and the assets whose
button was tapped so far. Charts, positions and trading are not modelled.
-/

set_option autoImplicit false

namespace FinanciaApp.Source

universe u w x

/-- `Text` is the type of Swift strings up to the canonical equivalence that `==` decides. -/
structure ATCFinanceAsset (Text : Type u) where
  title : Text
  ticker : Text
  priceChange : Text
  isPositive : Bool
  price : Text
  color : Text
  logoURL : Text
  deriving DecidableEq, Repr

namespace ATCFinanceAsset

instance (Text : Type u) : ATCPersistable (ATCFinanceAsset Text) Text where
  diffIdentifier asset := asset.ticker

def encode (asset : ATCFinanceAsset String) : NSCoder :=
  [("title", .string asset.title), ("ticker", .string asset.ticker),
    ("priceChange", .string asset.priceChange), ("isPositive", .bool asset.isPositive),
    ("price", .string asset.price), ("color", .string asset.color),
    ("logoURL", .string asset.logoURL)]

/-- `init(coder:)`; `none` is a failed forced cast. -/
def ofCoder (aDecoder : NSCoder) : Option (ATCFinanceAsset String) := do
  let title ← aDecoder.decodeString "title"
  let ticker ← aDecoder.decodeString "ticker"
  let priceChange ← aDecoder.decodeString "priceChange"
  let isPositive := aDecoder.decodeBool "isPositive"
  let price ← aDecoder.decodeString "price"
  let color ← aDecoder.decodeString "color"
  let logoURL ← aDecoder.decodeString "logoURL"
  return ⟨title, ticker, priceChange, isPositive, price, color, logoURL⟩

theorem ofCoder_encode (asset : ATCFinanceAsset String) : ofCoder (encode asset) = some asset :=
  rfl

/-- A keyed archiver for lists of assets; nothing else is archived. -/
def archiving : KeyedArchiving (ATCFinanceAsset String) Unit (Option (List NSCoder)) where
  archivedData
    | .persistables assets => some (assets.map encode)
    | .other _ => none
  unarchiveObject
    | some coders => (coders.mapM ofCoder).map .persistables
    | none => some (.other ())

theorem archiving_roundTrips : archiving.RoundTrips := by
  intro assets
  have decoded := Library.mapM_map_inverse ofCoder_encode assets
  simp only [archiving, decoded, Option.map_some]

def bitcoin : ATCFinanceAsset String where
  title := "Bitcoin"
  ticker := "BTC"
  priceChange := "+1%"
  isPositive := true
  price := "60000"
  color := "#f7931a"
  logoURL := "btc.png"

end ATCFinanceAsset

namespace AssetDetailsViewController

structure Screen (Text : Type u) where
  asset : ATCFinanceAsset Text
  watchlistIcon : String

variable {Text : Type u} {Other : Type w} {Data : Type x} [DecidableEq Text]
variable (archiving : KeyedArchiving (ATCFinanceAsset Text) Other Data)

open ATCDiskPersistenceStore

def watchlistKey : String := "asset_watchlist"

def iconString (asset : ATCFinanceAsset Text) (standard : StandardDefaults Data) : String :=
  if contains archiving watchlistKey asset standard then "add-filled-icon" else "add-empty-icon"

/-- `viewDidLoad`, as far as it concerns the button. -/
def configureWatchlistButton (asset : ATCFinanceAsset Text) (standard : StandardDefaults Data) :
    Screen Text := ⟨asset, iconString archiving asset standard⟩

def didTapWatchlistButton (screen : Screen Text) (standard : StandardDefaults Data) :
    StandardDefaults Data × Screen Text :=
  let toggled :=
    if contains archiving watchlistKey screen.asset standard then
      remove archiving watchlistKey screen.asset standard
    else
      append archiving watchlistKey screen.asset standard
  (toggled, { screen with watchlistIcon := iconString archiving screen.asset toggled })

structure Watchlist (Text : Type u) (Data : Type x) where
  standard : StandardDefaults Data
  screens : List (Screen Text)
  taps : List (ATCFinanceAsset Text)

inductive Event (Text : Type u) where
  | viewDidLoad (asset : ATCFinanceAsset Text)
  | didTapWatchlistButton (screen : Nat)

def Watchlist.tap (s : Watchlist Text Data) (index : Nat) (screen : Screen Text) :
    Watchlist Text Data where
  standard := (didTapWatchlistButton archiving screen s.standard).1
  screens := s.screens.set index (didTapWatchlistButton archiving screen s.standard).2
  taps := s.taps ++ [screen.asset]

def step (s : Watchlist Text Data) : Event Text → Option (Watchlist Text Data)
  | .viewDidLoad asset =>
    some { s with screens := s.screens ++ [configureWatchlistButton archiving asset s.standard] }
  | .didTapWatchlistButton index => s.screens[index]?.map (s.tap archiving index)

end AssetDetailsViewController

end FinanciaApp.Source
