import FinanciaApp.Library.ArcArea
import FinanciaApp.Library.Bisection
import FinanciaApp.Library.BitFlags
import FinanciaApp.Library.CStrings
import FinanciaApp.Library.Chaining
import FinanciaApp.Library.ChoiceGroups
import FinanciaApp.Library.Composition
import FinanciaApp.Library.CubicBezier
import FinanciaApp.Library.Cutting
import FinanciaApp.Library.DealtInTurn
import FinanciaApp.Library.DecimalNumeral
import FinanciaApp.Library.DrawnInTurn
import FinanciaApp.Library.EditDistance
import FinanciaApp.Library.EvenlySpaced
import FinanciaApp.Library.FailableMaps
import FinanciaApp.Library.FirstAndLast
import FinanciaApp.Library.FirstOccurrences
import FinanciaApp.Library.Gregorian
import FinanciaApp.Library.InFlight
import FinanciaApp.Library.JoinedTexts
import FinanciaApp.Library.KeyedFields
import FinanciaApp.Library.KeyedTables
import FinanciaApp.Library.LeastByKey
import FinanciaApp.Library.LeastScan
import FinanciaApp.Library.LookaheadRegex
import FinanciaApp.Library.MarkedUp
import FinanciaApp.Library.Numbering
import FinanciaApp.Library.Numerals
import FinanciaApp.Library.OrderedByKey
import FinanciaApp.Library.QuadraticBezier
import FinanciaApp.Library.Replacing
import FinanciaApp.Library.Rounding
import FinanciaApp.Library.Runs
import FinanciaApp.Library.Toggling
import FinanciaApp.Library.Trimming
import FinanciaApp.Library.UnitOffsets
import FinanciaApp.Library.Weekdays
import FinanciaApp.Source.ATCAPIManager
import FinanciaApp.Source.ATCAddress
import FinanciaApp.Source.ATCCardViewControllerContainerRowAdapter
import FinanciaApp.Source.ATCCenteredCollectionViewFlowLayout
import FinanciaApp.Source.ATCCircularProgressBar
import FinanciaApp.Source.ATCContactUsViewController
import FinanciaApp.Source.ATCDiskPersistenceStore
import FinanciaApp.Source.ATCFirebaseLoginManager
import FinanciaApp.Source.ATCFirebaseUserReporter
import FinanciaApp.Source.ATCGenericCollectionViewController
import FinanciaApp.Source.ATCGenericFirebaseDataSource
import FinanciaApp.Source.ATCGenericRestAPIDataSource
import FinanciaApp.Source.ATCGenericSearchViewController
import FinanciaApp.Source.ATCHostViewController
import FinanciaApp.Source.ATCInAppPurchaseManager
import FinanciaApp.Source.ATCLineChart
import FinanciaApp.Source.ATCLineChartView
import FinanciaApp.Source.ATCLiquidCollectionViewLayout
import FinanciaApp.Source.ATCLoginScreenManager
import FinanciaApp.Source.ATCOnboardingCoordinator
import FinanciaApp.Source.ATCPersistentStore
import FinanciaApp.Source.ATCPhoneLoginScreenManager
import FinanciaApp.Source.ATCPhoneSignUpScreenManager
import FinanciaApp.Source.ATCProfileFirebaseUpdater
import FinanciaApp.Source.ATCSettingsViewController
import FinanciaApp.Source.ATCSignUpScreenManager
import FinanciaApp.Source.ATCUserDocument
import FinanciaApp.Source.AssetDetailsViewController
import FinanciaApp.Source.AssetTradingViewController
import FinanciaApp.Source.CPKCarouselFlowLayout
import FinanciaApp.Source.CPKCarouselView
import FinanciaApp.Source.CPKToastView
import FinanciaApp.Source.CalendarDateRangePickerViewController
import FinanciaApp.Source.ChartDataSet
import FinanciaApp.Source.ChartHighlighter
import FinanciaApp.Source.Constraint
import FinanciaApp.Source.ConstraintAttributes
import FinanciaApp.Source.ConstraintMaker
import FinanciaApp.Source.DateExtensions
import FinanciaApp.Source.DoubleExtensions
import FinanciaApp.Source.Expenses
import FinanciaApp.Source.FirebaseSystem
import FinanciaApp.Source.HTMLString
import FinanciaApp.Source.HostSystem
import FinanciaApp.Source.LineChartRenderer
import FinanciaApp.Source.NSAttributedStringExtensions
import FinanciaApp.Source.OTPTextFields
import FinanciaApp.Source.PathAdditions
import FinanciaApp.Source.PhoneScreens
import FinanciaApp.Source.ProfileSystem
import FinanciaApp.Source.QuickTableViewController
import FinanciaApp.Source.RestAPISystem
import FinanciaApp.Source.SocialLogin
import FinanciaApp.Source.StringExtensions
import FinanciaApp.Source.TimeFormatHelper
import FinanciaApp.Guarantees.AbbreviatedNumbers
import FinanciaApp.Guarantees.AddressDocument
import FinanciaApp.Guarantees.AddressTexts
import FinanciaApp.Guarantees.ArchivedUser
import FinanciaApp.Guarantees.CarouselCards
import FinanciaApp.Guarantees.CarouselSnapping
import FinanciaApp.Guarantees.CenteredItem
import FinanciaApp.Guarantees.ChartEntrySearch
import FinanciaApp.Guarantees.ChartGrid
import FinanciaApp.Guarantees.ChartLine
import FinanciaApp.Guarantees.ChartScale
import FinanciaApp.Guarantees.ChartStartDates
import FinanciaApp.Guarantees.ChartTouches
import FinanciaApp.Guarantees.ChordLength
import FinanciaApp.Guarantees.ClosedPath
import FinanciaApp.Guarantees.ClosestDataPoint
import FinanciaApp.Guarantees.CollectionViewRows
import FinanciaApp.Guarantees.ConstraintChains
import FinanciaApp.Guarantees.ConstraintInsets
import FinanciaApp.Guarantees.ConstraintRemake
import FinanciaApp.Guarantees.ConstraintTracking
import FinanciaApp.Guarantees.ConstraintUpdates
import FinanciaApp.Guarantees.CurveInFrame
import FinanciaApp.Guarantees.CurvedPath
import FinanciaApp.Guarantees.DateRangePickerGrid
import FinanciaApp.Guarantees.DateRangePickerLooks
import FinanciaApp.Guarantees.DateRangePickerTaps
import FinanciaApp.Guarantees.DegreeElevation
import FinanciaApp.Guarantees.DiskStore
import FinanciaApp.Guarantees.ExpenseLoads
import FinanciaApp.Guarantees.FilledRegion
import FinanciaApp.Guarantees.FirebaseBoundary
import FinanciaApp.Guarantees.FirebaseOverlap
import FinanciaApp.Guarantees.FirebasePages
import FinanciaApp.Guarantees.HTMLBody
import FinanciaApp.Guarantees.HTMLRoundTrip
import FinanciaApp.Guarantees.HomeCards
import FinanciaApp.Guarantees.HostLocationWrites
import FinanciaApp.Guarantees.HostLogout
import FinanciaApp.Guarantees.HostScreenInvariant
import FinanciaApp.Guarantees.HostScreens
import FinanciaApp.Guarantees.HostUsers
import FinanciaApp.Guarantees.LevenshteinDistance
import FinanciaApp.Guarantees.LevenshteinScore
import FinanciaApp.Guarantees.LiquidLayout
import FinanciaApp.Guarantees.LiquidLayoutReloads
import FinanciaApp.Guarantees.MentionColors
import FinanciaApp.Guarantees.OTPReplacements
import FinanciaApp.Guarantees.OTPStack
import FinanciaApp.Guarantees.OnboardingCompletions
import FinanciaApp.Guarantees.OnboardingManagers
import FinanciaApp.Guarantees.OnboardingUsers
import FinanciaApp.Guarantees.OptionGroups
import FinanciaApp.Guarantees.OptionSelections
import FinanciaApp.Guarantees.PasswordPolicy
import FinanciaApp.Guarantees.PathEdges
import FinanciaApp.Guarantees.PathLength
import FinanciaApp.Guarantees.PhoneLoginCodes
import FinanciaApp.Guarantees.PhoneLoginScreen
import FinanciaApp.Guarantees.PhoneSignUpScreen
import FinanciaApp.Guarantees.PremiumPurchases
import FinanciaApp.Guarantees.ProfilePhotoOverlap
import FinanciaApp.Guarantees.ProfilePhotos
import FinanciaApp.Guarantees.ProfileWrites
import FinanciaApp.Guarantees.ProgressLabel
import FinanciaApp.Guarantees.ReportRequests
import FinanciaApp.Guarantees.ReportedUsers
import FinanciaApp.Guarantees.RestLoadingFlags
import FinanciaApp.Guarantees.RestPageCursor
import FinanciaApp.Guarantees.RestStore
import FinanciaApp.Guarantees.RestStreamEnd
import FinanciaApp.Guarantees.SettingsRows
import FinanciaApp.Guarantees.SettingsScreen
import FinanciaApp.Guarantees.ShuffledResults
import FinanciaApp.Guarantees.SignInReplies
import FinanciaApp.Guarantees.SignUpThenLogin
import FinanciaApp.Guarantees.SocialMediaButtons
import FinanciaApp.Guarantees.TableCells
import FinanciaApp.Guarantees.TagMatching
import FinanciaApp.Guarantees.TaggedText
import FinanciaApp.Guarantees.TimeAgo
import FinanciaApp.Guarantees.ToastDismissals
import FinanciaApp.Guarantees.TradingKeypad
import FinanciaApp.Guarantees.TwoDecimals
import FinanciaApp.Guarantees.UserDocument
import FinanciaApp.Guarantees.WallPostPages
import FinanciaApp.Guarantees.WallPosts
import FinanciaApp.Guarantees.Watchlist
