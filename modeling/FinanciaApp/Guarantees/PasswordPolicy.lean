import Mathlib
import FinanciaApp.Library.LookaheadRegex
import FinanciaApp.Source.ATCSignUpScreenManager

/-!
# Two password expressions and the announced policy

The classic screen asks for no digit and trims the password before it tests it, the phone
screen asks for exactly six characters of the password as it is, and both for a symbol of a list
of their own where the announced policy takes every character that is no letter and no digit.
Letters and digits are those of ASCII, which the expressions name.
-/

set_option autoImplicit false

namespace FinanciaApp.Guarantees

open Source Library

def lowercaseClass : List ClassItem := [.range 'a' 'z']

def uppercaseClass : List ClassItem := [.range 'A' 'Z']

def digitClass : List ClassItem := [.range '0' '9']

def classicSymbols : List ClassItem :=
  [.single '$', .single '@', .single '$', .single '#', .single '!', .single '%', .single '*',
    .single '?', .single '&', .single '.']

def phoneSymbols : List ClassItem :=
  [.single '!', .single '@', .single '#', .single '$', .single '&', .single '*']

/-- The expression of the classic screen. -/
def classicPattern : Regex :=
  .seq .start (Regex.lookaheads [lowercaseClass, classicSymbols, uppercaseClass]
    (.seq (.atLeast 6 .dot) .finish))

/-- The expression of the phone screen. -/
def phonePattern : Regex :=
  .seq .start (Regex.lookaheads [uppercaseClass, phoneSymbols, digitClass, lowercaseClass]
    (.seq (.exactly 6 .dot) .finish))

theorem render_classicPattern :
    String.ofList classicPattern.render = ATCSignUpScreenManager.passRegEx := by
  decide +kernel

theorem render_phonePattern :
    String.ofList phonePattern.render = ATCPhoneSignUpScreenManager.passRegEx := by
  decide +kernel

/-- The predicates evaluate the two expressions as they are read. -/
structure EvaluatesPasswords (predicates : TextPredicates) : Prop where
  classic : ∀ text, predicates.evaluate ATCSignUpScreenManager.passRegEx text =
    classicPattern.fullMatch text.toList
  phone : ∀ text, predicates.evaluate ATCPhoneSignUpScreenManager.passRegEx text =
    phonePattern.fullMatch text.toList

/-- Some character of the text is in the class. -/
def Has (items : List ClassItem) (text : List Char) : Prop :=
  ∃ c ∈ text, (Atom.cls items).accepts c = true

/-- The policy in the message of both screens. -/
structure Announced (text : List Char) : Prop where
  six : 6 ≤ text.length
  digit : ∃ c ∈ text, c.isDigit = true
  lowercase : ∃ c ∈ text, c.isLower = true
  uppercase : ∃ c ∈ text, c.isUpper = true
  other : ∃ c ∈ text, c.isAlphanum = false

/-- Both screens have e-mail and password fields with these texts, and a name. -/
structure FilledIn (email pass firstName : String) (classic : ATCSignUpScreenManager.System)
    (phone : ATCPhoneSignUpScreenManager.System) : Prop where
  classicName : classic.nameText = some firstName
  classicEmail : classic.emailText = some email
  classicPassword : classic.passwordText = some pass
  phoneMode : phone.screen.contactPoint = .email
  phoneName : phone.firstName = some firstName
  phoneEmail : phone.email = some email
  phonePassword : phone.password = some pass

/-- Long enough and in the format of both screens, as it is typed and as it is trimmed. -/
structure ValidEmail (predicates : TextPredicates) (email : String) : Prop where
  filled : 2 ≤ predicates.count email
  format : predicates.evaluate ATCSignUpScreenManager.emailRegEx email = true
  trimmedFilled : 2 ≤ predicates.count (atcTrimmed email)
  trimmedFormat : predicates.evaluate ATCSignUpScreenManager.emailRegEx (atcTrimmed email) = true

section Acceptance

variable (predicates : TextPredicates) (serverConfig : ATCOnboardingServerConfiguration)
variable (configuration : ATCPhoneSignUpScreenManager.Configuration)

/-- A tap on the button of the classic screen sends a request to create the user. -/
def ClassicAccepts (s : ATCSignUpScreenManager.System) : Prop :=
  (ATCSignUpScreenManager.didTapSignUpButton predicates serverConfig s).creations ≠ s.creations

/-- A tap on the button of the phone screen sends a request to create the user. -/
def PhoneAccepts (s : ATCPhoneSignUpScreenManager.System) : Prop :=
  (ATCPhoneSignUpScreenManager.didTapSignUpButton predicates configuration s).creations ≠
    s.creations

/-- Both screens accept the password under the same condition, the announced one. -/
def AcceptedAlike (classic : ATCSignUpScreenManager.System)
    (phone : ATCPhoneSignUpScreenManager.System) (pass : String) : Prop :=
  (ClassicAccepts predicates serverConfig classic ↔ PhoneAccepts predicates configuration phone) ∧
  (ClassicAccepts predicates serverConfig classic ↔ Announced pass.toList)

end Acceptance

/-- Six characters of one line that the phone screen accepts, without whitespace at either end, or
a password that is too short, misses a letter of either case, or misses something of the classic
screen (a symbol, or one line of six characters when it is trimmed) and something of the policy (a
digit, a character that is neither). -/
def AgreedOn (text : List Char) : Prop :=
  (text.length = 6 ∧ trimmed isWhitespaceOrNewline text = text ∧ Regex.OneLine text ∧
    Has uppercaseClass text ∧ Has phoneSymbols text ∧ Has digitClass text ∧
    Has lowercaseClass text) ∨
  text.length < 6 ∨ ¬Has lowercaseClass text ∨ ¬Has uppercaseClass text ∨
  (((trimmed isWhitespaceOrNewline text).length < 6 ∨
      ¬Regex.OneLine (trimmed isWhitespaceOrNewline text) ∨ ¬Has classicSymbols text) ∧
    (¬Has digitClass text ∨ ∀ c ∈ text, c.isAlphanum = true))

/-! ## Characters -/

section Characters

variable {text : List Char} {c : Char}

theorem accepts_range {first last : Char} :
    (Atom.cls [.range first last]).accepts c = true ↔
      first.toNat ≤ c.toNat ∧ c.toNat ≤ last.toNat := by
  simp [Atom.accepts, ClassItem.accepts]

theorem has_lowercase_iff : Has lowercaseClass text ↔ ∃ c ∈ text, c.isLower = true := by
  have same (c : Char) : (Atom.cls lowercaseClass).accepts c = true ↔ c.isLower = true := by
    rw [lowercaseClass, accepts_range]
    simp [Char.isLower, UInt32.le_iff_toNat_le]
  simp only [Has, same]

theorem has_uppercase_iff : Has uppercaseClass text ↔ ∃ c ∈ text, c.isUpper = true := by
  have same (c : Char) : (Atom.cls uppercaseClass).accepts c = true ↔ c.isUpper = true := by
    rw [uppercaseClass, accepts_range]
    simp [Char.isUpper, UInt32.le_iff_toNat_le]
  simp only [Has, same]

theorem has_digit_iff : Has digitClass text ↔ ∃ c ∈ text, c.isDigit = true := by
  have same (c : Char) : (Atom.cls digitClass).accepts c = true ↔ c.isDigit = true := by
    rw [digitClass, accepts_range]
    simp [Char.isDigit, UInt32.le_iff_toNat_le]
  simp only [Has, same]

/-- The symbols of the phone screen are symbols of the classic one, and not alphanumeric. -/
theorem phoneSymbols_accepted (accepted : (Atom.cls phoneSymbols).accepts c = true) :
    (Atom.cls classicSymbols).accepts c = true ∧ c.isAlphanum = false := by
  simp only [Atom.accepts, phoneSymbols, ClassItem.accepts, List.any_cons, List.any_nil,
    Bool.or_false, Bool.or_eq_true, decide_eq_true_eq] at accepted
  rcases accepted with rfl | rfl | rfl | rfl | rfl | rfl <;> decide

/-- The trimmed text has the characters of a class without whitespace that the text has. -/
theorem has_trimmed_iff {items : List ClassItem}
    (visible : ∀ c, (Atom.cls items).accepts c = true → isWhitespaceOrNewline c = false) :
    Has items (trimmed isWhitespaceOrNewline text) ↔ Has items text := by
  constructor
  · intro ⟨c, member, accepted⟩
    exact ⟨c, (mem_trimmed_iff text (visible c accepted)).mp member, accepted⟩
  · intro ⟨c, member, accepted⟩
    exact ⟨c, (mem_trimmed_iff text (visible c accepted)).mpr member, accepted⟩

/-- The printable characters of ASCII are no whitespace. -/
theorem visible_of_printable (above : 0x20 < c.toNat) (below : c.toNat < 0x7F) :
    isWhitespaceOrNewline c = false := by
  simp only [isWhitespaceOrNewline, Bool.or_eq_false_iff, Bool.and_eq_false_iff,
    decide_eq_false_iff_not, beq_eq_false_iff_ne]
  omega

theorem visible_lowercase (accepted : (Atom.cls lowercaseClass).accepts c = true) :
    isWhitespaceOrNewline c = false := by
  have bounds : 97 ≤ c.toNat ∧ c.toNat ≤ 122 := accepts_range.mp accepted
  exact visible_of_printable (by omega) (by omega)

theorem visible_uppercase (accepted : (Atom.cls uppercaseClass).accepts c = true) :
    isWhitespaceOrNewline c = false := by
  have bounds : 65 ≤ c.toNat ∧ c.toNat ≤ 90 := accepts_range.mp accepted
  exact visible_of_printable (by omega) (by omega)

theorem visible_classicSymbols (accepted : (Atom.cls classicSymbols).accepts c = true) :
    isWhitespaceOrNewline c = false := by
  simp only [Atom.accepts, classicSymbols, ClassItem.accepts, List.any_cons, List.any_nil,
    Bool.or_false, Bool.or_eq_true, decide_eq_true_eq] at accepted
  rcases accepted with rfl | rfl | rfl | rfl | rfl | rfl | rfl | rfl | rfl | rfl <;> decide

end Characters

/-! ## The two languages -/

section Languages

variable {text : List Char}

theorem classicPattern_iff :
    classicPattern.fullMatch text = true ↔
      Has lowercaseClass text ∧ Has classicSymbols text ∧ Has uppercaseClass text ∧
        6 ≤ text.length ∧ Regex.OneLine text := by
  rw [classicPattern, Regex.fullMatch_lookaheads_iff fun matched =>
    (Regex.fullMatch_atLeast_dot.mp matched).2, Regex.fullMatch_atLeast_dot]
  simp only [List.forall_mem_cons, List.not_mem_nil, false_imp_iff, implies_true, and_true, Has,
    and_assoc]

theorem phonePattern_iff :
    phonePattern.fullMatch text = true ↔
      Has uppercaseClass text ∧ Has phoneSymbols text ∧ Has digitClass text ∧
        Has lowercaseClass text ∧ text.length = 6 ∧ Regex.OneLine text := by
  rw [phonePattern, Regex.fullMatch_lookaheads_iff fun matched =>
    (Regex.fullMatch_exactly_dot.mp matched).2, Regex.fullMatch_exactly_dot]
  simp only [List.forall_mem_cons, List.not_mem_nil, false_imp_iff, implies_true, and_true, Has,
    and_assoc]

theorem announced_iff :
    Announced text ↔ 6 ≤ text.length ∧ Has digitClass text ∧ Has lowercaseClass text ∧
      Has uppercaseClass text ∧ ¬∀ c ∈ text, c.isAlphanum = true := by
  have other : (∃ c ∈ text, c.isAlphanum = false) ↔ ¬∀ c ∈ text, c.isAlphanum = true := by
    simp
  rw [has_digit_iff, has_lowercase_iff, has_uppercase_iff, ← other]
  constructor
  · intro ⟨six, digit, lowercase, uppercase, symbol⟩
    exact ⟨six, digit, lowercase, uppercase, symbol⟩
  · intro ⟨six, digit, lowercase, uppercase, symbol⟩
    exact ⟨six, digit, lowercase, uppercase, symbol⟩

theorem symbol_of_phoneSymbol (has : Has phoneSymbols text) :
    Has classicSymbols text ∧ ¬∀ c ∈ text, c.isAlphanum = true := by
  obtain ⟨c, member, accepted⟩ := has
  obtain ⟨classic, other⟩ := phoneSymbols_accepted accepted
  exact ⟨⟨c, member, classic⟩, fun all => by simp [all c member] at other⟩

theorem announced_of_phone (phone : phonePattern.fullMatch text = true) : Announced text := by
  obtain ⟨upper, symbol, digit, lower, six, -⟩ := phonePattern_iff.mp phone
  exact announced_iff.mpr ⟨six.ge, digit, lower, upper, (symbol_of_phoneSymbol symbol).2⟩

theorem classic_trimmed_iff :
    classicPattern.fullMatch (trimmed isWhitespaceOrNewline text) = true ↔
      Has lowercaseClass text ∧ Has classicSymbols text ∧ Has uppercaseClass text ∧
        6 ≤ (trimmed isWhitespaceOrNewline text).length ∧
        Regex.OneLine (trimmed isWhitespaceOrNewline text) := by
  rw [classicPattern_iff, has_trimmed_iff fun _ => visible_lowercase,
    has_trimmed_iff fun _ => visible_classicSymbols, has_trimmed_iff fun _ => visible_uppercase]

/-- What the phone screen accepts is too short for the classic screen as soon as a character of
it is trimmed away. -/
theorem classic_iff_of_phone (phone : phonePattern.fullMatch text = true) :
    classicPattern.fullMatch (trimmed isWhitespaceOrNewline text) = true ↔
      trimmed isWhitespaceOrNewline text = text := by
  obtain ⟨upper, symbol, -, lower, six, line⟩ := phonePattern_iff.mp phone
  rw [classic_trimmed_iff]
  constructor
  · intro ⟨_, _, _, long, _⟩
    exact (trimmed_sublist text).eq_of_length_le (by omega)
  · intro same
    rw [same]
    exact ⟨lower, (symbol_of_phoneSymbol symbol).1, upper, six.ge, line⟩

/-- What the classic screen rejects and the policy does too. -/
theorem rejected_iff :
    ¬classicPattern.fullMatch (trimmed isWhitespaceOrNewline text) = true ∧ ¬Announced text ↔
      text.length < 6 ∨ ¬Has lowercaseClass text ∨ ¬Has uppercaseClass text ∨
        (((trimmed isWhitespaceOrNewline text).length < 6 ∨
            ¬Regex.OneLine (trimmed isWhitespaceOrNewline text) ∨ ¬Has classicSymbols text) ∧
          (¬Has digitClass text ∨ ∀ c ∈ text, c.isAlphanum = true)) := by
  have shorter : 6 ≤ (trimmed isWhitespaceOrNewline text).length → 6 ≤ text.length :=
    fun long => long.trans (trimmed_sublist text).length_le
  rw [classic_trimmed_iff, announced_iff]
  simp only [← Nat.not_le]
  tauto

/-- Where the three conditions agree: all of them hold, or none. -/
theorem languages_agree_iff :
    ((classicPattern.fullMatch (trimmed isWhitespaceOrNewline text) = true ↔
        phonePattern.fullMatch text = true) ∧
      (classicPattern.fullMatch (trimmed isWhitespaceOrNewline text) = true ↔ Announced text)) ↔
    AgreedOn text := by
  have all_iff : (text.length = 6 ∧ trimmed isWhitespaceOrNewline text = text ∧
      Regex.OneLine text ∧ Has uppercaseClass text ∧ Has phoneSymbols text ∧
      Has digitClass text ∧ Has lowercaseClass text) ↔
      trimmed isWhitespaceOrNewline text = text ∧ phonePattern.fullMatch text = true := by
    rw [phonePattern_iff]
    tauto
  rw [AgreedOn, all_iff, ← rejected_iff]
  constructor
  · intro ⟨alike, announced⟩
    by_cases classic : classicPattern.fullMatch (trimmed isWhitespaceOrNewline text) = true
    · have phone := alike.mp classic
      exact Or.inl ⟨(classic_iff_of_phone phone).mp classic, phone⟩
    · exact Or.inr ⟨classic, fun policy => classic (announced.mpr policy)⟩
  · intro agreed
    rcases agreed with ⟨same, phone⟩ | ⟨no_classic, no_policy⟩
    · have classic := (classic_iff_of_phone phone).mpr same
      exact ⟨iff_of_true classic phone, iff_of_true classic (announced_of_phone phone)⟩
    · exact ⟨iff_of_false no_classic fun phone => no_policy (announced_of_phone phone),
        iff_of_false no_classic no_policy⟩

end Languages

/-! ## The screens -/

section Screens

variable {predicates : TextPredicates} {email pass firstName : String}

theorem phone_isValid_eq_none_iff :
    ATCPhoneSignUpScreenManager.isValid predicates email pass firstName = none ↔
      2 ≤ predicates.count firstName ∧ 2 ≤ predicates.count email ∧
        predicates.evaluate ATCPhoneSignUpScreenManager.emailRegEx email = true ∧
        predicates.evaluate ATCPhoneSignUpScreenManager.passRegEx pass = true := by
  rw [ATCPhoneSignUpScreenManager.isValid]
  split_ifs with named filled format passed
  · exact iff_of_false nofun fun valid => Nat.not_le.mpr named valid.1
  · exact iff_of_false nofun fun valid => Nat.not_le.mpr filled valid.2.1
  · exact iff_of_false nofun fun valid => by simp [valid.2.2.1] at format
  · exact iff_of_false nofun fun valid => by simp [valid.2.2.2] at passed
  · exact iff_of_true rfl ⟨Nat.not_lt.mp named, Nat.not_lt.mp filled, by simpa using format,
      by simpa using passed⟩

variable {classic : ATCSignUpScreenManager.System} {phone : ATCPhoneSignUpScreenManager.System}

/-- The classic screen accepts what is valid after the e-mail and the password are trimmed. -/
theorem classicAccepts_iff_isValid {serverConfig : ATCOnboardingServerConfiguration}
    (enabled : serverConfig.isFirebaseAuthEnabled = true)
    (filled : FilledIn email pass firstName classic phone) :
    ClassicAccepts predicates serverConfig classic ↔
      ATCSignUpScreenManager.isValid predicates (atcTrimmed email) (atcTrimmed pass) firstName =
        none := by
  rw [ClassicAccepts, ATCSignUpScreenManager.didTapSignUpButton, if_pos enabled,
    filled.classicEmail, filled.classicPassword, filled.classicName]
  dsimp only
  cases ATCSignUpScreenManager.isValid predicates (atcTrimmed email) (atcTrimmed pass) firstName
  with
  | none => simp
  | some text => simp [ATCSignUpScreenManager.System.showSignUpError]

/-- The phone screen accepts what is valid as it is typed. -/
theorem phoneAccepts_iff_isValid {configuration : ATCPhoneSignUpScreenManager.Configuration}
    (enabled : configuration.isFirebaseAuthEnabled = true)
    (filled : FilledIn email pass firstName classic phone) :
    PhoneAccepts predicates configuration phone ↔
      ATCPhoneSignUpScreenManager.isValid predicates email pass firstName = none := by
  rw [PhoneAccepts, ATCPhoneSignUpScreenManager.didTapSignUpButton, if_pos enabled,
    filled.phoneMode, filled.phoneEmail, filled.phonePassword, filled.phoneName]
  dsimp only
  cases ATCPhoneSignUpScreenManager.isValid predicates email pass firstName with
  | none => simp
  | some text => simp [ATCPhoneSignUpScreenManager.System.showSignUpError]

theorem classicAccepts_iff_fullMatch (evaluates : EvaluatesPasswords predicates)
    {serverConfig : ATCOnboardingServerConfiguration}
    (enabled : serverConfig.isFirebaseAuthEnabled = true)
    (named : 2 ≤ predicates.count firstName) (valid : ValidEmail predicates email)
    (filled : FilledIn email pass firstName classic phone) :
    ClassicAccepts predicates serverConfig classic ↔
      classicPattern.fullMatch (trimmed isWhitespaceOrNewline pass.toList) = true := by
  have typed : (atcTrimmed pass).toList = trimmed isWhitespaceOrNewline pass.toList :=
    String.toList_ofList
  rw [classicAccepts_iff_isValid enabled filled, ATCSignUpScreenManager.isValid_eq_none_iff,
    ← typed, ← evaluates.classic]
  constructor
  · intro accepted
    exact accepted.passFormat
  · intro passed
    exact ⟨named, valid.trimmedFilled, valid.trimmedFormat, passed⟩

theorem phoneAccepts_iff_fullMatch (evaluates : EvaluatesPasswords predicates)
    {configuration : ATCPhoneSignUpScreenManager.Configuration}
    (enabled : configuration.isFirebaseAuthEnabled = true)
    (named : 2 ≤ predicates.count firstName) (valid : ValidEmail predicates email)
    (filled : FilledIn email pass firstName classic phone) :
    PhoneAccepts predicates configuration phone ↔ phonePattern.fullMatch pass.toList = true := by
  rw [phoneAccepts_iff_isValid enabled filled, phone_isValid_eq_none_iff, ← evaluates.phone]
  constructor
  · intro accepted
    exact accepted.2.2.2
  · intro passed
    exact ⟨named, valid.filled, valid.format, passed⟩

end Screens

/-- Exactly when a tap on either screen accepts a password as announced, the e-mail and the name
being valid. -/
theorem acceptedAlike_iff_agreedOn (predicates : TextPredicates)
    (evaluates : EvaluatesPasswords predicates) (serverConfig : ATCOnboardingServerConfiguration)
    (configuration : ATCPhoneSignUpScreenManager.Configuration)
    (classicEnabled : serverConfig.isFirebaseAuthEnabled = true)
    (phoneEnabled : configuration.isFirebaseAuthEnabled = true)
    (classic : ATCSignUpScreenManager.System) (phone : ATCPhoneSignUpScreenManager.System)
    (email pass firstName : String) (named : 2 ≤ predicates.count firstName)
    (valid : ValidEmail predicates email) (filled : FilledIn email pass firstName classic phone) :
    AcceptedAlike predicates serverConfig configuration classic phone pass ↔
      AgreedOn pass.toList := by
  rw [AcceptedAlike, classicAccepts_iff_fullMatch evaluates classicEnabled named valid filled,
    phoneAccepts_iff_fullMatch evaluates phoneEnabled named valid filled]
  exact languages_agree_iff

/-! ## Three passwords -/

/-- Predicates for passwords that take every e-mail. -/
def passwordPredicates : TextPredicates where
  count text := text.length
  evaluate regEx text :=
    if regEx = ATCSignUpScreenManager.passRegEx then classicPattern.fullMatch text.toList
    else if regEx = ATCPhoneSignUpScreenManager.passRegEx then phonePattern.fullMatch text.toList
    else true

theorem evaluatesPasswords_passwordPredicates : EvaluatesPasswords passwordPredicates where
  classic text := by simp only [passwordPredicates, if_true]
  phone text := by
    have different : ATCPhoneSignUpScreenManager.passRegEx ≠ ATCSignUpScreenManager.passRegEx := by
      decide
    simp only [passwordPredicates, if_neg different, if_true]

theorem validEmail_passwordPredicates : ValidEmail passwordPredicates "ana@example.com" where
  filled := by decide
  format := by decide +kernel
  trimmedFilled := by decide +kernel
  trimmedFormat := by decide +kernel

/-- The classic screen with a name and an e-mail. -/
def classicForm (pass : String) : ATCSignUpScreenManager.System where
  nameText := some "Ana"
  emailText := some "ana@example.com"
  passwordText := some pass
  creations := []
  saved := []
  alerts := []
  completions := []

/-- The phone screen in e-mail mode with the same name and e-mail. -/
def phoneForm (pass : String) : ATCPhoneSignUpScreenManager.System :=
  { ATCPhoneSignUpScreenManager.signUpScreenDidLoadView
      { signUpString := "Sign Up"
        contactPoint := .email
        phoneNumberSignUpString := "Sign up with phone number"
        emailSignUpString := "Sign up with e-mail"
        sendCodeString := "Send code"
        phoneCodeString := none
        submitCodeString := "Submit code" } none with
    firstName := some "Ana"
    email := some "ana@example.com"
    password := some pass }

theorem filledIn_forms (pass : String) :
    FilledIn "ana@example.com" pass "Ana" (classicForm pass) (phoneForm pass) :=
  ⟨rfl, rfl, rfl, rfl, rfl, rfl, rfl⟩

theorem acceptedAlike_iff_agreedOn_six :
    AcceptedAlike passwordPredicates ⟨true, "reader"⟩ ⟨true, "reader"⟩ (classicForm "aB3$xy")
        (phoneForm "aB3$xy") "aB3$xy" ↔
      AgreedOn "aB3$xy".toList :=
  acceptedAlike_iff_agreedOn passwordPredicates evaluatesPasswords_passwordPredicates _ _ rfl rfl
    _ _ "ana@example.com" "aB3$xy" "Ana" (by decide) validEmail_passwordPredicates
    (filledIn_forms _)

/-- Without a digit the classic screen accepts, the phone screen does not; with seven
characters as announced the phone screen does not; and with a space in front of five characters
the phone screen accepts, the classic one does not. -/
theorem screens_disagree :
    ¬(∀ predicates, EvaluatesPasswords predicates → ∀ serverConfig configuration,
      serverConfig.isFirebaseAuthEnabled = true → configuration.isFirebaseAuthEnabled = true →
      ∀ classic phone email pass firstName, 2 ≤ predicates.count firstName →
      ValidEmail predicates email → FilledIn email pass firstName classic phone →
      AcceptedAlike predicates serverConfig configuration classic phone pass) ∧
    classicPattern.fullMatch (atcTrimmed "aB$xyz").toList = true ∧
    phonePattern.fullMatch "aB$xyz".toList = false ∧
    phonePattern.fullMatch "aB3$xyz".toList = false ∧
    classicPattern.fullMatch (atcTrimmed " aB3$x").toList = false ∧
    phonePattern.fullMatch " aB3$x".toList = true := by
  have phone : phonePattern.fullMatch "aB$xyz".toList = false := by decide +kernel
  refine ⟨fun claimed => ?_, by decide +kernel, phone, by decide +kernel, by decide +kernel,
    by decide +kernel⟩
  have alike := claimed passwordPredicates evaluatesPasswords_passwordPredicates ⟨true, "reader"⟩
    ⟨true, "reader"⟩ rfl rfl (classicForm "aB$xyz") (phoneForm "aB$xyz") "ana@example.com"
    "aB$xyz" "Ana" (by decide) validEmail_passwordPredicates (filledIn_forms _)
  have accepted : ClassicAccepts passwordPredicates ⟨true, "reader"⟩ (classicForm "aB$xyz") :=
    (classicAccepts_iff_isValid rfl (filledIn_forms _)).mpr (by decide +kernel)
  have matched := (phoneAccepts_iff_fullMatch evaluatesPasswords_passwordPredicates rfl (by decide)
    validEmail_passwordPredicates (filledIn_forms _)).mp (alike.1.mp accepted)
  rw [phone] at matched
  cases matched

end FinanciaApp.Guarantees
