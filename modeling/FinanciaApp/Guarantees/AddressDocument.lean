import FinanciaApp.Library.KeyedFields
import FinanciaApp.Source.ATCAddress

/-!
# Saved addresses

The representation has eight texts and the location. The identifier, the first and the last name
and the state, which the initializer reads, are not among them.
-/

set_option autoImplicit false

namespace FinanciaApp.Guarantees

open Library Source

/-- Equal, with `nil` as the empty text. -/
def SameText (text other : Option String) : Prop := text.getD "" = other.getD ""

instance (text other : Option String) : Decidable (SameText text other) :=
  inferInstanceAs (Decidable (_ = _))

/-- Two addresses agree on what the initializer reads. -/
structure SameAddress (a b : ATCAddress) : Prop where
  addressID : SameText a.addressID b.addressID
  name : SameText a.name b.name
  firstName : SameText a.firstName b.firstName
  lastName : SameText a.lastName b.lastName
  line1 : SameText a.line1 b.line1
  line2 : SameText a.line2 b.line2
  city : SameText a.city b.city
  state : SameText a.state b.state
  postalCode : SameText a.postalCode b.postalCode
  country : SameText a.country b.country
  phone : SameText a.phone b.phone
  email : SameText a.email b.email
  location : a.location = b.location

/-- An address after a save and a load. -/
def reloadedAddress (a : ATCAddress) : ATCAddress :=
  ATCAddress.ofJSON (DocumentData.created a.representation)

/-- What is found under a key of the representation. -/
theorem created_representation (a : ATCAddress) (key : String) :
    DocumentData.created a.representation key =
      match key with
      | "name" => some (.string (a.name.getD ""))
      | "line1" => some (.string (a.line1.getD ""))
      | "line2" => some (.string (a.line2.getD ""))
      | "city" => some (.string (a.city.getD ""))
      | "postalCode" => some (.string (a.postalCode.getD ""))
      | "country" => some (.string (a.country.getD ""))
      | "phone" => some (.string (a.phone.getD ""))
      | "email" => some (.string (a.email.getD ""))
      | "location" => a.location.map fun location => .map location.representation
      | _ => none := by
  split
  all_goals simp only [DocumentData.created, ATCAddress.representation, List.lookup_append,
    lookup_optionalField, lookup_field, List.lookup_nil]
  all_goals simp_all

/-- What a load makes of the representation. -/
theorem reloadedAddress_eq (a : ATCAddress) :
    reloadedAddress a =
      { firstName := none
        lastName := none
        name := some (a.name.getD "")
        line1 := some (a.line1.getD "")
        line2 := some (a.line2.getD "")
        city := some (a.city.getD "")
        state := none
        postalCode := some (a.postalCode.getD "")
        country := some (a.country.getD "")
        phone := some (a.phone.getD "")
        email := some (a.email.getD "")
        location := a.location
        addressID := none } := by
  have location : ((DocumentData.created a.representation "location").bind
      FirestoreValue.asDictionary).map ATCLocation.ofRepresentation = a.location := by
    rw [created_representation]
    cases a.location with
    | none => rfl
    | some location => exact congrArg some (ATCLocation.ofRepresentation_representation location)
  rw [reloadedAddress, ATCAddress.ofJSON, location]
  simp [ATCAddress.decodedName, ATCAddress.stringAt, created_representation,
    FirestoreValue.asString]

/-- An address survives exactly where the four fields that are not written are empty. -/
theorem reloaded_same_iff (a : ATCAddress) :
    SameAddress (reloadedAddress a) a ↔
      a.addressID.getD "" = "" ∧ a.firstName.getD "" = "" ∧ a.lastName.getD "" = "" ∧
        a.state.getD "" = "" := by
  rw [reloadedAddress_eq]
  constructor
  · intro same
    exact ⟨same.addressID.symm, same.firstName.symm, same.lastName.symm, same.state.symm⟩
  · intro ⟨addressID, firstName, lastName, state⟩
    exact ⟨addressID.symm, rfl, firstName.symm, lastName.symm, rfl, rfl, rfl, state.symm, rfl, rfl,
      rfl, rfl, rfl⟩

def blankAddress : ATCAddress :=
  ⟨none, none, none, none, none, none, none, none, none, none, none, none, none⟩

theorem state_lost :
    ¬(∀ a, SameAddress (reloadedAddress a) a) ∧
    (reloadedAddress { blankAddress with state := some "CA" }).state = none := by
  have lost : (reloadedAddress { blankAddress with state := some "CA" }).state = none :=
    congrArg ATCAddress.state (reloadedAddress_eq _)
  refine ⟨fun claimed => ?_, lost⟩
  have same := (claimed { blankAddress with state := some "CA" }).state
  rw [lost] at same
  exact absurd same (by decide)

end FinanciaApp.Guarantees
