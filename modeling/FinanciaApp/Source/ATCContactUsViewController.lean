import FinanciaApp.Source.ATCLiquidCollectionViewLayout

/-!
# The social media buttons of the contact screen

`layoutSocialMediaButtons` of `Core/ViewControllers/ATCContactUsViewController.swift:108-118`, for
as many buttons as `addSocialMediaButtons` has appended. `none` is the trap of a range that ends
before its start.
-/

set_option autoImplicit false

namespace FinanciaApp.Source.ATCContactUsViewController

def preferredBtnWidth : Int := 40

def noOfRenderedBtns (totalWidth : Int) (socialMediaButtons : Nat) : Int :=
  min (totalWidth.tdiv preferredBtnWidth) socialMediaButtons

def spacing (totalWidth noOfRenderedBtns : Int) : Int :=
  (totalWidth - (noOfRenderedBtns + 1) * preferredBtnWidth).tdiv noOfRenderedBtns

/-- The frame of the button at an index. -/
def frame (spacing : Int) (index : Nat) : CGRect where
  x := (((index : Int) + 1) * spacing + index * preferredBtnWidth : Int)
  y := 0
  width := preferredBtnWidth
  height := preferredBtnWidth

/-- The frames of the first buttons in their order; the other buttons keep theirs. -/
def layoutSocialMediaButtons (boundsWidth : Rat) (socialMediaButtons : Nat) :
    Option (List CGRect) :=
  let totalWidth := truncate boundsWidth
  let rendered := noOfRenderedBtns totalWidth socialMediaButtons
  if rendered < 0 then none
  else some ((List.range rendered.toNat).map (frame (spacing totalWidth rendered)))

end FinanciaApp.Source.ATCContactUsViewController
