import FinanciaApp.Source.DoubleExtensions

/-!
# Ages as texts

`timeAgoString` of `Core/Helpers/TimeFormatHelper.swift`, for the exact number of seconds
since the date. `none` is the trap of `Int(_:)`.
-/

set_option autoImplicit false

namespace FinanciaApp.Source.TimeFormatHelper

open Double

def timeAgoString (timeIntervalSince : ℚ) : Option String := do
  let secondsInterval := rounded timeIntervalSince
  if secondsInterval < 10 then
    return "now"
  if secondsInterval < 60 then
    return toString (← toInt secondsInterval) ++ " seconds ago"
  let minutes := rounded (secondsInterval / 60)
  if minutes < 60 then
    return toString (← toInt minutes) ++ " minutes ago"
  let hours := rounded (minutes / 60)
  if hours < 24 then
    return toString (← toInt hours) ++ " hours ago"
  let days := rounded (hours / 60)
  if days < 30 then
    return toString (← toInt days) ++ " days ago"
  let months := rounded (days / 30)
  if months < 12 then
    return toString (← toInt months) ++ " months ago"
  let years := rounded (months / 12)
  return toString (← toInt years) ++ " years ago"

end FinanciaApp.Source.TimeFormatHelper
