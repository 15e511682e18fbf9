import DependencyLinks.Remote.Gateway
import DependencyLinks.Settings.Basic

/-! A scan: the links that the comments of one pull request declare. -/

namespace DependencyLinks

/-- Checks the settings before anything is sent. Without a token, requests are anonymous. -/
def Settings.scan (settings : Settings) (environment : Variables) (number : Nat) :
    Activity Remote.Connection (List String) := do
  let locator ← Activity.ofExcept (settings.locator number)
  let pattern ← Activity.ofExcept settings.pattern
  let token := settings.resolveToken environment
  if token.isNone then Activity.report .anonymous
  Activity.report (.scanning locator.apiBase.text locator.owner.text locator.repository.text number)
  let client ← Activity.ofExcept (Remote.Client.connect token locator)
  client.gateway.links pattern locator

end DependencyLinks
