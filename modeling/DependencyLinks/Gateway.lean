import DependencyLinks.Activity
import DependencyLinks.Locator
import DependencyLinks.Pattern
import DependencyLinks.PullRequest

/-! Whoever answers for pull requests, and what is read through it. -/

namespace DependencyLinks

structure Gateway (σ : Type) where
  pullRequest : Locator → Activity σ Metadata
  comments : Locator → Activity σ (List Comment)

namespace Gateway

variable {σ : Type}

/-- Asks for the pull request, and for its comments only once it is there. -/
def load (gateway : Gateway σ) (locator : Locator) : Activity σ Details := do
  let metadata ← gateway.pullRequest locator
  Activity.report (.resolved metadata.number (metadata.title.getD ""))
  let comments ← gateway.comments locator
  Activity.report (.commentsLoaded comments.length)
  return { metadata, comments }

/-- The links that the comments of a pull request declare, in thread order. -/
def links (gateway : Gateway σ) (pattern : Pattern) (locator : Locator) :
    Activity σ (List String) := do
  let details ← gateway.load locator
  let links := pattern.linksInAll details.bodies
  Activity.report (.linksExtracted locator.number.value links.length)
  return links

end Gateway

end DependencyLinks
