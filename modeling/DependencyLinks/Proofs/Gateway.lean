import DependencyLinks.Gateway

/-! What comes of reading links through a gateway, by what its two calls come to. -/

namespace DependencyLinks.Gateway

variable {σ : Type} {gateway : Gateway σ} {locator : Locator} {state : σ}
variable {failure : Failure} {metadata : Metadata}

/-- Without a pull request its comments are not asked for. -/
theorem run_links_of_pullRequest_error (pattern : Pattern)
    (failed : ((gateway.pullRequest locator).run state).result = .error failure) :
    (gateway.links pattern locator).run state =
      ⟨.error failure, ((gateway.pullRequest locator).run state).events,
        ((gateway.pullRequest locator).run state).state⟩ := by
  have loaded : (gateway.load locator).run state = _ := Activity.run_bind_of_error failed _
  have stopped : ((gateway.load locator).run state).result = .error failure := by rw [loaded]
  exact (Activity.run_bind_of_error stopped _).trans (by rw [loaded])

theorem run_load_of_comments_error
    (answered : ((gateway.pullRequest locator).run state).result = .ok metadata)
    (failed : ((gateway.comments locator).run
      ((gateway.pullRequest locator).run state).state).result = .error failure) :
    ((gateway.load locator).run state).result = .error failure ∧
      ((gateway.load locator).run state).state =
        ((gateway.comments locator).run ((gateway.pullRequest locator).run state).state).state := by
  simp only [load, Activity.run_bind_of_ok answered, Activity.run_report_bind,
    Activity.run_bind_of_error failed, and_self]

theorem run_load_of_comments_ok {comments : List Comment}
    (answered : ((gateway.pullRequest locator).run state).result = .ok metadata)
    (read : ((gateway.comments locator).run
      ((gateway.pullRequest locator).run state).state).result = .ok comments) :
    ((gateway.load locator).run state).result = .ok ⟨metadata, comments⟩ ∧
      ((gateway.load locator).run state).state =
        ((gateway.comments locator).run ((gateway.pullRequest locator).run state).state).state := by
  simp only [load, Activity.run_bind_of_ok answered, Activity.run_report_bind,
    Activity.run_bind_of_ok read, Activity.run_pure, and_self]

theorem run_links_of_comments_error (pattern : Pattern)
    (answered : ((gateway.pullRequest locator).run state).result = .ok metadata)
    (failed : ((gateway.comments locator).run
      ((gateway.pullRequest locator).run state).state).result = .error failure) :
    ((gateway.links pattern locator).run state).result = .error failure ∧
      ((gateway.links pattern locator).run state).state =
        ((gateway.comments locator).run ((gateway.pullRequest locator).run state).state).state := by
  obtain ⟨stopped, left⟩ := run_load_of_comments_error answered failed
  rw [links, Activity.run_bind_of_error stopped]
  exact ⟨rfl, left⟩

theorem run_links_of_comments_ok {comments : List Comment} (pattern : Pattern)
    (answered : ((gateway.pullRequest locator).run state).result = .ok metadata)
    (read : ((gateway.comments locator).run
      ((gateway.pullRequest locator).run state).state).result = .ok comments) :
    ((gateway.links pattern locator).run state).result =
        .ok (pattern.linksInAll (Comment.bodies comments)) ∧
      ((gateway.links pattern locator).run state).state =
        ((gateway.comments locator).run ((gateway.pullRequest locator).run state).state).state := by
  obtain ⟨done, left⟩ := run_load_of_comments_ok answered read
  rw [links, Activity.run_bind_of_ok done]
  exact ⟨rfl, left⟩

/-- Links are read off what is loaded, and a failure to load is passed on. -/
theorem run_links (gateway : Gateway σ) (pattern : Pattern) (locator : Locator) (state : σ) :
    ((gateway.links pattern locator).run state).result =
        ((gateway.load locator).run state).result.map
          (fun details => pattern.linksInAll details.bodies) ∧
      ((gateway.links pattern locator).run state).state =
        ((gateway.load locator).run state).state := by
  cases loaded : ((gateway.load locator).run state).result with
  | error failure =>
    rw [links, Activity.run_bind_of_error loaded]
    exact ⟨rfl, rfl⟩
  | ok details =>
    rw [links, Activity.run_bind_of_ok loaded]
    exact ⟨rfl, rfl⟩

end DependencyLinks.Gateway
