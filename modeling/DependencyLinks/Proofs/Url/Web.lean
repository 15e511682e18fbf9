import DependencyLinks.Proofs.Text.Cut
import DependencyLinks.Proofs.Url.Host
import DependencyLinks.Url.Read

/-! URLs of the web schemes, as what is left of their parts once they have been read. -/

namespace DependencyLinks.Url

/-- Every character stands as it is. -/
def Settled (reserved : List Char) (part : String) : Prop :=
  ∀ c ∈ part.toList, Kept reserved c

theorem settled_escape {reserved : List Char} (free : escapeChars.all (Kept reserved ·) = true)
    (cs : List Char) : Settled reserved (String.ofList (escape reserved cs)) := by
  intro c member
  rw [String.toList_ofList] at member
  exact kept_of_mem_escape free member

namespace Path

variable {file web : Bool} {cs : List Char} {settled rest : List (List Char)}
  {segment : List Char}

theorem up_subset (settled : List (List Char)) : up settled ⊆ settled := by
  cases settled with
  | nil => exact List.Subset.refl _
  | cons latest earlier =>
    rw [up]
    split
    · exact List.Subset.refl _
    · exact List.subset_cons_self _ _

/-- Dots take segments away and add at most an empty one. -/
theorem mem_resolve (member : segment ∈ resolve false settled rest) :
    segment = [] ∨ segment ∈ settled ∨ segment ∈ rest := by
  induction rest generalizing settled with
  | nil => exact .inr (.inl (List.mem_reverse.mp member))
  | cons next rest ih =>
    -- one dot and two dots differ only in what is left of the settled segments
    have dotted {base : List (List Char)} (part : base ⊆ settled) (member : segment ∈
        if rest.isEmpty then ([] :: base).reverse else resolve false base rest) :
        segment = [] ∨ segment ∈ settled ∨ segment ∈ next :: rest := by
      split at member
      · rcases List.mem_cons.mp (List.mem_reverse.mp member) with empty | earlier
        · exact .inl empty
        · exact .inr (.inl (part earlier))
      · rcases ih member with empty | earlier | later
        · exact .inl empty
        · exact .inr (.inl (part earlier))
        · exact .inr (.inr (List.mem_cons_of_mem _ later))
    rw [resolve] at member
    split at member
    · exact dotted (up_subset settled) member
    split at member
    · exact dotted (List.Subset.refl settled) member
    · rcases ih member with empty | earlier | later
      · exact .inl empty
      · rcases List.mem_cons.mp earlier with rfl | earlier
        · exact .inr (.inr List.mem_cons_self)
        · exact .inr (.inl earlier)
      · exact .inr (.inr (List.mem_cons_of_mem _ later))

theorem resolve_ne_nil (filled : settled ≠ [] ∨ rest ≠ []) :
    resolve file settled rest ≠ [] := by
  induction rest generalizing settled with
  | nil => simpa [resolve] using filled
  | cons next rest ih =>
    have dotted (base : List (List Char)) :
        (if rest.isEmpty then ([] :: base).reverse else resolve file base rest) ≠ [] := by
      split
      next => simp
      next more => exact ih (.inr (by simpa using more))
    rw [resolve]
    split
    · exact dotted _
    split
    · exact dotted _
    · exact ih (.inl (List.cons_ne_nil _ _))

theorem kept_of_mem_read {c : Char} (member : segment ∈ read web cs) (inside : c ∈ segment) :
    Kept pathReserved c := by
  rcases mem_resolve member with rfl | earlier | later
  · cases inside
  · cases earlier
  · obtain ⟨cut, -, rfl⟩ := List.mem_map.mp later
    exact kept_of_mem_escape (by decide) inside

theorem read_ne_nil (web : Bool) (cs : List Char) : read web cs ≠ [] := by
  apply resolve_ne_nil
  right
  simp [segments, Text.cutAt_ne_nil]

end Path

/-- The authority of a URL that is on the web. -/
structure Authority.Sound (authority : Authority) : Prop where
  username : Settled userReserved authority.username
  password : Settled userReserved authority.password
  hosted : ∃ host, authority.host = some host ∧ host.Sound

/-- A URL that is on the web: a path below an authority. -/
structure Web (url : Url) (authority : Authority) (segments : List String) : Prop where
  place : url.place = .path (some authority) segments
  sound : authority.Sound
  rooted : segments ≠ []
  segments : ∀ segment ∈ segments, Settled pathReserved segment
  query : ∀ query ∈ url.query, Settled webQueryReserved query

theorem sound_of_readAuthority {scheme : String} {more : Bool} {cs rest : List Char}
    {authority : Authority} (web : SchemeKind.of scheme = .web)
    (read : readAuthority scheme more cs = .ok (authority, rest)) : authority.Sound := by
  have domain : (SchemeKind.of scheme != .other) = true := by
    rw [web]
    rfl
  simp only [readAuthority, domain, Bool.true_or, Bool.and_true, if_true] at read
  generalize (cutAtUser cs).1 = user, (cutAtUser cs).2 = address at read
  generalize Text.cutOnce ':' (user.getD []) = names,
    address.take (hostLength false address) = hostText,
    address.drop (hostLength false address) = behind at read
  split at read
  · cases read
  split at read
  · cases read
  next filled =>
  cases found : Host.readDomain hostText with
  | error fault =>
    rw [found] at read
    cases read
  | ok host =>
    -- whether the port is read or missing, it takes no part in what follows
    have escapes : escapeChars.all (Kept userReserved ·) = true := by decide
    have sound (port : Option Nat) : Authority.Sound {
        username := String.ofList (escape userReserved names.1)
        password := String.ofList (escape userReserved (names.2.getD []))
        host := some host
        port } :=
      ⟨settled_escape escapes _, settled_escape escapes _, host, rfl,
        Host.sound_of_readDomain found⟩
    simp only [found, filled, Bool.false_and, bind, Except.bind, pure, Except.pure] at read
    split at read
    · cases read
      exact sound none
    split at read
    · cases read
    · cases read
      exact sound _

theorem readWeb_inv {scheme : String} {more : Bool} {cs : List Char} {place : Place}
    (web : SchemeKind.of scheme = .web) (read : readWeb scheme more cs = .ok place) :
    ∃ authority path, authority.Sound ∧
      place = .path (some authority) ((Path.read true path).map String.ofList) := by
  simp only [readWeb, bind, Except.bind] at read
  split at read
  · cases read
  next found =>
    cases read
    exact ⟨_, _, sound_of_readAuthority web found, rfl⟩

theorem web_of_read {input : String} {url : Url} (read : Url.read input = .ok url)
    (web : SchemeKind.of url.scheme = .web) :
    ∃ authority segments, url.Web authority segments := by
  unfold Url.read at read
  split at read
  · cases read
  next name rest _ =>
    simp only [bind, Except.bind] at read
    -- only now is the scheme known to be the one that decided how the place was read
    have named : url.scheme = String.ofList name := by
      split at read <;> split at read <;> cases read <;> rfl
    rw [named] at web
    simp only [web] at read
    split at read
    · cases read
    next place found =>
      cases read
      obtain ⟨authority, path, sound, rfl⟩ := readWeb_inv web found
      refine ⟨authority, (Path.read true path).map String.ofList, rfl, sound, ?_, ?_, ?_⟩
      · simpa using Path.read_ne_nil true path
      · intro segment member c inside
        obtain ⟨read, taken, rfl⟩ := List.mem_map.mp member
        rw [String.toList_ofList] at inside
        exact Path.kept_of_mem_read taken inside
      · intro query given
        obtain ⟨cs, -, rfl⟩ := Option.map_eq_some_iff.mp given
        exact settled_escape (by decide) cs

end DependencyLinks.Url
