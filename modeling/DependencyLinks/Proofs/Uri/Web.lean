import DependencyLinks.Proofs.Uri.Read
import DependencyLinks.Proofs.Url.Web

/-! The text of a URL that is on the web, read as an address. Only its host can be refused. -/

namespace DependencyLinks.Url

variable {c : Char}

theorem rowChar_of_kept (kept : Kept userReserved c) : Uri.rowChar c = true ∧ c ≠ ':' := by
  have all : printable.all fun c => Kept userReserved c → Uri.rowChar c = true ∧ c ≠ ':' := by decide
  exact of_shown all kept.1 kept

theorem pathChar_of_kept (kept : Kept pathReserved c) : Uri.pathChar c = true := by
  have all : printable.all fun c => Kept pathReserved c → Uri.pathChar c = true := by decide
  exact of_shown all kept.1 kept

theorem queryChar_of_kept (kept : Kept webQueryReserved c) : Uri.queryChar c = true := by
  have all : printable.all fun c => Kept webQueryReserved c → Uri.queryChar c = true := by decide
  exact of_shown all kept.1 kept

namespace Host

theorem hostChar_or_odd (free : forbiddenInDomain c = false) :
    Uri.hostChar c = true ∨ Uri.odd c = true := by
  have all : printable.all fun c => forbiddenInDomain c = false →
      Uri.hostChar c = true ∨ Uri.odd c = true := by decide
  have shown : control c = false := by
    simp only [forbiddenInDomain, Bool.or_eq_false_iff] at free
    exact free.1.1
  exact of_shown all shown free

/-- A host is a name, in which odd characters may be, or an address in brackets. -/
theorem Sound.text_cases {host : Host} (sound : host.Sound) :
    (host.text ≠ [] ∧ ∀ c ∈ host.text, Uri.hostChar c = true ∨ Uri.odd c = true) ∨
      ∃ inner, host.text = '[' :: inner ++ [']'] ∧ (∀ c ∈ inner, Uri.rowChar c = true) ∧
        inner.count ':' ≤ 8 := by
  cases sound with
  | name filled free =>
    exact .inl ⟨by simpa [text] using filled, fun c member =>
      hostChar_or_odd (Bool.not_eq_true _ ▸ List.any_eq_false.mp free c member)⟩
  | ipv4 address =>
    refine .inl ⟨?_, fun c member => .inl (Ipv4.hostChar_of_mem_text member)⟩
    simp [text, Ipv4.text]
  | ipv6 whole =>
    exact .inr ⟨_, rfl, fun c => Ipv6.rowChar_of_mem_text, Ipv6.count_text whole⟩

end Host

namespace Authority

variable {authority : Authority}

/-- The user as it is written in front of the at sign. -/
def user (authority : Authority) : List Char :=
  authority.username.toList ++
    (if authority.password = "" then [] else ':' :: authority.password.toList)

theorem text_eq {host : Host} (hosted : authority.host = some host) :
    authority.text =
      Uri.userText authority.user ++ (host.text ++ Uri.portText authority.port) := by
  change Uri.userText authority.user ++ (authority.host.map Host.text).getD [] ++
    Uri.portText authority.port = _
  rw [hosted, List.append_assoc]
  rfl

theorem Sound.rowChar_of_mem_user (sound : authority.Sound) (member : c ∈ authority.user) :
    Uri.rowChar c = true := by
  rw [user, List.mem_append] at member
  rcases member with name | secret
  · exact (rowChar_of_kept (sound.username c name)).1
  · split at secret
    · cases secret
    · rcases List.mem_cons.mp secret with rfl | secret
      · decide
      · exact (rowChar_of_kept (sound.password c secret)).1

theorem Sound.count_user (sound : authority.Sound) : authority.user.count ':' ≤ 1 := by
  have apart {part : String} (settled : Settled userReserved part) : part.toList.count ':' = 0 :=
    List.count_eq_zero.mpr fun member => (rowChar_of_kept (settled ':' member)).2 rfl
  rw [user, List.count_append, apart sound.username]
  split
  · simp
  · rw [List.count_cons_self, apart sound.password]

theorem Sound.checkAuthority (sound : authority.Sound) {host : Host}
    (hosted : authority.host = some host) (good : host.Sound) :
    Uri.checkAuthority authority.text =
      if host.text.any Uri.odd then .error .character else .ok () := by
  have row : ∀ c ∈ authority.user, Uri.rowChar c = true := fun c => sound.rowChar_of_mem_user
  have few : authority.user.count ':' ≤ 8 := sound.count_user.trans (by decide)
  rw [text_eq hosted]
  rcases good.text_cases with ⟨filled, name⟩ | ⟨inner, bracketed, inside, colons⟩
  · split
    next foreign => exact Uri.checkAuthority_odd row few name (List.any_eq_true.mp foreign)
    next familiar =>
      refine Uri.checkAuthority_name row few (fun c member => ?_) filled
      refine (name c member).resolve_right fun strange => familiar ?_
      exact List.any_eq_true.mpr ⟨c, member, strange⟩
  · -- brackets hold digits and colons only, so no character of theirs is odd
    have familiar : ('[' :: inner ++ [']']).any Uri.odd = false := by
      have plain : inner.any Uri.odd = false :=
        List.any_eq_false.mpr fun c member => by simp [Uri.odd_of_rowChar (inside c member)]
      rw [List.any_append, List.any_cons, plain]
      decide
    rw [bracketed, familiar]
    exact Uri.checkAuthority_bracketed row few inside colons

theorem Sound.authorityEnd_of_mem_text (sound : authority.Sound) (member : c ∈ authority.text) :
    Uri.authorityEnd c = false := by
  obtain ⟨host, hosted, good⟩ := sound.hosted
  simp only [text_eq hosted, List.mem_append] at member
  rcases member with user | address | port
  · rcases Uri.mem_userText user with user | rfl
    · exact Uri.authorityEnd_of_rowChar (sound.rowChar_of_mem_user user)
    · decide
  · rcases good.text_cases with ⟨-, name⟩ | ⟨inner, bracketed, inside, -⟩
    · rcases name c address with host | foreign
      · exact Uri.authorityEnd_of_rowChar (Uri.rowChar_of_hostChar host)
      · exact Uri.authorityEnd_of_odd foreign
    · simp only [bracketed, List.mem_append, List.mem_cons, List.not_mem_nil, or_false] at address
      rcases address with (rfl | within) | rfl
      · decide
      · exact Uri.authorityEnd_of_rowChar (inside c within)
      · decide
  · exact Uri.authorityEnd_of_rowChar (Uri.rowChar_of_mem_portText port)

theorem Sound.text_ne_nil (sound : authority.Sound) : authority.text ≠ [] := by
  obtain ⟨host, hosted, good⟩ := sound.hosted
  have filled : host.text ≠ [] := by
    rcases good.text_cases with ⟨filled, -⟩ | ⟨inner, bracketed, -⟩
    · exact filled
    · simp [bracketed]
  simp [text_eq hosted, filled]

end Authority

/-- The host as it is written, if there is one. -/
def hostText (url : Url) : List Char :=
  match url.place with
  | .path (some authority) _ => (authority.host.map Host.text).getD []
  | _ => []

/-- What a URL on the web is as an address: its fragment is left out. -/
def address (url : Url) : Uri where
  scheme := some url.scheme
  authority :=
    match url.place with
    | .path authority _ => authority.map (String.ofList ·.text)
    | .plain _ => none
  target :=
    match url.place with
    | .path _ segments => some (String.ofList (segmentsText segments ++ Uri.opened '?' url.query))
    | .plain _ => none

theorem pathChar_of_mem_segmentsText {segments : List String}
    (settled : ∀ segment ∈ segments, Settled pathReserved segment)
    (member : c ∈ segmentsText segments) : Uri.pathChar c = true := by
  obtain ⟨segment, inside, member⟩ := List.mem_flatMap.mp member
  rcases List.mem_cons.mp member with rfl | member
  · decide
  · exact pathChar_of_kept (settled segment inside c member)

namespace Web

variable {url : Url} {authority : Authority} {segments : List String}

theorem toList_text (web : url.Web authority segments) :
    url.text.toList = url.scheme.toList ++ ':' :: '/' :: '/' ::
      (authority.text ++
        (segmentsText segments ++ Uri.opened '?' url.query ++ Uri.opened '#' url.fragment)) := by
  simp only [text, String.toList_ofList, web.place, Place.text, List.append_assoc,
    List.cons_append]
  rfl

theorem readTarget (web : url.Web authority segments) :
    Uri.readTarget
        (segmentsText segments ++ Uri.opened '?' url.query ++ Uri.opened '#' url.fragment) =
      .ok (String.ofList (segmentsText segments ++ Uri.opened '?' url.query)) :=
  Uri.readTarget_parts (fun _ => pathChar_of_mem_segmentsText web.segments)
    (fun query given c member => queryChar_of_kept (web.query query given c member)) url.fragment

theorem hostText_eq (web : url.Web authority segments) {host : Host}
    (hosted : authority.host = some host) : url.hostText = host.text := by
  simp [hostText, web.place, hosted]

/-- The address of a URL can be read back from its text, unless this is too long or its host holds
an odd character. -/
theorem read_text (web : url.Web authority segments)
    (named : ∀ c ∈ url.scheme.toList, Uri.schemeChar c = true)
    (short : url.scheme.toList.length ≤ 64) (fits : url.text.utf8ByteSize ≤ Uri.capacity) :
    Uri.read url.text =
      if url.hostText.any Uri.odd then .error .character else .ok url.address := by
  obtain ⟨host, hosted, good⟩ := web.sound.hosted
  have rooted : (segmentsText segments ++ Uri.opened '?' url.query ++
      Uri.opened '#' url.fragment).head? = some '/' := by
    obtain ⟨first, rest, same⟩ := List.exists_cons_of_ne_nil web.rooted
    rw [same]
    rfl
  rw [Uri.read_of_parts fits web.toList_text named short
    (fun _ => web.sound.authorityEnd_of_mem_text) web.sound.text_ne_nil rooted,
    web.sound.checkAuthority hosted good, web.readTarget, web.hostText_eq hosted]
  split
  · rfl
  · simp only [address, web.place, String.ofList_toList]
    rfl

end Web

end DependencyLinks.Url
