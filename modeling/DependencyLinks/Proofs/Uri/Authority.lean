import DependencyLinks.Proofs.Text.Hexadecimal
import DependencyLinks.Uri
import Mathlib.Tactic.SplitIfs

/-! The scan of an authority, a row of characters at a time. Only brackets and the at sign change
more than the counts. -/

namespace DependencyLinks.Uri

/-- Adds to what has been seen and starts nothing new: all that may stand in an authority, but for
brackets and the at sign. -/
def rowChar (c : Char) : Bool :=
  (plain c || c == '%') && !(['[', ']', '@'].contains c)

/-- Stands in the name of a host. -/
def hostChar (c : Char) : Bool :=
  rowChar c && c != ':' && c != '%'

/-- Stands in the name of a host by the grammar of URLs, but in no authority. -/
def odd (c : Char) : Bool :=
  ['"', '\x60', '\x7b', '\x7d'].contains c

/-- A port behind its colon, if there is one. -/
def portText (port : Option Nat) : List Char :=
  (port.map fun port => ':' :: Nat.toDigits 10 port).getD []

/-- A user in front of an at sign, if there is one. -/
def userText (user : List Char) : List Char :=
  if user.isEmpty then [] else user ++ ['@']

variable {cs : List Char} {c : Char}

theorem rowChar_of_hostChar (host : hostChar c = true) : rowChar c = true := by
  simp only [hostChar, Bool.and_eq_true] at host
  exact host.1.1

theorem count_colon_of_hostChar (host : ∀ c ∈ cs, hostChar c = true) : cs.count ':' = 0 := by
  rw [List.count_eq_zero]
  exact fun member => absurd (host ':' member) (by decide)

theorem percent_not_mem_of_hostChar (host : ∀ c ∈ cs, hostChar c = true) : '%' ∉ cs :=
  fun member => absurd (host '%' member) (by decide)

theorem hostChar_of_mem_toDigits {base n : Nat} (several : 1 < base) (few : base ≤ 16)
    (member : c ∈ Nat.toDigits base n) : hostChar c = true :=
  Text.of_mem_toDigits (p := (hostChar · = true)) (by decide) several few member

theorem odd_cases (foreign : odd c = true) : c = '"' ∨ c = '\x60' ∨ c = '\x7b' ∨ c = '\x7d' := by
  simpa [odd] using foreign

theorem odd_of_rowChar (row : rowChar c = true) : odd c = false := by
  rw [← Bool.not_eq_true]
  intro foreign
  rcases odd_cases foreign with rfl | rfl | rfl | rfl <;> cases row

theorem authorityEnd_of_rowChar (row : rowChar c = true) : authorityEnd c = false := by
  rw [← Bool.not_eq_true]
  intro ends
  simp only [authorityEnd, Bool.or_eq_true, beq_iff_eq] at ends
  rcases ends with (rfl | rfl) | rfl <;> cases row

theorem authorityEnd_of_odd (foreign : odd c = true) : authorityEnd c = false := by
  rcases odd_cases foreign with rfl | rfl | rfl | rfl <;> rfl

theorem mem_userText {user : List Char} (member : c ∈ userText user) : c ∈ user ∨ c = '@' := by
  unfold userText at member
  split at member
  · cases member
  · simpa using member

theorem rowChar_of_mem_portText {port : Option Nat} (member : c ∈ portText port) :
    rowChar c = true := by
  cases port with
  | none => cases member
  | some n =>
    rcases List.mem_cons.mp member with rfl | digit
    · decide
    · exact rowChar_of_hostChar (hostChar_of_mem_toDigits (by decide) (by decide) digit)

namespace AuthorityScan

variable {scan : AuthorityScan}

theorem step_row (row : rowChar c = true) (few : c = ':' → scan.colons < 8) :
    scan.step c = .ok { scan with
      colons := scan.colons + [c].count ':'
      escaped := scan.escaped || [c].contains '%'
      last := some c } := by
  simp only [rowChar, Bool.and_eq_true, Bool.or_eq_true, beq_iff_eq, Bool.not_eq_true',
    List.contains_eq_mem, List.mem_cons, List.not_mem_nil, or_false, decide_eq_false_iff_not,
    not_or] at row
  obtain ⟨shown, opens, closes, user⟩ := row
  unfold step
  split_ifs with percent foreign colon full
  case pos => simp [percent]
  case pos => simp_all
  case pos => exact absurd (few colon) (by omega)
  case neg => simp [colon]
  case neg => simp [colon, Ne.symm percent]

/-- A row adds its colons and escapes, and ends with its last character. -/
theorem foldlM_row (row : ∀ c ∈ cs, rowChar c = true) (few : scan.colons + cs.count ':' ≤ 8) :
    cs.foldlM step scan = .ok { scan with
      colons := scan.colons + cs.count ':'
      escaped := scan.escaped || cs.contains '%'
      last := cs.getLast?.or scan.last } := by
  induction cs generalizing scan with
  | nil => simp; rfl
  | cons c cs ih =>
    rw [List.forall_mem_cons] at row
    rw [← List.singleton_append, List.count_append] at few ⊢
    have first : scan.step c = _ := step_row row.1 (by rintro rfl; simp at few; omega)
    rw [List.singleton_append, List.foldlM_cons, first]
    simp only [bind, Except.bind]
    rw [ih row.2 (by simp only; omega)]
    simp [List.getLast?_cons, Nat.add_assoc, Bool.or_assoc]

theorem step_open {scan : AuthorityScan} (unescaped : scan.escaped = false)
    (unopened : scan.opened = false) :
    scan.step '[' = .ok { scan with opened := true, last := some '[' } := by
  have shown : plain '[' = true := by decide
  simp [step, shown, unescaped, unopened]

theorem step_close {scan : AuthorityScan} (opened : scan.opened = true)
    (unclosed : scan.closed = false) :
    scan.step ']' =
      .ok { scan with closed := true, colons := 0, escaped := false, last := some ']' } := by
  have shown : plain ']' = true := by decide
  simp [step, shown, opened, unclosed]

theorem step_odd (foreign : odd c = true) : scan.step c = .error .character := by
  rcases odd_cases foreign with rfl | rfl | rfl | rfl <;> rfl

/-- What is in front of an at sign does not count any more behind it. -/
theorem foldlM_user {user : List Char} (row : ∀ c ∈ user, rowChar c = true)
    (few : user.count ':' ≤ 8) :
    (user ++ ['@']).foldlM step {} = .ok { last := some '@' } := by
  rw [List.foldlM_append, foldlM_row row (by simpa using few)]
  rfl

/-- An authority may end in a row that opens a port once and has no escape. -/
theorem finish_row {closed : Bool} {last : Option Char} (row : ∀ c ∈ cs, rowChar c = true)
    (few : cs.count ':' ≤ 1) (unescaped : '%' ∉ cs) (ended : cs ≠ [] ∨ last ≠ some '@') :
    cs.foldlM step { opened := closed, closed, last } >>= finish = .ok () := by
  have place : (cs.getLast?.or last == some '@') = false := by
    rw [beq_eq_false_iff_ne]
    cases found : cs.getLast? with
    | none =>
      rw [List.getLast?_eq_none_iff] at found
      exact ended.resolve_left (fun filled => filled found)
    | some c =>
      rintro same
      obtain rfl := Option.some.inj same
      exact absurd (row _ (List.mem_of_getLast? found)) (by decide)
  rw [foldlM_row row (by simp only; omega)]
  simp only [bind, Except.bind, finish, place]
  simp [unescaped]
  omega

/-- An authority may end in the name of a host, or behind its brackets, with a port or without
one. -/
theorem finish_host {closed : Bool} {last : Option Char} (host : ∀ c ∈ cs, hostChar c = true)
    (ended : cs ≠ [] ∨ last ≠ some '@') (port : Option Nat) :
    (cs ++ portText port).foldlM step { opened := closed, closed, last } >>= finish = .ok () := by
  have row : ∀ c ∈ cs, rowChar c = true := fun c member => rowChar_of_hostChar (host c member)
  have colons := count_colon_of_hostChar host
  have percent := percent_not_mem_of_hostChar host
  cases port with
  | none =>
    simp only [portText, Option.map_none, Option.getD_none, List.append_nil]
    exact finish_row row (by omega) percent ended
  | some n =>
    have digits : ∀ c ∈ Nat.toDigits 10 n, hostChar c = true := fun c =>
      hostChar_of_mem_toDigits (by decide) (by decide)
    simp only [portText, Option.map_some, Option.getD_some]
    apply finish_row
    · simp only [List.forall_mem_append, List.forall_mem_cons]
      exact ⟨row, rfl, fun c member => rowChar_of_hostChar (digits c member)⟩
    · simp [colons, count_colon_of_hostChar digits]
    · simp [percent, percent_not_mem_of_hostChar digits]
    · exact .inl (by simp)

/-- The first character that no authority may hold ends the scan. -/
theorem foldlM_odd (name : ∀ c ∈ cs, hostChar c = true ∨ odd c = true)
    (foreign : ∃ c ∈ cs, odd c = true) : cs.foldlM step scan = .error .character := by
  induction cs generalizing scan with
  | nil => simp at foreign
  | cons c cs ih =>
    rw [List.forall_mem_cons] at name
    rw [List.foldlM_cons]
    rcases name.1 with host | here
    · have later : ∃ c ∈ cs, odd c = true := by
        obtain ⟨d, member, strange⟩ := foreign
        rcases List.mem_cons.mp member with rfl | behind
        · rw [odd_of_rowChar (rowChar_of_hostChar host)] at strange
          cases strange
        · exact ⟨d, behind, strange⟩
      rw [step_row (rowChar_of_hostChar host) (by rintro rfl; cases host)]
      exact ih name.2 later
    · rw [step_odd here]
      rfl

end AuthorityScan

open AuthorityScan

section

variable {user host : List Char} {port : Option Nat}

theorem checkAuthority_append (row : ∀ c ∈ user, rowChar c = true) (few : user.count ':' ≤ 8)
    (rest : List Char) :
    ∃ last, checkAuthority (userText user ++ rest) = rest.foldlM step { last } >>= finish := by
  unfold userText
  split
  next => exact ⟨none, rfl⟩
  next =>
    refine ⟨some '@', ?_⟩
    rw [checkAuthority, List.foldlM_append, foldlM_user row few]
    rfl

theorem checkAuthority_name (row : ∀ c ∈ user, rowChar c = true) (few : user.count ':' ≤ 8)
    (name : ∀ c ∈ host, hostChar c = true) (filled : host ≠ []) :
    checkAuthority (userText user ++ (host ++ portText port)) = .ok () := by
  obtain ⟨last, scanned⟩ := checkAuthority_append row few (host ++ portText port)
  rw [scanned]
  exact @finish_host _ false last name (.inl filled) port

theorem checkAuthority_odd (row : ∀ c ∈ user, rowChar c = true) (few : user.count ':' ≤ 8)
    (name : ∀ c ∈ host, hostChar c = true ∨ odd c = true) (foreign : ∃ c ∈ host, odd c = true) :
    checkAuthority (userText user ++ (host ++ portText port)) = .error .character := by
  obtain ⟨last, scanned⟩ := checkAuthority_append row few (host ++ portText port)
  rw [scanned, List.foldlM_append, foldlM_odd name foreign]
  rfl

/-- An address in brackets may hold a few colons. -/
theorem checkAuthority_bracketed {inner : List Char} (row : ∀ c ∈ user, rowChar c = true)
    (few : user.count ':' ≤ 8) (inside : ∀ c ∈ inner, rowChar c = true)
    (colons : inner.count ':' ≤ 8) :
    checkAuthority (userText user ++ ('[' :: inner ++ [']'] ++ portText port)) = .ok () := by
  obtain ⟨last, scanned⟩ :=
    checkAuthority_append row few ('[' :: inner ++ [']'] ++ portText port)
  have bracketed : ('[' :: inner ++ [']']).foldlM step { last } =
      .ok { opened := true, closed := true, last := some ']' } := by
    rw [List.foldlM_append, List.foldlM_cons, step_open rfl rfl]
    change inner.foldlM step { opened := true, last := some '[' } >>= _ = _
    rw [foldlM_row inside (by simpa using colons)]
    simp only [bind, Except.bind, List.foldlM_cons]
    rw [step_close rfl rfl]
    rfl
  rw [scanned, List.foldlM_append, bracketed]
  exact @finish_host [] true (some ']') nofun (.inr (by decide)) port

end

end DependencyLinks.Uri
