import DependencyLinks.Proofs.Uri.Authority
import DependencyLinks.Proofs.Url.Escape
import DependencyLinks.Url.Host

/-! The hosts of web URLs, as what they are written with: names in ASCII, four decimal numbers, or
hexadecimal pieces and a few colons in brackets. -/

namespace DependencyLinks.Url

namespace Ipv6

theorem length_of_pieces? {cs : List Char} {pieces : List Nat} (read : pieces? cs = some pieces) :
    pieces.length = 8 := by
  unfold pieces? at read
  split at read
  next =>
    obtain ⟨-, whole⟩ := Option.filter_eq_some_iff.mp read
    simpa using whole
  next =>
    simp only [bind, Option.bind_eq_some_iff] at read
    obtain ⟨head, -, tail, -, filled⟩ := read
    split at filled
    · obtain rfl := Option.some.inj filled
      simp only [List.length_append, List.length_replicate]
      omega
    · cases filled

theorem zeros_le (pieces : List Nat) : zeros pieces ≤ pieces.length :=
  (List.takeWhile_prefix _).length_le

/-- A gap is a part of the pieces. -/
theorem longestGap_le (start : Nat) (pieces : List Nat) :
    (longestGap start pieces).1 + (longestGap start pieces).2 ≤ start + pieces.length := by
  induction pieces generalizing start with
  | nil => simp [longestGap]
  | cons piece rest ih =>
    have here := zeros_le (piece :: rest)
    have later := ih (start + 1)
    rw [List.length_cons] at here ⊢
    rw [longestGap]
    split
    · exact Nat.add_le_add_left here start
    · omega

theorem joined_singleton (piece : Nat) : joined [piece] = Nat.toDigits 16 piece := by
  simp [joined]

theorem joined_cons_cons (piece next : Nat) (rest : List Nat) :
    joined (piece :: next :: rest) = Nat.toDigits 16 piece ++ ':' :: joined (next :: rest) := by
  simp [joined]

theorem hostChar_of_mem_piece {piece : Nat} {c : Char} (member : c ∈ Nat.toDigits 16 piece) :
    Uri.hostChar c = true :=
  Uri.hostChar_of_mem_toDigits (by decide) (by decide) member

theorem rowChar_of_mem_joined {pieces : List Nat} {c : Char} (member : c ∈ joined pieces) :
    Uri.rowChar c = true := by
  induction pieces with
  | nil => simp [joined] at member
  | cons piece rest ih =>
    cases rest with
    | nil =>
      rw [joined_singleton] at member
      exact Uri.rowChar_of_hostChar (hostChar_of_mem_piece member)
    | cons next rest =>
      rw [joined_cons_cons, List.mem_append, List.mem_cons] at member
      rcases member with digit | rfl | later
      · exact Uri.rowChar_of_hostChar (hostChar_of_mem_piece digit)
      · decide
      · exact ih later

theorem count_joined (pieces : List Nat) : (joined pieces).count ':' = pieces.length - 1 := by
  induction pieces with
  | nil => simp [joined]
  | cons piece rest ih =>
    have digits : (Nat.toDigits 16 piece).count ':' = 0 :=
      Uri.count_colon_of_hostChar fun _ => hostChar_of_mem_piece
    cases rest with
    | nil => rw [joined_singleton, digits, List.length_singleton]
    | cons next rest =>
      rw [joined_cons_cons, List.count_append, List.count_cons_self, digits, ih]
      simp

theorem rowChar_of_mem_text {pieces : List Nat} {c : Char} (member : c ∈ text pieces) :
    Uri.rowChar c = true := by
  rcases longest : longestGap 0 pieces with ⟨start, length⟩
  simp only [text, longest] at member
  split at member
  · exact rowChar_of_mem_joined member
  · simp only [List.mem_append, List.mem_cons, List.not_mem_nil, or_false, or_self] at member
    rcases member with (before | rfl) | behind
    · exact rowChar_of_mem_joined before
    · decide
    · exact rowChar_of_mem_joined behind

/-- The two colons of a gap stand for at least two pieces. -/
theorem count_text {pieces : List Nat} (whole : pieces.length = 8) :
    (text pieces).count ':' ≤ 8 := by
  rcases longest : longestGap 0 pieces with ⟨start, length⟩
  have inside := longestGap_le 0 pieces
  rw [longest] at inside
  simp only [text, longest]
  split
  · rw [count_joined]
    omega
  · -- of the pieces on both sides together at least two are missing
    have marks : [':', ':'].count ':' = 2 := by decide
    rw [List.count_append, List.count_append, count_joined, count_joined, marks, List.length_take,
      List.length_drop]
    omega

end Ipv6

theorem Ipv4.hostChar_of_mem_text {address : Nat} {c : Char} (member : c ∈ Ipv4.text address) :
    Uri.hostChar c = true := by
  have byte {n : Nat} (digit : c ∈ Nat.toDigits 10 n) : Uri.hostChar c = true :=
    Uri.hostChar_of_mem_toDigits (by decide) (by decide) digit
  simp only [Ipv4.text, List.mem_append, List.mem_cons] at member
  rcases member with ((first | rfl | second) | rfl | third) | rfl | fourth
  · exact byte first
  · decide
  · exact byte second
  · decide
  · exact byte third
  · decide
  · exact byte fourth

namespace Host

/-- A host as web URLs have it, international names in ASCII included. -/
inductive Sound : Host → Prop where
  | name {text : String} (filled : text ≠ "")
      (free : text.toList.any forbiddenInDomain = false) : Sound (.name text)
  | ipv4 (address : Nat) : Sound (.ipv4 address)
  | ipv6 {pieces : List Nat} (whole : pieces.length = 8) : Sound (.ipv6 pieces)

theorem sound_of_bracketed {cs : List Char} {host : Host} (read : bracketed cs = .ok host) :
    host.Sound := by
  unfold bracketed at read
  split at read
  · unfold Ipv6.read at read
    split at read
    next pieces found =>
      obtain rfl := Except.ok.inj read
      exact .ipv6 (Ipv6.length_of_pieces? found)
    next => cases read
  · cases read

theorem sound_of_readDomain {cs : List Char} {host : Host} (read : readDomain cs = .ok host) :
    host.Sound := by
  unfold readDomain at read
  split at read
  next => exact sound_of_bracketed read
  next =>
    dsimp only at read
    split_ifs at read with taboo blank number
    · cases found : Ipv4.read ((Utf8.lossy (unescape cs)).map Char.toLower) with
      | error fault =>
        rw [found] at read
        cases read
      | ok address =>
        rw [found] at read
        obtain rfl := Except.ok.inj read
        exact .ipv4 address
    · obtain rfl := Except.ok.inj read
      refine .name ?_ ?_
      · intro nothing
        rw [String.ofList_eq_empty_iff] at nothing
        exact blank (by rw [nothing]; rfl)
      · rwa [String.toList_ofList, ← Bool.not_eq_true]

end Host

end DependencyLinks.Url
