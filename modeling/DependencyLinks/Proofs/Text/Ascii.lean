import DependencyLinks.Proofs.Text.Cut
import DependencyLinks.Proofs.Text.Utf8

/-! ASCII in bytes that need not be text. Whatever breaks off in front of an ASCII byte, the byte is
read as its character, and this character is read from nothing else. So what is looked for in the
lossy text, or cut off there, can be looked for in the bytes. -/

namespace DependencyLinks.Utf8

variable {raw : RawText} {b : UInt8}

theorem continuation_of_ascii (small : b < 0x80) : continuation b = false := by
  have low : b.toNat < 0x80 := small
  rw [Bool.eq_false_iff, ne_eq, continuation_iff]
  omega

theorem secondOfThree_of_ascii (small : b < 0x80) (lead : UInt8) :
    secondOfThree lead b = false := by
  have low : b.toNat < 0x80 := small
  rw [Bool.eq_false_iff, ne_eq, secondOfThree_iff]
  omega

theorem secondOfFour_of_ascii (small : b < 0x80) (lead : UInt8) : secondOfFour lead b = false := by
  have low : b.toNat < 0x80 := small
  rw [Bool.eq_false_iff, ne_eq, secondOfFour_iff]
  omega

/-- An ASCII byte is a piece by itself, wherever the bytes in front of it break off. -/
theorem pieces_append_ascii (front rest : RawText) (small : b < 0x80) :
    pieces (front ++ b :: rest) = pieces front ++ some (Char.ofNat b.toNat) :: pieces rest := by
  have alone := pieces_ascii b rest small
  fun_induction pieces front with
  | case1 => exact alone
  | case4 | case7 | case11 | case12 =>
    -- The bytes in front end inside a character, and this byte cannot go on with it.
    rw [List.cons_append, pieces.eq_def]
    simp [*, continuation_of_ascii small, secondOfThree_of_ascii small,
      secondOfFour_of_ascii small]
  | case2 | case3 | case5 | case6 | case8 | case9 | case10 | case13 | case14 | case15 | case16 =>
    -- The first piece is there without looking as far as this byte.
    simp only [List.cons_append] at *
    rw [pieces.eq_def]
    simp [*]

theorem lossy_append_ascii (front rest : RawText) (small : b < 0x80) :
    lossy (front ++ b :: rest) = lossy front ++ Char.ofNat b.toNat :: lossy rest := by
  simp [lossy, pieces_append_ascii front rest small]

theorem encodeChar_ascii {c : Char} (small : c.toNat < 0x80) :
    String.utf8EncodeChar c = [UInt8.ofNat c.toNat] := by
  have valid : c.toNat.isValidChar := c.valid
  have code := encodeChar_ofNat valid
  rwa [Char.ofNat_toNat, if_pos (Nat.le_of_lt_succ small)] at code

theorem mem_of_mem_lossy {c : Char} (member : c ∈ lossy raw) (small : c.toNat < 0x80) :
    UInt8.ofNat c.toNat ∈ raw := by
  induction length : raw.length using Nat.strongRecOn generalizing raw with
  | ind n ih =>
    by_cases filled : raw = []
    · subst filled
      simp [lossy] at member
    · obtain ⟨piece, behind, begins⟩ := exists_begins filled
      rw [lossy, begins.cut, List.map_cons, List.mem_cons] at member
      rcases member with first | later
      · cases piece with
        | none =>
          subst first
          exact absurd small (by decide)
        | some d =>
          obtain rfl : c = d := first
          rw [begins.encoded c rfl, encodeChar_ascii small]
          exact List.mem_cons_self
      · obtain ⟨front, -, rfl⟩ := begins.front
        exact List.mem_append_right front (ih _ (length ▸ begins.shorter) later rfl)

theorem toNat_ofNat_ascii (small : b < 0x80) : (Char.ofNat b.toNat).toNat = b.toNat := by
  have low : b.toNat < 0x80 := small
  exact toNat_ofNat (.inl (by omega))

theorem ofNat_ascii (small : b < 0x80) : (Char.ofNat b.toNat).toNat < 0x80 := by
  rw [toNat_ofNat_ascii small]
  exact small

theorem mem_lossy_iff (small : b < 0x80) : Char.ofNat b.toNat ∈ lossy raw ↔ b ∈ raw := by
  constructor
  · intro member
    have byte := mem_of_mem_lossy member (ofNat_ascii small)
    rwa [toNat_ofNat_ascii small, UInt8.ofNat_toNat] at byte
  · intro member
    obtain ⟨front, rest, rfl⟩ := List.append_of_mem member
    rw [lossy_append_ascii front rest small]
    exact List.mem_append_right _ List.mem_cons_self

/-- The text in front of the first ASCII character of a kind is read from the bytes in front of the
first such byte. -/
theorem takeWhile_lossy (raw : RawText) (small : b < 0x80) :
    (lossy raw).takeWhile (· != Char.ofNat b.toNat) = lossy (raw.takeWhile (· != b)) := by
  have apart : ∀ {front : RawText}, b ∉ front → Char.ofNat b.toNat ∉ lossy front :=
    fun absent member => absent ((mem_lossy_iff small).mp member)
  by_cases member : b ∈ raw
  · obtain ⟨front, rest, rfl, absent⟩ := List.eq_append_cons_of_mem member
    rw [lossy_append_ascii front rest small, Text.takeWhile_ne_append (apart absent),
      Text.takeWhile_ne_append absent]
  · rw [Text.takeWhile_ne_of_absent (apart member), Text.takeWhile_ne_of_absent member]

/-- A lossy text that is all ASCII is read from its own bytes only. -/
theorem lossy_eq_iff {cs : List Char} (small : ∀ c ∈ cs, c.toNat < 0x80) :
    lossy raw = cs ↔ raw = encode cs := by
  constructor
  · intro read
    obtain ⟨rest, rfl, nothing⟩ := eq_append_of_lossy (read.trans cs.append_nil.symm) small
    rw [eq_nil_of_lossy nothing, List.append_nil]
  · rintro rfl
    exact lossy_encode cs

/-- The same of a text that is checked character by character. -/
theorem lossy_eq_iff_of_all {s : String} (small : s.toList.all (·.toNat < 0x80) = true) :
    lossy raw = s.toList ↔ raw = RawText.ofString s :=
  lossy_eq_iff (by simpa using small)

theorem head?_lossy_iff (small : b < 0x80) :
    (lossy raw).head? = some (Char.ofNat b.toNat) ↔ raw.head? = some b := by
  rw [List.head?_eq_some_iff, List.head?_eq_some_iff]
  constructor
  · rintro ⟨cs, read⟩
    obtain ⟨rest, same, -⟩ := eq_append_of_lossy_cons read (ofNat_ascii small)
    exact ⟨rest, same.trans (by rw [encodeChar_one small]; rfl)⟩
  · rintro ⟨rest, rfl⟩
    exact ⟨lossy rest, lossy_ascii rest small⟩

end DependencyLinks.Utf8
