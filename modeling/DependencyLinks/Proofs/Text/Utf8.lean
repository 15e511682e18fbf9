import DependencyLinks.Text.Utf8

/-! Where the characters that are read from bytes come from. -/

namespace DependencyLinks.Utf8

theorem encode_cons (c : Char) (cs : List Char) :
    encode (c :: cs) = String.utf8EncodeChar c ++ encode cs :=
  List.flatMap_cons

theorem toNat_ofNat {code : Nat} (valid : code.isValidChar) : (Char.ofNat code).toNat = code := by
  rw [Char.ofNat, dif_pos valid]
  rfl

/-- The encoding in terms of the code of the character. -/
theorem encodeChar_ofNat {code : Nat} (valid : code.isValidChar) :
    String.utf8EncodeChar (Char.ofNat code) =
      if code ≤ 0x7F then [UInt8.ofNat code]
      else if code ≤ 0x7FF then
        [UInt8.ofNat (code / 64 % 32 + 0xC0), UInt8.ofNat (code % 64 + 0x80)]
      else if code ≤ 0xFFFF then
        [UInt8.ofNat (code / 4096 % 16 + 0xE0), UInt8.ofNat (code / 64 % 64 + 0x80),
          UInt8.ofNat (code % 64 + 0x80)]
      else
        [UInt8.ofNat (code / 262144 % 8 + 0xF0), UInt8.ofNat (code / 4096 % 64 + 0x80),
          UInt8.ofNat (code / 64 % 64 + 0x80), UInt8.ofNat (code % 64 + 0x80)] := by
  have same : (Char.ofNat code).val.toNat = code := toNat_ofNat valid
  simp only [String.utf8EncodeChar, same]

theorem encodeChar_one {a : UInt8} (small : a < 0x80) :
    String.utf8EncodeChar (Char.ofNat a.toNat) = [a] := by
  have bound : a.toNat < 0x80 := small
  rw [encodeChar_ofNat (.inl (by omega)), if_pos (by omega), UInt8.ofNat_toNat]

/-- A character that is one byte occurs in an encoding only as itself. -/
theorem toNat_eq_of_mem_encodeChar {b : UInt8} {c : Char} (member : b ∈ String.utf8EncodeChar c)
    (small : b < 0x80) : c.toNat = b.toNat := by
  have bound : b.toNat < 0x80 := small
  have valid : c.toNat.isValidChar := c.valid
  -- Every byte of a longer encoding has its high bit set.
  have low : ∀ n, 0x80 ≤ n → n < 256 → b ≠ UInt8.ofNat n := by
    intro n high byte same
    rw [same, UInt8.toNat_ofNat'] at bound
    omega
  rw [← Char.ofNat_toNat c, encodeChar_ofNat valid] at member
  split at member
  next one =>
    rw [List.mem_singleton.mp member, UInt8.toNat_ofNat']
    omega
  next more =>
  simp only [apply_ite (b ∈ ·), List.mem_cons, List.not_mem_nil, or_false] at member
  exfalso
  split at member
  next two =>
    rcases member with lead | second
    · exact low _ (by omega) (by omega) lead
    · exact low _ (by omega) (by omega) second
  next more =>
  split at member
  next three =>
    rcases member with lead | second | third
    · exact low _ (by omega) (by omega) lead
    · exact low _ (by omega) (by omega) second
    · exact low _ (by omega) (by omega) third
  next four =>
    rcases member with lead | second | third | fourth
    · exact low _ (by omega) (by omega) lead
    · exact low _ (by omega) (by omega) second
    · exact low _ (by omega) (by omega) third
    · exact low _ (by omega) (by omega) fourth

theorem not_mem_encode {b : UInt8} {cs : List Char} (small : b < 0x80)
    (absent : ∀ c ∈ cs, c.toNat ≠ b.toNat) : b ∉ encode cs := by
  intro member
  obtain ⟨c, inside, byte⟩ := List.mem_flatMap.mp member
  exact absent c inside (toNat_eq_of_mem_encodeChar byte small)

theorem ofNat_eq {n : Nat} {b : UInt8} (same : n = b.toNat) : UInt8.ofNat n = b := by
  rw [same, UInt8.ofNat_toNat]

theorem continuation_iff {b : UInt8} :
    continuation b = true ↔ 0x80 ≤ b.toNat ∧ b.toNat ≤ 0xBF := by
  simp [continuation, UInt8.le_iff_toNat_le]

/-- A second byte whose least value is raised behind one lead, and whose most is lowered behind
another. -/
theorem second_iff {a b low high least most : UInt8} (wide : 0x80 ≤ least.toNat)
    (narrow : most.toNat ≤ 0xBF) (apart : low ≠ high) :
    (if a == low then least ≤ b && b ≤ 0xBF
      else if a == high then 0x80 ≤ b && b ≤ most
      else continuation b) = true ↔
    (0x80 ≤ b.toNat ∧ b.toNat ≤ 0xBF) ∧ (a.toNat = low.toNat → least.toNat ≤ b.toNat) ∧
      (a.toNat = high.toNat → b.toNat ≤ most.toNat) := by
  simp only [UInt8.toNat_inj]
  by_cases first : a = low
  · subst first
    simp [apart, UInt8.le_iff_toNat_le]
    omega
  · by_cases last : a = high
    · subst last
      simp [first, UInt8.le_iff_toNat_le]
      omega
    · simp [first, last, continuation_iff]

theorem secondOfThree_iff {a b : UInt8} :
    secondOfThree a b = true ↔ (0x80 ≤ b.toNat ∧ b.toNat ≤ 0xBF) ∧
      (a.toNat = 0xE0 → 0xA0 ≤ b.toNat) ∧ (a.toNat = 0xED → b.toNat ≤ 0x9F) :=
  second_iff (by decide) (by decide) (by decide)

theorem secondOfFour_iff {a b : UInt8} :
    secondOfFour a b = true ↔ (0x80 ≤ b.toNat ∧ b.toNat ≤ 0xBF) ∧
      (a.toNat = 0xF0 → 0x90 ≤ b.toNat) ∧ (a.toNat = 0xF4 → b.toNat ≤ 0x8F) :=
  second_iff (by decide) (by decide) (by decide)

theorem encodeChar_two {a b : UInt8} (above : 0xC2 ≤ a.toNat) (below : a.toNat < 0xE0)
    (second : continuation b = true) :
    String.utf8EncodeChar (Char.ofNat (a.toNat % 32 * 64 + payload b)) = [a, b] := by
  have := continuation_iff.mp second
  unfold payload
  rw [encodeChar_ofNat (.inl (by omega)), if_neg (by omega), if_pos (by omega),
    ofNat_eq (b := a) (by omega), ofNat_eq (b := b) (by omega)]

theorem encodeChar_three {a b c : UInt8} (above : 0xE0 ≤ a.toNat) (below : a.toNat < 0xF0)
    (second : secondOfThree a b = true) (third : continuation c = true) :
    String.utf8EncodeChar (Char.ofNat (a.toNat % 16 * 4096 + payload b * 64 + payload c)) =
      [a, b, c] := by
  have := secondOfThree_iff.mp second
  have := continuation_iff.mp third
  unfold payload
  rw [encodeChar_ofNat (by unfold Nat.isValidChar; omega), if_neg (by omega), if_neg (by omega),
    if_pos (by omega), ofNat_eq (b := a) (by omega), ofNat_eq (b := b) (by omega),
    ofNat_eq (b := c) (by omega)]

theorem encodeChar_four {a b c d : UInt8} (above : 0xF0 ≤ a.toNat) (below : a.toNat ≤ 0xF4)
    (second : secondOfFour a b = true) (third : continuation c = true)
    (fourth : continuation d = true) :
    String.utf8EncodeChar (Char.ofNat (a.toNat % 8 * 262144 + payload b * 4096 +
      payload c * 64 + payload d)) = [a, b, c, d] := by
  have := secondOfFour_iff.mp second
  have := continuation_iff.mp third
  have := continuation_iff.mp fourth
  unfold payload
  rw [encodeChar_ofNat (by unfold Nat.isValidChar; omega), if_neg (by omega), if_neg (by omega),
    if_neg (by omega), ofNat_eq (b := a) (by omega), ofNat_eq (b := b) (by omega),
    ofNat_eq (b := c) (by omega), ofNat_eq (b := d) (by omega)]

/-- How a byte string is cut: its first piece, and the bytes behind it. A piece that is a character
stands for the bytes of that character. -/
structure Begins (raw : RawText) (piece : Option Char) (behind : RawText) : Prop where
  cut : pieces raw = piece :: pieces behind
  front : ∃ front, front ≠ [] ∧ raw = front ++ behind
  encoded : ∀ c, piece = some c → raw = String.utf8EncodeChar c ++ behind

theorem Begins.shorter {raw behind : RawText} {piece : Option Char}
    (begins : Begins raw piece behind) : behind.length < raw.length := by
  obtain ⟨front, filled, rfl⟩ := begins.front
  have := List.length_pos_iff.mpr filled
  rw [List.length_append]
  omega

theorem begins_broken {a : UInt8} {behind : RawText} (more : RawText)
    (cut : pieces (a :: (more ++ behind)) = none :: pieces behind) :
    ∃ piece rest, Begins (a :: (more ++ behind)) piece rest :=
  ⟨none, behind, cut, ⟨a :: more, List.cons_ne_nil a more, rfl⟩, nofun⟩

theorem begins_end {raw : RawText} (filled : raw ≠ []) (cut : pieces raw = [none]) :
    ∃ piece behind, Begins raw piece behind := by
  rw [← pieces_nil] at cut
  exact ⟨none, [], cut, ⟨raw, filled, raw.append_nil.symm⟩, nofun⟩

theorem begins_whole {raw front behind : RawText} {c : Char}
    (cut : pieces raw = some c :: pieces behind) (encoded : String.utf8EncodeChar c = front)
    (same : raw = front ++ behind) : ∃ piece behind, Begins raw piece behind := by
  subst encoded
  refine ⟨some c, behind, cut, ⟨_, String.utf8EncodeChar_ne_nil, same⟩, ?_⟩
  rintro _ ⟨⟩
  exact same

theorem exists_begins {raw : RawText} (filled : raw ≠ []) :
    ∃ piece behind, Begins raw piece behind := by
  have cut := pieces.eq_def raw
  simp only [Bool.or_eq_true, decide_eq_true_eq, UInt8.lt_iff_toNat_lt] at cut
  split at cut
  · contradiction
  next a rest =>
  split at cut
  next small => exact begins_whole cut (encodeChar_one small) rfl
  next large =>
  split at cut
  · exact begins_broken [] cut
  next lead =>
  split at cut
  · exact begins_end filled cut
  next b afterB =>
  split at cut
  next two =>
    split at cut
    next second => exact begins_whole cut (encodeChar_two (by simp at *; omega) two second) rfl
    · exact begins_broken [] cut
  next longer =>
  split at cut
  next three =>
    split at cut
    next second =>
      split at cut
      · exact begins_end filled cut
      next c afterC =>
      split at cut
      next third =>
        exact begins_whole cut (encodeChar_three (by simp at *; omega) three second third) rfl
      · exact begins_broken [b] cut
    · exact begins_broken [] cut
  next four =>
  split at cut
  next second =>
    split at cut
    · exact begins_end filled cut
    next c afterC =>
    split at cut
    next third =>
      split at cut
      · exact begins_end filled cut
      next d afterD =>
      split at cut
      next fourth =>
        exact begins_whole cut
          (encodeChar_four (by simp at *; omega) (by simp at *; omega) second third fourth) rfl
      · exact begins_broken [b, c] cut
    · exact begins_broken [b] cut
  · exact begins_broken [] cut

theorem Begins.decode?_eq {raw behind : RawText} {piece : Option Char}
    (begins : Begins raw piece behind) :
    decode? raw = piece.bind fun c => (decode? behind).map (c :: ·) := by
  rw [decode?, begins.cut, List.mapM_cons]
  cases piece with
  | none => rfl
  | some c => cases decoded : (pieces behind).mapM id <;> simp [decode?, decoded]

/-- Only the encoding of a text is read as that text. -/
theorem eq_encode_of_decode? {raw : RawText} {cs : List Char} (read : decode? raw = some cs) :
    raw = encode cs := by
  induction length : raw.length using Nat.strongRecOn generalizing raw cs with
  | ind n ih =>
    by_cases filled : raw = []
    · subst filled
      obtain rfl : [] = cs := by simpa [decode?] using read
      rfl
    · obtain ⟨piece, behind, begins⟩ := exists_begins filled
      rw [begins.decode?_eq] at read
      obtain ⟨c, rfl, read⟩ := Option.bind_eq_some_iff.mp read
      obtain ⟨others, decoded, rfl⟩ := Option.map_eq_some_iff.mp read
      have same := ih behind.length (length ▸ begins.shorter) decoded rfl
      rw [begins.encoded c rfl, same]
      rfl

theorem toNat_follower (n : Nat) : (UInt8.ofNat (n % 64 + 0x80)).toNat = n % 64 + 0x80 := by
  rw [UInt8.toNat_ofNat']
  omega

theorem continuation_follower (n : Nat) : continuation (UInt8.ofNat (n % 64 + 0x80)) = true := by
  rw [continuation_iff, toNat_follower]
  omega

theorem payload_follower (n : Nat) : payload (UInt8.ofNat (n % 64 + 0x80)) = n % 64 := by
  rw [payload, toNat_follower]
  omega

theorem pieces_two {a b : UInt8} (rest : RawText) (above : 0xC2 ≤ a.toNat)
    (below : a.toNat < 0xE0) (second : continuation b = true) :
    pieces (a :: b :: rest) =
      some (Char.ofNat (a.toNat % 32 * 64 + payload b)) :: pieces rest := by
  rw [pieces.eq_def]
  simp only [Bool.or_eq_true, decide_eq_true_eq, UInt8.lt_iff_toNat_lt]
  rw [if_neg (by simp; omega), if_neg (by simp; omega), if_pos (by simp; omega), if_pos second]

theorem pieces_three {a b c : UInt8} (rest : RawText) (above : 0xE0 ≤ a.toNat)
    (below : a.toNat < 0xF0) (second : secondOfThree a b = true) (third : continuation c = true) :
    pieces (a :: b :: c :: rest) =
      some (Char.ofNat (a.toNat % 16 * 4096 + payload b * 64 + payload c)) :: pieces rest := by
  rw [pieces.eq_def]
  simp only [Bool.or_eq_true, decide_eq_true_eq, UInt8.lt_iff_toNat_lt]
  rw [if_neg (by simp; omega), if_neg (by simp; omega), if_neg (by simp; omega),
    if_pos (by simp; omega), if_pos second, if_pos third]

theorem pieces_four {a b c d : UInt8} (rest : RawText) (above : 0xF0 ≤ a.toNat)
    (below : a.toNat ≤ 0xF4) (second : secondOfFour a b = true) (third : continuation c = true)
    (fourth : continuation d = true) :
    pieces (a :: b :: c :: d :: rest) =
      some (Char.ofNat (a.toNat % 8 * 262144 + payload b * 4096 + payload c * 64 + payload d)) ::
        pieces rest := by
  rw [pieces.eq_def]
  simp only [Bool.or_eq_true, decide_eq_true_eq, UInt8.lt_iff_toNat_lt]
  rw [if_neg (by simp; omega), if_neg (by simp; omega), if_neg (by simp; omega),
    if_neg (by simp; omega), if_pos second, if_pos third, if_pos fourth]

theorem lossy_ascii {a : UInt8} (rest : RawText) (small : a < 0x80) :
    lossy (a :: rest) = Char.ofNat a.toNat :: lossy rest := by
  rw [lossy, pieces_ascii a rest small]
  rfl

/-- A character is read from its encoding, whatever follows. -/
theorem pieces_encodeChar_append (c : Char) (rest : RawText) :
    pieces (String.utf8EncodeChar c ++ rest) = some c :: pieces rest := by
  have valid : c.toNat.isValidChar := c.valid
  have toNat : ∀ n, n < 256 → (UInt8.ofNat n).toNat = n := fun n small => by
    rw [UInt8.toNat_ofNat']
    omega
  rw [← Char.ofNat_toNat c]
  generalize c.toNat = n at valid
  rw [encodeChar_ofNat valid]
  unfold Nat.isValidChar at valid
  split
  next one =>
    have same := toNat n (by omega)
    rw [List.cons_append, pieces_ascii _ _ (by simp [UInt8.lt_iff_toNat_lt]; omega), same]
    rfl
  next more =>
  split
  next two =>
    have lead := toNat (n / 64 % 32 + 0xC0) (by omega)
    simp only [List.cons_append, List.nil_append]
    rw [pieces_two _ (by omega) (by omega) (continuation_follower _), lead, payload_follower]
    congr 3
    omega
  next more =>
  split
  next three =>
    have lead := toNat (n / 4096 % 16 + 0xE0) (by omega)
    simp only [List.cons_append, List.nil_append]
    rw [pieces_three _ (by omega) (by omega) _ (continuation_follower _), lead, payload_follower,
      payload_follower]
    · congr 3
      omega
    · rw [secondOfThree_iff, lead, toNat_follower]
      omega
  next four =>
    have lead := toNat (n / 262144 % 8 + 0xF0) (by omega)
    simp only [List.cons_append, List.nil_append]
    rw [pieces_four _ (by omega) (by omega) _ (continuation_follower _) (continuation_follower _),
      lead, payload_follower, payload_follower, payload_follower]
    · congr 3
      omega
    · rw [secondOfFour_iff, lead, toNat_follower]
      omega

theorem pieces_encode_append (cs : List Char) (rest : RawText) :
    pieces (encode cs ++ rest) = cs.map some ++ pieces rest := by
  induction cs with
  | nil => rfl
  | cons c cs ih =>
    rw [encode_cons, List.append_assoc, pieces_encodeChar_append, ih]
    rfl

theorem lossy_encode_append (cs : List Char) (rest : RawText) :
    lossy (encode cs ++ rest) = cs ++ lossy rest := by
  simp [lossy, pieces_encode_append, Function.comp_def]

theorem lossy_encode (cs : List Char) : lossy (encode cs) = cs := by
  simpa [lossy] using lossy_encode_append cs []

/-- Bytes are read as a text exactly where they are its encoding. -/
theorem decode?_eq_some_iff {raw : RawText} {cs : List Char} :
    decode? raw = some cs ↔ raw = encode cs := by
  refine ⟨eq_encode_of_decode?, ?_⟩
  rintro rfl
  induction cs with
  | nil => simp [encode, decode?]
  | cons c cs ih =>
    rw [decode?] at ih ⊢
    rw [encode_cons, pieces_encodeChar_append, List.mapM_cons, ih]
    rfl

theorem eq_nil_of_lossy {raw : RawText} (read : lossy raw = []) : raw = [] := by
  cases raw with
  | nil => rfl
  | cons a rest =>
    obtain ⟨piece, behind, begins⟩ := exists_begins (List.cons_ne_nil a rest)
    rw [lossy, begins.cut] at read
    cases read

/-- A character of one byte is read from that byte and from nothing else. -/
theorem eq_append_of_lossy_cons {raw : RawText} {c : Char} {cs : List Char}
    (read : lossy raw = c :: cs) (small : c.toNat < 0x80) :
    ∃ rest, raw = String.utf8EncodeChar c ++ rest ∧ lossy rest = cs := by
  have filled : raw ≠ [] := by
    rintro rfl
    simp [lossy] at read
  obtain ⟨piece, behind, begins⟩ := exists_begins filled
  rw [lossy, begins.cut, List.map_cons, List.cons.injEq] at read
  obtain ⟨first, others⟩ := read
  cases piece with
  | none =>
    subst first
    exact absurd small (by decide)
  | some d =>
    obtain rfl : d = c := first
    exact ⟨behind, begins.encoded d rfl, others⟩

theorem eq_append_of_lossy {raw : RawText} {name cs : List Char}
    (read : lossy raw = name ++ cs) (small : ∀ c ∈ name, c.toNat < 0x80) :
    ∃ rest, raw = encode name ++ rest ∧ lossy rest = cs := by
  induction name generalizing raw with
  | nil => exact ⟨raw, rfl, read⟩
  | cons c name ih =>
    obtain ⟨tail, rfl, others⟩ := eq_append_of_lossy_cons read (small c List.mem_cons_self)
    obtain ⟨rest, rfl, follows⟩ := ih others fun d member => small d (List.mem_cons_of_mem c member)
    exact ⟨rest, by rw [encode_cons, List.append_assoc], follows⟩

end DependencyLinks.Utf8

namespace DependencyLinks.RawText

theorem ofString_append (a b : String) : ofString (a ++ b) = ofString a ++ ofString b := by
  simp [ofString, Utf8.encode]

theorem text?_eq_some_iff {raw : RawText} {s : String} :
    text? raw = some s ↔ raw = ofString s := by
  rw [text?, Option.map_eq_some_iff, ofString]
  constructor
  · rintro ⟨cs, read, rfl⟩
    rw [String.toList_ofList]
    exact Utf8.decode?_eq_some_iff.mp read
  · intro same
    exact ⟨s.toList, Utf8.decode?_eq_some_iff.mpr same, String.ofList_toList⟩

theorem text?_ofString (s : String) : text? (ofString s) = some s :=
  text?_eq_some_iff.mpr rfl

theorem text?_eq_none_iff {raw : RawText} : text? raw = none ↔ ∀ s, raw ≠ ofString s := by
  rw [Option.eq_none_iff_forall_ne_some]
  exact forall_congr' fun s => not_congr text?_eq_some_iff

end DependencyLinks.RawText
