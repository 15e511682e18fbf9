import DependencyLinks.Proofs.CommandLine.Pieces
import DependencyLinks.Proofs.Text.Ascii

/-! The names of options, and what the arguments that begin with one are: splitting a command line
takes no argument for an option that the settings do not read as the same one. -/

namespace DependencyLinks

open Settings

/-- One of the names that an option for a field goes by. -/
def Field.Named (field : Field) (name : String) : Prop :=
  field.long = name ∨ field.short? = some name

/-- What holds of the long and of the short name of every field holds of every name. -/
theorem Field.of_named {motive : Field → String → Prop}
    (each : ∀ field ∈ all, motive field field.long ∧ ∀ name ∈ field.short?, motive field name)
    {field : Field} {name : String} (named : field.Named name) : motive field name := by
  rcases named with rfl | short
  · exact (each field field.mem_all).1
  · exact (each field field.mem_all).2 name short

theorem Field.named_of_ofOption? {name : String} {field : Field}
    (found : Field.ofOption? name = some field) : field.Named name := by
  have spelled := List.find?_some found
  simpa [Field.Named] using spelled

theorem Argument.named_of_ofText {cs : List Char} {field : Field} {inline : Bool}
    (read : Argument.ofText cs = .value field inline) :
    field.Named (Argument.name cs) ∧ inline = cs.contains '=' := by
  unfold Argument.ofText at read
  repeat' split at read
  -- Only the last branch but one makes an option.
  all_goals try cases read
  next found => exact ⟨Field.named_of_ofOption? found, rfl⟩

/-- The names are ASCII and have no equals sign in them. -/
theorem Field.plain_of_named {field : Field} {name : String} (named : field.Named name) :
    (∀ c ∈ name.toList, c.toNat < 0x80) ∧
      ∀ b ∈ RawText.ofString name, (b != Arguments.equalsSign) = true := by
  have plain : (name.toList.all (·.toNat < 0x80) &&
      (RawText.ofString name).all (· != Arguments.equalsSign)) = true :=
    Field.of_named (motive := fun _ name => (name.toList.all (·.toNat < 0x80) &&
      (RawText.ofString name).all (· != Arguments.equalsSign)) = true) (by decide +kernel) named
  simpa using plain

theorem Field.exists_long (field : Field) : ∃ word, field.long = "--" ++ word := by
  cases field with
  | token => exact ⟨"token", by decide +kernel⟩
  | owner => exact ⟨"owner", by decide +kernel⟩
  | repository => exact ⟨"repo", by decide +kernel⟩
  | apiBase => exact ⟨"api-base", by decide +kernel⟩
  | marker => exact ⟨"marker", by decide +kernel⟩
  | linkStart => exact ⟨"url-prefix", by decide +kernel⟩

namespace Settings.Arguments

theorem long?_of_name {word : String} {field : Field}
    (found : Field.ofLong? ("--" ++ word) = some field)
    (plain : ∀ b ∈ RawText.ofString word, (b != equalsSign) = true) :
    long? (RawText.ofString word) = some (.awaiting field) ∧
      ∀ value, long? (RawText.ofString word ++ equalsSign :: value) =
        some (.whole field value) := by
  constructor
  · rw [long?, List.takeWhile_eq_self_iff.mpr plain, List.dropWhile_eq_nil_iff.mpr plain,
      RawText.text?_ofString]
    simp [found]
  · intro value
    rw [long?, List.takeWhile_append_of_pos plain, List.dropWhile_append_of_pos plain,
      List.takeWhile_cons_of_neg (by simp), List.dropWhile_cons_of_neg (by simp), List.append_nil,
      RawText.text?_ofString]
    simp [found]

theorem flag?_of_named {field : Field} {name : String} (named : field.Named name) :
    flag? (RawText.ofString name) = some (.awaiting field) ∧
      ∀ value, flag? (RawText.ofString name ++ equalsSign :: value) =
        some (.whole field value) := by
  have plain := (Field.plain_of_named named).2
  rcases named with rfl | short
  · obtain ⟨word, spelled⟩ := field.exists_long
    have found : Field.ofLong? ("--" ++ word) = some field := by
      rw [← spelled]
      cases field <;> decide +kernel
    have dashes : RawText.ofString "--" = [dash, dash] := by decide +kernel
    rw [spelled, RawText.ofString_append, dashes] at plain ⊢
    have read := long?_of_name found fun b member => plain b (List.mem_append_right _ member)
    exact ⟨by simpa [flag?] using read.1, by simpa [flag?] using read.2⟩
  · cases field with
    | token | owner | repository =>
      cases short
      exact ⟨by decide +kernel, fun value => rfl⟩
    | apiBase | marker | linkStart => cases short

end Settings.Arguments

namespace Argument

variable {raw : RawText}

/-- The bytes in front of the first equals sign. -/
def nameBytes (raw : RawText) : RawText :=
  raw.takeWhile (· != Arguments.equalsSign)

theorem name_lossy (raw : RawText) : name (Utf8.lossy raw) = (nameBytes raw).lossy :=
  congrArg String.ofList (Utf8.takeWhile_lossy (b := Arguments.equalsSign) raw (by decide))

theorem contains_lossy (raw : RawText) :
    (Utf8.lossy raw).contains '=' = raw.contains Arguments.equalsSign := by
  rw [Bool.eq_iff_iff, List.contains_iff_mem, List.contains_iff_mem]
  exact Utf8.mem_lossy_iff (b := Arguments.equalsSign) (by decide)

/-- An argument is its name, or a value follows behind an equals sign. -/
theorem eq_nameBytes_or (raw : RawText) :
    raw.contains Arguments.equalsSign = false ∧ raw = nameBytes raw ∨
      raw.contains Arguments.equalsSign = true ∧
        ∃ value, raw = nameBytes raw ++ Arguments.equalsSign :: value := by
  by_cases member : Arguments.equalsSign ∈ raw
  · obtain ⟨front, value, rfl, absent⟩ := List.eq_append_cons_of_mem member
    exact .inr ⟨List.contains_iff_mem.mpr member, value,
      by rw [nameBytes, Text.takeWhile_ne_append absent]⟩
  · refine .inl ⟨?_, (Text.takeWhile_ne_of_absent member).symm⟩
    rwa [Bool.eq_false_iff, ne_eq, List.contains_iff_mem]

/-- No other bytes are read as the name of a field. -/
theorem eq_lossy_iff_of_named {field : Field} {name : String} (named : field.Named name)
    (bytes : RawText) : name = bytes.lossy ↔ RawText.ofString name = bytes := by
  rw [RawText.lossy, ← String.toList_inj, String.toList_ofList, eq_comm,
    Utf8.lossy_eq_iff (Field.plain_of_named named).1, eq_comm]
  rfl

theorem exists_rest_of_ofRaw {field : Field} {inline : Bool}
    (read : ofRaw raw = .value field inline) :
    ∃ name rest, field.Named name ∧ raw = RawText.ofString name ++ rest ∧
      (inline = false ∧ rest = [] ∨
        inline = true ∧ ∃ value, rest = Arguments.equalsSign :: value) := by
  obtain ⟨named, marked⟩ := named_of_ofText read
  rw [name_lossy] at named
  rw [contains_lossy] at marked
  have own := (eq_lossy_iff_of_named named _).mp rfl
  rcases eq_nameBytes_or raw with ⟨unmarked, whole⟩ | ⟨mark, value, whole⟩
  · exact ⟨_, [], named, by rwa [own, List.append_nil], .inl ⟨marked.trans unmarked, rfl⟩⟩
  · exact ⟨_, _, named, by rwa [own], .inr ⟨marked.trans mark, value, rfl⟩⟩

end Argument

theorem Field.spelling_of_named {field : Field} {name : String} (named : field.Named name) :
    ofOption? name = some field ∧ name.toList.head? = some '-' ∧ '=' ∉ name.toList :=
  Field.of_named (motive := fun field name => ofOption? name = some field ∧
    name.toList.head? = some '-' ∧ '=' ∉ name.toList) (by decide +kernel) named

theorem Argument.value_of_named {field : Field} {name : String} (named : field.Named name) :
    Argument.ofRaw (RawText.ofString name) = .value field false :=
  Field.of_named (motive := fun field name =>
    Argument.ofRaw (RawText.ofString name) = .value field false) (by decide +kernel) named

/-- An argument that takes the next one along is exactly the name of an option. -/
theorem Argument.ofRaw_eq_value_iff {raw : RawText} {field : Field} :
    Argument.ofRaw raw = .value field false ↔
      ∃ name, field.Named name ∧ raw = RawText.ofString name := by
  constructor
  · intro read
    obtain ⟨name, rest, named, same, ⟨-, rfl⟩ | ⟨marked, -⟩⟩ := exists_rest_of_ofRaw read
    · exact ⟨name, named, by rw [same, List.append_nil]⟩
    · cases marked
  · rintro ⟨name, named, rfl⟩
    exact value_of_named named

theorem Argument.ofText_of_named {field : Field} {name : String} (named : field.Named name)
    (cs : List Char) : Argument.ofText (name.toList ++ '=' :: cs) = .value field true := by
  obtain ⟨found, dashed, unmarked⟩ := Field.spelling_of_named named
  have member : '=' ∈ name.toList ++ '=' :: cs := by simp
  have differs : ∀ other : List Char, '=' ∉ other → name.toList ++ '=' :: cs ≠ other :=
    fun other absent same => absent (same ▸ member)
  have own : Argument.name (name.toList ++ '=' :: cs) = name := by
    rw [Argument.name, Text.takeWhile_ne_append unmarked, String.ofList_toList]
  unfold Argument.ofText
  rw [if_neg (differs _ (by decide)), if_neg, if_neg, if_neg, own, found]
  · simp
  · exact not_or.mpr ⟨differs _ (by decide), differs _ (by decide)⟩
  · exact not_or.mpr ⟨differs _ (by decide), differs _ (by decide)⟩
  · exact not_or.mpr ⟨not_not.mpr (by rw [List.head?_append, dashed]; rfl),
      differs _ (by decide)⟩

theorem Argument.whole_of_named {field : Field} {name : String} (named : field.Named name)
    (value : RawText) :
    Argument.ofRaw (RawText.ofString name ++ Arguments.equalsSign :: value) =
      .value field true := by
  have cut : Utf8.lossy (RawText.ofString name ++ Arguments.equalsSign :: value) =
      name.toList ++ '=' :: Utf8.lossy value := by
    rw [RawText.ofString, Utf8.lossy_encode_append, Utf8.lossy_ascii value (by decide)]
    rfl
  rw [Argument.ofRaw, cut, Argument.ofText_of_named named]

/-- What splitting a command line takes for an option, the settings read as the same option. -/
theorem Argument.flag?_of_ofRaw {raw : RawText} {field : Field} {inline : Bool}
    (read : Argument.ofRaw raw = .value field inline) :
    Arguments.flag? raw = some (if inline then .whole field (CommandLine.behindEquals raw)
      else .awaiting field) := by
  obtain ⟨name, rest, named, rfl, ⟨rfl, rfl⟩ | ⟨rfl, value, rfl⟩⟩ := exists_rest_of_ofRaw read
  · rw [List.append_nil]
    exact (Arguments.flag?_of_named named).1
  · rw [(Arguments.flag?_of_named named).2, CommandLine.behindEquals,
      List.dropWhile_append_of_pos (Field.plain_of_named named).2,
      List.dropWhile_cons_of_neg (by simp)]
    rfl

end DependencyLinks
