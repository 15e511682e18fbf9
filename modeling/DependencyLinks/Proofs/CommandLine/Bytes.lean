import DependencyLinks.Proofs.CommandLine.Number

/-! Arguments told by their bytes. Splitting a command line looks at lossy text, and comes to what
it would come to by looking at the bytes, whether they are text or not. -/

namespace DependencyLinks

open Settings

def InfoRequest.spellings : InfoRequest → List String
  | version => ["--version", "-V"]
  | help => ["--help", "-h"]

/-- The field that an option sets, by the bytes of its name. -/
def Field.ofBytes? (bytes : RawText) : Option Field :=
  all.find? fun field =>
    RawText.ofString field.long == bytes || field.short?.map RawText.ofString == some bytes

namespace Argument

/-- What an argument is by its bytes. Only an unknown name is given as text. -/
def ofBytes (raw : RawText) : Argument :=
  if raw = RawText.ofString "--" then .separator
  else if raw.head? ≠ some Arguments.dash ∨ raw = RawText.ofString "-" then .positional
  else if raw = RawText.ofString "--help" ∨ raw = RawText.ofString "-h" then .info .help
  else if raw = RawText.ofString "--version" ∨ raw = RawText.ofString "-V" then .info .version
  else match Field.ofBytes? (nameBytes raw) with
    | some field => .value field (raw.contains Arguments.equalsSign)
    | none => .unknown (nameBytes raw).lossy

variable {raw : RawText}

theorem ofOption?_lossy (bytes : RawText) :
    Field.ofOption? bytes.lossy = Field.ofBytes? bytes := by
  unfold Field.ofOption? Field.ofBytes?
  congr 1
  funext field
  have long : (field.long == bytes.lossy) = (RawText.ofString field.long == bytes) := by
    rw [Bool.eq_iff_iff, beq_iff_eq, beq_iff_eq]
    exact eq_lossy_iff_of_named (.inl rfl) bytes
  have short : (field.short? == some bytes.lossy) =
      (field.short?.map RawText.ofString == some bytes) := by
    cases spelled : field.short? with
    | none => rfl
    | some name =>
      rw [Bool.eq_iff_iff, beq_iff_eq, beq_iff_eq, Option.map_some, Option.some_inj,
        Option.some_inj]
      exact eq_lossy_iff_of_named (.inr spelled) bytes
  rw [long, short]

/-- What is decided on the lossy text of an argument is decided by its bytes. -/
theorem ofRaw_eq_ofBytes (raw : RawText) : ofRaw raw = ofBytes raw := by
  have spelled : ∀ s : String, s.toList.all (·.toNat < 0x80) = true →
      (Utf8.lossy raw = s.toList ↔ raw = RawText.ofString s) := fun s => Utf8.lossy_eq_iff_of_all
  have separator : Utf8.lossy raw = ['-', '-'] ↔ raw = RawText.ofString "--" :=
    spelled "--" (by decide)
  have dash : Utf8.lossy raw = ['-'] ↔ raw = RawText.ofString "-" := spelled "-" (by decide)
  have dashed : (Utf8.lossy raw).head? = some '-' ↔ raw.head? = some Arguments.dash :=
    Utf8.head?_lossy_iff (b := Arguments.dash) (by decide)
  have help := spelled "--help" (by decide)
  have h := spelled "-h" (by decide)
  have version := spelled "--version" (by decide)
  have V := spelled "-V" (by decide)
  unfold ofRaw ofText
  simp only [separator, dash, ne_eq, dashed, help, h, version, V, contains_lossy, name_lossy,
    ofOption?_lossy]
  rfl

theorem ofBytes?_eq_none_iff {bytes : RawText} :
    Field.ofBytes? bytes = none ↔
      ∀ (field : Field) name, field.Named name → bytes ≠ RawText.ofString name := by
  simp only [Field.ofBytes?, List.find?_eq_none, Bool.or_eq_true, beq_iff_eq, not_or]
  constructor
  · rintro unfound field name (long | short) rfl
    · exact (unfound field field.mem_all).1 (by rw [long])
    · exact (unfound field field.mem_all).2 (by rw [short, Option.map_some])
  · intro unnamed field _
    refine ⟨fun long => unnamed field _ (.inl rfl) long.symm, fun short => ?_⟩
    obtain ⟨name, spelled, same⟩ := Option.map_eq_some_iff.mp short
    exact unnamed field name (.inr spelled) same.symm

theorem named_of_ofBytes? {bytes : RawText} {field : Field}
    (found : Field.ofBytes? bytes = some field) :
    ∃ name, field.Named name ∧ bytes = RawText.ofString name := by
  have spelled := List.find?_some found
  rw [Bool.or_eq_true, beq_iff_eq, beq_iff_eq] at spelled
  rcases spelled with long | short
  · exact ⟨field.long, .inl rfl, long.symm⟩
  · obtain ⟨name, spelled, same⟩ := Option.map_eq_some_iff.mp short
    exact ⟨name, .inr spelled, same.symm⟩

/-- What the bytes of an argument have to be for it to be taken for something. -/
def Fits (raw : RawText) : Argument → Prop
  | separator => raw = RawText.ofString "--"
  | positional => raw.head? ≠ some Arguments.dash ∨ raw = RawText.ofString "-"
  | info request => ∃ spelling ∈ request.spellings, raw = RawText.ofString spelling
  | value field inline =>
    (∃ name, field.Named name ∧ nameBytes raw = RawText.ofString name) ∧
      inline = raw.contains Arguments.equalsSign
  | unknown name =>
    name = (nameBytes raw).lossy ∧ raw ≠ RawText.ofString "--" ∧
      raw.head? = some Arguments.dash ∧ raw ≠ RawText.ofString "-" ∧
      (∀ request : InfoRequest, ∀ spelling ∈ request.spellings, raw ≠ RawText.ofString spelling) ∧
      ∀ (field : Field) name, field.Named name → nameBytes raw ≠ RawText.ofString name

theorem fits_ofBytes (raw : RawText) : (ofBytes raw).Fits raw := by
  unfold ofBytes
  split
  next separator => exact separator
  next apart =>
  split
  next plain => exact plain
  next dashed =>
  obtain ⟨dash, more⟩ := not_or.mp dashed
  split
  next help =>
    rcases help with rfl | rfl
    · exact ⟨"--help", by decide, rfl⟩
    · exact ⟨"-h", by decide, rfl⟩
  next unhelpful =>
  split
  next version =>
    rcases version with rfl | rfl
    · exact ⟨"--version", by decide, rfl⟩
    · exact ⟨"-V", by decide, rfl⟩
  next unversioned =>
  split
  next field found =>
    obtain ⟨name, named, same⟩ := named_of_ofBytes? found
    exact ⟨⟨name, named, same⟩, rfl⟩
  next unfound =>
    refine ⟨rfl, apart, not_not.mp dash, more, ?_, ofBytes?_eq_none_iff.mp unfound⟩
    rintro (_ | _) spelling member rfl
    · rcases List.mem_pair.mp member with rfl | rfl
      · exact unversioned (.inl rfl)
      · exact unversioned (.inr rfl)
    · rcases List.mem_pair.mp member with rfl | rfl
      · exact unhelpful (.inl rfl)
      · exact unhelpful (.inr rfl)

theorem ofBytes_of_fits {argument : Argument} (fits : argument.Fits raw) :
    ofBytes raw = argument := by
  cases argument with
  | separator =>
    obtain rfl : raw = RawText.ofString "--" := fits
    decide
  | positional =>
    rcases fits with plain | rfl
    · have apart : raw ≠ RawText.ofString "--" := by
        rintro rfl
        exact plain rfl
      rw [ofBytes, if_neg apart, if_pos (.inl plain)]
    · decide
  | info request =>
    obtain ⟨spelling, member, rfl⟩ := fits
    cases request <;> rcases List.mem_pair.mp member with rfl | rfl <;> decide
  | value field inline =>
    obtain ⟨⟨name, named, same⟩, rfl⟩ := fits
    rw [← ofRaw_eq_ofBytes]
    rcases eq_nameBytes_or raw with ⟨unmarked, whole⟩ | ⟨marked, value, whole⟩
    · rw [unmarked, whole, same, value_of_named named]
    · rw [marked, whole, same, whole_of_named named]
  | unknown name =>
    obtain ⟨rfl, apart, dash, more, uninformed, unnamed⟩ := fits
    have unhelpful := List.forall_mem_cons.mp (uninformed .help)
    have unversioned := List.forall_mem_cons.mp (uninformed .version)
    rw [ofBytes, if_neg apart, if_neg (not_or.mpr ⟨not_not.mpr dash, more⟩), if_neg, if_neg,
      ofBytes?_eq_none_iff.mpr unnamed]
    · exact not_or.mpr ⟨unversioned.1, unversioned.2 _ List.mem_cons_self⟩
    · exact not_or.mpr ⟨unhelpful.1, unhelpful.2 _ List.mem_cons_self⟩

theorem ofRaw_eq_iff_fits {argument : Argument} : ofRaw raw = argument ↔ argument.Fits raw := by
  rw [ofRaw_eq_ofBytes]
  constructor
  · rintro rfl
    exact fits_ofBytes raw
  · exact ofBytes_of_fits

/-- A name that is no text is not known, so the argument can only be positional or unknown. -/
theorem ofRaw_of_garbled (garbled : RawText.text? (nameBytes raw) = none) :
    ofRaw raw =
      if raw.head? = some Arguments.dash then .unknown (nameBytes raw).lossy else .positional := by
  have text : ∀ name : String, nameBytes raw ≠ RawText.ofString name := by
    intro name same
    rw [same, RawText.text?_ofString] at garbled
    cases garbled
  have other : ∀ s, nameBytes (RawText.ofString s) = RawText.ofString s →
      raw ≠ RawText.ofString s := by
    rintro s whole rfl
    exact text s whole
  rw [ofRaw_eq_iff_fits]
  split
  next dashed =>
    refine ⟨rfl, other _ (by decide), dashed, other _ (by decide), ?_, fun _ name _ => text name⟩
    intro request spelling member
    apply other
    cases request <;> rcases List.mem_pair.mp member with rfl | rfl <;> decide
  next plain => exact .inl plain

end Argument

theorem Text.Numeral.ascii {cs : List Char} {n : Nat} (numeral : Numeral cs n) :
    ∀ c ∈ cs, c.toNat < 0x80 := by
  have small : ∀ c : Char, c.isDigit = true → c.toNat < 0x80 := fun c digit =>
    Nat.lt_of_le_of_lt (Char.isDigit_iff_toNat.mp digit).2 (by decide)
  obtain ⟨digits, rfl | rfl, -, all, -⟩ := numeral
  · exact fun c member => small c (all c member)
  · exact List.forall_mem_cons.mpr ⟨by decide, fun c member => small c (all c member)⟩

namespace CommandLine

theorem Names.eq_ofString {raw : RawText} {number : Nat} (names : Names raw number) :
    ∃ text, raw = RawText.ofString text := by
  refine ⟨String.ofList (Utf8.lossy raw), ?_⟩
  rw [RawText.ofString, String.toList_ofList]
  exact (Utf8.lossy_eq_iff names.1.ascii).mp rfl

/-- Reads the arguments behind the program name by what each one that stands where an option may
stand is told to be. -/
def readBy (tell : RawText → Argument) : List RawText → CommandLine
  | [] => {}
  | argument :: rest =>
    match tell argument with
    | .separator => { positionals := rest }
    | .positional => { positionals := [argument] } ++ readBy tell rest
    | .info request => { flags := [argument], info := some request } ++ readBy tell rest
    | .unknown name => { unknown := [name] } ++ readBy tell rest
    | .value _ true => { flags := [argument] } ++ readBy tell rest
    | .value _ false =>
      match rest with
      | [] => { flags := [argument] }
      | value :: rest => { flags := [argument, value] } ++ readBy tell rest

theorem ofArguments_eq_readBy (arguments : List RawText) :
    ofArguments arguments = readBy Argument.ofBytes arguments := by
  fun_induction ofArguments arguments with
  | case1 => rfl
  | case2 argument rest read | case7 argument field read =>
    rw [Argument.ofRaw_eq_ofBytes] at read
    rw [readBy.eq_def]
    simp only [read]
  | case3 argument rest read ih | case4 argument rest request read ih
  | case5 argument rest name read ih | case6 argument rest field read ih
  | case8 argument field read value rest ih =>
    rw [Argument.ofRaw_eq_ofBytes] at read
    rw [readBy.eq_def, ih]
    simp only [read]

/-- Reads a command line by what each argument is told to be. -/
def splitBy (tell : RawText → Argument) : List RawText → CommandLine
  | [] => {}
  | program :: rest => { flags := [program] } ++ readBy tell rest

theorem split_eq_splitBy (arguments : List RawText) :
    split arguments = splitBy Argument.ofBytes arguments := by
  cases arguments with
  | nil => rfl
  | cons program rest => rw [split, splitBy, ofArguments_eq_readBy]

/-- A command line is split by the bytes of its arguments: each of them is taken for what its bytes
fit, and for nothing else. A name that is no text is the name of no option, and a number is named by
nothing but text. -/
theorem split_by_bytes :
    (∀ arguments, split arguments = splitBy Argument.ofBytes arguments) ∧
    (∀ raw argument, Argument.ofRaw raw = argument ↔ argument.Fits raw) ∧
    (∀ raw argument, Argument.ofBytes raw = argument ↔ argument.Fits raw) ∧
    (∀ raw, RawText.text? (Argument.nameBytes raw) = none →
      Argument.ofRaw raw =
        if raw.head? = some Arguments.dash then .unknown (Argument.nameBytes raw).lossy
        else .positional) ∧
    ∀ arguments number, (split arguments).pullRequestNumber = .ok number →
      ∀ raw ∈ (split arguments).positionals, ∃ text, raw = RawText.ofString text := by
  refine ⟨split_eq_splitBy, ?fits, ?bytes, ?garbled, ?number⟩
  case fits => exact fun raw argument => Argument.ofRaw_eq_iff_fits
  case bytes =>
    intro raw argument
    rw [← Argument.ofRaw_eq_ofBytes]
    exact Argument.ofRaw_eq_iff_fits
  case garbled => exact fun raw => Argument.ofRaw_of_garbled
  case number =>
    intro arguments number named raw member
    obtain ⟨-, own, single, names⟩ := pullRequestNumber_eq_ok_iff.mp named
    rw [single, List.mem_singleton] at member
    subst member
    exact names.eq_ofString

/-- A character that breaks off in front of an equals sign does not swallow it. -/
example : split [RawText.ofString "links", [0x2D, 0x74, 0xE2, 0x82, 0x3D, 0x37], [0xF0, 0x2D]] =
    { positionals := [[0xF0, 0x2D]], flags := [RawText.ofString "links"],
      unknown := ["-t\uFFFD"] } := by decide +kernel

end CommandLine

end DependencyLinks
