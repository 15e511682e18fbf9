import DependencyLinks.Proofs.Text.Utf8
import DependencyLinks.Proofs.Traverse
import DependencyLinks.Settings.Load

/-! How arguments are read as settings: cut into options first, and each option read for itself. -/

namespace DependencyLinks.Settings

/-- An option as it is given: the field it sets and the argument that names it, with its value in
that argument, in the argument behind it, or nowhere. -/
inductive Given where
  | inline (field : Field) (argument value : RawText)
  | separate (field : Field) (argument value : RawText)
  | unfinished (field : Field) (argument : RawText)
deriving DecidableEq, Repr

namespace Given

def field : Given → Field
  | inline field _ _ | separate field _ _ | unfinished field _ => field

/-- The argument with the name of the option. -/
def argument : Given → RawText
  | inline _ argument _ | separate _ argument _ | unfinished _ argument => argument

def raws : Given → List RawText
  | inline _ argument _ | unfinished _ argument => [argument]
  | separate _ argument value => [argument, value]

def value? : Given → Option RawText
  | inline _ _ value | separate _ _ value => some value
  | unfinished _ _ => none

/-- The option takes along an argument that starts with a dash and is not just that. -/
def dashed : Given → Bool
  | separate _ _ value => !Arguments.standsAlone value
  | inline _ _ _ | unfinished _ _ => false

/-- What an option sets, if it is in order. -/
def pair? : Given → Option (Field × String)
  | inline field _ value => (RawText.text? value).map (field, ·)
  | separate field _ value =>
    if Arguments.standsAlone value then (RawText.text? value).map (field, ·) else none
  | unfinished _ _ => none

theorem map_text?_eq_some_iff {own field : Field} {value : RawText} {text : String} :
    (RawText.text? value).map (own, ·) = some (field, text) ↔
      own = field ∧ value = RawText.ofString text := by
  rw [← RawText.text?_eq_some_iff]
  cases RawText.text? value <;> simp [and_comm]

theorem pair?_eq_some_iff {given : Given} {field : Field} {text : String} :
    given.pair? = some (field, text) ↔ given.field = field ∧ given.dashed = false ∧
      given.value? = some (RawText.ofString text) := by
  cases given with
  | inline own argument value =>
    rw [pair?, map_text?_eq_some_iff]
    simp [Given.field, dashed, value?]
  | separate own argument value =>
    cases alone : Arguments.standsAlone value with
    | false => simp [pair?, dashed, alone]
    | true =>
      rw [pair?, if_pos alone, map_text?_eq_some_iff]
      simp [Given.field, dashed, value?, alone]
  | unfinished own argument => simp [pair?, value?]

theorem pair?_eq_none_iff {given : Given} :
    given.pair? = none ↔ given.value? = none ∨ given.dashed = true ∨
      ∃ value, given.value? = some value ∧ ∀ text, value ≠ RawText.ofString text := by
  cases given with
  | inline own argument value => simp [pair?, dashed, value?, RawText.text?_eq_none_iff]
  | separate own argument value =>
    cases alone : Arguments.standsAlone value <;>
      simp [pair?, dashed, value?, alone, RawText.text?_eq_none_iff]
  | unfinished own argument => simp [pair?, value?]

end Given

namespace Arguments

/-- The options that arguments consist of, whatever their values are. A separator may end them. -/
def options? : List RawText → Option (List Given)
  | [] => some []
  | argument :: rest =>
    match flag? argument with
    | none => if argument = [dash, dash] ∧ rest = [] then some [] else none
    | some (.whole field value) => (options? rest).map (.inline field argument value :: ·)
    | some (.awaiting field) =>
      match rest with
      | [] => some [.unfinished field argument]
      | value :: rest => (options? rest).map (.separate field argument value :: ·)

/-- Options as their arguments are read, in a row that only the last of them may leave open. -/
inductive Chained : List Given → Prop where
  | nothing : Chained []
  | inline {field : Field} {argument value : RawText} {given : List Given}
      (read : flag? argument = some (.whole field value)) (rest : Chained given) :
      Chained (.inline field argument value :: given)
  | unfinished {field : Field} {argument : RawText}
      (read : flag? argument = some (.awaiting field)) : Chained [.unfinished field argument]
  | separate {field : Field} {argument value : RawText} {given : List Given}
      (read : flag? argument = some (.awaiting field)) (rest : Chained given) :
      Chained (.separate field argument value :: given)

theorem Chained.options?_eq {given : List Given} (chained : Chained given) :
    options? (given.flatMap Given.raws) = some given := by
  induction chained with
  | nothing => rfl
  | inline read rest ih =>
    rw [List.flatMap_cons, Given.raws, List.singleton_append, options?.eq_def]
    simp only [read, ih, Option.map_some]
  | unfinished read =>
    rw [List.flatMap_singleton, Given.raws, options?.eq_def]
    simp only [read]
  | separate read rest ih =>
    rw [List.flatMap_cons, Given.raws, List.cons_append, List.singleton_append, options?.eq_def]
    simp only [read, ih, Option.map_some]

theorem ne_separator_of_flag? {argument : RawText} {flag : Flag}
    (read : flag? argument = some flag) : argument ≠ [dash, dash] := by
  rintro rfl
  have none : flag? [dash, dash] = none := by decide +kernel
  rw [none] at read
  cases read

theorem mapM_pair?_cons (given : Given) (options : Option (List Given)) :
    (options.map (given :: ·)).bind (·.mapM Given.pair?) =
      given.pair?.bind fun pair => (options.bind (·.mapM Given.pair?)).map (pair :: ·) := by
  cases options with
  | none => cases given.pair? <;> rfl
  | some options =>
    simp only [Option.map_some, Option.bind_some, List.mapM_cons]
    cases given.pair? with
    | none => rfl
    | some pair => cases options.mapM Given.pair? <;> rfl

/-- Arguments are cut into options first, and each option is read for itself. -/
theorem pairs?_eq (arguments : List RawText) :
    pairs? arguments = (options? arguments).bind (·.mapM Given.pair?) := by
  fun_induction options? arguments with
  | case1 => rfl
  | case2 argument rest read separator =>
    obtain ⟨rfl, rfl⟩ := separator
    rfl
  | case3 argument rest read other =>
    rw [pairs?, read]
    split
    next same =>
      have more : rest ≠ [] := fun nothing => other ⟨same, nothing⟩
      simp [more]
    · rfl
  | case4 argument rest field value read ih =>
    rw [mapM_pair?_cons, ← ih]
    simp only [pairs?, if_neg (ne_separator_of_flag? read), read, Given.pair?]
    cases RawText.text? value <;> cases pairs? rest <;> rfl
  | case5 argument field read =>
    simp only [pairs?, if_neg (ne_separator_of_flag? read), read]
    rfl
  | case6 argument field read value rest ih =>
    rw [mapM_pair?_cons, ← ih]
    simp only [pairs?, if_neg (ne_separator_of_flag? read), read, Given.pair?]
    split
    · cases RawText.text? value <;> cases pairs? rest <;> rfl
    · rfl

theorem map_fst_of_forall₂ {options : List Given} {pairs : List (Field × String)}
    (read : List.Forall₂ (fun given pair => given.pair? = some pair) options pairs) :
    pairs.map Prod.fst = options.map Given.field := by
  induction read with
  | nil => rfl
  | cons first _ ih => simp [ih, (Given.pair?_eq_some_iff.mp first).1]

theorem read?_eq_some_iff {arguments : List RawText} {options : List Given}
    {pairs : List (Field × String)} (cut : options? arguments = some options) :
    read? arguments = some pairs ↔ options.mapM Given.pair? = some pairs ∧
      (options.map Given.field).Nodup := by
  rw [read?, pairs?_eq, cut, Option.bind_some]
  cases read : options.mapM Given.pair? with
  | none => simp
  | some all =>
    rw [← map_fst_of_forall₂ (mapM_eq_some_iff.mp read)]
    simp only [bind, Option.bind_some, Option.some.injEq]
    split
    next once => simp [once]
    next twice => simp [twice]

/-- Arguments that consist of options are turned down for a field that is set twice, or for an
option that is not in order by itself. -/
theorem read?_eq_none_iff {arguments : List RawText} {options : List Given}
    (cut : options? arguments = some options) :
    read? arguments = none ↔
      ¬ (options.map Given.field).Nodup ∨ ∃ given ∈ options, given.pair? = none := by
  rw [← mapM_eq_none_iff, Option.eq_none_iff_forall_ne_some, Option.eq_none_iff_forall_ne_some]
  simp only [ne_eq, read?_eq_some_iff cut]
  by_cases once : (options.map Given.field).Nodup <;> simp [once]

theorem lookup_of_forall₂ {options : List Given} {pairs : List (Field × String)} {given : Given}
    (read : List.Forall₂ (fun given pair => given.pair? = some pair) options pairs)
    (once : (options.map Given.field).Nodup) (member : given ∈ options) :
    ∃ text, given.value? = some (RawText.ofString text) ∧
      pairs.lookup given.field = some text := by
  induction read with
  | nil => cases member
  | @cons other pair options pairs first rest ih =>
    obtain ⟨field, text⟩ := pair
    obtain ⟨same, -, value⟩ := Given.pair?_eq_some_iff.mp first
    rw [List.map_cons, List.nodup_cons] at once
    rcases List.mem_cons.mp member with rfl | member
    · exact ⟨text, value, by rw [same, List.lookup_cons_self]⟩
    · obtain ⟨text, value, found⟩ := ih once.2 member
      have apart : given.field ≠ field := by
        rintro rfl
        exact once.1 (same ▸ List.mem_map_of_mem member)
      exact ⟨text, value, by rw [List.lookup_cons, beq_false_of_ne apart, found]⟩

/-- Every option sets its field to its value, and no other field is set. -/
theorem lookup_of_read? {arguments : List RawText} {options : List Given}
    {pairs : List (Field × String)} (cut : options? arguments = some options)
    (read : read? arguments = some pairs) :
    (∀ given ∈ options, ∃ text, given.value? = some (RawText.ofString text) ∧
      pairs.lookup given.field = some text) ∧
    ∀ field, field ∉ options.map Given.field → pairs.lookup field = none := by
  obtain ⟨all, once⟩ := (read?_eq_some_iff cut).mp read
  have each := mapM_eq_some_iff.mp all
  refine ⟨fun given member => lookup_of_forall₂ each once member, ?_⟩
  intro field unset
  rw [← map_fst_of_forall₂ each] at unset
  simp only [List.lookup_eq_none_iff, bne_iff_ne]
  rintro pair member rfl
  exact unset (List.mem_map_of_mem member)

end Arguments

theorem eq_of_key_eq {a b : Field} (same : a.key = b.key) : a = b := by
  cases a <;> cases b <;> first | rfl | exact absurd same (by decide)

theorem ofMembers?_eq_some_iff {members : List (String × Json)} {settings : Settings} :
    ofMembers? members = some settings ↔
      ∀ field, text? (members.lookup field.key) = some (settings.get field) := by
  simp only [ofMembers?, bind, Option.bind_eq_some_iff, pure, Option.some.injEq]
  constructor
  · rintro ⟨token, first, owner, second, repository, third, apiBase, fourth, marker, fifth,
      linkStart, sixth, rfl⟩ field
    cases field <;> assumption
  · intro each
    exact ⟨_, each .token, _, each .owner, _, each .repository, _, each .apiBase, _, each .marker,
      _, each .linkStart, rfl⟩

theorem lookup_argumentLayer (pairs : List (Field × String)) (field : Field) :
    (argumentLayer pairs).members.lookup field.key = (pairs.lookup field).map Json.string := by
  rw [argumentLayer, Json.members]
  induction pairs with
  | nil => rfl
  | cons pair pairs ih =>
    obtain ⟨own, text⟩ := pair
    rw [List.map_cons, List.lookup_cons, List.lookup_cons, ih]
    by_cases same : field = own
    · subst same
      simp
    · have apart : field.key ≠ own.key := fun equal => same (eq_of_key_eq equal)
      rw [beq_false_of_ne same, beq_false_of_ne apart]

/-- The settings that arguments alone make. -/
theorem ofMembers?_argumentLayer (pairs : List (Field × String)) :
    ofMembers? (argumentLayer pairs).members =
      some (ofFields fun field => pairs.lookup field) := by
  rw [ofMembers?_eq_some_iff]
  intro field
  rw [lookup_argumentLayer, get_ofFields]
  cases pairs.lookup field <;> rfl

end DependencyLinks.Settings
