import DependencyLinks.Settings.Environment
import DependencyLinks.Settings.File

/-! What variables and files say of a key is never null. -/

namespace DependencyLinks

theorem ne_null_of_map {α : Type} {f : α → Json × List Char} {found : Option α}
    {value : Json} {rest : List Char} (read : found.map f = some (value, rest))
    (sound : ∀ item, (f item).1 ≠ .null) : value ≠ .null := by
  obtain ⟨item, -, same⟩ := Option.map_eq_some_iff.mp read
  have first : (f item).1 = value := congrArg Prod.fst same
  exact first ▸ sound item

namespace Settings

theorem Value.bare_ne_null (cs : List Char) : Value.bare cs ≠ .null := by
  unfold Value.bare
  split <;> nofun

theorem Value.ne_null_of_readValue {fuel : Nat} {cs rest : List Char} {value : Json}
    (read : readValue fuel cs = some (value, rest)) : value ≠ .null := by
  cases fuel with
  | zero => simp [readValue] at read
  | succ fuel =>
    unfold readValue at read
    dsimp only at read
    split at read
    all_goals
      obtain ⟨⟨value, rest⟩, found, same⟩ := Option.bind_eq_some_iff.mp read
      cases same
    · cases found
      nofun
    · cases found
      nofun
    · exact ne_null_of_map found fun _ => nofun
    · exact ne_null_of_map found fun _ => nofun
    · exact ne_null_of_map found fun _ => nofun
    · cases found
      exact bare_ne_null _

theorem Value.read_ne_null (cs : List Char) : Value.read cs ≠ .null := by
  unfold Value.read
  split
  next found => exact ne_null_of_readValue found
  · nofun

namespace Environment

theorem value_ne_null (raw : RawText) : value raw ≠ .null := by
  unfold value
  dsimp only
  split
  · nofun
  · exact Value.read_ne_null _

theorem nest_ne_null {value : Json} (sound : value ≠ .null) (path : List (List Char)) :
    nest value path ≠ .null := by
  cases path with
  | nil => exact sound
  | cons key path => nofun

end Environment

end Settings

namespace Toml

theorem ne_null_of_readScalar {cs rest : List Char} {value : Json}
    (read : readScalar cs = some (value, rest)) : value ≠ .null := by
  simp only [readScalar] at read
  repeat' split at read
  all_goals
    cases read
    try nofun

theorem ne_null_of_readValue {fuel depth : Nat} {cs rest : List Char} {value : Json}
    (read : readValue fuel depth cs = some (value, rest)) : value ≠ .null := by
  cases fuel with
  | zero => simp [readValue] at read
  | succ fuel =>
    unfold readValue at read
    split at read
    · exact ne_null_of_map read fun _ => nofun
    · exact ne_null_of_map read fun _ => nofun
    · split at read
      · cases read
      · exact ne_null_of_map read fun _ => nofun
    · split at read
      · cases read
      · split at read
        · cases read
          nofun
        · exact ne_null_of_map read fun _ => nofun
    · exact ne_null_of_readScalar read

/-- Every value that is put under a key is something. -/
def Entries.NullFree (entries : Entries) : Prop :=
  ∀ entry ∈ entries, entry.2.json ≠ .null

namespace Entries

variable {entries changed : Entries} {key : String} {node : Node}

theorem NullFree.nil : NullFree [] := nofun

theorem NullFree.append_single (free : NullFree entries) (sound : node.json ≠ .null) :
    NullFree (entries ++ [(key, node)]) := by
  intro entry member
  rcases List.mem_append.mp member with old | new
  · exact free entry old
  · rw [List.mem_singleton.mp new]
    exact sound

theorem NullFree.put (free : NullFree entries) (sound : node.json ≠ .null) :
    NullFree (put entries key node) := by
  induction entries with
  | nil => exact NullFree.append_single .nil sound
  | cons entry entries ih =>
    obtain ⟨own, old⟩ := entry
    have ⟨first, others⟩ := List.forall_mem_cons.mp free
    unfold Entries.put
    split
    · exact List.forall_mem_cons.mpr ⟨sound, others⟩
    · exact List.forall_mem_cons.mpr ⟨first, ih others⟩

/-- A change below the first table puts a table in its place. -/
theorem NullFree.change {dotted : Bool} {make : Origin → Entries → Option Entries}
    {path : List String} {origin : Origin}
    (made : ∀ origin changed, make origin entries = some changed → NullFree changed)
    (free : NullFree entries) (done : change dotted make path origin entries = some changed) :
    NullFree changed := by
  cases path with
  | nil => exact made origin changed done
  | cons key path =>
    unfold Entries.change at done
    split at done
    · obtain ⟨_, _, same⟩ := Option.bind_eq_some_iff.mp done
      cases same
      exact free.put nofun
    · cases done
    · split at done
      · cases done
      · obtain ⟨_, _, same⟩ := Option.bind_eq_some_iff.mp done
        cases same
        exact free.put nofun
    · obtain ⟨_, _, same⟩ := Option.bind_eq_some_iff.mp done
      obtain ⟨_, _, same⟩ := Option.bind_eq_some_iff.mp same
      cases same
      exact free.put nofun

theorem NullFree.assign {path : List String} {value : Json} (sound : value ≠ .null)
    (free : NullFree entries) (done : assign path key value entries = some changed) :
    NullFree changed := by
  refine free.change ?_ done
  intro origin changed made
  split at made
  · cases made
  · cases made
    exact free.append_single sound

theorem NullFree.assignAt {header path : List String} {value : Json} (sound : value ≠ .null)
    (free : NullFree entries) (done : assignAt header path key value entries = some changed) :
    NullFree changed :=
  free.change (fun _ _ => free.assign sound) done

theorem NullFree.openTable {path : List String} (free : NullFree entries)
    (done : openTable path key entries = some changed) : NullFree changed := by
  refine free.change ?_ done
  intro origin changed made
  split at made
  · cases made
    exact free.append_single nofun
  · cases made
    exact free.put nofun
  · cases made

theorem NullFree.openItem {path : List String} (free : NullFree entries)
    (done : openItem path key entries = some changed) : NullFree changed := by
  refine free.change ?_ done
  intro origin changed made
  split at made
  · cases made
    exact free.append_single nofun
  · cases made
    exact free.put nofun
  · cases made

theorem ne_null_of_mem_json (free : NullFree entries) {member : String × Json}
    (present : member ∈ json entries) : member.2 ≠ .null := by
  induction entries with
  | nil => simp [json] at present
  | cons entry entries ih =>
    obtain ⟨own, node⟩ := entry
    have ⟨first, others⟩ := List.forall_mem_cons.mp free
    rw [json] at present
    rcases List.mem_cons.mp present with rfl | present
    · exact first
    · exact ih others present

end Entries

variable {draft : Draft} {cs : List Char}

theorem nullFree_readLine {next : Draft × List Char} (free : draft.root.NullFree)
    (read : readLine draft cs = some next) : next.1.root.NullFree := by
  unfold readLine at read
  split at read
  · obtain ⟨⟨parts, rest⟩, -, read⟩ := Option.bind_eq_some_iff.mp read
    obtain ⟨⟨path, key⟩, -, read⟩ := Option.bind_eq_some_iff.mp read
    obtain ⟨root, opened, same⟩ := Option.bind_eq_some_iff.mp read
    cases same
    exact free.openItem opened
  · obtain ⟨⟨parts, rest⟩, -, read⟩ := Option.bind_eq_some_iff.mp read
    obtain ⟨⟨path, key⟩, -, read⟩ := Option.bind_eq_some_iff.mp read
    obtain ⟨root, opened, same⟩ := Option.bind_eq_some_iff.mp read
    cases same
    exact free.openTable opened
  iterate 4
    cases read
    exact free
  · obtain ⟨⟨parts, rest⟩, -, read⟩ := Option.bind_eq_some_iff.mp read
    obtain ⟨⟨path, key⟩, -, read⟩ := Option.bind_eq_some_iff.mp read
    dsimp only at read
    split at read
    · obtain ⟨⟨value, rest⟩, given, read⟩ := Option.bind_eq_some_iff.mp read
      obtain ⟨root, assigned, same⟩ := Option.bind_eq_some_iff.mp read
      cases same
      exact free.assignAt (ne_null_of_readValue given) assigned
    · cases read

theorem nullFree_readLines {fuel : Nat} {done : Draft} (free : draft.root.NullFree)
    (read : readLines fuel draft cs = some done) : done.root.NullFree := by
  induction fuel generalizing draft cs with
  | zero => simp [readLines] at read
  | succ fuel ih =>
    obtain ⟨next, line, read⟩ := Option.bind_eq_some_iff.mp read
    obtain ⟨rest, -, read⟩ := Option.bind_eq_some_iff.mp read
    have kept := nullFree_readLine free line
    split at read
    · cases read
      exact kept
    · exact ih kept read

theorem ne_null_of_read {document : String} {layer : Json} (read : read document = some layer)
    {member : String × Json} (present : member ∈ layer.members) : member.2 ≠ .null := by
  obtain ⟨draft, done, same⟩ := Option.bind_eq_some_iff.mp read
  cases same
  exact Entries.ne_null_of_mem_json (nullFree_readLines .nil done) present

end Toml

namespace Settings.File

theorem exists_read_of_attempt {surroundings : Surroundings} {place : String} {layer : Json}
    (loaded : attempt surroundings place = .loaded layer) :
    ∃ document, Toml.read document = some layer := by
  unfold attempt at loaded
  dsimp only at loaded
  split at loaded
  · cases loaded
  · split at loaded
    · cases loaded
    · split at loaded
      next read =>
        cases loaded
        obtain ⟨document, -, read⟩ := Option.bind_eq_some_iff.mp read
        exact ⟨document, read⟩
      · cases loaded

theorem mem_of_choose {attempts : List Attempt} {layer : Json}
    (chosen : choose attempts = some (some layer)) : .loaded layer ∈ attempts := by
  fun_induction choose attempts with
  | case1 => cases chosen
  | case2 layer' rest =>
    cases chosen
    exact List.mem_cons_self
  | case3 rest ih => exact List.mem_cons_of_mem _ (ih chosen)
  | case4 rest layer' found ih =>
    cases chosen
    exact List.mem_cons_of_mem _ (ih found)
  | case5 rest none ih => cases chosen

theorem ne_null_of_layer? {surroundings : Surroundings} {layer : Json}
    (discovered : layer? surroundings = some (some layer)) {member : String × Json}
    (present : member ∈ layer.members) : member.2 ≠ .null := by
  obtain ⟨place, -, loaded⟩ := List.mem_map.mp (mem_of_choose discovered)
  obtain ⟨document, read⟩ := exists_read_of_attempt loaded
  exact Toml.ne_null_of_read read present

end Settings.File

end DependencyLinks
