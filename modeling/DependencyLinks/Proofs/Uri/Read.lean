import DependencyLinks.Proofs.Text.Cut
import DependencyLinks.Proofs.Uri.Authority

/-! Addresses of all three parts, read part by part. -/

namespace DependencyLinks.Uri

/-- Stands in the path of a target, and does not end it. -/
def pathChar (c : Char) : Bool :=
  targetChar c && c != '\x60' && c != '?' && c != '#'

/-- Stands in the query of a target, and does not end it. -/
def queryChar (c : Char) : Bool :=
  targetChar c && c != '"' && c != '#'

/-- A part behind the mark that opens it, if it is there. -/
def opened (mark : Char) (part : Option String) : List Char :=
  (part.map fun part => mark :: part.toList).getD []

/-- A target is read up to its fragment, whatever that holds. -/
theorem readTarget_parts {path : List Char} {query : Option String}
    (pathChars : ∀ c ∈ path, pathChar c = true)
    (queryChars : ∀ part ∈ query, ∀ c ∈ part.toList, queryChar c = true)
    (fragment : Option String) :
    readTarget (path ++ opened '?' query ++ opened '#' fragment) =
      .ok (String.ofList (path ++ opened '?' query)) := by
  have pathParts : ∀ c ∈ path, ((targetChar c = true ∧ c ≠ '\x60') ∧ c ≠ '?') ∧ c ≠ '#' := by
    simpa [pathChar] using pathChars
  have unended : '#' ∉ path ++ opened '?' query := by
    rw [List.mem_append, not_or]
    refine ⟨fun member => (pathParts '#' member).2 rfl, ?_⟩
    cases query with
    | none => simp [opened]
    | some part =>
      simp only [opened, Option.map_some, Option.getD_some, List.mem_cons, not_or]
      exact ⟨by decide, fun member => absurd (queryChars part rfl '#' member) (by decide)⟩
  have bare : (path ++ opened '?' query ++ opened '#' fragment).takeWhile (· != '#') =
      path ++ opened '?' query := by
    cases fragment with
    | none =>
      simp only [opened, Option.map_none, Option.getD_none, List.append_nil] at unended ⊢
      exact Text.takeWhile_ne_of_absent unended
    | some fragment => exact Text.takeWhile_ne_append unended fragment.toList
  have unopened : '?' ∉ path := fun member => (pathParts '?' member).1.2 rfl
  have cut : Text.cutOnce '?' (path ++ opened '?' query) = (path, query.map String.toList) := by
    cases query with
    | none =>
      simp only [opened, Option.map_none, Option.getD_none, List.append_nil]
      exact Text.cutOnce_of_absent unopened
    | some part => exact Text.cutOnce_append unopened part.toList
  have pathFits : path.all (fun c => targetChar c && c != '\x60') = true := by
    simp only [List.all_eq_true, Bool.and_eq_true, bne_iff_ne]
    exact fun c member => (pathParts c member).1.1
  have queryFits : ((query.map String.toList).getD []).all (fun c => targetChar c && c != '"') =
      true := by
    cases query with
    | none => rfl
    | some part =>
      simp only [Option.map_some, Option.getD_some, List.all_eq_true]
      intro c member
      have fits := queryChars part rfl c member
      rw [queryChar, Bool.and_eq_true] at fits
      exact fits.1
  simp only [readTarget, bare, cut, pathFits, queryFits]
  rfl

theorem cutScheme_append {scheme : List Char} (named : ∀ c ∈ scheme, schemeChar c = true)
    (short : scheme.length ≤ 64) (rest : List Char) :
    cutScheme (scheme ++ ':' :: '/' :: '/' :: rest) = .ok (some scheme, rest) := by
  have stops : ¬ schemeChar ':' = true := by decide
  have taken := Text.takeWhile_append_stop named stops ('/' :: '/' :: rest)
  have dropped := Text.dropWhile_append_stop named stops ('/' :: '/' :: rest)
  simp only [cutScheme, taken, dropped]
  rw [if_neg (by omega)]

/-- An address is as good as its authority and its target. -/
theorem read_of_parts {input : String} {scheme authority target : List Char}
    (fits : input.utf8ByteSize ≤ capacity)
    (written : input.toList = scheme ++ ':' :: '/' :: '/' :: (authority ++ target))
    (named : ∀ c ∈ scheme, schemeChar c = true) (short : scheme.length ≤ 64)
    (inside : ∀ c ∈ authority, authorityEnd c = false) (filled : authority ≠ [])
    (path : target.head? = some '/') :
    read input = do
      checkAuthority authority
      return {
        scheme := some (String.ofList scheme)
        authority := some (String.ofList authority)
        target := some (← readTarget target) } := by
  obtain ⟨behind, rfl⟩ := List.head?_eq_some_iff.mp path
  have going : ∀ c ∈ authority, (!authorityEnd c) = true := fun c member => by
    rw [inside c member]
    rfl
  have stops : ¬ (!authorityEnd '/') = true := by decide
  have taken := Text.takeWhile_append_stop going stops behind
  have dropped := Text.dropWhile_append_stop going stops behind
  have apart : ∀ c rest, input.toList = c :: rest → c ≠ '/' ∧ c ≠ '*' := by
    intro c rest same
    rw [written] at same
    cases scheme with
    | nil =>
      obtain rfl := (List.cons.inj same).1
      decide
    | cons d scheme =>
      obtain rfl := (List.cons.inj same).1
      have letter := named d List.mem_cons_self
      constructor <;> (rintro rfl; cases letter)
  rw [read, if_neg (by omega)]
  split
  next nothing => simp [written] at nothing
  next rest slash => exact absurd rfl (apart _ _ slash).1
  next star => exact absurd rfl (apart _ _ star).2
  next cs _ _ _ =>
    simp only [written, cutScheme_append named short, taken, dropped, bind, Except.bind]
    simp [filled]

theorem read_of_tooLong {input : String} (long : capacity < input.utf8ByteSize) :
    read input = .error .tooLong := by
  rw [read, if_pos long]
  rfl

end DependencyLinks.Uri
