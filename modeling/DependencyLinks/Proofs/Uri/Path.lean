import DependencyLinks.Proofs.Text.Cut
import DependencyLinks.Uri

/-! Addresses that are written as paths. Nothing in a path is escaped, so some characters keep it
from being sent, and a fragment is cut off. -/

namespace DependencyLinks.Uri

/-- A path without its fragment. -/
def bare (path : String) : String :=
  String.ofList (path.toList.takeWhile (· != '#'))

/-- The address that a path stands for. -/
def ofPath (path : String) : Uri where
  target := some (bare path)

/-- A path that can be sent. What a fragment holds does not matter. -/
structure Sendable (path : String) : Prop where
  fits : path.utf8ByteSize ≤ capacity
  shown : ∀ c ∈ (bare path).toList, 0x20 < c.toNat ∧ c.toNat ≠ 0x7F ∧ c ≠ '<' ∧ c ≠ '>'
  front : '\x60' ∉ (bare path).toList.takeWhile (· != '?')
  query : '"' ∉ (bare path).toList.dropWhile (· != '?')

variable {path : String}

theorem targetChar_iff {c : Char} :
    targetChar c = true ↔ 0x20 < c.toNat ∧ c.toNat ≠ 0x7F ∧ c ≠ '<' ∧ c ≠ '>' := by
  simp [targetChar, and_assoc]

/-- What is behind a path is a query with its mark, or nothing. -/
theorem dropWhile_query (cs : List Char) :
    cs.dropWhile (· != '?') = [] ∨ ∃ query, cs.dropWhile (· != '?') = '?' :: query := by
  have first := List.head?_dropWhile_not (· != '?') cs
  cases rest : cs.dropWhile (· != '?') with
  | nil => exact .inl rfl
  | cons c query =>
    rw [rest] at first
    obtain rfl : c = '?' := by simpa using first
    exact .inr ⟨query, rfl⟩

/-- The two conditions on a target, as they are checked, are one on all of it and one on each of its
parts. -/
theorem all_cutOnce_iff (bare : List Char) :
    ((Text.cutOnce '?' bare).1.all (fun c => targetChar c && c != '\x60') &&
        ((Text.cutOnce '?' bare).2.getD []).all (fun c => targetChar c && c != '"')) = true ↔
      (∀ c ∈ bare, targetChar c = true) ∧ '\x60' ∉ bare.takeWhile (· != '?') ∧
        '"' ∉ bare.dropWhile (· != '?') := by
  have marked : targetChar '?' = true := by decide
  have parts : (∀ c ∈ bare, targetChar c = true) ↔
      (∀ c ∈ bare.takeWhile (· != '?'), targetChar c = true) ∧
        ∀ c ∈ bare.dropWhile (· != '?'), targetChar c = true := by
    rw [← List.forall_mem_append, List.takeWhile_append_dropWhile]
  have apart (cs : List Char) (c : Char) :
      (cs.all fun d => targetChar d && d != c) = true ↔
        (∀ d ∈ cs, targetChar d = true) ∧ c ∉ cs := by
    simp only [List.all_eq_true, Bool.and_eq_true, bne_iff_ne, forall_and, List.forall_mem_ne']
  rw [Bool.and_eq_true, apart, apart, parts, Text.cutOnce]
  rcases dropWhile_query bare with alone | ⟨query, opened⟩
  · rw [alone]
    simp
  · rw [opened]
    simp [marked, and_assoc, and_left_comm]

theorem readTarget_of_sendable (sendable : Sendable path) :
    readTarget path.toList = .ok (bare path) := by
  obtain ⟨-, shown, front, query⟩ := sendable
  rw [bare, String.toList_ofList] at shown front query
  exact if_pos ((all_cutOnce_iff _).mpr
    ⟨fun c member => targetChar_iff.mpr (shown c member), front, query⟩)

theorem sendable_of_readTarget {target : String} (fits : path.utf8ByteSize ≤ capacity)
    (read : readTarget path.toList = .ok target) : Sendable path := by
  simp only [readTarget] at read
  split at read
  next checked =>
    obtain ⟨shown, front, query⟩ := (all_cutOnce_iff _).mp checked
    constructor
    case fits => exact fits
    all_goals rw [bare, String.toList_ofList]
    case shown => exact fun c member => targetChar_iff.mp (shown c member)
    case front => exact front
    case query => exact query
  next => cases read

theorem read_of_rooted (rooted : path.toList.head? = some '/') :
    read path =
      if capacity < path.utf8ByteSize then .error .tooLong
      else (readTarget path.toList).map fun target => { target := some target } := by
  obtain ⟨behind, written⟩ := List.head?_eq_some_iff.mp rooted
  rw [read, written]
  split
  · rfl
  · simp only [bind, Except.bind]
    cases readTarget ('/' :: behind) <;> rfl

/-- A path that can be sent is its own address, but for its fragment. -/
theorem read_of_sendable (rooted : path.toList.head? = some '/') (sendable : Sendable path) :
    read path = .ok (ofPath path) := by
  rw [read_of_rooted rooted, if_neg (Nat.not_lt.mpr sendable.fits),
    readTarget_of_sendable sendable]
  rfl

theorem exists_fault_of_not_sendable (rooted : path.toList.head? = some '/')
    (unfit : ¬ Sendable path) : ∃ fault, read path = .error fault := by
  rw [read_of_rooted rooted]
  split
  next => exact ⟨_, rfl⟩
  next fits =>
    cases read : readTarget path.toList with
    | error fault => exact ⟨fault, rfl⟩
    | ok target => exact absurd (sendable_of_readTarget (Nat.not_lt.mp fits) read) unfit

theorem sendable_of_read {uri : Uri} (rooted : path.toList.head? = some '/')
    (address : read path = .ok uri) : Sendable path := by
  by_contra unfit
  obtain ⟨fault, refused⟩ := exists_fault_of_not_sendable rooted unfit
  rw [refused] at address
  cases address

end DependencyLinks.Uri
