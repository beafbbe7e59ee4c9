import DocLint.Json.Parser
import DocLint.Proofs.Order

/-!
# Sorted objects

The members of an object are sorted by key, and no two have the same key. `IsSorted` says so of every
object inside of a value. Reading a text gives sorted values only, and the members of a sorted object
make the same object again.
-/

namespace DocLint.Json

open Std

/-! ## Members -/

/-- Members in strictly ascending order of their keys. -/
def SortedMembers (ms : List (Text × Json)) : Prop :=
  ms.Pairwise fun a b => Text.compare a.1 b.1 = .lt

theorem eq_or_mem_of_mem_insert {key : Text} {value : Json} {ms : List (Text × Json)}
    {m : Text × Json} (h : m ∈ insert key value ms) : m = (key, value) ∨ m ∈ ms := by
  fun_induction insert key value ms with
  | case1 => exact .inl (List.mem_singleton.mp h)
  | case2 k v more hlt => exact List.mem_cons.mp h
  | case3 k v more heq =>
    rcases List.mem_cons.mp h with h | h
    · exact .inl h
    · exact .inr (List.mem_cons_of_mem _ h)
  | case4 k v more hgt ih =>
    rcases List.mem_cons.mp h with h | h
    · exact .inr (h ▸ List.mem_cons_self)
    · exact (ih h).imp_right (List.mem_cons_of_mem _)

theorem SortedMembers.insert {ms : List (Text × Json)} (h : SortedMembers ms) (key : Text)
    (value : Json) : SortedMembers (Json.insert key value ms) := by
  fun_induction Json.insert key value ms with
  | case1 => exact List.pairwise_singleton _ _
  | case2 k v more hlt =>
    obtain ⟨hhead, hmore⟩ := List.pairwise_cons.mp h
    refine List.pairwise_cons.mpr ⟨?_, h⟩
    intro m hm
    rcases List.mem_cons.mp hm with rfl | hm
    · exact hlt
    · exact TransCmp.lt_trans hlt (hhead m hm)
  | case3 k v more heq =>
    have hkey : key = k := LawfulEqCmp.compare_eq_iff_eq.mp heq
    obtain ⟨hhead, hmore⟩ := List.pairwise_cons.mp h
    refine List.pairwise_cons.mpr ⟨?_, hmore⟩
    intro m hm
    rw [hkey]
    exact hhead m hm
  | case4 k v more hgt ih =>
    obtain ⟨hhead, hmore⟩ := List.pairwise_cons.mp h
    refine List.pairwise_cons.mpr ⟨?_, ih hmore⟩
    intro m hm
    rcases eq_or_mem_of_mem_insert hm with rfl | hm
    · exact OrientedCmp.lt_of_gt hgt
    · exact hhead m hm

/-- Adds members to others that are sorted. -/
def insertAll (sorted ms : List (Text × Json)) : List (Text × Json) :=
  ms.foldl (fun sorted m => insert m.1 m.2 sorted) sorted

theorem ofMembers_eq (ms : List (Text × Json)) : ofMembers ms = .obj (insertAll [] ms) := rfl

theorem SortedMembers.insertAll {sorted : List (Text × Json)} (h : SortedMembers sorted)
    (ms : List (Text × Json)) : SortedMembers (Json.insertAll sorted ms) := by
  induction ms generalizing sorted with
  | nil => exact h
  | cons m more ih => exact ih (h.insert m.1 m.2)

theorem mem_or_mem_of_mem_insertAll {sorted ms : List (Text × Json)} {m : Text × Json}
    (h : m ∈ insertAll sorted ms) : m ∈ sorted ∨ m ∈ ms := by
  induction ms generalizing sorted with
  | nil => exact .inl h
  | cons first more ih =>
    rcases ih h with hsorted | hmore
    · rcases eq_or_mem_of_mem_insert hsorted with rfl | hsorted
      · exact .inr List.mem_cons_self
      · exact .inl hsorted
    · exact .inr (List.mem_cons_of_mem first hmore)

/-- A member whose key is greater than all others comes last. -/
theorem insert_of_forall_lt {ms : List (Text × Json)} {key : Text} {value : Json}
    (h : ∀ m ∈ ms, Text.compare m.1 key = .lt) : insert key value ms = ms ++ [(key, value)] := by
  fun_induction insert key value ms with
  | case1 => rfl
  | case2 k v more hlt =>
    have hk : Text.compare k key = .lt := h (k, v) List.mem_cons_self
    exact absurd hlt (OrientedCmp.not_lt_of_lt hk)
  | case3 k v more heq =>
    have hk : Text.compare k key = .lt := h (k, v) List.mem_cons_self
    rw [OrientedCmp.eq_symm heq] at hk
    cases hk
  | case4 k v more hgt ih =>
    rw [ih fun m hm => h m (List.mem_cons_of_mem _ hm), List.cons_append]

theorem insertAll_of_sorted {sorted ms : List (Text × Json)} (h : SortedMembers (sorted ++ ms)) :
    insertAll sorted ms = sorted ++ ms := by
  induction ms generalizing sorted with
  | nil => exact (List.append_nil sorted).symm
  | cons m more ih =>
    -- All keys so far are smaller, so the next member goes to the end.
    have hlast : insert m.1 m.2 sorted = sorted ++ [m] := by
      apply insert_of_forall_lt
      intro x hx
      exact (List.pairwise_append.mp h).2.2 x hx m List.mem_cons_self
    rw [List.append_cons] at h ⊢
    rw [← ih h, ← hlast]
    rfl

/-- Sorted members are the members of the object that is made of them. -/
theorem ofMembers_of_sorted {ms : List (Text × Json)} (h : SortedMembers ms) :
    ofMembers ms = .obj ms := by
  rw [ofMembers_eq, insertAll_of_sorted (by exact h), List.nil_append]

/-! ## Values -/

/-- Every object inside of a value is sorted. -/
inductive IsSorted : Json → Prop
  | null : IsSorted .null
  | bool (b : Bool) : IsSorted (.bool b)
  | num (n : Number) : IsSorted (.num n)
  | str (t : Text) : IsSorted (.str t)
  | arr {xs : List Json} (h : ∀ x ∈ xs, IsSorted x) : IsSorted (.arr xs)
  | obj {ms : List (Text × Json)} (hkeys : SortedMembers ms) (h : ∀ m ∈ ms, IsSorted m.2) :
      IsSorted (.obj ms)

theorem isSorted_ofMembers {ms : List (Text × Json)} (h : ∀ m ∈ ms, IsSorted m.2) :
    IsSorted (ofMembers ms) := by
  rw [ofMembers_eq]
  refine .obj (SortedMembers.insertAll .nil ms) ?_
  intro m hm
  rcases mem_or_mem_of_mem_insertAll hm with hm | hm
  · cases hm
  · exact h m hm

theorem isSorted_ofNumber (source : Text) : IsSorted (ofNumber source) := by
  unfold ofNumber
  dsimp only
  repeat' split
  all_goals constructor

theorem IsSorted.member? {j v : Json} {key : Text} (h : j.IsSorted)
    (hv : j.member? key = some v) : v.IsSorted := by
  cases h with
  | obj hkeys hms =>
    obtain ⟨l, l', rfl, -⟩ := List.lookup_eq_some_iff.mp hv
    exact hms (key, v) (List.mem_append_right l List.mem_cons_self)
  | _ => cases hv

/-! ## Reading -/

mutual

theorem isSorted_value {fuel : Nat} {t : Token} {start : Text} {ts rest : Tokens} {j : Json}
    (h : value fuel t start ts = .ok (j, rest)) : IsSorted j := by
  cases fuel with
  | zero => simp [value] at h
  | succ fuel =>
    unfold value at h
    split at h
    · split at h
      · cases h
      · rename_i ms ts' hms
        cases h
        exact isSorted_ofMembers (isSorted_members hms (by simp))
    · split at h
      · cases h
      · rename_i xs ts' hxs
        cases h
        exact .arr (isSorted_elements hxs)
    all_goals cases h
    · exact .str _
    · exact .bool _
    · exact isSorted_ofNumber _
    · exact .null

/-- What is read is sorted if the members so far are. -/
theorem isSorted_members {fuel : Nat} {start : Text} {read ms : List (Text × Json)}
    {ts rest : Tokens} (h : members fuel start read ts = .ok (ms, rest))
    (hread : ∀ m ∈ read, IsSorted m.2) : ∀ m ∈ ms, IsSorted m.2 := by
  cases fuel with
  | zero => simp [members] at h
  | succ fuel =>
    unfold members at h
    split at h
    · cases h
    · cases h
    · cases h
      intro m hm
      exact hread m (List.mem_reverse.mp hm)
    any_goals cases h
    -- A key is a string, a word or a number; what follows it is read alike.
    all_goals
      split at h
      · cases h
      · rename_i v more hv
        refine isSorted_members h ?_
        intro m hm
        rcases List.mem_cons.mp hm with rfl | hm
        · exact isSorted_property hv
        · exact hread m hm

theorem isSorted_property {fuel : Nat} {ts rest : Tokens} {j : Json}
    (h : property fuel ts = .ok (j, rest)) : IsSorted j := by
  cases fuel with
  | zero => simp [property] at h
  | succ fuel =>
    unfold property at h
    repeat' split at h
    any_goals cases h
    exact isSorted_value h

theorem isSorted_elements {fuel : Nat} {start : Text} {ts rest : Tokens} {xs : List Json}
    (h : elements fuel start ts = .ok (xs, rest)) : ∀ x ∈ xs, IsSorted x := by
  cases fuel with
  | zero => simp [elements] at h
  | succ fuel =>
    unfold elements at h
    split at h
    · cases h
    · cases h
    · cases h
      intro x hx
      cases hx
    · split at h
      · cases h
      · rename_i v more hv
        split at h
        · cases h
        · rename_i vs more' hvs
          cases h
          intro x hx
          rcases List.mem_cons.mp hx with rfl | hx
          · exact isSorted_value hv
          · exact isSorted_elements hvs x hx

end

/-- Every value that is read off a text is sorted. -/
theorem isSorted_parse {t : Text} {j : Json} (h : parse t = .ok (some j)) : IsSorted j := by
  unfold parse at h
  split at h
  · cases h
  · cases h
  · split at h
    · cases h
    · rename_i hv
      cases h
      exact isSorted_value hv
    · cases h
    · cases h

end DocLint.Json
