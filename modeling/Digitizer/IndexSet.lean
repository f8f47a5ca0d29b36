/-!
# Finite sets of tracking indices

A set of indices is kept as its strictly ascending list, so that two sets with the same members are equal and the members
come out in order. Membership is the view through which every operation is described.
-/
namespace Digitizer

/-- Put an index into an ascending list, unless it is there. -/
def insertAscending (i : Nat) : List Nat → List Nat
  | [] => [i]
  | j :: js =>
    if i < j then i :: j :: js
    else if i = j then j :: js
    else j :: insertAscending i js

theorem mem_insertAscending {i j : Nat} {l : List Nat} : j ∈ insertAscending i l ↔ j = i ∨ j ∈ l := by
  induction l with
  | nil => simp [insertAscending]
  | cons k ks ih =>
    rw [insertAscending]
    split
    · simp
    · split
      · next h => subst h; simp
      · simp only [List.mem_cons, ih]
        constructor <;> rintro (h | h | h) <;> simp [h]

theorem pairwise_insertAscending {i : Nat} {l : List Nat} (h : l.Pairwise (· < ·)) :
    (insertAscending i l).Pairwise (· < ·) := by
  induction l with
  | nil => simp [insertAscending]
  | cons k ks ih =>
    obtain ⟨above, rest⟩ := List.pairwise_cons.1 h
    rw [insertAscending]
    split
    · next hi =>
      refine List.pairwise_cons.2 ⟨fun j hj => ?_, h⟩
      rcases List.mem_cons.1 hj with rfl | hj
      · exact hi
      · exact Nat.lt_trans hi (above j hj)
    · split
      · exact h
      · refine List.pairwise_cons.2 ⟨fun j hj => ?_, ih rest⟩
        rcases mem_insertAscending.1 hj with rfl | hj
        · omega
        · exact above j hj

/-- Two ascending lists with the same members are equal. -/
theorem eq_of_ascending {l k : List Nat} (hl : l.Pairwise (· < ·)) (hk : k.Pairwise (· < ·))
    (same : ∀ i, i ∈ l ↔ i ∈ k) : l = k := by
  induction l generalizing k with
  | nil =>
    cases k with
    | nil => rfl
    | cons b bs => simpa using (same b).2 (by simp)
  | cons a as ih =>
    cases k with
    | nil => simpa using (same a).1 (by simp)
    | cons b bs =>
      obtain ⟨ha, has⟩ := List.pairwise_cons.1 hl
      obtain ⟨hb, hbs⟩ := List.pairwise_cons.1 hk
      have hab : a = b := by
        rcases List.mem_cons.1 ((same a).1 (by simp)) with h | h
        · exact h
        · rcases List.mem_cons.1 ((same b).2 (by simp)) with h' | h'
          · exact h'.symm
          · have := hb a h
            have := ha b h'
            omega
      subst hab
      refine congrArg _ (ih has hbs fun i => ⟨fun h => ?_, fun h => ?_⟩)
      · rcases List.mem_cons.1 ((same i).1 (List.mem_cons_of_mem _ h)) with rfl | h'
        · exact absurd (ha i h) (Nat.lt_irrefl i)
        · exact h'
      · rcases List.mem_cons.1 ((same i).2 (List.mem_cons_of_mem _ h)) with rfl | h'
        · exact absurd (hb i h) (Nat.lt_irrefl i)
        · exact h'

/-- A finite set of tracking indices. -/
structure IndexSet where
  /-- The members in ascending order. -/
  toList : List Nat
  ascending : toList.Pairwise (· < ·)
  deriving DecidableEq

namespace IndexSet

instance : Membership Nat IndexSet := ⟨fun s i => i ∈ s.toList⟩

instance (i : Nat) (s : IndexSet) : Decidable (i ∈ s) := inferInstanceAs (Decidable (i ∈ s.toList))

@[simp] theorem mem_toList {i : Nat} {s : IndexSet} : i ∈ s.toList ↔ i ∈ s := Iff.rfl

@[ext] theorem ext {s t : IndexSet} (h : ∀ i, i ∈ s ↔ i ∈ t) : s = t := by
  cases s; cases t
  simp only [mk.injEq]
  exact eq_of_ascending ‹_› ‹_› h

/-- The set without members. -/
def empty : IndexSet := ⟨[], List.Pairwise.nil⟩

instance : EmptyCollection IndexSet := ⟨empty⟩
instance : Inhabited IndexSet := ⟨∅⟩

/-- Whether there is no member. -/
def isEmpty (s : IndexSet) : Bool := s.toList.isEmpty

/-- Add an index. -/
def insert (i : Nat) (s : IndexSet) : IndexSet :=
  ⟨insertAscending i s.toList, pairwise_insertAscending s.ascending⟩

/-- The set of the indices in a list, which may come in any order and repeat. -/
def ofList : List Nat → IndexSet
  | [] => ∅
  | i :: is => insert i (ofList is)

/-- Put all indices of a list into a set. -/
def extend (s : IndexSet) (is : List Nat) : IndexSet := is.foldl (fun s i => insert i s) s

/-- Take all indices out of a set. -/
def clear (_ : IndexSet) : IndexSet := ∅

/-- The indices in either set. -/
def union (s t : IndexSet) : IndexSet := ofList (s.toList ++ t.toList)

instance : Union IndexSet := ⟨union⟩

/-- The indices of the first set that are not in the second. -/
def sdiff (s t : IndexSet) : IndexSet :=
  ⟨s.toList.filter (· ∉ t), s.ascending.filter _⟩

instance : SDiff IndexSet := ⟨sdiff⟩

@[simp] theorem not_mem_empty (i : Nat) : i ∉ (∅ : IndexSet) := List.not_mem_nil
@[simp] theorem mem_insert {i j : Nat} {s : IndexSet} : j ∈ insert i s ↔ j = i ∨ j ∈ s := mem_insertAscending

@[simp] theorem mem_ofList {i : Nat} {l : List Nat} : i ∈ ofList l ↔ i ∈ l := by
  induction l with
  | nil => simp [ofList]
  | cons j js ih => simp [ofList, ih]

@[simp] theorem mem_extend {i : Nat} {s : IndexSet} {l : List Nat} : i ∈ s.extend l ↔ i ∈ s ∨ i ∈ l := by
  induction l generalizing s with
  | nil => simp [extend]
  | cons j js ih =>
    have hrest : s.extend (j :: js) = (insert j s).extend js := rfl
    rw [hrest, ih, mem_insert, List.mem_cons, or_comm (a := i = j), or_assoc]

@[simp] theorem mem_union {i : Nat} {s t : IndexSet} : i ∈ s ∪ t ↔ i ∈ s ∨ i ∈ t := by
  change i ∈ ofList _ ↔ _
  simp

@[simp] theorem mem_sdiff {i : Nat} {s t : IndexSet} : i ∈ s \ t ↔ i ∈ s ∧ i ∉ t := by
  change i ∈ List.filter _ _ ↔ _
  simp

/-- What was in a set before it is cleared and filled makes no difference. -/
theorem extend_clear (s : IndexSet) (l : List Nat) : s.clear.extend l = ofList l := by
  ext i
  simp [clear]

theorem ofList_toList (s : IndexSet) : ofList s.toList = s := by
  ext i
  simp

theorem isEmpty_iff {s : IndexSet} : s.isEmpty = true ↔ s = ∅ := by
  constructor
  · intro h
    ext i
    have : s.toList = [] := List.isEmpty_iff.1 h
    rw [← mem_toList, this]
    simp
  · rintro rfl
    rfl

end IndexSet

end Digitizer
