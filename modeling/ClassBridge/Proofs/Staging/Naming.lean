import ClassBridge.FileSystem.Staging
import ClassBridge.Proofs.FileSystem.Paths
import Mathlib.Data.List.Nodup

/-!
# Names of staging directories

What may be relied on about the names of new directories is that they are free and that paths can
spell them (`Naming.Fresh`).  Numbers do this: different numbers make different names, and of one
number more than there are nodes some number is free (`fresh_freshName`).
-/

namespace ClassBridge.Staging

open ClassBridge.Path

/-- A new directory gets a name that is free there and that paths can spell. -/
structure Naming.Fresh (naming : Naming) : Prop where
  free : ∀ (files : FileSystem) (location : Location),
    files.nodeAt? (location ++ [naming files location]) = none
  plain : ∀ files location, IsEntryName (naming files location)

/-- The path does not lead into a new directory, whose name is drawn without regard to it. -/
def Naming.Avoids (naming : Naming) (path : String) : Prop :=
  ∀ files location, (parts path).head? ≠ some (naming files location)

/-! ## Numbered names -/

/-- The digits of a number, with zeros before them. -/
def padded (n : Nat) : List Char :=
  List.replicate (6 - (toString n).length) '0' ++ Nat.toDigits 10 n

lemma toList_candidate (n : Nat) :
    (candidate n).toList = ".cabind-staging-".toList ++ padded n := by
  unfold candidate padded
  simp only [String.toList_append, String.toList_ofList, List.append_assoc,
    Nat.toString_eq_ofList_toDigits]

/-- Different numbers make different names. -/
lemma candidate_injective : Function.Injective candidate := by
  intro m n h
  have hlist := congrArg String.toList h
  rw [toList_candidate, toList_candidate] at hlist
  have hpadded : padded m = padded n := List.append_cancel_left hlist
  have hvalue : ∀ k, Nat.ofDigitChars 10 (padded k) 0 = k := by
    intro k
    unfold padded
    rw [Nat.ofDigitChars_append, Nat.ofDigitChars_replicate_zero, Nat.mul_zero,
      Nat.ofDigitChars_ten_toDigits]
  rw [← hvalue m, ← hvalue n, hpadded]

/-- What a numbered name is made of. -/
lemma mem_candidate {n : Nat} {c : Char} (h : c ∈ (candidate n).toList) :
    c ∈ ".cabind-staging-".toList ∨ c.isDigit = true := by
  rw [toList_candidate, padded, List.mem_append, List.mem_append] at h
  rcases h with h | h | h
  · exact Or.inl h
  · rw [List.eq_of_mem_replicate h]
    exact Or.inr rfl
  · exact Or.inr (Nat.isDigit_of_mem_toDigits (by decide) (by decide) h)

lemma isEntryName_candidate (n : Nat) : IsEntryName (candidate n) := by
  have hhead : ∀ name : String, name.toList.length < ".cabind-staging-".toList.length →
      candidate n ≠ name := by
    rintro name hshort rfl
    rw [toList_candidate, List.length_append] at hshort
    omega
  exact ⟨hhead "" (by decide), fun h => absurd (mem_candidate h) (by decide),
    hhead "." (by decide), hhead ".." (by decide)⟩

lemma noNul_freshName (files : FileSystem) (location : Location) :
    '\x00' ∉ (freshName files location).toList := fun h => absurd (mem_candidate h) (by decide)

/-- What stands somewhere is among the nodes. -/
lemma mem_nodes_of_nodeAt? {fs : FileSystem} {location : Location} (hne : location ≠ [])
    (h : fs.nodeAt? location ≠ none) : location ∈ fs.nodes.map Prod.fst := by
  by_contra hnone
  refine h ?_
  rw [FileSystem.nodeAt?, if_neg hne, Option.map_eq_none_iff, List.find?_eq_none]
  intro entry hentry heq
  rw [beq_iff_eq] at heq
  exact hnone (heq ▸ List.mem_map_of_mem hentry)

/-- Among the first numbers, one more than there are nodes, one is free. -/
lemma exists_free (files : FileSystem) (location : Location) :
    ∃ n ∈ List.range (files.nodes.length + 1),
      files.nodeAt? (location ++ [candidate n]) = none := by
  by_contra hnone
  have hsubset : (List.range (files.nodes.length + 1)).map (fun n => location ++ [candidate n])
      ⊆ files.nodes.map Prod.fst := by
    intro entry hentry
    obtain ⟨n, hn, rfl⟩ := List.mem_map.mp hentry
    exact mem_nodes_of_nodeAt? (by simp) fun hfree => hnone ⟨n, hn, hfree⟩
  have hinjective : Function.Injective fun n => location ++ [candidate n] := by
    intro m n h
    have hnames : location ++ [candidate m] = location ++ [candidate n] := h
    rw [List.append_cancel_left_eq, List.singleton_inj] at hnames
    exact candidate_injective hnames
  have hlength := (List.nodup_range.map hinjective).length_le_of_subset hsubset
  rw [List.length_map, List.length_map, List.length_range] at hlength
  omega

/-- Numbered names are fresh. -/
theorem fresh_freshName : Naming.Fresh freshName := by
  constructor
  · intro files location
    obtain ⟨n, hn, hfree⟩ := exists_free files location
    have hfound : ∃ m, (List.range (files.nodes.length + 1)).find?
        (fun n => (files.nodeAt? (location ++ [candidate n])).isNone) = some m := by
      rw [← Option.isSome_iff_exists, List.find?_isSome]
      exact ⟨n, hn, by rw [hfree]; rfl⟩
    obtain ⟨m, hm⟩ := hfound
    have hname : freshName files location = candidate m := by
      unfold freshName
      simp only [hm, Option.getD_some]
    have hfree' := List.find?_some hm
    rw [hname]
    simpa only [Option.isNone_iff_eq_none] using hfree'
  · intro files location
    exact isEntryName_candidate _

/-- A path that begins with something other than a dot begins with no numbered name. -/
lemma avoids_freshName {path : String}
    (h : (parts path).head?.bind (fun name => name.toList.head?) ≠ some '.') :
    Naming.Avoids freshName path := by
  intro files location heq
  apply h
  rw [heq, Option.bind_some]
  unfold freshName
  rw [toList_candidate]
  rfl

end ClassBridge.Staging
