import Mathlib

/-!
# Descriptor tables

A process refers to its resources by small numbers.  A new resource gets the lowest number
that is free, and closing it makes the number free again.  Whoever forgets to close leaks a
number, and whoever closes twice may close what somebody else has opened in between.

`Holds d es` says that the table holds exactly the resources `es`, which a component reads
as its own ones followed by those of everybody else.  The rules below change the first
resource of the list and leave the others alone, so a component that is specified by them
neither leaks a descriptor nor touches one of another component.

Main results:

- Theorem `lowestFree_not_mem`: the number for a new resource is free.
- Theorems `Holds.add`, `Holds.close`, `Holds.set`: the rules.
-/

namespace Foundation

/-- The lowest number that is not used. -/
def lowestFree (used : List Nat) : Nat :=
  ((List.range (used.length + 1)).find? fun n => n ∉ used).getD 0

/-- Some number up to the number of used ones is free. -/
theorem exists_free (used : List Nat) : ∃ n ∈ List.range (used.length + 1), n ∉ used := by
  by_contra hall
  push Not at hall
  have hsub : (List.range (used.length + 1)).Subperm used :=
    List.nodup_range.subperm fun n hn => hall n hn
  have hlength := hsub.length_le
  rw [List.length_range] at hlength
  omega

/-- The lowest free number is free. -/
theorem lowestFree_not_mem (used : List Nat) : lowestFree used ∉ used := by
  obtain ⟨n, hn, hfree⟩ := exists_free used
  unfold lowestFree
  cases hfind : (List.range (used.length + 1)).find? fun n => n ∉ used with
  | none =>
      have hused := List.find?_eq_none.mp hfind n hn
      simp [hfree] at hused
  | some m => simpa using List.find?_some hfind

/-- The open descriptors with what they refer to. -/
abbrev Descriptors (σ : Type) : Type :=
  AList fun _ : Nat => σ

namespace Descriptors

variable {σ : Type}

/-- The descriptor of the next resource. -/
def next (d : Descriptors σ) : Nat :=
  lowestFree d.keys

/-- Open a resource under the next descriptor. -/
def add (x : σ) (d : Descriptors σ) : Descriptors σ :=
  d.insert d.next x

/-- Close a descriptor. -/
def close (fd : Nat) (d : Descriptors σ) : Descriptors σ :=
  d.erase fd

/-- Change what a descriptor refers to. -/
def set (fd : Nat) (x : σ) (d : Descriptors σ) : Descriptors σ :=
  d.replace fd x

/-- The next descriptor is a new one. -/
theorem next_not_mem (d : Descriptors σ) : d.next ∉ d :=
  lowestFree_not_mem d.keys

/-- The table holds exactly these resources. -/
def Holds (d : Descriptors σ) (es : List (Sigma fun _ : Nat => σ)) : Prop :=
  d.entries.Perm es

variable {d : Descriptors σ} {es : List (Sigma fun _ : Nat => σ)} {fd : Nat} {x : σ}

theorem holds_empty : Holds (∅ : Descriptors σ) [] :=
  List.Perm.nil

/-- The order does not matter. -/
theorem Holds.perm {es' : List (Sigma fun _ : Nat => σ)} (h : Holds d es) (hperm : es.Perm es') :
    Holds d es' :=
  List.Perm.trans h hperm

/-- Every descriptor stands for one resource. -/
theorem Holds.nodupKeys (h : Holds d es) : es.NodupKeys :=
  (List.perm_nodupKeys h).mp d.nodupKeys

/-- Everybody's descriptors are different. -/
theorem Holds.nodup (h : Holds d es) : (es.map Sigma.fst).Nodup :=
  h.nodupKeys

/-- Opening adds a resource under the next descriptor. -/
theorem Holds.add (h : Holds d es) (x : σ) : Holds (d.add x) (⟨d.next, x⟩ :: es) := by
  unfold Descriptors.add Holds
  rw [AList.insert_of_notMem d.next_not_mem]
  exact List.Perm.cons _ h

/-- Closing a descriptor takes just its resource away. -/
theorem Holds.close (h : Holds d (⟨fd, x⟩ :: es)) : Holds (d.close fd) es := by
  have hperm := List.Perm.kerase d.nodupKeys (a := fd) h
  rwa [show List.kerase fd (⟨fd, x⟩ :: es) = es by simp] at hperm

/-- Changing a resource changes no other. -/
theorem Holds.set (h : Holds d (⟨fd, x⟩ :: es)) (y : σ) : Holds (d.set fd y) (⟨fd, y⟩ :: es) := by
  have hperm := List.Perm.kreplace d.nodupKeys (a := fd) (b := y) h
  rwa [show List.kreplace fd y (⟨fd, x⟩ :: es) = ⟨fd, y⟩ :: es from
    List.lookmap_cons_some _ _ (by simp)] at hperm

/-- A descriptor finds its resource. -/
theorem Holds.lookup (h : Holds d (⟨fd, x⟩ :: es)) : d.lookup fd = some x := by
  have hlookup := List.perm_dlookup fd d.nodupKeys h
  rwa [List.dlookup_cons_eq] at hlookup

end Descriptors

end Foundation
