import Mathlib.Data.List.Forall2
import SchemaDrift.Proofs.Catalog.Registrations
import SchemaDrift.Proofs.Identifier.Idempotence

/-!
# The names that a registry lists

A name that a registry lists is printed, and comes back as the name of a catalog. It has to find
its integration then, although it is trimmed and folded once more. So what is stored must be a
fixed point of both passes: `Casing.foldedName_foldedName` says that it is, for folding is
idempotent and neither makes nor moves a blank at an end.

The invariant of a registry is that every integration lies under its own name, and that this is
such a fixed point (`Registry.FilesByName`). One declaration keeps it, whether it is accepted or
not (`FilesByName.attempt`), and hence so does every run of declarations. What it means for those
who read the lists of a registry is `listed_names_find_themselves`.
-/

namespace SchemaDrift

/-! ### Trimmed and folded names -/

namespace Text

/-- A text with no blank at its ends is not changed by trimming. -/
theorem trim_eq_self {s : String} (hhead : ∀ c, s.toList.head? = some c → isBlank c = false)
    (hlast : ∀ c, s.toList.getLast? = some c → isBlank c = false) : trim s = s := by
  rw [trim, trimBoth_of_ends hhead hlast, String.ofList_toList]

theorem head?_trim_ne {c : Char} (h : isBlank c = true) (s : String) :
    (trim s).toList.head? ≠ some c := by
  rw [trim, String.toList_ofList]
  exact head?_trimBoth_ne isBlank s.toList h

theorem getLast?_trim_ne {c : Char} (h : isBlank c = true) (s : String) :
    (trim s).toList.getLast? ≠ some c := by
  rw [trim, String.toList_ofList]
  exact getLast?_trimBoth_ne isBlank s.toList h

end Text

namespace Casing

variable (casing : Casing)

/-- Folding puts no blank at an end of a trimmed name. -/
theorem trim_foldedName (name : String) :
    Text.trim (casing.foldedName name) = casing.foldedName name := by
  have hblocks := casing.inBlocks_fold (Text.trim name)
  refine Text.trim_eq_self (fun c hhead => ?_) fun c hlast => ?_
  · refine Bool.eq_false_iff.mpr fun hblank => ?_
    rw [foldedName, hblocks.head?_eq_some_iff (Text.isCaseless_of_isBlank hblank)] at hhead
    exact Text.head?_trim_ne hblank name hhead
  · refine Bool.eq_false_iff.mpr fun hblank => ?_
    rw [foldedName, hblocks.getLast?_eq_some_iff (Text.isCaseless_of_isBlank hblank)] at hlast
    exact Text.getLast?_trim_ne hblank name hlast

/-- **A folded name is its own folded name.** -/
theorem foldedName_foldedName (name : String) :
    casing.foldedName (casing.foldedName name) = casing.foldedName name := by
  have htrimmed : casing.foldedName (casing.foldedName name)
      = casing.fold (casing.foldedName name) := congrArg casing.fold (casing.trim_foldedName name)
  rw [htrimmed]
  exact casing.fold_fold (Text.trim name)

end Casing

/-- A search under each name of a dictionary finds the value at the same place. -/
theorem Dictionary.forall₂_find? {α : Type} (d : Dictionary α) :
    List.Forall₂ (fun k v => d.find? k = some v) d.keys d.values := by
  rw [keys, values, List.forall₂_map_left_iff, List.forall₂_map_right_iff, List.forall₂_same]
  exact fun e he => find?_eq_some_iff.mpr he

namespace Registry

variable {r : Registry} {casing : Casing}

/-! ### The invariant -/

/-- A registry **files by name** when every integration lies under its own name, which is not
empty and is its own folded name. -/
def FilesByName (r : Registry) : Prop :=
  ∀ k i, r.integrations.find? k = some i → i.name = k ∧ k ≠ "" ∧ r.casing.foldedName k = k

theorem filesByName_empty (casing : Casing) : (empty casing).FilesByName := nofun

/-- A declaration that is accepted files its integration by name. -/
theorem filed_of_integrationOf {c : CatalogConfig} (h : c.IsAccepted r.casing) {i : Integration}
    (hi : r.integrationOf c = .ok i) :
    i.name = r.casing.foldedName c.name ∧ i.name ≠ "" ∧ r.casing.foldedName i.name = i.name := by
  obtain ⟨j, hj, hrealizes⟩ := integrationOf_of_isAccepted h
  have hname : i.name = r.casing.foldedName c.name := by
    rw [hi] at hj
    rw [Except.ok.inj hj, hrealizes.name]
  refine ⟨hname, ?_, ?_⟩
  · rw [hname]
    exact h.1
  · rw [hname, Casing.foldedName_foldedName]

/-- **One declaration** keeps the integrations filed by name. -/
theorem FilesByName.attempt (h : r.FilesByName) (c : CatalogConfig) :
    (r.attempt c).FilesByName := by
  intro k i hfind
  rw [casing_attempt]
  rw [find?_attempt] at hfind
  split at hfind
  · next hunder =>
    obtain ⟨haccepted, rfl⟩ := hunder
    obtain ⟨j, hj, -⟩ := integrationOf_of_isAccepted haccepted
    rw [hj] at hfind
    obtain rfl := Option.some.inj hfind
    obtain ⟨hname, hne, hfolded⟩ := filed_of_integrationOf haccepted hj
    rw [← hname]
    exact ⟨rfl, hne, hfolded⟩
  · exact h k i hfind

/-- Any number of declarations keep them so. -/
theorem FilesByName.attemptAll (h : r.FilesByName) (cs : List CatalogConfig) :
    (r.attemptAll cs).FilesByName := by
  induction cs generalizing r with
  | nil => exact h
  | cons c cs ih => exact ih (h.attempt c)

theorem filesByName_withDefaults (casing : Casing) : (withDefaults casing).FilesByName := by
  rw [withDefaults_eq_attemptAll]
  exact (filesByName_empty casing).attemptAll defaults

/-! ### What is listed -/

/-- A registry **lists by name** when the names that it lists are in order, stay what they are
when they are folded once more, and find the integrations that it lists, one for each name and in
the same order. -/
structure ListsByName (r : Registry) : Prop where
  sorted : r.names.Pairwise (· < ·)
  nonempty : ∀ name ∈ r.names, name ≠ ""
  folded : ∀ name ∈ r.names, r.casing.fold (Text.trim name) = name
  /-- A listed name finds an integration of that very name: the one listed at the same place. -/
  finds : List.Forall₂ (fun name i => r.lookup name = .ok i ∧ i.name = name)
    r.names r.integrations.values
  size : r.integrations.size = r.names.length

theorem FilesByName.listsByName (h : r.FilesByName) : r.ListsByName where
  sorted := r.integrations.keys_sorted
  nonempty name hname := by
    obtain ⟨i, hi⟩ := Dictionary.mem_keys_iff.mp hname
    exact (h name i hi).2.1
  folded name hname := by
    obtain ⟨i, hi⟩ := Dictionary.mem_keys_iff.mp hname
    exact (h name i hi).2.2
  finds := by
    refine r.integrations.forall₂_find?.imp fun {name i} hfind => ?_
    obtain ⟨hname, -, hfolded⟩ := h name i hfind
    refine ⟨?_, hname⟩
    rw [lookup, find?, key_eq, hfolded, hfind]
  size := (List.length_map ..).symm

/-- **The names that a registry lists find what it lists**, whether it began with the integrations
that every project can use or without any, and whatever was declared to it, accepted or not. -/
theorem listed_names_find_themselves (casing : Casing) (cs : List CatalogConfig) :
    ((empty casing).attemptAll cs).ListsByName
      ∧ ((withDefaults casing).attemptAll cs).ListsByName :=
  ⟨((filesByName_empty casing).attemptAll cs).listsByName,
    ((filesByName_withDefaults casing).attemptAll cs).listsByName⟩

/-- A final sigma, and blanks that are not of ASCII. -/
example : ((empty .lower).attemptAll
    [{ name := "\u3000ΛΌΓΟΣ\u00a0", catalogType := "built_in" }]).names = ["λόγος"] := by
  decide +kernel

end Registry

end SchemaDrift
