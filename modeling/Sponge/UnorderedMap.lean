import Mathlib.Data.List.AList
import Mathlib.Algebra.BigOperators.Group.List.Basic
import Mathlib.Algebra.GroupWithZero.Nat

namespace Sponge

/-!
# Unordered maps and the order in which they are scanned

A hash map is an association list without repeated keys.  Its iteration order
is not part of its value: every loop over the map receives a `ScanOrder`, an
arbitrary choice of arrangement, so that a result proved for all scan orders
holds for every hash function and every bucket layout.
-/

/-- A finite map from keys to values, in no particular order. -/
abbrev UnorderedMap (κ ν : Type) :=
  AList (fun _ : κ => ν)

/-- One choice of iteration order for every map. -/
structure ScanOrder (κ ν : Type) where
  arrange : UnorderedMap κ ν → List (Sigma fun _ : κ => ν)
  perm : ∀ map, (arrange map).Perm map.entries

namespace ScanOrder

variable {κ ν : Type}

/-- The order in which the entries happen to be kept. -/
def stored : ScanOrder κ ν where
  arrange := AList.entries
  perm := fun _ => List.Perm.refl _

/-- The keys in scan order. -/
def keys
    (order : ScanOrder κ ν)
    (map : UnorderedMap κ ν) : List κ :=
  (order.arrange map).map Sigma.fst

/-- A key scan visits every key of the map. -/
theorem mem_keys
    {order : ScanOrder κ ν}
    {map : UnorderedMap κ ν}
    {key : κ} :
    key ∈ order.keys map ↔ key ∈ map := by
  have same : (order.keys map).Perm map.keys :=
    (order.perm map).map Sigma.fst
  rw [same.mem_iff, AList.mem_keys]

/-- A key scan visits no key twice. -/
theorem nodup_keys
    (order : ScanOrder κ ν)
    (map : UnorderedMap κ ν) :
    (order.keys map).Nodup :=
  ((order.perm map).map Sigma.fst).nodup_iff.mpr map.keys_nodup

/-- A scan visits exactly the stored entries. -/
theorem mem_arrange
    [DecidableEq κ]
    {order : ScanOrder κ ν}
    {map : UnorderedMap κ ν}
    {key : κ}
    {value : ν} :
    ⟨key, value⟩ ∈ order.arrange map ↔
      map.lookup key = some value := by
  rw [(order.perm map).mem_iff, ← AList.mem_lookup_iff, Option.mem_def]

end ScanOrder

namespace UnorderedMap

variable {κ ν : Type} [DecidableEq κ]

/-- The value under a key, or the default an absent key would be given. -/
def subscript
    (map : UnorderedMap κ ν)
    (key : κ)
    (default : ν) : ν :=
  (map.lookup key).getD default

theorem subscript_of_lookup
    {map : UnorderedMap κ ν}
    {key : κ}
    {value : ν}
    (found : map.lookup key = some value)
    (default : ν) :
    subscript map key default = value := by
  rw [subscript, found, Option.getD_some]

/-- What a lookup finds after an insertion. -/
theorem lookup_insert_eq_some
    {map : UnorderedMap κ ν}
    {key query : κ}
    {value found : ν} :
    (map.insert key value).lookup query = some found ↔
      (query = key ∧ found = value) ∨
        (query ≠ key ∧ map.lookup query = some found) := by
  by_cases same : query = key
  · subst query
    simp [eq_comm]
  · simp [same]

section Erase

variable (map : UnorderedMap κ ν) (key : κ)

theorem entries_erase :
    (map.erase key).entries = map.entries.kerase key :=
  rfl

theorem erase_erase_self :
    (map.erase key).erase key = map.erase key :=
  AList.ext (List.kerase_of_notMem_keys
    (List.notMem_keys_kerase key map.nodupKeys))

/-- An insertion replaces what is stored, whether or not it was erased first. -/
theorem insert_erase
    (value : ν) :
    (map.erase key).insert key value = map.insert key value := by
  apply AList.ext
  rw [AList.entries_insert, AList.entries_insert, ← entries_erase,
    ← entries_erase, erase_erase_self]

theorem erase_singleton
    (value : ν) :
    AList.erase key (AList.singleton key value : UnorderedMap κ ν) =
      ∅ := by
  apply AList.ext
  rw [entries_erase, AList.singleton_entries]
  exact List.kerase_cons_eq rfl

end Erase

/-- What a lookup finds after an erasure. -/
theorem lookup_erase_eq_some
    {map : UnorderedMap κ ν}
    {key query : κ}
    {found : ν} :
    (map.erase key).lookup query = some found ↔
      query ≠ key ∧ map.lookup query = some found := by
  by_cases same : query = key
  · subst query
    simp
  · simp [same]

/-- A loop that rewrites each entry in place or erases it. -/
def sweepEntries
    (keep : ν → Option ν) :
    List (Sigma fun _ : κ => ν) → List (Sigma fun _ : κ => ν)
  | [] => []
  | entry :: rest =>
      match keep entry.2 with
      | some value => ⟨entry.1, value⟩ :: sweepEntries keep rest
      | none => sweepEntries keep rest

omit [DecidableEq κ] in
theorem sweepEntries_keys
    (keep : ν → Option ν)
    (entries : List (Sigma fun _ : κ => ν)) :
    (sweepEntries keep entries).keys.Sublist entries.keys := by
  induction entries with
  | nil =>
      exact List.Sublist.refl _
  | cons entry rest inductionHypothesis =>
      rw [sweepEntries]
      split
      · exact inductionHypothesis.cons_cons entry.1
      · exact inductionHypothesis.cons entry.1

/-- Rewrite or erase every value of a map. -/
def sweep
    (keep : ν → Option ν)
    (map : UnorderedMap κ ν) : UnorderedMap κ ν where
  entries := sweepEntries keep map.entries
  nodupKeys :=
    List.Nodup.sublist (sweepEntries_keys keep map.entries) map.nodupKeys

/-- A sweep treats every key on its own. -/
theorem lookup_sweep
    (keep : ν → Option ν)
    (map : UnorderedMap κ ν)
    (key : κ) :
    (map.sweep keep).lookup key = (map.lookup key).bind keep := by
  have onEntries :
      ∀ entries : List (Sigma fun _ : κ => ν),
        entries.NodupKeys →
        (sweepEntries keep entries).dlookup key =
          (entries.dlookup key).bind keep := by
    intro entries distinct
    induction entries with
    | nil =>
        rfl
    | cons entry rest inductionHypothesis =>
        obtain ⟨stored, value⟩ := entry
        rw [List.nodupKeys_cons] at distinct
        have later := inductionHypothesis distinct.2
        by_cases same : key = stored
        · subst key
          -- the key does not occur again, before or after the sweep
          have absent :
              (sweepEntries keep rest).dlookup stored = none := by
            rw [List.dlookup_eq_none]
            exact fun member =>
              distinct.1 ((sweepEntries_keys keep rest).subset member)
          rw [List.dlookup_cons_eq, Option.bind_some, sweepEntries]
          cases kept : keep value with
          | none =>
              exact absent
          | some other =>
              exact List.dlookup_cons_eq _ _ _
        · have skipped :
              ∀ other (others : List (Sigma fun _ : κ => ν)),
                List.dlookup key (⟨stored, other⟩ :: others) =
                  others.dlookup key :=
            fun other others =>
              List.dlookup_cons_ne others ⟨stored, other⟩ same
          rw [skipped, sweepEntries]
          cases kept : keep value with
          | none =>
              exact later
          | some other =>
              exact (skipped _ _).trans later
  exact onEntries map.entries map.nodupKeys

/-- The sum of a measure over all entries. -/
def weight
    (measure : κ → ν → Nat)
    (map : UnorderedMap κ ν) : Nat :=
  (map.entries.map fun entry => measure entry.1 entry.2).sum

variable {measure : κ → ν → Nat}

theorem weight_erase
    {map : UnorderedMap κ ν}
    {key : κ}
    {value : ν}
    (found : map.lookup key = some value) :
    weight measure (map.erase key) + measure key value =
      weight measure map := by
  have member : key ∈ map.entries.keys :=
    AList.mem_keys.mp (AList.lookup_isSome.mp (by simp [found]))
  obtain ⟨other, before, after, _, shape, erased⟩ :=
    List.exists_of_kerase member
  have same : other = value := by
    have stored : (⟨key, other⟩ : Sigma fun _ : κ => ν) ∈ map.entries := by
      rw [shape]
      simp
    rw [← AList.mem_lookup_iff, found] at stored
    exact (Option.some.inj stored).symm
  subst other
  rw [weight, weight, entries_erase, erased, shape]
  simp only [List.map_append, List.map_cons, List.sum_append,
    List.sum_cons]
  omega

theorem weight_erase_of_absent
    {map : UnorderedMap κ ν}
    {key : κ}
    (absent : map.lookup key = none) :
    weight measure (map.erase key) = weight measure map := by
  have outside : key ∉ map.entries.keys :=
    AList.lookup_eq_none.mp absent
  rw [weight, entries_erase, List.kerase_of_notMem_keys outside, weight]

theorem weight_insert
    (map : UnorderedMap κ ν)
    (key : κ)
    (value : ν) :
    weight measure (map.insert key value) =
      measure key value + weight measure (map.erase key) := by
  simp only [weight, AList.entries_insert, entries_erase, List.map_cons,
    List.sum_cons]

end UnorderedMap

end Sponge
