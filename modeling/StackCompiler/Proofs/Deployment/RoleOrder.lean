import StackCompiler.Proofs.Deployment.Resolution
import StackCompiler.Proofs.Text.Ascii
import StackCompiler.Proofs.Text.Stability

/-!
# What the order of roles depends on

The roles of a realm are sorted, and roles of one key stay in the order in which they were gathered.
So the list of roles depends on which roles there are, and on nothing else, just where no two of
them have one key (`roles_depend_on_names_iff`). ASCII names have distinct keys; sharp s and a
double s have one (`roles_in_two_orders`).
-/

namespace StackCompiler

open Text

/-- A user or a service has the role. -/
def Mentions (users : List UserEntry) (services : List ServiceEntry) (role : String) : Prop :=
  (∃ u ∈ users, role ∈ u.roles) ∨ ∃ s ∈ services, role ∈ s.roles.getD []

variable {users : List UserEntry} {services : List ServiceEntry} {listed : List String}

theorem mem_mentionedRoles {role : String} :
    role ∈ mentionedRoles users services ↔ Mentions users services role :=
  Declaration.mem_mentionedRoles_iff

theorem nodup_mentionedRoles (users : List UserEntry) (services : List ServiceEntry) :
    (mentionedRoles users services).Nodup := nodup_eraseDups _

/-- A user may mention any roles. -/
theorem mentionedRoles_singleton {roles : List String} (h : roles.Nodup) :
    mentionedRoles [{ username := "", roles }] [] = roles := by
  rw [mentionedRoles, List.flatMap_singleton, List.flatMap_nil, List.append_nil,
    eraseDups_of_nodup h]

/-- Declared roles. -/
theorem forall_listed_eq_iff :
    (∀ (listed' : List String) (users' : List UserEntry) (services' : List ServiceEntry),
      (∀ role, role ∈ listed' ↔ role ∈ listed) →
      realmRoles (some listed') users' services' = realmRoles (some listed) users services) ↔
      HasDistinctKeys listed := by
  rw [← hasDistinctKeys_congr fun _ => List.mem_eraseDups,
    ← forall_nodup_sortIds_eq_iff (nodup_eraseDups listed)]
  constructor
  · intro h gathered hnodup hmem
    have hsame := h gathered [] [] fun role => (hmem role).trans List.mem_eraseDups
    rwa [realmRoles, eraseDups_of_nodup hnodup] at hsame
  · intro h listed' _ _ hmem
    refine h listed'.eraseDups (nodup_eraseDups _) fun role => ?_
    rw [List.mem_eraseDups, List.mem_eraseDups, hmem]

/-- Roles that are only mentioned, gathered in whichever order. -/
theorem forall_gathered_eq_iff :
    (∀ gathered : List String, gathered.Nodup →
      (∀ role, role ∈ gathered ↔ Mentions users services role) →
      sortIds gathered = realmRoles none users services) ↔
      HasDistinctKeys (mentionedRoles users services) := by
  rw [← forall_nodup_sortIds_eq_iff (nodup_mentionedRoles users services)]
  simp only [mem_mentionedRoles]
  rfl

/-- Roles that are only mentioned, by whomever. -/
theorem forall_mentioned_eq_iff :
    (∀ (users' : List UserEntry) (services' : List ServiceEntry),
      (∀ role, Mentions users' services' role ↔ Mentions users services role) →
      realmRoles none users' services' = realmRoles none users services) ↔
      HasDistinctKeys (mentionedRoles users services) := by
  rw [← forall_gathered_eq_iff]
  constructor
  · intro h gathered hnodup hmem
    have hsame := h [{ username := "", roles := gathered }] [] fun role => by
      rw [← mem_mentionedRoles, mentionedRoles_singleton hnodup, hmem]
    rwa [realmRoles, mentionedRoles_singleton hnodup] at hsame
  · intro h users' services' hmem
    exact h (mentionedRoles users' services') (nodup_mentionedRoles _ _) fun role =>
      mem_mentionedRoles.trans (hmem role)

/-- Sorted names depend on which names there are just where no two of them have one key: sorted
lists, declared roles, and roles that are mentioned, by whomever and in whichever order they are
gathered. This is so for all ASCII names. -/
theorem roles_depend_on_names_iff (names listed : List String) (users : List UserEntry)
    (services : List ServiceEntry) :
    ((∀ names', names'.Perm names → sortIds names' = sortIds names) ↔ HasDistinctKeys names) ∧
    ((∀ (listed' : List String) (users' : List UserEntry) (services' : List ServiceEntry),
        (∀ role, role ∈ listed' ↔ role ∈ listed) →
        realmRoles (some listed') users' services' = realmRoles (some listed) users services) ↔
      HasDistinctKeys listed) ∧
    ((∀ gathered : List String, gathered.Nodup →
        (∀ role, role ∈ gathered ↔ Mentions users services role) →
        sortIds gathered = realmRoles none users services) ↔
      HasDistinctKeys (mentionedRoles users services)) ∧
    ((∀ (users' : List UserEntry) (services' : List ServiceEntry),
        (∀ role, Mentions users' services' role ↔ Mentions users services role) →
        realmRoles none users' services' = realmRoles none users services) ↔
      HasDistinctKeys (mentionedRoles users services)) ∧
    ((∀ name ∈ names, IsAscii name) → HasDistinctKeys names) :=
  ⟨forall_perm_sortIds_eq_iff, forall_listed_eq_iff, forall_gathered_eq_iff,
    forall_mentioned_eq_iff, hasDistinctKeys_of_isAscii⟩

/-- Two roles of one key stay in either order. -/
theorem roles_in_two_orders :
    ["ß", "ss"].Perm ["ss", "ß"] ∧ idKey "ß" = idKey "ss" ∧
      sortIds ["ß", "ss"] = ["ß", "ss"] ∧ sortIds ["ss", "ß"] = ["ss", "ß"] ∧
      realmRoles (some ["ß", "ss"]) [] [] ≠ realmRoles (some ["ss", "ß"]) [] [] := by
  have hone : sortIds ["ß", "ss"] = ["ß", "ss"] := sortById_of_pairwise (by decide +kernel)
  have hother : sortIds ["ss", "ß"] = ["ss", "ß"] := sortById_of_pairwise (by decide +kernel)
  refine ⟨.swap .., by decide +kernel, hone, hother, ?_⟩
  rw [realmRoles, realmRoles, eraseDups_of_nodup (by decide), eraseDups_of_nodup (by decide), hone,
    hother]
  decide

end StackCompiler
